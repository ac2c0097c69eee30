/-
# Action -- operations on files, the web and the console

The world of an operation is what it reads and changes: files, answers of servers, the log of
requests, the console, and the models that have been put together so far.  An effect always
ends with a value.  An action may also end with a fault; what it did until then stays done, and
`Action.attempt` makes an effect of it whose value tells how the action ended.
-/
import MavenImport.Console
import MavenImport.Fault
import MavenImport.Maven.Model
import MavenImport.Web

namespace MavenImport

set_option autoImplicit false

structure World where
  files : FileSystem
  web : Web
  /-- The addresses requested, last one first. -/
  requested : List String
  console : Console
  /-- The models that are known, by coordinate. -/
  models : Table String Model
  /-- How the time that an operation took is written. -/
  elapsed : String

abbrev Effect := StateM World

abbrev Action := ExceptT Fault Effect

namespace Effect

def print (level : Level) (message : String) : Effect Unit :=
  modify fun w => { w with console := w.console.print level message true }

/-- Prints a message always. -/
def say (message : String) : Effect Unit := print .always message

/-- Prints a message from the first level of verbosity on. -/
def info (message : String) : Effect Unit := print .info message

/-- Prints a message from the second level of verbosity on. -/
def detail (message : String) : Effect Unit := print .detail message

/-- The time that the operation took, as a phrase. -/
def inSeconds : Effect String := do
  return " in " ++ (← get).elapsed ++ " seconds"

end Effect

namespace Action

/-- Runs an action on a world. -/
def perform {α : Type} (a : Action α) (w : World) : Except Fault α × World :=
  StateT.run (ExceptT.run a) w

/-- Runs an action and gives its fault as a value. -/
def attempt {α : Type} (a : Action α) : Effect (Except Fault α) := ExceptT.run a

/-- Goes on with the way an action ended, whether it failed or not. -/
def result {α : Type} (a : Action α) : Action (Except Fault α) := ExceptT.lift (attempt a)

def fail {α : Type} (f : Fault) : Action α := throw f

/-- A computation that may fail, as an action. -/
def ofExcept {ε α : Type} (fault : ε → Fault) : Except ε α → Action α
  | .ok a => pure a
  | .error e => throw (fault e)

/-- Reads from the files. -/
def inspect {α : Type} (read : FileSystem → Except Files.Fault α) : Action α := do
  ofExcept .file (read (← get).files)

/-- Changes the files. -/
def change (write : FileSystem → Except Files.Fault FileSystem) : Action Unit := do
  let files ← inspect write
  modify fun w => { w with files := files }

/-- Requests a URL. -/
def request (url : String) : Action Reply := do
  modify fun w => { w with requested := Web.target url :: w.requested }
  return (← get).web.reply url

end Action

end MavenImport
