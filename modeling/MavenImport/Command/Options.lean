/-
# Command.Options -- what the command line asks for

Options that concern every command come first, then the name of a command, then the options and
the operand of that command.  `Invocation.ofArguments` gives what all of them ask for, with
defaults in place of what is not given, or tells why nothing is run.
-/
import MavenImport.Command.Arguments
import MavenImport.Generate.Task

namespace MavenImport

set_option autoImplicit false

open Arguments (Exit Reading)

/-- What the defaults of options depend on. -/
structure Surroundings where
  /-- The home directory of the user. -/
  home : Path
  /-- The directory for temporary files. -/
  temporary : Path
  /-- A settings file that the environment names. -/
  settings : Option String

namespace Surroundings

def defaultSettings (s : Surroundings) : Path := s.home.joinText ".m2/settings.json"

def defaultCache (s : Surroundings) : Path := s.home.joinText ".m2/repository"

def defaultWorkspace (s : Surroundings) : Path := s.temporary.joinText "bazel/maven"

end Surroundings

/-- How each treatment of unknown packagings is called. -/
def UnknownPackaging.ofString? : String → Option UnknownPackaging
  | "WARN" => some .warn
  | "FAIL" => some .fail
  | "IGNORE" => some .ignore
  | _ => none

def UnknownPackaging.text : UnknownPackaging → String
  | .warn => "WARN"
  | .fail => "FAIL"
  | .ignore => "IGNORE"

structure GenerateOptions where
  specification : Path
  workspace : Path
  workspaceName : Option String
  threads : Int
  unknownPackaging : UnknownPackaging

structure FetchOptions where
  workspace : Path
  /-- The digest that is expected of the main file. -/
  sha256 : Option String
  /-- The package that the files are placed in. -/
  package : String
  artifact : String

inductive Command
  | generate (o : GenerateOptions)
  | fetch (o : FetchOptions)
  | describe (artifact : String)

/-- A command with the options that concern every command. -/
structure Invocation where
  config : Option Path
  settings : Option Path
  verbosity : Nat
  cache : Path
  command : Command

/-! ## Flags -/

inductive GlobalFlag
  | help
  | config
  | settings
  | verbose
  | cache
deriving DecidableEq

def GlobalFlag.all : List (Arguments.Flag GlobalFlag) :=
  [⟨"-h", .help, false⟩, ⟨"--help", .help, false⟩, ⟨"--config", .config, true⟩,
   ⟨"--settings", .settings, true⟩, ⟨"-v", .verbose, false⟩, ⟨"--verbose", .verbose, false⟩,
   ⟨"--local_maven_cache", .cache, true⟩]

def GlobalFlag.check : GlobalFlag → String → Except Exit Unit
  | .help, _ => .error .help
  | _, _ => .ok ()

inductive GenerateFlag
  | help
  | workspace
  | workspaceName
  | specification
  | threads
  | unknownPackaging
deriving DecidableEq

def GenerateFlag.all : List (Arguments.Flag GenerateFlag) :=
  [⟨"-h", .help, false⟩, ⟨"--help", .help, false⟩, ⟨"--workspace", .workspace, true⟩,
   ⟨"--workspace-name", .workspaceName, true⟩, ⟨"--specification", .specification, true⟩,
   ⟨"--threads", .threads, true⟩, ⟨"--unknown-packaging", .unknownPackaging, true⟩]

/-- Demands a value of the right form. -/
def demand {α : Type} (v : Option α) : Except Exit Unit :=
  if v.isSome then .ok () else .error .usage

def GenerateFlag.check : GenerateFlag → String → Except Exit Unit
  | .help, _ => .error .help
  | .threads, s => demand (Arguments.integer? s)
  | .unknownPackaging, s => demand (UnknownPackaging.ofString? s)
  | _, _ => .ok ()

inductive FetchFlag
  | help
  | workspace
  | sha256
  | package
deriving DecidableEq

def FetchFlag.all : List (Arguments.Flag FetchFlag) :=
  [⟨"-h", .help, false⟩, ⟨"--help", .help, false⟩, ⟨"--workspace", .workspace, true⟩,
   ⟨"--sha256", .sha256, true⟩, ⟨"--prefix", .package, true⟩]

def FetchFlag.check : FetchFlag → String → Except Exit Unit
  | .help, _ => .error .help
  | _, _ => .ok ()

def helpFlags : List (Arguments.Flag Unit) := [⟨"-h", (), false⟩, ⟨"--help", (), false⟩]

/-! ## Commands -/

/-- Reads the arguments of one command, none of which may be left over. -/
def readArguments {κ : Type} (flags : List (Arguments.Flag κ))
    (check : κ → String → Except Exit Unit) (takesOperand : Bool) (args : List String) :
    Except Exit (Reading κ) := do
  let marked ← Arguments.mark flags args
  let r ← Arguments.readAll check takesOperand (Arguments.items flags marked) {}
  if r.leftover then throw .usage
  return r

def GenerateOptions.ofArguments (around : Surroundings) (args : List String) :
    Except Exit GenerateOptions := do
  let r ← readArguments GenerateFlag.all GenerateFlag.check false args
  match r.value? .specification with
  | none => throw .usage
  | some specification =>
    return {
      specification := .ofString specification
      workspace := ((r.value? .workspace).map Path.ofString).getD around.defaultWorkspace
      workspaceName := r.value? .workspaceName
      threads := ((r.value? .threads).bind Arguments.integer?).getD 1
      unknownPackaging :=
        ((r.value? .unknownPackaging).bind UnknownPackaging.ofString?).getD .warn }

def FetchOptions.ofArguments (args : List String) : Except Exit FetchOptions := do
  let r ← readArguments FetchFlag.all FetchFlag.check true args
  match r.value? .workspace, r.operand with
  | some workspace, some artifact =>
    return {
      workspace := .ofString workspace
      sha256 := r.value? .sha256
      package := (r.value? .package).getD downloadPackage
      artifact := artifact }
  | _, _ => throw .usage

def Command.ofArguments (around : Surroundings) (name : String) (args : List String) :
    Except Exit Command := do
  if name = "gen-maven-repo" then return .generate (← GenerateOptions.ofArguments around args)
  else if name = "fetch-artifact" then return .fetch (← FetchOptions.ofArguments args)
  else if name = "resolve-artifact" then
    let r ← readArguments helpFlags (fun _ _ => .error .help) true args
    match r.operand with
    | some artifact => return .describe artifact
    | none => throw .usage
  else throw .usage

/-- What the arguments of the program ask for. -/
def Invocation.ofArguments (around : Surroundings) (args : List String) :
    Except Exit Invocation := do
  let marked ← Arguments.mark GlobalFlag.all args
  let (r, name, behind) ←
    Arguments.readToCommand GlobalFlag.check (Arguments.items GlobalFlag.all marked) {}
  let command ← Command.ofArguments around name behind
  if r.leftover then throw .usage
  return {
    config := (r.value? .config).map Path.ofString
    settings := ((r.value? .settings).or (given? around.settings)).map Path.ofString
    verbosity := r.count .verbose
    cache := ((r.value? .cache).map Path.ofString).getD around.defaultCache
    command := command }

end MavenImport
