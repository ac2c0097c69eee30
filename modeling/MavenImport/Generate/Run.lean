/-
# Generate.Run -- from a specification to a workspace of build files

A run makes the workspace, has its tasks processed by workers, and waits for them
(`Generate.Pool`).  Then the declarations are written, file by file, and the findings about the
run are reported (`Plan.conclude`).  What goes wrong on the way is told and makes the run fail,
but does not stop it.
-/
import MavenImport.Checks
import MavenImport.Generate.Pool

namespace MavenImport

set_option autoImplicit false

open Effect (say detail inSeconds)
open MavenImport.Action (result change ofExcept)

/-- A file that was to be written, and whether the system let it be written. -/
structure Output where
  path : Path
  text : String
  written : Bool
deriving Repr, DecidableEq

/-- What a run leaves behind. -/
structure Ending where
  /-- Nothing went wrong. -/
  well : Bool
  progress : Progress
  /-- The files that were to be written, in order. -/
  outputs : List Output

namespace Plan

/-- The number of workers in each line. -/
def workers (plan : Plan) : Nat := (max 1 plan.threads).toNat

/-- Writes a file of the workspace.  If the system refuses, this is told. -/
def write (path : Path) (text : String) : Action Output := do
  match ← result (change fun fs => fs.replaceFile path text.toUTF8) with
  | .ok () => return ⟨path, text, true⟩
  | .error (.file f) =>
    if f.isRefusal then
      say ("ERROR: Could not write " ++ path.text ++ ": " ++ f.message)
      return ⟨path, text, false⟩
    else Action.fail (.file f)
  | .error f => Action.fail f

/-- Writes the build file of a group. -/
def writeGroup (plan : Plan) (path : Path) (declared : List Declared) : Action Output := do
  let text ← ofExcept .value (BuildFile.content declared plan.specification.rulesLabel.text)
  let output ← write path text
  if output.written then detail ("Wrote " ++ path.text)
  return output

/-- Writes all build files. -/
def writeGroups (plan : Plan) : List (Path × List Declared) → Action (List Output)
  | [] => return []
  | (path, declared) :: groups => do
    let output ← plan.writeGroup path declared
    return output :: (← plan.writeGroups groups)

/-- Writes the file of second names, if there is to be one. -/
def writeAliases (plan : Plan) (declared : List Declared) : Action (List Output) := do
  if !plan.specification.writeAliases then return []
  let coordinates := declared.map fun d => d.resolution.coordinate
  let text := aliasFile plan.specification.name.text coordinates
  let output ← write (plan.workspace.joinText buildFileName) text
  if output.written then
    say ("Generated root compatibility build file in " ++ plan.workspace.text)
  return [output]

/-- Writes what the tasks have come to and reports the findings. -/
def conclude (plan : Plan) (p : Progress) : Action Ending := do
  let files ← plan.writeGroups (sortedGroups (groupByFile p.declared))
  say ("Generated " ++ toString (files.countP Output.written) ++ " build files in "
    ++ plan.workspace.text)
  let findings ← Checks.run plan.specification p.declaredSlugs p.unresolved p.ledger
  let aliases ← plan.writeAliases (p.declared.map Prod.snd)
  let outputs := files ++ aliases
  return ⟨!p.failed && outputs.all Output.written && !findings, p, outputs⟩

/-- Makes the workspace. -/
def prepare (plan : Plan) : Action Unit := do
  let artifacts := plan.specification.artifacts
  if !artifacts.isEmpty then change fun fs => fs.makeDirectories plan.workspace
  say ("Building workspace for " ++ toString artifacts.length ++ " artifacts")

/-- Makes the workspace, has the tasks processed as a schedule says, and concludes.  There is no
ending if the schedule stops before the workers are done. -/
def runBy (plan : Plan) (schedule : List Turn) : Action (Option Ending) := do
  plan.prepare
  let pool ← Pool.follow plan schedule (.start plan.specification plan.workers plan.workers)
  if pool.phase ≠ .returned then return none
  let ending ← plan.conclude pool.run.progress
  say ("Resolved " ++ toString ending.progress.resolvedCount ++ " artifacts with "
    ++ toString (max 1 plan.threads) ++ " threads" ++ (← inSeconds))
  return some ending

/-- Generates a workspace by a schedule, unless there is something wrong with the
specification. -/
def generateBy (plan : Plan) (schedule : List Turn) : Action (Option Ending) := do
  match plan.specification.problems with
  | [] => plan.runBy schedule
  | problems =>
    problems.forM fun problem => say ("ERROR: Invalid config: " ++ problem.message)
    return some ⟨false, {}, []⟩

/-- Generates a workspace and tells whether all is well. -/
def generate (plan : Plan) : Action Bool := do
  let ending ← plan.generateBy (inTurn plan.specification.artifacts.length)
  return (ending.map Ending.well).getD false

end Plan

end MavenImport
