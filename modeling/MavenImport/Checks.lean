/-
# Checks -- findings about a finished run

Four checks look at a run that has finished, each on its own: artifacts declared in several
versions, artifacts that could not be resolved, old support artifacts where imports are
jetified, and artifacts that are needed and not declared.  What they find is computed first
and then reported; a run has failed if any of them finds something.
-/
import MavenImport.Bazel.Successors
import MavenImport.Config.Specification
import MavenImport.Ledger
import MavenImport.Maven.Resolve

namespace MavenImport

set_option autoImplicit false

open MavenImport.Action (ofExcept)
open Effect (say)

/-- Texts in ascending order. -/
def sortedTexts (texts : List String) : List String := texts.mergeSort fun a b => a ≤ b

/-- Entries in ascending order of their keys. -/
def sortedByKey {α : Type} (entries : List (String × α)) : List (String × α) :=
  entries.mergeSort fun a b => a.1 ≤ b.1

namespace Checks

/-! ## Findings -/

/-- The declared coordinates, or the first key that is none. -/
def coordinates : List String → Except Fault (List Coordinate)
  | [] => .ok []
  | key :: keys => match Coordinate.ofString? key with
    | none => .error (.coordinate key)
    | some c => (coordinates keys).map (c :: ·)

/-- The versions of each slug, in the order of declaration. -/
def versionsBySlug (cs : List Coordinate) : Table String (List String) :=
  cs.foldl (fun t c => t.put c.slug ((t.find? c.slug).getD [] ++ [c.version])) ⟨[]⟩

/-- The slugs that are declared more than once, with their versions. -/
def duplicates (keys : List String) : Except Fault (List (String × List String)) := do
  let cs ← coordinates keys
  return (sortedByKey (versionsBySlug cs).entries).filter fun e => 1 < e.2.length

/-- The old support artifact that a slug is, with its successor, unless a glob exempts it. -/
def legacy? (spec : Specification) (slug : String) : Option (String × String) :=
  match successor? slug, Text.cut? ':' slug.toList with
  | some new, some (g, a) =>
    if anyMatches spec.globs (String.ofList g) (String.ofList a) then none else some (slug, new)
  | _, _ => none

/-- The old support artifacts that are declared although imports are jetified. -/
def legacyArtifacts (declared : List String) (spec : Specification) : List (String × String) :=
  if !spec.useJetifier || spec.ignoreLegacy then []
  else (sortedTexts declared).filterMap (legacy? spec)

/-- The artifacts that are needed and not declared. -/
def missing (ledger : Ledger) (declared : List String) : List (String × LedgerEntry) :=
  (sortedByKey ledger.entries).filter fun e => !declared.contains e.1

/-! ## Reports -/

def opening : String := Json.opening
def closing : String := Json.closing

def bracketed (texts : List String) : String := "[" ++ Text.joinWith ", " texts ++ "]"

def sayAll (lines : List String) : Effect Unit := lines.forM say

def reportDuplicates (found : List (String × List String)) : Action Unit := do
  say "ERROR: Duplicate artifact entries are not permitted:"
  sayAll (found.map fun (slug, versions) => "    " ++ slug ++ ": " ++ bracketed versions)

/-- The line about an artifact that could not be resolved. -/
def unresolvedLine (f : ResolutionFailure) : Except Json.Fault String := do
  let status := match f.statusCode with
    | some n => if n = 0 then "" else " (" ++ toString n ++ ")"
    | none => ""
  let urls ← Json.joinTexts ", " f.repositories
  return "    " ++ f.coordinate ++ ": " ++ f.reason.text ++ status ++ " - " ++ f.message
    ++ " from [" ++ urls ++ "]"

def reportUnresolved (failures : List ResolutionFailure) : Action Unit := do
  let sorted := failures.mergeSort fun a b => a.coordinate ≤ b.coordinate
  say ("ERROR: Failed to resolve the following artifacts: "
    ++ bracketed (sorted.map ResolutionFailure.coordinate))
  sorted.forM fun f => do say (← ofExcept .value (unresolvedLine f))

def reportLegacy (found : List (String × String)) : Action Unit := do
  say "ERROR: Jetifier enabled but pre-androidX support artifacts specified:"
  sayAll (found.map fun (slug, new) => "    " ++ slug ++ " (should be " ++ new ++ ")")

/-- The line that declares a missing artifact, in the highest version asked for. -/
def additionLine (slug version : String) : String :=
  "    \"" ++ slug ++ ":" ++ version ++ "\": " ++ opening ++ "\"insecure\": True" ++ closing ++ ","

/-- The line that excludes a missing artifact from one that needs it. -/
def exclusionLine (slug dependant : String) : String :=
  "    \"" ++ dependant ++ "\": " ++ opening ++ "\"insecure\": True, \"exclude\": [\"" ++ slug
    ++ "\"]" ++ closing ++ ","

def reportMissing (found : List (String × LedgerEntry)) : Action Unit := do
  say "ERROR: Un-declared artifacts referenced in the dependencies of some artifacts."
  say "Please exclude the following or add them to your artifact configuration list."
  say "To add them, copy this into your artifact list:"
  found.forM fun (slug, e) => do
    let version ← ofExcept .version (Version.highest e.versions)
    say (additionLine slug version)
  say "To exclude them, add them to the exclude lists of their dependants:"
  sayAll (found.flatMap fun (slug, e) => (sortedTexts e.dependants).map (exclusionLine slug))

/-- Reports what was found, if anything, and tells whether there was something. -/
def report {α : Type} (found : List α) (tell : List α → Action Unit) : Action Bool := do
  if found.isEmpty then return false
  tell found
  return true

/-- Runs all checks and tells whether any found something. -/
def run (spec : Specification) (declared : List String) (unresolved : List ResolutionFailure)
    (ledger : Ledger) : Action Bool := do
  let found ← ofExcept id (duplicates (spec.artifacts.map Prod.fst))
  let a ← report found reportDuplicates
  let b ← report unresolved reportUnresolved
  let c ← report (legacyArtifacts declared spec) reportLegacy
  let d ← report (missing ledger declared) reportMissing
  return a || b || c || d

end Checks

end MavenImport
