/-
# Config.Specification -- the artifacts of a workspace and the options of its generation

A specification declares artifacts by their coordinates.  Reading it compiles the exclusion
globs; those that are no globs are kept as problems, to be told with all others
(`Specification.problems`).
-/
import MavenImport.Config.Artifact
import MavenImport.Glob
import MavenImport.Maven.Coordinate
import MavenImport.Table

namespace MavenImport

set_option autoImplicit false

structure Specification where
  /-- The name of the generated workspace. -/
  name : Json
  /-- The declared artifacts, by their coordinates. -/
  artifacts : List (String × ArtifactConfig)
  /-- For each group, labels that replace generated ones. -/
  substitutes : Json
  useJetifier : Bool
  /-- Artifacts that are not jetified. -/
  globs : List Glob
  /-- The texts of the globs, in the same order. -/
  globTexts : List String
  globProblems : List Glob.Fault
  /-- The repository of the rules that generated files load. -/
  rulesLabel : Json
  ignoreLegacy : Bool
  writeAliases : Bool

namespace Specification

/-- A value as a glob: a value that is no text can hold no colon, or cannot be searched. -/
def globOfJson (v : Json) : Except Json.Fault (Except Glob.Fault Glob) := match v with
  | .str s => .ok (Glob.ofString s)
  | .arr items =>
    if items.any (Json.sameEntry (.str ":")) then .error (.lacks "list" "replace")
    else .ok (.error (.noColon v.text))
  | .obj fields =>
    if fields.any (·.1 = ":") then .error (.lacks "dict" "replace")
    else .ok (.error (.noColon v.text))
  | v => .error (.notSearchable v.kind)

/-- Sorts values into globs, with their texts, and the reasons why others are none. -/
def compileGlobs : List Json → Except Json.Fault (List (String × Glob) × List Glob.Fault)
  | [] => .ok ([], [])
  | v :: vs => do
    let compiled ← globOfJson v
    let (globs, faults) ← compileGlobs vs
    match compiled with
    | .ok g => return ((v.text, g) :: globs, faults)
    | .error f => return (globs, f :: faults)

/-- The options of each declared artifact. -/
def readArtifacts : List (String × Json) → Except Json.Fault (List (String × ArtifactConfig))
  | [] => .ok []
  | (artifact, v) :: rest => do
    let config ← ArtifactConfig.ofJson (v.orElse (.obj []))
    let others ← readArtifacts rest
    return (artifact, config) :: others

/-- Reads a specification; `defaultName` applies if it has no name of its own. -/
def ofJson (v defaultName : Json) : Except Json.Fault Specification := do
  let name ← v.fieldOrNull "name"
  let declared ← v.field? "artifacts"
  let artifacts ← readArtifacts (← (declared.getD (.obj [])).entries)
  let substitutes ← v.fieldOrNull "target_substitutes"
  let useJetifier ← v.fieldOrNull "use_jetifier"
  let excludes ← (← v.fieldOrNull "jetifier_excludes").elementsOrNone
  let rules ← v.fieldOrNull "maven_rules_repository"
  let ignoreLegacy ← v.fieldOrNull "ignore_legacy_android_support_artifacts"
  let writeAliases ← v.fieldOrNull "generate_rules_jvm_compatibility_targets"
  let (globs, faults) ← compileGlobs excludes
  return {
    name := (name.orElse defaultName).orElse (.str "")
    artifacts := artifacts
    substitutes := substitutes.orElse (.obj [])
    useJetifier := useJetifier.truth
    globs := globs.map Prod.snd
    globTexts := globs.map Prod.fst
    globProblems := faults
    rulesLabel := rules.orElse (.str "maven_repository_rules")
    ignoreLegacy := ignoreLegacy.truth
    writeAliases := writeAliases.truth }

/-- Whether the imports of an artifact are jetified. -/
def jetifies (s : Specification) (group artifact : String) : Bool :=
  s.useJetifier && !anyMatches s.globs group artifact

/-- What is wrong with one declared artifact. -/
def artifactProblems (artifact : String) (config : ArtifactConfig) : List ConfigProblem :=
  (if (Coordinate.ofString? artifact).isNone then
    [⟨some artifact, Coordinate.malformedMessage artifact⟩] else [])
    ++ config.problems artifact

/-- Everything that is wrong with a specification. -/
def problems (s : Specification) : List ConfigProblem :=
  (if s.name.truth then []
    else [⟨none, "The repository specification must have a name."⟩])
    ++ s.globProblems.map (fun f => ⟨none, f.message⟩)
    ++ s.artifacts.flatMap fun (artifact, config) => artifactProblems artifact config

end Specification

end MavenImport
