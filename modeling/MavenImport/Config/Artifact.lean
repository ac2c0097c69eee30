/-
# Config.Artifact -- the options of a declared artifact

The options are read from JSON without checking more than reading needs; `problems` then says
everything that is wrong with them.  Null stands for an absent value.  Lists that replace or
add dependencies hold texts once they are valid, but may hold any values before.
-/
import MavenImport.Json.Access
import MavenImport.Bazel.Label

namespace MavenImport

set_option autoImplicit false

structure ArtifactConfig where
  /-- The digest that the main file must have. -/
  sha256 : Json
  /-- The main file is not checked, on purpose. -/
  insecure : Bool
  /-- Text that replaces the generated declaration. -/
  snippet : Json
  testonly : Bool
  /-- Dependencies that replace the computed ones. -/
  deps : List Json
  /-- Computed dependencies that are left out. -/
  excluded : List Json
  /-- Dependencies that are added to the computed ones. -/
  included : List Json

/-- Something wrong with a specification, and the artifact that it concerns. -/
structure ConfigProblem where
  artifact : Option String
  message : String
deriving Repr, DecidableEq

namespace ArtifactConfig

def ofJson (v : Json) : Except Json.Fault ArtifactConfig := do
  let sha256 ← v.fieldOrNull "sha256"
  let insecure ← v.fieldOrNull "insecure"
  let snippet ← v.fieldOrNull "build_snippet"
  let testonly ← v.fieldOrNull "testonly"
  let deps ← (← v.fieldOrNull "deps").elementsOrNone
  let excluded ← Json.distinctScalars (← (← v.fieldOrNull "exclude").elementsOrNone)
  let included ← Json.distinctScalars (← (← v.fieldOrNull "include").elementsOrNone)
  return ⟨sha256, insecure.truth, snippet, testonly.truth, deps, excluded, included⟩

/-- A value that names an artifact. -/
def isPairEntry (v : Json) : Bool := (v.str?.map isPair).getD false

/-- A value that is a label. -/
def isLabelEntry (v : Json) : Bool := (v.str?.map isLabel).getD false

/-- The entries of a list that are not of a form it admits. -/
def entryProblems (artifact option : String) (labels : Bool) (entries : List Json) :
    List ConfigProblem :=
  (entries.filter fun v => !(isPairEntry v || (labels && isLabelEntry v))).map fun v =>
    ⟨some artifact, artifact ++ " has an invalid " ++ option ++ " entry \"" ++ v.text
      ++ "\", expected groupId:artifactId" ++ (if labels then " or a Bazel label" else "")⟩

/-- The options that say where the dependencies come from. -/
def sources (c : ArtifactConfig) : List Bool :=
  [!c.snippet.isNull, !c.deps.isEmpty, !c.included.isEmpty || !c.excluded.isEmpty]

/-- Everything that is wrong with the options of an artifact. -/
def problems (c : ArtifactConfig) (artifact : String) : List ConfigProblem :=
  let problem (wrong : Bool) (message : String) : List ConfigProblem :=
    if wrong then [⟨some artifact, message⟩] else []
  problem (c.insecure == !c.sha256.isNull)
      (artifact ++ " must be marked either with a sha256 or as insecure.")
    ++ problem (c.testonly && !c.snippet.isNull)
      ("Do not set testonly on " ++ artifact
        ++ ". It has a build_snippet and target generation is overridden")
    ++ problem (1 < c.sources.count true)
      (artifact ++ " may only be configured with build_snippet, or deps, or include/exclude"
        ++ " mechanisms. These are incompatible settings")
    ++ entryProblems artifact "deps" true c.deps
    ++ entryProblems artifact "include" true c.included
    ++ entryProblems artifact "exclude" false c.excluded

end ArtifactConfig

end MavenImport
