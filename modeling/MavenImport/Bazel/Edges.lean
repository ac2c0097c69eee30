/-
# Bazel.Edges -- the labels an artifact depends on

The dependencies of an artifact become labels, relative to the package of the artifact that
needs them (`labelFor`).  Its options decide which dependencies these are: none if a snippet
replaces its declaration, the listed ones if there is a list, and otherwise those of its POM,
without what is optional, excluded or of the other family of packagings, with the successors
of old support artifacts, and with what the options add (`keptDependencies`).

Every dependency that is kept and that no list replaces is recorded in the ledger.  Labels
are texts unless a substitution put another value in place of one.
-/
import MavenImport.Bazel.Label
import MavenImport.Bazel.Successors
import MavenImport.Config.Artifact
import MavenImport.Fault
import MavenImport.Ledger
import MavenImport.Maven.Layout

namespace MavenImport

set_option autoImplicit false

/-- The package of a group in a workspace. -/
def packageLabel (workspace group : String) : String := "@" ++ workspace ++ "//" ++ groupPath group

/-- The label of an artifact's target. -/
def targetLabel (workspace group artifact : String) : String :=
  packageLabel workspace group ++ ":" ++ targetName artifact

/-- The last segment of a package. -/
def lastSegment (package : String) : String := ((Text.splitAt '/' package).getLast?).getD ""

/-- The label of a dependency in the package of its owner's group: a substitute if there is
one; within the group without the package; and without the target if that is named like the
last segment of its package. -/
def labelFor (workspace : String) (substitutes : Json) (ownerGroup : String) (d : Dependency) :
    Except Json.Fault Json := do
  let package := packageLabel workspace d.group
  let label := targetLabel workspace d.group d.artifact
  let substituted := (← substitutes.field? label).getD (.str label)
  if ownerGroup = d.group then
    match substituted with
    | .str s => match Text.afterStart? package.toList s.toList with
      | some rest => return .str (String.ofList rest)
      | none => return substituted
    | v => throw (.lacks v.kind "startswith")
  else if !Json.sameEntry substituted (.str label) then return substituted
  else if lastSegment package = targetName d.artifact then return .str package
  else return .str label

/-- Packagings that are libraries. -/
def isLibrary (packaging : String) : Bool :=
  packaging = "jar" || packaging = "aar" || packaging = "bundle"

/-- Libraries depend on libraries, and other artifacts on other artifacts. -/
def sameFamily (packaging type : String) : Bool := isLibrary packaging == isLibrary type

/-- A listed entry as text. -/
def entryText (v : Json) : Except Fault String := match v with
  | .str s => .ok s
  | v => .error (.value (.lacks v.kind "startswith"))

/-- The dependency that a listed pair stands for. -/
def pairDependency (s : String) : Except Fault Dependency := match Dependency.ofPair? s with
  | some d => .ok d
  | none => .error (.pair s)

/-- The label of a listed entry, which must be a value that lists can tell apart. -/
def listedLabel (workspace : String) (substitutes : Json) (ownerGroup : String) (entry : Json) :
    Except Fault Json := do
  let s ← entryText entry
  let label ← if isLabel s then pure (.str s) else do
    let d ← pairDependency s
    (labelFor workspace substitutes ownerGroup d).mapError .value
  if label.isScalar then return label else throw (.value (.unhashable label.kind))

/-- Whether a dependency of a POM is one of the generated declaration. -/
def isKept (config : ArtifactConfig) (packaging : String) (d : Dependency) : Bool :=
  !d.optional && !config.excluded.any (Json.sameEntry (.str d.slug)) && sameFamily packaging d.type

/-- A dependency, or its successor if it is on an old support artifact. -/
def succeed (d : Dependency) : Dependency :=
  ((successor? d.slug).bind Dependency.ofPair?).getD d

/-- The dependencies that the options add. -/
def addedDependencies : List Json → Except Fault (List Dependency)
  | [] => .ok []
  | v :: vs => do
    let s ← entryText v
    if isLabel s then addedDependencies vs
    else
      let d ← pairDependency s
      return d :: (← addedDependencies vs)

/-- The dependencies of an artifact without a list of its own. -/
def keptDependencies (config : ArtifactConfig) (a : ResolvedArtifact) :
    Except Fault (List Dependency) := do
  let added ← addedDependencies config.included
  return (a.dependencies.filter (isKept config a.packaging)).map succeed ++ added

/-- The labels of dependencies, each of which is recorded before its label is made. -/
def recordAll (workspace : String) (substitutes : Json) (owner : Coordinate) (ledger : Ledger) :
    List Dependency → Except Json.Fault (List Json) × Ledger
  | [] => (.ok [], ledger)
  | d :: ds =>
    let version := (given? d.version).getD unversioned
    let ledger := ledger.record d.slug version (some owner.text)
    match labelFor workspace substitutes owner.group d with
    | .error f => (.error f, ledger)
    | .ok label =>
      let (labels, ledger) := recordAll workspace substitutes owner ledger ds
      (labels.map (label :: ·), ledger)

/-- The substitutions for the owner's group. -/
def substitutesFor (substitutes : Json) (group : String) : Except Json.Fault Json :=
  (substitutes.field? group).map fun found => found.getD (.obj [])

/-- The labels of an artifact's dependencies, each once and in order of first occurrence, and
the ledger with what was recorded. -/
def prepareEdges (workspace : String) (substitutes : Json) (config : ArtifactConfig)
    (a : ResolvedArtifact) (ledger : Ledger) : Except Fault (List Json) × Ledger :=
  if !config.snippet.isNull then (.ok [], ledger)
  else match substitutesFor substitutes a.coordinate.group with
    | .error f => (.error (.value f), ledger)
    | .ok substitutes =>
      if !config.deps.isEmpty then
        ((config.deps.mapM (listedLabel workspace substitutes a.coordinate.group)).map
          Json.distinct, ledger)
      else match keptDependencies config a with
        | .error f => (.error f, ledger)
        | .ok kept =>
          let (labels, ledger) := recordAll workspace substitutes a.coordinate ledger kept
          let added := config.included.filter ArtifactConfig.isLabelEntry
          (match labels with
            | .error f => .error (.value f)
            | .ok labels => (Json.distinctScalars (labels ++ added)).mapError .value, ledger)

end MavenImport
