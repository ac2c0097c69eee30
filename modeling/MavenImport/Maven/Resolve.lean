/-
# Maven.Resolve -- from coordinates to artifacts

To resolve a coordinate, the model of the artifact is put together from its POM, the models of
its parents and the models that it imports.  Models are kept under their coordinates, so that
each is put together once.  A POM that cannot be had, or parents and imports nested too
deeply, are failures, and failures are values.
-/
import MavenImport.Maven.Fetch

namespace MavenImport

set_option autoImplicit false

inductive Reason
  | notFound
  | fetchError
  | invalidHash
  | invalidPom
deriving Repr, DecidableEq

/-- How a reason is written. -/
def Reason.text : Reason → String
  | .notFound => "not found"
  | .fetchError => "fetch error"
  | .invalidHash => "invalid hash"
  | .invalidPom => "invalid pom"

/-- The reason why a POM cannot be had, from what came of asking for it. -/
def Outcome.reason : Outcome → Reason
  | .invalidHash => .invalidHash
  | .fetchError => .fetchError
  | _ => .notFound

/-- Why an artifact cannot be resolved. -/
structure ResolutionFailure where
  /-- The artifact whose POM is missing or wrong, which may be a parent or an import. -/
  coordinate : String
  reason : Reason
  message : String
  repository : Option Json := none
  statusCode : Option Int := none
  /-- The repositories that were asked. -/
  repositories : List Json := []

namespace Source

/-- The failure of an artifact whose POM cannot be had. -/
def missingPom (s : Source) (c : Coordinate) (status : FetchStatus) : ResolutionFailure where
  coordinate := c.text
  reason := status.outcome.reason
  message := status.message
  repository := status.repository
  statusCode := status.responseCode
  repositories := s.urls

/-- The failure of an artifact whose POM is no well-formed document. -/
def malformedPom (s : Source) (c : Coordinate) (status : FetchStatus) (file : Path) :
    ResolutionFailure where
  coordinate := c.text
  reason := .invalidPom
  message := "Malformed pom " ++ file.text ++ ": " ++ Xml.Fault.malformed.message
  repository := status.repository
  repositories := s.urls

/-- The failure of an artifact whose parents and imports are nested too deeply. -/
def tooDeep (s : Source) (c : Coordinate) : ResolutionFailure where
  coordinate := c.text
  reason := .invalidPom
  message := "Parent chain of " ++ c.text ++ " is too deep (cycle?)"
  repositories := s.urls

/-- The POM of an artifact. -/
def loadPom (s : Source) (c : Coordinate) : Action (Except ResolutionFailure Pom) := do
  let status ← s.fetch (artifactPath c "pom" none) c.isSnapshot
  match status.localFile with
  | none => return .error (s.missingPom c status)
  | some file =>
    let bytes ← Action.inspect fun fs => fs.readFile file
    match Pom.ofBytes bytes with
    | .ok pom => return .ok pom
    | .error .malformed => return .error (s.malformedPom c status file)
    | .error f => Action.fail (.xml f)

/-- Takes up managed dependencies in turn; `modelOf` gives the models that are imported.  What
is imported without a version is passed over. -/
def manageAll (modelOf : Coordinate → Action (Except ResolutionFailure Model)) (draft : Draft) :
    List Dependency → Action (Except ResolutionFailure Draft)
  | [] => return .ok draft
  | d :: ds => do
    let d := draft.interpolate d
    if d.isImport then
      match given? d.version with
      | none => manageAll modelOf draft ds
      | some version => match ← modelOf ⟨d.group, d.artifact, version⟩ with
        | .error failure => return .error failure
        | .ok imported => manageAll modelOf (draft.importAll imported) ds
    else manageAll modelOf (draft.manage d) ds

/-- The draft that a POM starts from: what it inherits, or nothing. -/
def startDraft (modelOf : Coordinate → Action (Except ResolutionFailure Model)) (pom : Pom) :
    Action (Except ResolutionFailure Draft) := do
  match pom.parent? with
  | none => return .ok .empty
  | some parent => return (← modelOf parent).map Draft.inherit

/-- The model of an artifact from its POM; `modelOf` gives the models that it refers to. -/
def mergeModel (modelOf : Coordinate → Action (Except ResolutionFailure Model)) (c : Coordinate)
    (pom : Pom) : Action (Except ResolutionFailure Model) := do
  match ← startDraft modelOf pom with
  | .error failure => return .error failure
  | .ok draft => match ← manageAll modelOf (draft.defineAll pom c) pom.managed with
    | .error failure => return .error failure
    | .ok draft => return .ok ((draft.depend pom).finish pom c)

/-- Puts the model of an artifact together and keeps it. -/
def newModel (s : Source) (modelOf : Coordinate → Action (Except ResolutionFailure Model))
    (c : Coordinate) : Action (Except ResolutionFailure Model) := do
  match ← s.loadPom c with
  | .error failure => return .error failure
  | .ok pom => match ← mergeModel modelOf c pom with
    | .error failure => return .error failure
    | .ok model =>
      modify fun w => { w with models := w.models.put c.text model }
      return .ok model

/-- The model of an artifact.  Parents and imports may be nested in it to a given depth. -/
def modelOf (s : Source) : (depth : Nat) → Coordinate → Action (Except ResolutionFailure Model)
  | 0, c => do
    match (← get).models.find? c.text with
    | some model => return .ok model
    | none => return .error (s.tooDeep c)
  | depth + 1, c => do
    match (← get).models.find? c.text with
    | some model => return .ok model
    | none => s.newModel (s.modelOf depth) c

/-- The number of models that may be nested in each other. -/
def maxNesting : Nat := 21

/-- Resolves a coordinate. -/
def resolve (s : Source) (c : Coordinate) :
    Action (Except ResolutionFailure ResolvedArtifact) := do
  return (← s.modelOf maxNesting c).map fun m => m.resolved c

/-- Gets the main file of an artifact into the cache. -/
def download (s : Source) (a : ResolvedArtifact) : Action FetchStatus :=
  s.fetch a.mainPath a.coordinate.isSnapshot

end Source

end MavenImport
