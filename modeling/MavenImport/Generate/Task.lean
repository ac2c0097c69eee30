/-
# Generate.Task -- the way of one artifact from its key to its declaration

A declared artifact passes through stages.  Its coordinate is read and recorded, the artifact
is resolved, and by its packaging it gets a form; the file of an Android library is had and
inspected for that.  Then its labels are made and its declaration is kept.  A stage ends the
way of the artifact or leads to the next one (`Task.advance`), and whatever happens in it stays
with this artifact: a fault is told and noted, and never passed on.

What the artifacts of a run have come to together is its `Progress`.
-/
import MavenImport.Aar
import MavenImport.Bazel.BuildFile
import MavenImport.Maven.Resolve

namespace MavenImport

set_option autoImplicit false

open Effect (say info detail inSeconds)

/-- Where a run has its artifacts and their files from. -/
structure Resolver where
  resolve : Coordinate → Action (Except ResolutionFailure ResolvedArtifact)
  download : ResolvedArtifact → Action FetchStatus

def Source.resolver (s : Source) : Resolver := ⟨s.resolve, s.download⟩

/-- What is said of an artifact whose packaging has no form of its own. -/
inductive UnknownPackaging
  | warn
  | fail
  | ignore
deriving Repr, DecidableEq

/-- What is to be generated, and how. -/
structure Plan where
  specification : Specification
  workspace : Path
  resolver : Resolver
  unknownPackaging : UnknownPackaging := .warn
  threads : Int := 1

/-- What the artifacts of a run have come to. -/
structure Progress where
  /-- Something went wrong. -/
  failed : Bool := false
  /-- How many artifacts were resolved and taken up for packaging. -/
  resolvedCount : Nat := 0
  /-- The slugs that are declared. -/
  declaredSlugs : List String := []
  unresolved : List ResolutionFailure := []
  /-- The declarations, each with the file that it belongs to. -/
  declared : List (Path × Declared) := []
  ledger : Ledger := .empty

/-- How the way of an artifact ended. -/
inductive Fate
  /-- A fault ended it before it was resolved. -/
  | lost
  | unresolved (f : ResolutionFailure)
  /-- It was resolved, and a fault or a failure ended it later. -/
  | dropped
  /-- It has a declaration, which belongs to a file. -/
  | declared (path : Path) (d : Declared)

inductive Stage
  | listed
  /-- Its coordinate is recorded. -/
  | named (c : Coordinate)
  | resolved (a : ResolvedArtifact)
  /-- It is an Android library whose file is needed. -/
  | opening (a : ResolvedArtifact)
  /-- It is an Android library whose file is there. -/
  | inspecting (a : ResolvedArtifact) (file : Path)
  | ended (fate : Fate)

/-- An artifact on its way: the key that declares it, its options and its stage. -/
structure Task where
  key : String
  config : ArtifactConfig
  stage : Stage := .listed

namespace Progress

/-- Records an artifact as declared. -/
def declareSlug (p : Progress) (c : Coordinate) : Progress :=
  { p with
    ledger := p.ledger.record c.slug c.version none
    declaredSlugs := if c.slug ∈ p.declaredSlugs then p.declaredSlugs
      else p.declaredSlugs ++ [c.slug] }

/-- Notes that something went wrong. -/
def fail (p : Progress) : Progress := { p with failed := true }

/-- Notes an artifact that cannot be resolved. -/
def addUnresolved (p : Progress) (f : ResolutionFailure) : Progress :=
  { p with unresolved := p.unresolved ++ [f], failed := true }

/-- Counts an artifact that is taken up for packaging. -/
def countResolved (p : Progress) : Progress := { p with resolvedCount := p.resolvedCount + 1 }

/-- Makes and keeps the declaration of an artifact.  What its labels record stays recorded even
if a fault ends the making. -/
def declare (p : Progress) (plan : Plan) (r : Resolution) :
    Except Fault (Path × Declared) × Progress :=
  let spec := plan.specification
  match prepareEdges spec.name.text spec.substitutes r.config r.artifact p.ledger with
  | (.error f, ledger) => (.error f, { p with ledger := ledger })
  | (.ok labels, ledger) =>
    let jetify := spec.jetifies r.coordinate.group r.coordinate.artifact
    let entry := (buildFilePath plan.workspace r.coordinate.group,
      (⟨r, r.declaration labels jetify⟩ : Declared))
    (.ok entry, { p with ledger := ledger, declared := p.declared ++ [entry] })

end Progress

/-- Packagings that are declared as libraries of classes. -/
def isClassLibrary (packaging : String) : Bool := packaging = "jar" || packaging = "bundle"

/-- Tells of an artifact whose packaging has no form of its own; it may count as a failure. -/
def UnknownPackaging.tell (a : ResolvedArtifact) (p : Progress) : UnknownPackaging → Effect Progress
  | .warn => do
    say ("WARNING: " ++ a.coordinate.text ++ " is not a handled package type, " ++ a.packaging)
    return p
  | .fail => do
    say ("\nERROR: " ++ a.coordinate.text ++ " is not a supported packaging, " ++ a.packaging)
    return p.fail
  | .ignore => return p

namespace Task

/-- Tells of a fault in the processing of an artifact. -/
def tellFault (name : String) (f : Fault) : Effect Unit :=
  say ("ERROR: Unexpected failure while processing " ++ name ++ ": " ++ f.message)

/-- Declares an artifact in a form, which ends its way. -/
def finish (plan : Plan) (config : ArtifactConfig) (a : ResolvedArtifact) (form : Form)
    (p : Progress) : Effect (Stage × Progress) :=
  match p.declare plan ⟨a, config, form⟩ with
  | (.ok (path, d), p) => return (.ended (.declared path d), p)
  | (.error f, p) => do
    tellFault a.coordinate.text f
    return (.ended .dropped, p.fail)

/-- Reads and records the coordinate of an artifact. -/
def name (key : String) (p : Progress) : Effect (Stage × Progress) :=
  match Coordinate.ofString? key with
  | some c => return (.named c, p.declareSlug c)
  | none => do
    tellFault key (.coordinate key)
    return (.ended .lost, p.fail)

/-- Resolves an artifact. -/
def resolve (plan : Plan) (key : String) (c : Coordinate) (p : Progress) :
    Effect (Stage × Progress) := do
  match ← Action.attempt (plan.resolver.resolve c) with
  | .error f =>
    tellFault key f
    return (.ended .lost, p.fail)
  | .ok (.error failure) =>
    say ("ERROR: Could not resolve " ++ c.text ++ ": " ++ failure.message)
    -- The failure may be that of a parent or an import; it is told of the artifact itself.
    let failure := { failure with coordinate := c.text }
    return (.ended (.unresolved failure), p.addUnresolved failure)
  | .ok (.ok a) =>
    info ("Resolved " ++ c.text ++ (← inSeconds))
    return (.resolved a, p)

/-- Takes a resolved artifact up for packaging. -/
def package (plan : Plan) (config : ArtifactConfig) (a : ResolvedArtifact) (p : Progress) :
    Effect (Stage × Progress) := do
  let p := p.countResolved
  if isClassLibrary a.packaging then finish plan config a .library p
  else if a.packaging = "aar" then return (.opening a, p)
  else finish plan config a .file (← plan.unknownPackaging.tell a p)

/-- Gets the file of an Android library. -/
def download (plan : Plan) (a : ResolvedArtifact) (p : Progress) : Effect (Stage × Progress) := do
  match ← Action.attempt (plan.resolver.download a) with
  | .error f =>
    tellFault a.coordinate.text f
    return (.ended .dropped, p.fail)
  | .ok status => match status.file? with
    | none =>
      say ("Failed to download " ++ a.coordinate.text ++ ".")
      return (.ended .dropped, p.fail)
    | some file =>
      info ("Downloaded " ++ file.text ++ status.fromCache ++ (← inSeconds))
      detail ("Extracting package metadata from " ++ file.text)
      return (.inspecting a file, p)

/-- What is said of an Android library whose file is not as it should be. -/
def problemMessage (a : ResolvedArtifact) (file : Path) : AarProblem → String
  | .noPackage => "ERROR: Null resource package for " ++ a.coordinate.text
  | problem => "ERROR: Could not extract pieces of aar " ++ a.coordinate.text ++ ": "
      ++ problem.message file

/-- Inspects the file of an Android library and declares it. -/
def inspect (plan : Plan) (config : ArtifactConfig) (a : ResolvedArtifact) (file : Path)
    (p : Progress) : Effect (Stage × Progress) := do
  match ← Action.attempt (Aar.inspectFile file) with
  | .error f =>
    tellFault a.coordinate.text f
    return (.ended .dropped, p.fail)
  | .ok (.error problem) =>
    say (problemMessage a file problem)
    return (.ended .dropped, p.fail)
  | .ok (.ok details) => finish plan config a (.android details.package details.libraries) p

/-- One step on the way of an artifact. -/
def advance (plan : Plan) (t : Task) (p : Progress) : Effect (Stage × Progress) :=
  match t.stage with
  | .listed => name t.key p
  | .named c => resolve plan t.key c p
  | .resolved a => package plan t.config a p
  | .opening a => download plan a p
  | .inspecting a file => inspect plan t.config a file p
  | .ended fate => return (.ended fate, p)

end Task

end MavenImport
