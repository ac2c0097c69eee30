/-
# Maven.Model -- POMs merged with what they inherit and import

The model of an artifact is its POM with the properties, dependencies and managed dependencies
of its parent's model, and with the managed dependencies of the models that it imports.  What
the POM itself says replaces what it inherits, in place; what it imports gives way to
everything that is there already.  Values are written with their references replaced.

The merge is described here step by step, without saying where other models come from:
`inherit` starts from the parent, `defineAll` adds the POM's own properties, `manage` takes up
one managed dependency, `importAll` one imported model, and `finish` puts the model together.
-/
import MavenImport.Maven.Layout
import MavenImport.Maven.Pom

namespace MavenImport

set_option autoImplicit false

structure Model where
  group : String
  artifact : String
  version : String
  packaging : String
  properties : Properties
  /-- Dependencies, one per slug. -/
  dependencies : List Dependency
  /-- Managed dependencies, one per slug. -/
  managed : List Dependency
deriving Repr, DecidableEq

abbrev Dependencies := Table String Dependency

/-- Writes dependencies under their slugs, the last of a slug in the place of the first. -/
def Dependencies.ofList (ds : List Dependency) : Dependencies :=
  Table.ofList (ds.map fun d => (d.slug, d))

/-- A model that is being put together. -/
structure Draft where
  properties : Properties
  dependencies : Dependencies
  managed : Dependencies

namespace Draft

def empty : Draft := ⟨⟨[]⟩, ⟨[]⟩, ⟨[]⟩⟩

/-- What a model inherits from that of its parent. -/
def inherit (parent : Model) : Draft where
  properties := (parent.properties.put "project.parent.version" parent.version).put
    "project.parent.groupId" parent.group
  dependencies := Dependencies.ofList parent.dependencies
  managed := Dependencies.ofList parent.managed

/-- The version of a POM, which is that of its coordinate if it gives none. -/
def versionOf (pom : Pom) (c : Coordinate) : String := (given? pom.version).getD c.version

/-- Adds the properties that a POM defines, and then those that stand for its names. -/
def defineAll (draft : Draft) (pom : Pom) (c : Coordinate) : Draft :=
  let version := versionOf pom c
  { draft with
    properties := (draft.properties.putAll pom.properties.entries).putAll
      [("project.groupId", pom.group), ("project.artifactId", pom.artifact),
       ("project.version", version), ("project.packaging", pom.packaging),
       ("groupId", pom.group), ("artifactId", pom.artifact), ("version", version)] }

/-- A dependency with the references in its values replaced. -/
def interpolate (draft : Draft) (d : Dependency) : Dependency where
  group := draft.properties.resolve d.group
  artifact := draft.properties.resolve d.artifact
  version := d.version.map draft.properties.resolve
  scope := d.scope.map draft.properties.resolve
  kind := d.kind.map draft.properties.resolve
  classifier := d.classifier.map draft.properties.resolve
  optional := d.optional

/-- Takes up a managed dependency. -/
def manage (draft : Draft) (d : Dependency) : Draft :=
  { draft with managed := draft.managed.put d.slug d }

/-- Takes up the managed dependencies of an imported model, where there are none yet. -/
def importAll (draft : Draft) (imported : Model) : Draft :=
  { draft with
    managed := imported.managed.foldl (fun table d => table.putNew d.slug d) draft.managed }

/-- Takes up the dependencies of a POM. -/
def depend (draft : Draft) (pom : Pom) : Draft :=
  { draft with
    dependencies := draft.dependencies.putAll
      ((pom.dependencies.map draft.interpolate).map fun d => (d.slug, d)) }

/-- The model that a draft has come to. -/
def finish (draft : Draft) (pom : Pom) (c : Coordinate) : Model where
  group := pom.group
  artifact := pom.artifact
  version := versionOf pom c
  packaging :=
    let packaging := draft.properties.resolve pom.packaging
    if packaging = "" then "jar" else packaging
  properties := draft.properties
  dependencies := draft.dependencies.values
  managed := draft.managed.values

end Draft

/-- The parent of a POM, if it names one in full. -/
def Pom.parent? (pom : Pom) : Option Coordinate := do
  let g ← given? pom.parent.group
  let a ← given? pom.parent.artifact
  let v ← given? pom.parent.version
  return ⟨g, a, v⟩

namespace Model

/-- A dependency with its version and scope from the managed one of the same slug, where it
has none of its own. -/
def complete (m : Model) (d : Dependency) : Dependency :=
  let managing := (Dependencies.ofList m.managed).find? d.slug
  { d with
    version := (given? d.version).or (managing.bind Dependency.version)
    scope := some (((given? d.scope).or (given? (managing.bind Dependency.scope))).getD "compile") }

/-- Scopes whose dependencies are needed at run time. -/
def isBuildScope (scope : String) : Bool := scope = "compile" || scope = "runtime"

/-- The dependencies needed at run time, complete. -/
def buildDependencies (m : Model) : List Dependency :=
  (m.dependencies.map m.complete).filter fun d => (d.scope.map isBuildScope).getD true

/-- The artifact that a model describes, under the coordinate that was asked for. -/
def resolved (m : Model) (c : Coordinate) : ResolvedArtifact :=
  ⟨c, m.packaging, m.buildDependencies⟩

end Model

end MavenImport
