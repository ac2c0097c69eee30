/-
# Maven.Layout -- where a repository keeps the files of an artifact

A file lies in the directory of its group, artifact and version; its name repeats the artifact
and the version, and ends in a classifier, if there is one, and an extension.
-/
import MavenImport.Maven.Dependency

namespace MavenImport

set_option autoImplicit false

/-- The path of a file of an artifact within a repository. -/
def artifactPath (c : Coordinate) (extension : String) (classifier : Option String) : String :=
  let ending := match given? classifier with
    | some s => "-" ++ s
    | none => ""
  groupPath c.group ++ "/" ++ c.artifact ++ "/" ++ c.version ++ "/" ++ c.artifact ++ "-"
    ++ c.version ++ ending ++ "." ++ extension

/-- The extension of the main file of a packaging. -/
def mainExtension (packaging : String) : String :=
  if packaging = "bundle" ∨ packaging = "maven-plugin" ∨ packaging = "eclipse-plugin" then "jar"
  else packaging

/-- An artifact whose POM is known: its packaging and what it needs to be built against. -/
structure ResolvedArtifact where
  coordinate : Coordinate
  packaging : String
  dependencies : List Dependency
deriving Repr, DecidableEq

namespace ResolvedArtifact

def pomPath (a : ResolvedArtifact) : String := artifactPath a.coordinate "pom" none

def mainPath (a : ResolvedArtifact) : String :=
  artifactPath a.coordinate (mainExtension a.packaging) none

/-- The path of the sources, which only libraries have. -/
def sourcesPath? (a : ResolvedArtifact) : Option String :=
  let extension := mainExtension a.packaging
  if extension = "jar" ∨ extension = "aar" then
    some (artifactPath a.coordinate "jar" (some "sources"))
  else none

end ResolvedArtifact

end MavenImport
