/-
# Maven.Dependency -- what one artifact needs of another

A dependency names a group and an artifact and leaves open what its POM leaves open, so that
managed values can be filled in.  A pair of names alone makes a dependency with a placeholder
version.
-/
import MavenImport.Maven.Coordinate

namespace MavenImport

set_option autoImplicit false

structure Dependency where
  group : String
  artifact : String
  version : Option String := none
  scope : Option String := none
  classifier : Option String := none
  kind : Option String := none
  optional : Bool := false
deriving Repr, DecidableEq

/-- The version of a dependency that was given as a pair of names. -/
def unversioned : String := "<SOME_VERSION>"

/-- An optional text that is there and not empty. -/
def given? (s : Option String) : Option String := if s = some "" then none else s

namespace Dependency

def slug (d : Dependency) : String := slugOf d.group d.artifact

/-- The kind of file that is needed; a library unless the POM says otherwise. -/
def type (d : Dependency) : String := (given? d.kind).getD "jar"

/-- A dependency on the first two parts of a text, in no particular version. -/
def ofPair? (s : String) : Option Dependency := match Text.splitAt ':' s with
  | g :: a :: _ =>
    some { group := g, artifact := a, version := some unversioned, scope := some "compile" }
  | _ => none

/-- A dependency that stands for the managed dependencies of another POM. -/
def isImport (d : Dependency) : Bool := d.kind = some "pom" && d.scope = some "import"

end Dependency

end MavenImport
