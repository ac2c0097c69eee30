/-
# Maven.Pom -- what a POM says

A POM is read from a document tree.  An element is looked for in the Maven namespace first
and without a namespace second, and the text of an element counts without the blanks around
it.  A group or a version that is not given is that of the parent.
-/
import MavenImport.Maven.Dependency
import MavenImport.Maven.Property
import MavenImport.Text.Lowercase
import MavenImport.Xml.Reader

namespace MavenImport

set_option autoImplicit false

/-- The POM that another one inherits from. -/
structure ParentReference where
  group : Option String
  artifact : Option String
  version : Option String
deriving Repr, DecidableEq

structure Pom where
  group : String
  artifact : String
  version : Option String
  packaging : String
  parent : ParentReference
  properties : Properties
  dependencies : List Dependency
  managed : List Dependency
deriving Repr, DecidableEq

namespace Pom

open Xml (Element Name)

def mavenNamespace : String := "http://maven.apache.org/POM/4.0.0"

/-- The two names that an element of a POM can have. -/
def spellings (label : String) : List Name := [⟨some mavenNamespace, label⟩, ⟨none, label⟩]

/-- The child elements of one kind, those in the Maven namespace first. -/
def children (e : Element) (label : String) : List Element :=
  (spellings label).flatMap e.childrenNamed

def child? (e : Element) (label : String) : Option Element := (children e label).head?

/-- The text of a child, without the blanks around it; an empty child has none. -/
def text? (e : Element) (label : String) : Option String := do
  let c ← child? e label
  if c.text = "" then none else some (Text.trim c.text)

def dependency (e : Element) : Dependency where
  group := (text? e "groupId").getD ""
  artifact := (text? e "artifactId").getD ""
  version := text? e "version"
  scope := text? e "scope"
  classifier := text? e "classifier"
  kind := text? e "type"
  optional := (text? e "optional").any fun s => Text.lower s = "true"

/-- The dependencies listed in an element. -/
def dependencyList (e : Element) : List Dependency := match child? e "dependencies" with
  | some list => (children list "dependency").map dependency
  | none => []

/-- The parent that an element names. -/
def parentReference (e : Element) : ParentReference := match child? e "parent" with
  | some p => ⟨text? p "groupId", text? p "artifactId", text? p "version"⟩
  | none => ⟨none, none, none⟩

/-- The properties that an element defines, by their local names. -/
def propertyTable (e : Element) : Properties := match child? e "properties" with
  | some list => .ofList (list.children.map fun c => (c.name.label, Text.trim c.text))
  | none => ⟨[]⟩

def ofElement (e : Element) : Pom :=
  let parent := parentReference e
  { group := (given? (text? e "groupId")).getD (parent.group.getD "")
    artifact := (text? e "artifactId").getD ""
    version := (given? (text? e "version")).or parent.version
    packaging := (given? (text? e "packaging")).getD "jar"
    parent := parent
    properties := propertyTable e
    dependencies := dependencyList e
    managed := ((child? e "dependencyManagement").map dependencyList).getD [] }

def ofBytes (bytes : ByteArray) : Except Xml.Fault Pom := (Element.ofBytes bytes).map ofElement

end Pom

end MavenImport
