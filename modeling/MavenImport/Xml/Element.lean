/-
# Xml.Element -- documents as trees of elements

An element has an expanded name, attributes, the text before its first child element, and its
child elements.  Comments and processing instructions are not in the tree, and neither is the
text after a child.
-/
namespace MavenImport.Xml

set_option autoImplicit false

/-- A name with its namespace. -/
structure Name where
  space : Option String
  label : String
deriving Repr, DecidableEq

inductive Element
  | mk (name : Name) (attributes : List (Name × String)) (text : String)
    (children : List Element)
deriving Repr

namespace Element

def name : Element → Name
  | mk n _ _ _ => n

def attributes : Element → List (Name × String)
  | mk _ as _ _ => as

/-- The text before the first child element. -/
def text : Element → String
  | mk _ _ t _ => t

def children : Element → List Element
  | mk _ _ _ cs => cs

/-- The value of an attribute without namespace. -/
def attribute? (e : Element) (label : String) : Option String :=
  (e.attributes.find? fun (n, _) => n = ⟨none, label⟩).map Prod.snd

/-- The children with a given name. -/
def childrenNamed (e : Element) (n : Name) : List Element :=
  e.children.filter fun c => c.name = n

end Element

end MavenImport.Xml
