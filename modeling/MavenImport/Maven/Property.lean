/-
# Maven.Property -- references to properties in POM values

A reference is a dollar sign and a name in braces.  One pass replaces every reference whose
name is defined, from the left; the name may also be meant without its `project.` or `pom.`
part.  Passes are repeated until nothing changes, eleven at most, so that references in
values are followed and circles end.
-/
import MavenImport.Text.Cut
import MavenImport.Table

namespace MavenImport

set_option autoImplicit false

abbrev Properties := Table String String

namespace Properties

/-- The names under which a reference is looked up, in order. -/
def candidates (name : String) : List String :=
  [name, String.ofList (Text.removeFirst "project.".toList name.toList),
   String.ofList (Text.removeFirst "pom.".toList name.toList)]

/-- The value of a reference. -/
def lookup? (properties : Properties) (name : String) : Option String :=
  (candidates name).findSome? properties.find?

/-- The name of a reference after its opening, and what follows the closing brace. -/
def referenceName? (cs : List Char) : Option (List Char × List Char) :=
  match Text.cut? '\x7d' cs with
  | some ([], _) => none
  | found => found

/-- The text of a reference. -/
def referenceText (name : List Char) : List Char := '$' :: '\x7b' :: name ++ ['\x7d']

/-- One pass of replacement; `fuel` bounds the characters. -/
def substituteFrom (properties : Properties) : Nat → List Char → List Char
  | 0, cs => cs
  | _ + 1, [] => []
  | fuel + 1, c :: cs =>
    match if c = '$' ∧ cs.head? = some '\x7b' then referenceName? cs.tail else none with
    | some (name, rest) =>
      ((properties.lookup? (String.ofList name)).map String.toList).getD (referenceText name)
        ++ substituteFrom properties fuel rest
    | none => c :: substituteFrom properties fuel cs

/-- One pass of replacement over a text. -/
def substitute (properties : Properties) (s : String) : String :=
  String.ofList (substituteFrom properties s.toList.length s.toList)

/-- Whether a text has the opening of a reference. -/
def hasReference : List Char → Bool
  | '$' :: '\x7b' :: _ => true
  | _ :: cs => hasReference cs
  | [] => false

/-- Passes of replacement until nothing changes, and no more than `passes`. -/
def resolveWithin (properties : Properties) : (passes : Nat) → String → String
  | 0, s => s
  | passes + 1, s =>
    if !hasReference s.toList then s
    else
      let t := properties.substitute s
      if t = s then s else resolveWithin properties passes t

/-- The number of passes after which replacement stops. -/
def maxPasses : Nat := 11

/-- A text with its references replaced. -/
def resolve (properties : Properties) (s : String) : String :=
  resolveWithin properties maxPasses s

end Properties

end MavenImport
