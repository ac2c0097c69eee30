/-
# Json.Basic -- JSON values, their truth, their equality and their text

Configuration is JSON of any shape, so values stay values until a rule looks at them.  Whole
numbers and doubles are kept apart, since they print differently; as entries of a list they
are equal when their values are (`sameEntry`), and then so are the booleans and `0` and `1`.

A value is written out in a message by `text`: a string as it is, and inside a list or an
object between quotes.
-/
import MavenImport.Number.Shortest
import MavenImport.Text.Quoted

namespace MavenImport

set_option autoImplicit false

inductive Json
  | null
  | bool (b : Bool)
  | int (n : Int)
  | real (x : Double)
  | str (s : String)
  | arr (items : List Json)
  | obj (fields : List (String × Json))
deriving Repr, BEq, Inhabited

namespace Json

/-- The kind of a value, as messages name it. -/
def kind : Json → String
  | null => "NoneType"
  | bool _ => "bool"
  | int _ => "int"
  | real _ => "float"
  | str _ => "str"
  | arr _ => "list"
  | obj _ => "dict"

/-- Null, false, zero and whatever is empty are false; all other values are true. -/
def truth : Json → Bool
  | null => false
  | bool b => b
  | int n => n != 0
  | real x => !x.isZero
  | str s => s != ""
  | arr items => !items.isEmpty
  | obj fields => !fields.isEmpty

def isNull : Json → Bool
  | null => true
  | _ => false

def str? : Json → Option String
  | str s => some s
  | _ => none

/-- The value as a whole number or a double, booleans being zero and one. -/
def number? : Json → Option (Int ⊕ Double)
  | bool b => some (.inl (if b then 1 else 0))
  | int n => some (.inl n)
  | real x => some (.inr x)
  | _ => none

/-- Equality of two numbers by value. -/
def sameNumber : Int ⊕ Double → Int ⊕ Double → Bool
  | .inl a, .inl b => a == b
  | .inl a, .inr y => y.toInt? == some a
  | .inr x, .inl b => x.toInt? == some b
  | .inr x, .inr y => x.sameValue y

/-- Equality of scalar values; lists and objects are no scalars. -/
def sameEntry (a b : Json) : Bool := match a.number?, b.number? with
  | some x, some y => sameNumber x y
  | none, none => match a, b with
    | null, null => true
    | str s, str t => s == t
    | _, _ => false
  | _, _ => false

def isScalar : Json → Bool
  | arr _ => false
  | obj _ => false
  | _ => true

def opening : String := "\x7b"
def closing : String := "\x7d"

mutual

/-- The text of a value inside another one: strings are quoted. -/
def nestedText : Json → String
  | null => "None"
  | bool b => if b then "True" else "False"
  | int n => toString n
  | real x => x.text Double.Layout.plain
  | str s => Text.quoted s
  | arr items => "[" ++ Text.joinWith ", " (itemTexts items) ++ "]"
  | obj fields => opening ++ Text.joinWith ", " (fieldTexts fields) ++ closing

def itemTexts : List Json → List String
  | [] => []
  | v :: vs => nestedText v :: itemTexts vs

def fieldTexts : List (String × Json) → List String
  | [] => []
  | (k, v) :: fs => (Text.quoted k ++ ": " ++ nestedText v) :: fieldTexts fs

end

/-- The text of a value in a message. -/
def text : Json → String
  | str s => s
  | v => v.nestedText

@[simp] theorem text_str (s : String) : (str s).text = s := rfl

/-- Removes entries equal to an earlier one; the first of equal entries stays. -/
def distinctFrom (seen : List Json) : List Json → List Json
  | [] => []
  | v :: vs =>
    if seen.any (sameEntry · v) then distinctFrom seen vs else v :: distinctFrom (v :: seen) vs

/-- The entries in order of first occurrence. -/
def distinct (vs : List Json) : List Json := distinctFrom [] vs

end Json

end MavenImport
