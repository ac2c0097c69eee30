/-
# Maven.Version -- the order of versions

A version is a sequence of tokens between points, dashes and underscores.  A token of digits
counts as a number, whatever script its digits are of, and every other token as a word in
lower case.  Words come before numbers, and a version that begins another comes before it.

A token may consist of digits that stand for no number, or of more digits than a numeral may
have.  Such a version has no place in the order (`Version.key?`).
-/
import MavenImport.Text.Cut
import MavenImport.Text.Digit
import MavenImport.Text.Lowercase

namespace MavenImport.Version

set_option autoImplicit false

inductive Token
  | word (s : String)
  | number (n : Nat)
deriving Repr, DecidableEq

/-- Why a set of versions has no highest one. -/
inductive Fault
  | noNumber
  | noVersion
deriving Repr, DecidableEq

def isSeparator (c : Char) : Bool := c = '.' || c = '-' || c = '_'

/-- The texts between separators that are not empty. -/
def tokenTexts (version : String) : List (List Char) :=
  (Text.pieces isSeparator version.toList).filter fun t => !t.isEmpty

def token? (cs : List Char) : Option Token :=
  if cs.all Text.isDigit then (Text.numeral? cs).map Token.number
  else some (.word (Text.lower (String.ofList cs)))

/-- The tokens of a version, by which it is ordered. -/
def key? (version : String) : Option (List Token) := (tokenTexts version).mapM token?

/-- The order of two tokens. -/
def Token.cmp : Token → Token → Ordering
  | .word s, .word t => compare s t
  | .word _, .number _ => .lt
  | .number _, .word _ => .gt
  | .number m, .number n => compare m n

/-- The order of two sequences: that of the first tokens that differ. -/
def compareKeys : List Token → List Token → Ordering
  | [], [] => .eq
  | [], _ :: _ => .lt
  | _ :: _, [] => .gt
  | a :: as, b :: bs => (a.cmp b).then (compareKeys as bs)

/-- The versions with their keys, if each has one. -/
def keyed? (versions : List String) : Option (List (String × List Token)) :=
  versions.mapM fun v => (key? v).map (v, ·)

/-- The first of the greatest entries, starting from a given one. -/
def greatest : String × List Token → List (String × List Token) → String × List Token
  | best, [] => best
  | best, e :: es => greatest (if compareKeys e.2 best.2 = .gt then e else best) es

/-- The highest of several versions. -/
def highest (versions : List String) : Except Fault String := match keyed? versions with
  | none => .error .noNumber
  | some [] => .error .noVersion
  | some (e :: es) => .ok (greatest e es).1

/-- Versions in ascending order; equal ones keep their order. -/
def sorted? (versions : List String) : Option (List String) :=
  (keyed? versions).map fun keyed =>
    (keyed.mergeSort fun a b => compareKeys a.2 b.2 ≠ .gt).map Prod.fst

end MavenImport.Version
