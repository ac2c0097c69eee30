/-
# Text.Digit -- decimal digits of every script, and what else counts as a digit

A character can be *written* as a digit (`isDigit`: decimal digits of every script, and
superscript, circled and similar digits) without having a decimal *value* (`decimalValue?`:
the ten digits of each script only).  The two classes differ on purpose: a version such as
`1.²` has a token that looks numeric and is no number.

A run of decimal digits reads in base ten (`natOfDigits?`), whatever scripts it mixes.
-/
import MavenImport.Text.Range

namespace MavenImport.Text

set_option autoImplicit false

/-- Each script's digits are ten consecutive characters; these are the zeros. -/
def decimalZeros : List Nat :=
  [48, 1632, 1776, 1984, 2406, 2534, 2662, 2790, 2918, 3046,
   3174, 3302, 3430, 3558, 3664, 3792, 3872, 4160, 4240, 6112,
   6160, 6470, 6608, 6784, 6800, 6992, 7088, 7232, 7248, 42528,
   43216, 43264, 43472, 43504, 43600, 44016, 65296, 66720, 68912, 69734,
   69872, 69942, 70096, 70384, 70736, 70864, 71248, 71360, 71472, 71904,
   72016, 72784, 73040, 73120, 92768, 92864, 93008, 120782, 120792, 120802,
   120812, 120822, 123200, 123632, 125264, 130032]

/-- Digits without a decimal value: superscripts, subscripts, circled and enclosed digits. -/
def otherDigits : List (Nat × Nat) :=
  [(178, 179), (185, 185), (4969, 4977), (6618, 6618), (8304, 8304), (8308, 8313), (8320, 8329),
   (9312, 9320), (9332, 9340), (9352, 9360), (9450, 9450), (9461, 9469), (9471, 9471), (10102, 10110),
   (10112, 10120), (10122, 10130), (68160, 68163), (69216, 69224), (69714, 69722), (127232, 127242)]

/-- The value of a decimal digit of any script. -/
def decimalValue? (c : Char) : Option Nat :=
  (decimalZeros.find? fun z => z ≤ c.toNat && c.toNat < z + 10).map (c.toNat - ·)

/-- A decimal digit, or another character that stands for a single digit. -/
def isDigit (c : Char) : Bool :=
  (decimalValue? c).isSome || inRanges otherDigits c.toNat

/-- The number of digits a decimal numeral may have. -/
def maxNumeralDigits : Nat := 4300

/-- Reads decimal digits of any script, most significant first, from the value `acc`. -/
def natOfDigits? (acc : Nat) : List Char → Option Nat
  | [] => some acc
  | c :: cs => match decimalValue? c with
    | some d => natOfDigits? (10 * acc + d) cs
    | none => none

/-- A numeral: at least one decimal digit and at most `maxNumeralDigits` of them. -/
def numeral? (cs : List Char) : Option Nat :=
  if cs.isEmpty || maxNumeralDigits < cs.length then none else natOfDigits? 0 cs

end MavenImport.Text
