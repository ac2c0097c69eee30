/-
# Number.Double -- double-precision numbers and their decimal reading

A finite double is `significand * 2 ^ exponent` with a sign.  The exponent is at least
`minExponent`, and the significand is below `2 ^ 53` and as large as these bounds admit, so
that a value has one form.  `Double.ofDecimal` reads `digits * 10 ^ scale` exactly and rounds
it once, to the nearest double, a half going to the even significand.
-/
namespace MavenImport

set_option autoImplicit false

inductive Double
  | finite (negative : Bool) (significand : Nat) (exponent : Int)
  | infinite (negative : Bool)
  | nan
deriving Repr, DecidableEq

namespace Double

/-- A power of two. -/
def twoTo (n : Nat) : Nat := Nat.pow 2 n

/-- A power of ten. -/
def tenTo (n : Nat) : Nat := Nat.pow 10 n

def minExponent : Int := -1074
def maxExponent : Int := 971

def zero (negative : Bool) : Double := .finite negative 0 minExponent

/-- The quotient rounded to the nearest natural number, a half to the even one. -/
def roundHalfEven (num den : Nat) : Nat :=
  let q := num / den
  let r := 2 * (num % den)
  if den < r ∨ (r = den ∧ q % 2 = 1) then q + 1 else q

/-- The nonnegative fraction `num / den / 2 ^ q` with natural numerator and denominator. -/
def scaleDown (num den : Nat) (q : Int) : Nat × Nat :=
  if 0 ≤ q then (num, den * twoTo q.toNat) else (num * twoTo (-q).toNat, den)

/-- The double nearest to a positive fraction. -/
def ofFraction (negative : Bool) (num den : Nat) : Double :=
  let guess := max ((num.log2 : Int) - den.log2 - 53) minExponent
  let (n, d) := scaleDown num den guess
  let exponent := if twoTo 53 ≤ n / d then guess + 1 else guess
  let (n, d) := scaleDown num den exponent
  let m := roundHalfEven n d
  let (m, exponent) := if m = twoTo 53 then (twoTo 52, exponent + 1) else (m, exponent)
  if maxExponent < exponent then .infinite negative else .finite negative m exponent

/-- The number of decimal digits of a natural number. -/
def digitCount (n : Nat) : Nat := (Nat.toDigits 10 n).length

/-- The double nearest to `digits * 10 ^ scale`; beyond the range it is infinite. -/
def ofDecimal (negative : Bool) (digits : Nat) (scale : Int) : Double :=
  if digits = 0 then zero negative
  else
    let magnitude := scale + digitCount digits
    if 310 < magnitude then .infinite negative
    else if magnitude < -330 then zero negative
    else if 0 ≤ scale then ofFraction negative (digits * tenTo scale.toNat) 1
    else ofFraction negative digits (tenTo (-scale).toNat)

def isZero : Double → Bool
  | .finite _ m _ => m == 0
  | _ => false

/-- Equality of values: both zeros are equal and a NaN equals nothing. -/
def sameValue : Double → Double → Bool
  | .nan, _ => false
  | _, .nan => false
  | a, b => (a.isZero && b.isZero) || a == b

/-- The integer that a double is, if it is one. -/
def toInt? : Double → Option Int
  | .finite negative m e =>
    let sign : Int := if negative then -1 else 1
    if 0 ≤ e then some (sign * (m * twoTo e.toNat : Nat))
    else if m % twoTo (-e).toNat = 0 then some (sign * (m / twoTo (-e).toNat : Nat))
    else none
  | _ => none

end Double

end MavenImport
