/-
# Number.Shortest -- the shortest decimal that reads back as a given double

The reals that round to a double form an interval around it, which contains its ends exactly
when the significand is even.  For one digit, two digits and so on, the two neighbours of the
double on the grid of decimals with that many digits are tried; the first grid with a
neighbour in the interval wins, and of two neighbours the nearer, a tie going to the even
digit (`shortestDigits`).  Seventeen digits always suffice.

How the digits are set out is a record (`Layout`), so that the notation is data.
-/
import MavenImport.Number.Double

namespace MavenImport.Double

set_option autoImplicit false

/-- The rational `num / den`, with `den` positive. -/
structure Ratio where
  num : Nat
  den : Nat

/-- `m * 2 ^ e` as a ratio. -/
def Ratio.ofBinary (m : Nat) (e : Int) : Ratio :=
  if 0 ≤ e then ⟨m * twoTo e.toNat, 1⟩ else ⟨m, twoTo (-e).toNat⟩

/-- `d * 10 ^ k` as a ratio. -/
def Ratio.ofDecimal (d : Nat) (k : Int) : Ratio :=
  if 0 ≤ k then ⟨d * tenTo k.toNat, 1⟩ else ⟨d, tenTo (-k).toNat⟩

def Ratio.lt (a b : Ratio) : Bool := a.num * b.den < b.num * a.den
def Ratio.le (a b : Ratio) : Bool := a.num * b.den ≤ b.num * a.den

/-- The interval of reals that round to `m * 2 ^ e`. -/
structure Rounding where
  low : Ratio
  high : Ratio
  closed : Bool

def Rounding.ofBinary (m : Nat) (e : Int) : Rounding where
  low :=
    if m = twoTo 52 ∧ minExponent < e then Ratio.ofBinary (4 * m - 1) (e - 2)
    else Ratio.ofBinary (2 * m - 1) (e - 1)
  high := Ratio.ofBinary (2 * m + 1) (e - 1)
  closed := m % 2 = 0

def Rounding.contains (i : Rounding) (r : Ratio) : Bool :=
  if i.closed then i.low.le r && r.le i.high else i.low.lt r && r.lt i.high

/-- The least `k` with `r < 10 ^ k`, found upwards from `start`. -/
def decimalExponent (r : Ratio) (start : Int) : Nat → Int
  | 0 => start
  | fuel + 1 =>
    if r.lt (Ratio.ofDecimal 1 start) then start else decimalExponent r (start + 1) fuel

/-- `r / 10 ^ k` rounded down. -/
def floorOnGrid (r : Ratio) (k : Int) : Nat :=
  if 0 ≤ k then r.num / (r.den * tenTo k.toNat) else r.num * tenTo (-k).toNat / r.den

/-- A neighbour of `m * 2 ^ e` on the grid of multiples of `10 ^ k` that rounds to it. -/
def neighbour? (m : Nat) (e k : Int) : Option Nat :=
  let value := Ratio.ofBinary m e
  let interval := Rounding.ofBinary m e
  let below := floorOnGrid value k
  let fits (d : Nat) := interval.contains (Ratio.ofDecimal d k)
  match fits below, fits (below + 1) with
  | true, false => some below
  | false, true => some (below + 1)
  | false, false => none
  | true, true =>
    let middle := Ratio.ofDecimal (10 * below + 5) (k - 1)
    if value.lt middle then some below
    else if middle.lt value then some (below + 1)
    else some (if below % 2 = 0 then below else below + 1)

/-- The fewest digits `d` and the power `k` such that `d * 10 ^ k` reads back as
`m * 2 ^ e`; `n` is the digit count tried first and `fuel` the number of counts left. -/
def shortestFrom (m : Nat) (e top : Int) (n : Nat) : Nat → Nat × Int
  | 0 => (floorOnGrid (Ratio.ofBinary m e) (top - n), top - n)
  | fuel + 1 => match neighbour? m e (top - n) with
    | some d => (d, top - n)
    | none => shortestFrom m e top (n + 1) fuel

/-- The decimal digits and the exponent of ten of the shortest decimal for a positive
`m * 2 ^ e`: its value is the digits after a leading point, times ten to the exponent. -/
def shortestDigits (m : Nat) (e : Int) : List Char × Int :=
  let start := (e + (Nat.log2 m : Int)) * 30103 / 100000 - 1
  let top := decimalExponent (Ratio.ofBinary m e) start 5
  let (d, k) := shortestFrom m e top 1 17
  let digits := Nat.toDigits 10 d
  let exponent := k + digits.length
  (((digits.reverse.dropWhile (· == '0')).reverse), exponent)

/-- How a decimal is set out. -/
structure Layout where
  /-- Decimal exponents `x` of the first digit with `lowest ≤ x < highest` are positional. -/
  lowest : Int
  highest : Int
  /-- The digits an exponent has at least. -/
  exponentDigits : Nat

/-- Numbers from `0.0001` up to `10 ^ 16` are positional and show a fraction; others have a
signed exponent of two digits or more. -/
def Layout.plain : Layout := ⟨-4, 16, 2⟩

def padZeros (n : Nat) (cs : List Char) : List Char := List.replicate (n - cs.length) '0' ++ cs

/-- Digits with a point after the first `exponent` of them. -/
def positional (digits : List Char) (exponent : Int) : List Char :=
  if exponent ≤ 0 then '0' :: '.' :: List.replicate (-exponent).toNat '0' ++ digits
  else
    let n := exponent.toNat
    if digits.length ≤ n then digits ++ List.replicate (n - digits.length) '0' ++ ['.', '0']
    else digits.take n ++ '.' :: digits.drop n

/-- Digits with a point after the first and an exponent. -/
def scientific (layout : Layout) (digits : List Char) (exponent : Int) : List Char :=
  let mantissa := match digits with
    | [] => []
    | [d] => [d]
    | d :: ds => d :: '.' :: ds
  let x := exponent - 1
  mantissa ++ ['e', if x < 0 then '-' else '+']
    ++ padZeros layout.exponentDigits (Nat.toDigits 10 x.natAbs)

def signed (negative : Bool) (cs : List Char) : String :=
  String.ofList (if negative then '-' :: cs else cs)

/-- The text of a double. -/
def text (layout : Layout) : Double → String
  | .nan => "nan"
  | .infinite negative => signed negative ['i', 'n', 'f']
  | .finite negative m e =>
    if m = 0 then signed negative ['0', '.', '0']
    else
      let (digits, exponent) := shortestDigits m e
      if layout.lowest ≤ exponent - 1 ∧ exponent - 1 < layout.highest then
        signed negative (positional digits exponent)
      else signed negative (scientific layout digits exponent)

end MavenImport.Double
