/-
# Json.Reader -- JSON text to values

The reader takes the JSON grammar with three further number words (`NaN`, `Infinity`,
`-Infinity`).  White space is the four characters of the grammar, a control character inside
a string is refused, and nothing may follow the value.  A repeated key keeps its first place
and takes its last value.  Numbers without fraction and exponent are whole; a whole number
beyond the numeral limit is refused like any other malformed text.
-/
import MavenImport.Json.Basic
import MavenImport.Table
import MavenImport.Text.Digit

namespace MavenImport.Json

set_option autoImplicit false

def isSpace (c : Char) : Bool := c = ' ' || c = '\t' || c = '\n' || c = '\r'

def skipSpace (cs : List Char) : List Char := cs.dropWhile isSpace

def isAsciiDigit (c : Char) : Bool := '0' ≤ c && c ≤ '9'

/-- The value of a hexadecimal digit. -/
def hexValue? (c : Char) : Option Nat :=
  if isAsciiDigit c then some (c.toNat - 48)
  else if 'a' ≤ c ∧ c ≤ 'f' then some (c.toNat - 87)
  else if 'A' ≤ c ∧ c ≤ 'F' then some (c.toNat - 55)
  else none

/-- Four hexadecimal digits and what follows them. -/
def readUnit? : List Char → Option (Nat × List Char)
  | a :: b :: c :: d :: rest => do
    let a ← hexValue? a
    let b ← hexValue? b
    let c ← hexValue? c
    let d ← hexValue? d
    return (((a * 16 + b) * 16 + c) * 16 + d, rest)
  | _ => none

/-- The character of a UTF-16 unit and what follows its escape: a high unit joins the low unit
of an escape right after it, and a unit without its partner reads as the replacement
character. -/
def joinUnits (unit : Nat) (rest : List Char) : Char × List Char :=
  if 0xD800 ≤ unit ∧ unit < 0xDC00 then
    match rest with
    | '\\' :: 'u' :: more => match readUnit? more with
      | some (low, after) =>
        if 0xDC00 ≤ low ∧ low < 0xE000 then
          (Char.ofNat (0x10000 + (unit - 0xD800) * 0x400 + (low - 0xDC00)), after)
        else (Char.ofNat 0xFFFD, rest)
      | none => (Char.ofNat 0xFFFD, rest)
    | _ => (Char.ofNat 0xFFFD, rest)
  else if 0xDC00 ≤ unit ∧ unit < 0xE000 then (Char.ofNat 0xFFFD, rest)
  else (Char.ofNat unit, rest)

/-- The character that a one-letter escape stands for. -/
def simpleEscape? : Char → Option Char
  | '"' => some '"'
  | '\\' => some '\\'
  | '/' => some '/'
  | 'b' => some (Char.ofNat 8)
  | 'f' => some (Char.ofNat 12)
  | 'n' => some '\n'
  | 'r' => some '\r'
  | 't' => some '\t'
  | _ => none

/-- Reads a string after its opening quote; `acc` holds the characters read, last first. -/
def readString (acc : List Char) : Nat → List Char → Option (String × List Char)
  | 0, _ => none
  | _ + 1, [] => none
  | fuel + 1, c :: cs =>
    if c = '"' then some (String.ofList acc.reverse, cs)
    else if c = '\\' then match cs with
      | 'u' :: more => match readUnit? more with
        | some (unit, rest) =>
          let (d, rest) := joinUnits unit rest
          readString (d :: acc) fuel rest
        | none => none
      | e :: more => match simpleEscape? e with
        | some d => readString (d :: acc) fuel more
        | none => none
      | [] => none
    else if c.toNat < 0x20 then none
    else readString (c :: acc) fuel cs

/-- The digits at the front and what follows them. -/
def spanDigits (cs : List Char) : List Char × List Char :=
  (cs.takeWhile isAsciiDigit, cs.dropWhile isAsciiDigit)

def natOfDigits (cs : List Char) : Nat := cs.foldl (fun n c => 10 * n + (c.toNat - 48)) 0

/-- The whole part of a number: zero alone, or digits that do not start with zero. -/
def readWhole? : List Char → Option (List Char × List Char)
  | '0' :: rest => some (['0'], rest)
  | cs => match spanDigits cs with
    | ([], _) => none
    | split => some split

/-- A point with at least one digit after it. -/
def readFraction : List Char → List Char × List Char
  | '.' :: cs => match spanDigits cs with
    | ([], _) => ([], '.' :: cs)
    | split => split
  | cs => ([], cs)

/-- An exponent: the letter, perhaps a sign, and at least one digit. -/
def readExponent? : List Char → Option (Int × List Char)
  | e :: cs =>
    if e = 'e' ∨ e = 'E' then
      let (negative, cs) := match cs with
        | '-' :: r => (true, r)
        | '+' :: r => (false, r)
        | r => (false, r)
      match spanDigits cs with
      | ([], _) => none
      | (ds, rest) => some (if negative then -(natOfDigits ds : Int) else natOfDigits ds, rest)
    else none
  | [] => none

/-- A number and what follows it. -/
def readNumber? (cs : List Char) : Option (Json × List Char) := do
  let (negative, cs) := match cs with
    | '-' :: r => (true, r)
    | r => (false, r)
  let (whole, rest) ← readWhole? cs
  let (fraction, rest) := readFraction rest
  match fraction, readExponent? rest with
  | [], none =>
    if Text.maxNumeralDigits < whole.length then none
    else
      let n : Int := natOfDigits whole
      return (int (if negative then -n else n), rest)
  | _, exponent =>
    let (x, rest) := exponent.getD (0, rest)
    return (real (Double.ofDecimal negative (natOfDigits (whole ++ fraction))
      (x - fraction.length)), rest)

/-- The words that are values. -/
def readWord? (cs : List Char) : Option (Json × List Char) :=
  let words : List (String × Json) :=
    [("null", null), ("true", bool true), ("false", bool false), ("NaN", real .nan),
     ("Infinity", real (.infinite false)), ("-Infinity", real (.infinite true))]
  words.findSome? fun (w, v) => (Text.afterStart? w.toList cs).map (v, ·)

mutual

/-- A value that starts at the first character.  The fuel bounds the values still to be
read. -/
def readValue : Nat → List Char → Option (Json × List Char)
  | 0, _ => none
  | fuel + 1, cs => match cs with
    | '"' :: rest => (readString [] (rest.length + 1) rest).map fun (s, r) => (str s, r)
    | '[' :: rest => match skipSpace rest with
      | ']' :: r => some (arr [], r)
      | r => (readItems fuel [] r).map fun (items, r) => (arr items, r)
    | '\x7b' :: rest => match skipSpace rest with
      | '\x7d' :: r => some (obj [], r)
      | r => (readFields fuel ⟨[]⟩ r).map fun (fields, r) => (obj fields.entries, r)
    | _ => (readWord? cs).orElse fun _ => readNumber? cs

/-- The rest of a list, from the start of an item. -/
def readItems : Nat → List Json → List Char → Option (List Json × List Char)
  | 0, _, _ => none
  | fuel + 1, acc, cs => match readValue fuel cs with
    | none => none
    | some (v, r) => match skipSpace r with
      | ',' :: r => readItems fuel (v :: acc) (skipSpace r)
      | ']' :: r => some ((v :: acc).reverse, r)
      | _ => none

/-- The rest of an object, from the start of a key. -/
def readFields : Nat → Table String Json → List Char → Option (Table String Json × List Char)
  | 0, _, _ => none
  | fuel + 1, acc, cs => match cs with
    | '"' :: rest => match readString [] (rest.length + 1) rest with
      | none => none
      | some (k, r) => match skipSpace r with
        | ':' :: r => match readValue fuel (skipSpace r) with
          | none => none
          | some (v, r) => match skipSpace r with
            | ',' :: r => readFields fuel (acc.put k v) (skipSpace r)
            | '\x7d' :: r => some (acc.put k v, r)
            | _ => none
        | _ => none
    | _ => none

end

/-- Reads a whole text as one value. -/
def read? (s : String) : Option Json :=
  let cs := s.toList
  match readValue (cs.length + 1) (skipSpace cs) with
  | some (v, r) => if (skipSpace r).isEmpty then some v else none
  | none => none

end MavenImport.Json
