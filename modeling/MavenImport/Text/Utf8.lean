/-
# Text.Utf8 -- reading UTF-8, strictly or with replacements

`readChar` reads one character from the front of a byte list, or finds the longest beginning
that could still have become one (`Malformed`).  Strict reading stops at the first such
beginning (`decode`); lenient reading puts one replacement character in its place
(`decodeLenient`).
-/
namespace MavenImport.Text.Utf8

set_option autoImplicit false

inductive Reason
  | invalidStart
  | invalidContinuation
  | endOfData
deriving Repr, DecidableEq

/-- Bytes that form no character: how many, and why. -/
structure Malformed where
  length : Nat
  reason : Reason
deriving Repr, DecidableEq

/-- How many bytes follow a first byte, with the bounds of the next one and the bits that the
first byte contributes. -/
def shape? (b : UInt8) : Option (Nat × UInt8 × UInt8 × Nat) :=
  if b < 0x80 then some (0, 0, 0, b.toNat)
  else if 0xC2 ≤ b ∧ b ≤ 0xDF then some (1, 0x80, 0xBF, b.toNat - 0xC0)
  else if b = 0xE0 then some (2, 0xA0, 0xBF, 0)
  else if b = 0xED then some (2, 0x80, 0x9F, 0xD)
  else if 0xE1 ≤ b ∧ b ≤ 0xEF then some (2, 0x80, 0xBF, b.toNat - 0xE0)
  else if b = 0xF0 then some (3, 0x90, 0xBF, 0)
  else if 0xF1 ≤ b ∧ b ≤ 0xF3 then some (3, 0x80, 0xBF, b.toNat - 0xF0)
  else if b = 0xF4 then some (3, 0x80, 0x8F, 4)
  else none

/-- Reads `n` further bytes of a character, the next one between `lo` and `hi`; `taken` bytes
are read and `acc` holds their bits. -/
def readTail (taken acc : Nat) : Nat → UInt8 → UInt8 → List UInt8 → Except Malformed Char
  | 0, _, _, _ => .ok (Char.ofNat acc)
  | _ + 1, _, _, [] => .error ⟨taken, .endOfData⟩
  | n + 1, lo, hi, b :: bs =>
    if lo ≤ b ∧ b ≤ hi then readTail (taken + 1) (acc * 64 + (b.toNat - 0x80)) n 0x80 0xBF bs
    else .error ⟨taken, .invalidContinuation⟩

/-- The character at the front, with its length in bytes. -/
def readChar (b : UInt8) (bs : List UInt8) : Except Malformed (Char × Nat) :=
  match shape? b with
  | none => .error ⟨1, .invalidStart⟩
  | some (n, lo, hi, bits) => (readTail 1 bits n lo hi bs).map (·, n + 1)

/-- Strict reading: where and why the bytes are no text, or the text.  `position` counts the
bytes read, and `skip` those of the current character that are still to be passed over. -/
def decodeFrom (position skip : Nat) (acc : List Char) :
    List UInt8 → Except (Nat × Malformed) (List Char)
  | [] => .ok acc.reverse
  | b :: bs => match skip with
    | n + 1 => decodeFrom (position + 1) n acc bs
    | 0 => match readChar b bs with
      | .ok (c, length) => decodeFrom (position + 1) (length - 1) (c :: acc) bs
      | .error m => .error (position, m)

def decode (bytes : ByteArray) : Except (Nat × Malformed) String :=
  (decodeFrom 0 0 [] bytes.toList).map String.ofList

/-- Lenient reading: malformed bytes give replacement characters. -/
def decodeLenientFrom (skip : Nat) (acc : List Char) : List UInt8 → List Char
  | [] => acc.reverse
  | b :: bs => match skip with
    | n + 1 => decodeLenientFrom n acc bs
    | 0 => match readChar b bs with
      | .ok (c, length) => decodeLenientFrom (length - 1) (c :: acc) bs
      | .error m => decodeLenientFrom (m.length - 1) (Char.ofNat 0xFFFD :: acc) bs

def decodeLenient (bytes : ByteArray) : String :=
  String.ofList (decodeLenientFrom 0 [] bytes.toList)

end MavenImport.Text.Utf8
