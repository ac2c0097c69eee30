/-
# Digest.Hex -- bytes as hexadecimal text, and words as bytes

Both digests cut a padded message into blocks of sixteen big-endian words and give their
state as lower-case hexadecimal text, most significant digit first.
-/
import MavenImport.Text.Quoted

namespace MavenImport.Digest

set_option autoImplicit false

/-- Eight hexadecimal digits per word. -/
def hexText (words : List UInt32) : String :=
  String.ofList (words.flatMap fun w => Text.hexDigits 8 w.toNat)

/-- The `n` low bytes of a number, most significant first. -/
def bigEndian : (n value : Nat) → List UInt8
  | 0, _ => []
  | n + 1, value => bigEndian n (value / 256) ++ [UInt8.ofNat (value % 256)]

/-- A message with its padding: a one bit, zeros, and the length in bits as eight bytes, so
that the whole is a multiple of 64 bytes. -/
def padded (message : List UInt8) : List UInt8 :=
  let n := message.length
  message ++ 0x80 :: List.replicate ((119 - n % 64) % 64) 0 ++ bigEndian 8 (8 * n)

/-- Big-endian words of four bytes each; a shorter rest is left out. -/
def wordsOf : List UInt8 → List UInt32
  | a :: b :: c :: d :: rest =>
    (a.toUInt32 <<< 24 ||| b.toUInt32 <<< 16 ||| c.toUInt32 <<< 8 ||| d.toUInt32) :: wordsOf rest
  | _ => []

/-- Blocks of sixteen words; `fuel` bounds their number. -/
def blocksOf : Nat → List UInt32 → List (Array UInt32)
  | 0, _ => []
  | fuel + 1, words =>
    if words.isEmpty then [] else (words.take 16).toArray :: blocksOf fuel (words.drop 16)

def blocks (message : List UInt8) : List (Array UInt32) :=
  let words := wordsOf (padded message)
  blocksOf words.length words

/-- The word at a position, zero beyond the end. -/
def wordAt (words : Array UInt32) (i : Nat) : UInt32 := words[i]?.getD 0

def rotateLeft (w : UInt32) (n : UInt32) : UInt32 := w <<< n ||| w >>> (32 - n)
def rotateRight (w : UInt32) (n : UInt32) : UInt32 := w >>> n ||| w <<< (32 - n)

end MavenImport.Digest
