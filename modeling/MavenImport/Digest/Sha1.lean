/-
# Digest.Sha1 -- the SHA-1 digest of a byte sequence
-/
import MavenImport.Digest.Hex

namespace MavenImport.Digest.Sha1

set_option autoImplicit false

structure State where
  a : UInt32
  b : UInt32
  c : UInt32
  d : UInt32
  e : UInt32

def initial : State := ⟨0x67452301, 0xEFCDAB89, 0x98BADCFE, 0x10325476, 0xC3D2E1F0⟩

/-- The schedule of eighty words that a block is stretched to. -/
def schedule (block : Array UInt32) : Array UInt32 :=
  (List.range 64).foldl
    (fun w i => w.push (rotateLeft
      (wordAt w (i + 13) ^^^ wordAt w (i + 8) ^^^ wordAt w (i + 2) ^^^ wordAt w i) 1))
    block

/-- The function and the constant of a round. -/
def mix (i : Nat) (s : State) : UInt32 × UInt32 :=
  if i < 20 then ((s.b &&& s.c) ||| (~~~s.b &&& s.d), 0x5A827999)
  else if i < 40 then (s.b ^^^ s.c ^^^ s.d, 0x6ED9EBA1)
  else if i < 60 then ((s.b &&& s.c) ||| (s.b &&& s.d) ||| (s.c &&& s.d), 0x8F1BBCDC)
  else (s.b ^^^ s.c ^^^ s.d, 0xCA62C1D6)

def round (w : Array UInt32) (s : State) (i : Nat) : State :=
  let (f, k) := mix i s
  ⟨rotateLeft s.a 5 + f + s.e + k + wordAt w i, s.a, rotateLeft s.b 30, s.c, s.d⟩

def compress (s : State) (block : Array UInt32) : State :=
  let t := (List.range 80).foldl (round (schedule block)) s
  ⟨s.a + t.a, s.b + t.b, s.c + t.c, s.d + t.d, s.e + t.e⟩

end Sha1

/-- The SHA-1 digest of a byte sequence, as forty lower-case hexadecimal digits. -/
def sha1 (bytes : ByteArray) : String :=
  let s := (blocks bytes.toList).foldl Sha1.compress Sha1.initial
  hexText [s.a, s.b, s.c, s.d, s.e]

end MavenImport.Digest
