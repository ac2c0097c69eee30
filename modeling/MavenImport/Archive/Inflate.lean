/-
# Archive.Inflate -- compressed data to the bytes it stands for

Compressed data is a sequence of blocks over a stream of bits, low bits of a byte first.  A
block holds plain bytes, or symbols of a prefix code: a literal byte, or a length and a
distance that repeat earlier output.  A prefix code is given by the lengths of its words
alone (`Code.ofLengths?`).

Decoding always ends, with the bytes it got and how it ended (`Ending`): at the final block,
for want of bits, or at data that no block allows.  Each symbol takes a bit at least, so the
number of bits bounds the work.
-/
namespace MavenImport.Archive.Inflate

set_option autoImplicit false

inductive Ending
  | complete
  | truncated
  | invalid
deriving Repr, DecidableEq

/-- The bit at a position of a byte sequence. -/
def bit? (bytes : ByteArray) (pos : Nat) : Option Nat :=
  if h : pos / 8 < bytes.size then some ((bytes[pos / 8].toNat >>> (pos % 8)) % 2) else none

/-- A number of `n` bits, the lowest first. -/
def bits (bytes : ByteArray) (pos : Nat) : Nat → Except Ending Nat
  | 0 => .ok 0
  | n + 1 => match bits bytes pos n, bit? bytes (pos + n) with
    | .ok v, some b => .ok (v + b * 2 ^ n)
    | _, _ => .error .truncated

/-- A prefix code: how many words there are of each length from one upwards, and the symbols
in the order of their words. -/
structure Code where
  counts : List Nat
  symbols : Array Nat

/-- The number of words of a length. -/
def countLength (lengths : List Nat) (n : Nat) : Nat := lengths.countP (· == n)

/-- The words left over, in units of the longest, when lengths have been given out. -/
def wordsLeft (left : Int) : List Nat → Int
  | [] => left
  | c :: cs => if left * 2 - c < 0 then -1 else wordsLeft (left * 2 - c) cs

/-- The code whose word lengths are given by symbol, zero for an absent symbol.  A code may
leave words unused only if it has a single word, of one bit, and `lone` admits that. -/
def Code.ofLengths? (lone : Bool) (lengths : List Nat) : Option Code :=
  let longest := lengths.foldl max 0
  let counts := (List.range longest).map fun n => countLength lengths (n + 1)
  let left := wordsLeft 1 counts
  if longest = 0 then some ⟨[], #[]⟩
  else if left < 0 ∨ (0 < left ∧ ¬(lone ∧ longest = 1)) then none
  else
    let numbered := lengths.zip (List.range lengths.length)
    let ordered := (List.range longest).flatMap fun n =>
      (numbered.filter fun (l, _) => l == n + 1).map Prod.snd
    some ⟨counts, ordered.toArray⟩

/-- Reads a word bit by bit: `code` is the word so far, `first` the first word of its length
and `index` the position of that word's symbol. -/
def Code.readFrom (c : Code) (bytes : ByteArray) (pos code first index : Nat) :
    List Nat → Except Ending (Nat × Nat)
  | [] => .error .invalid
  | count :: counts => match bit? bytes pos with
    | none => .error .truncated
    | some b =>
      let code := code * 2 + b
      if code < first + count then
        match c.symbols[index + (code - first)]? with
        | some s => .ok (s, pos + 1)
        | none => .error .invalid
      else c.readFrom bytes (pos + 1) code ((first + count) * 2) (index + count) counts

/-- The symbol at a position and the position after its word. -/
def Code.read (c : Code) (bytes : ByteArray) (pos : Nat) : Except Ending (Nat × Nat) :=
  c.readFrom bytes pos 0 0 0 c.counts

/-- The least length and the number of further bits of each length symbol, from 257. -/
def lengthBases : Array (Nat × Nat) :=
  #[(3, 0), (4, 0), (5, 0), (6, 0), (7, 0), (8, 0), (9, 0), (10, 0), (11, 1), (13, 1), (15, 1),
    (17, 1), (19, 2), (23, 2), (27, 2), (31, 2), (35, 3), (43, 3), (51, 3), (59, 3), (67, 4),
    (83, 4), (99, 4), (115, 4), (131, 5), (163, 5), (195, 5), (227, 5), (258, 0)]

/-- The least distance and the number of further bits of each distance symbol. -/
def distanceBases : Array (Nat × Nat) :=
  #[(1, 0), (2, 0), (3, 0), (4, 0), (5, 1), (7, 1), (9, 2), (13, 2), (17, 3), (25, 3), (33, 4),
    (49, 4), (65, 5), (97, 5), (129, 6), (193, 6), (257, 7), (385, 7), (513, 8), (769, 8),
    (1025, 9), (1537, 9), (2049, 10), (3073, 10), (4097, 11), (6145, 11), (8193, 12),
    (12289, 12), (16385, 13), (24577, 13)]

/-- A base with its further bits. -/
def readBase (bases : Array (Nat × Nat)) (symbol : Nat) (bytes : ByteArray) (pos : Nat) :
    Except Ending (Nat × Nat) :=
  match bases[symbol]? with
  | none => .error .invalid
  | some (base, extra) => (bits bytes pos extra).map fun v => (base + v, pos + extra)

/-- Appends `n` bytes from `distance` bytes back, one after the other. -/
def repeatBytes (out : ByteArray) (distance : Nat) : Nat → ByteArray
  | 0 => out
  | n + 1 =>
    let i := out.size - distance
    if h : i < out.size then repeatBytes (out.push out[i]) distance n else out

/-- What is left of the data after a block, or how the data ended in it. -/
structure Progress where
  out : ByteArray
  next : Except Ending Nat

/-- The symbols of a block up to its end symbol. -/
def symbols (literals distances : Code) (bytes : ByteArray) (out : ByteArray) (pos : Nat) :
    Nat → Progress
  | 0 => ⟨out, .error .truncated⟩
  | fuel + 1 => match literals.read bytes pos with
    | .error e => ⟨out, .error e⟩
    | .ok (s, pos) =>
      if s < 256 then symbols literals distances bytes (out.push (UInt8.ofNat s)) pos fuel
      else if s = 256 then ⟨out, .ok pos⟩
      else
        let copy : Except Ending (Nat × Nat × Nat) := do
          let (length, pos) ← readBase lengthBases (s - 257) bytes pos
          let (d, pos) ← distances.read bytes pos
          let (distance, pos) ← readBase distanceBases d bytes pos
          if out.size < distance then throw .invalid
          return (length, distance, pos)
        match copy with
        | .error e => ⟨out, .error e⟩
        | .ok (length, distance, pos) =>
          symbols literals distances bytes (repeatBytes out distance length) pos fuel

/-- The order in which the lengths of the code for lengths are written. -/
def lengthOrder : List Nat := [16, 17, 18, 0, 8, 7, 9, 6, 10, 5, 11, 4, 12, 3, 13, 2, 14, 1, 15]

/-- The lengths of the code for lengths: `n` three-bit numbers in the order above. -/
def readLengthLengths (bytes : ByteArray) (pos : Nat) (n : Nat) : Except Ending (List Nat) := do
  let given ← (List.range n).mapM fun i => bits bytes (pos + 3 * i) 3
  let table := lengthOrder.zip given
  return (List.range 19).map fun s => ((table.find? (·.1 == s)).map (·.2)).getD 0

/-- Word lengths, of which `acc` are read, last first, up to a total. -/
def readLengths (c : Code) (bytes : ByteArray) (total : Nat) (acc : List Nat) (pos : Nat) :
    Nat → Except Ending (List Nat × Nat)
  | 0 => .error .invalid
  | fuel + 1 =>
    if total ≤ acc.length then
      if total < acc.length then .error .invalid else .ok (acc.reverse, pos)
    else match c.read bytes pos with
      | .error e => .error e
      | .ok (s, pos) =>
        if s < 16 then readLengths c bytes total (s :: acc) pos fuel
        else
          let (value?, base, extra) : Option Nat × Nat × Nat :=
            if s = 16 then (acc.head?, 3, 2)
            else if s = 17 then (some 0, 3, 3)
            else (some 0, 11, 7)
          match value?, bits bytes pos extra with
          | some v, .ok n =>
            readLengths c bytes total (List.replicate (base + n) v ++ acc) (pos + extra) fuel
          | none, .ok _ => .error .invalid
          | _, .error e => .error e

/-- The two codes that a block brings with it. -/
def readCodes (bytes : ByteArray) (pos : Nat) : Except Ending (Code × Code × Nat) := do
  let literalCount := 257 + (← bits bytes pos 5)
  let distanceCount := 1 + (← bits bytes (pos + 5) 5)
  let lengthCount := 4 + (← bits bytes (pos + 10) 4)
  if 286 < literalCount ∨ 30 < distanceCount then throw .invalid
  let lengths ← readLengthLengths bytes (pos + 14) lengthCount
  let some c := Code.ofLengths? false lengths | throw .invalid
  let total := literalCount + distanceCount
  let (all, pos) ← readLengths c bytes total [] (pos + 14 + 3 * lengthCount) (total + 1)
  let literalLengths := all.take literalCount
  if literalLengths[256]? = some 0 then throw .invalid
  let some literals := Code.ofLengths? true literalLengths | throw .invalid
  let some distances := Code.ofLengths? true (all.drop literalCount) | throw .invalid
  return (literals, distances, pos)

/-- The codes of a block that brings none. -/
def fixedCodes : Code × Code :=
  let lengths := List.replicate 144 8 ++ List.replicate 112 9 ++ List.replicate 24 7
    ++ List.replicate 8 8
  ((Code.ofLengths? false lengths).getD ⟨[], #[]⟩,
   (Code.ofLengths? false (List.replicate 32 5)).getD ⟨[], #[]⟩)

/-- A block of plain bytes: its length twice, the second time complemented, and the bytes. -/
def plain (bytes out : ByteArray) (pos : Nat) : Progress :=
  let start := (pos + 7) / 8
  match bits bytes (8 * start) 16, bits bytes (8 * start + 16) 16 with
  | .ok n, .ok m =>
    if n + m ≠ 0xFFFF then ⟨out, .error .invalid⟩
    else
      let data := bytes.extract (start + 4) (start + 4 + n)
      ⟨out ++ data, if data.size < n then .error .truncated else .ok (8 * (start + 4 + n))⟩
  | _, _ => ⟨out, .error .truncated⟩

/-- The blocks up to the final one. -/
def blocks (bytes out : ByteArray) (pos : Nat) : Nat → ByteArray × Ending
  | 0 => (out, .truncated)
  | fuel + 1 => match bits bytes pos 1, bits bytes (pos + 1) 2 with
    | .ok final, .ok kind =>
      let pos := pos + 3
      let p : Progress :=
        if kind = 0 then plain bytes out pos
        else if kind = 1 then
          symbols fixedCodes.1 fixedCodes.2 bytes out pos (8 * bytes.size + 1)
        else if kind = 2 then match readCodes bytes pos with
          | .error e => ⟨out, .error e⟩
          | .ok (literals, distances, pos) =>
            symbols literals distances bytes out pos (8 * bytes.size + 1)
        else ⟨out, .error .invalid⟩
      match p.next with
      | .error e => (p.out, e)
      | .ok pos => if final = 1 then (p.out, .complete) else blocks bytes p.out pos fuel
    | _, _ => (out, .truncated)

end Inflate

/-- The bytes that compressed data stands for, as far as they can be had, and how the data
ended. -/
def inflate (bytes : ByteArray) : ByteArray × Inflate.Ending :=
  Inflate.blocks bytes ByteArray.empty 0 (8 * bytes.size + 1)

end MavenImport.Archive
