/-
# Archive.Zip -- archives of named, compressed members

An archive is read from its end: the end record tells where the directory is, and the
directory lists the members in order, each with its name, its sizes, its checksum and the
place of its data.  A comment or other bytes may follow the end record, and bytes may stand
before the first member; then all places shift by as much.

Opening an archive reads the directory only (`Zip.ofBytes`).  Reading a member checks its
local header against the directory, decompresses the data and checks the checksum
(`Zip.read`).  A name may be listed more than once; the last member of a name is meant.
-/
import MavenImport.Archive.Crc32
import MavenImport.Archive.Inflate
import MavenImport.Text.Utf8
import MavenImport.Text.Quoted

namespace MavenImport

set_option autoImplicit false

namespace Archive

/-- What is wrong with an archive or with one of its members. -/
inductive Fault
  | notAnArchive
  | severalDisks
  | directoryOffset
  | directoryTruncated
  | directoryMagic
  | extraField (tag size : Nat)
  | wideField (field : String)
  | headerTruncated
  | headerMagic
  | nameMismatch (name : String) (inHeader : List UInt8)
  | overlap (name : String)
  | checksum (name : String)
  | version (tenths : Nat)
  | patchedData
  | strongEncryption
  | method (number : Nat)
  | encrypted (name : String)
  | nameNotText
  | compressedData
  | position
deriving Repr, DecidableEq

/-- Faults of the archive itself, as against features that are not supported. -/
def Fault.isDamage : Fault → Bool
  | .version _ | .patchedData | .strongEncryption | .method _ | .encrypted _ | .nameNotText
  | .compressedData | .position => false
  | _ => true

def Fault.message : Fault → String
  | .notAnArchive => "File is not a zip file"
  | .severalDisks => "zipfiles that span multiple disks are not supported"
  | .directoryOffset => "Bad offset for central directory"
  | .directoryTruncated => "Truncated central directory"
  | .directoryMagic => "Bad magic number for central directory"
  | .extraField tag size =>
    "Corrupt extra field " ++ String.ofList (Text.hexDigits 4 tag) ++ " (size=" ++ toString size
      ++ ")"
  | .wideField field => "Corrupt zip64 extra field. " ++ field ++ " not found."
  | .headerTruncated => "Truncated file header"
  | .headerMagic => "Bad magic number for file header"
  | .nameMismatch name inHeader =>
    "File name in directory " ++ Text.quoted name ++ " and header b" ++ Text.quotedBytes inHeader
      ++ " differ."
  | .overlap name => "Overlapped entries: " ++ Text.quoted name ++ " (possible zip bomb)"
  | .checksum name => "Bad CRC-32 for file " ++ Text.quoted name
  | .version tenths =>
    "zip file version " ++ toString (tenths / 10) ++ "." ++ toString (tenths % 10)
  | .patchedData => "compressed patched data (flag bit 5)"
  | .strongEncryption => "strong encryption (flag bit 6)"
  | .method number => "compression type " ++ toString number
  | .encrypted name =>
    "File " ++ Text.quoted name ++ " is encrypted, password required for extraction"
  | .nameNotText => "name is not valid text"
  | .compressedData => "invalid compressed data"
  | .position => "[Errno 22] Invalid argument"

/-- The characters of the bytes from 128 on in names without the Unicode flag. -/
def oldCharacters : List Char :=
  (
   "ÇüéâäàåçêëèïîìÄÅÉæÆôöòûùÿÖÜ¢£¥₧ƒ" ++
   "áíóúñÑªº¿⌐¬½¼¡«»░▒▓│┤╡╢╖╕╣║╗╝╜╛┐" ++
   "└┴┬├─┼╞╟╚╔╩╦╠═╬╧╨╤╥╙╘╒╓╫╪┘┌█▄▌▐▀" ++
   "αßΓπΣσµτΦΘΩδ∞φε∩≡±≥≤⌠⌡÷≈°∙·√ⁿ²■\u00a0").toList

/-- A name written without the Unicode flag. -/
def oldName (bytes : List UInt8) : String :=
  String.ofList (bytes.map fun b =>
    if b < 128 then Char.ofNat b.toNat else (oldCharacters[b.toNat - 128]?).getD '?')

/-- The byte at a position, zero beyond the end. -/
def byteAt (bytes : ByteArray) (i : Nat) : Nat := if h : i < bytes.size then bytes[i].toNat else 0

/-- A little-endian number of `n` bytes. -/
def number (bytes : ByteArray) (i : Nat) : Nat → Nat
  | 0 => 0
  | n + 1 => byteAt bytes i + 256 * number bytes (i + 1) n

/-- One entry of the directory. -/
structure Member where
  /-- The name, which ends before the first NUL. -/
  name : String
  /-- The name as the directory spells it. -/
  spelled : String
  flags : Nat
  method : Nat
  crc : Nat
  compressedSize : Nat
  size : Nat
  /-- Where the local header starts. -/
  offset : Int
  /-- Where the data of the next member, or the directory, starts. -/
  limit : Int
deriving Repr, DecidableEq

structure Zip where
  bytes : ByteArray
  members : List Member

/-- The position of the last occurrence of the end signature between two positions. -/
def lastSignature? (bytes : ByteArray) (first : Nat) : Nat → Option Nat
  | 0 => none
  | n + 1 =>
    if number bytes (first + n) 4 = 0x06054b50 ∧ first + n + 4 ≤ bytes.size then some (first + n)
    else lastSignature? bytes first n

def endRecordSize : Nat := 22
def wideLocatorSize : Nat := 20
def wideRecordSize : Nat := 56

/-- Where the directory is. -/
structure EndRecord where
  position : Nat
  directorySize : Nat
  directoryOffset : Nat
  wide : Bool

/-- The position of the end record: at the very end, or the last one before a comment. -/
def endPosition? (bytes : ByteArray) : Option Nat :=
  let n := bytes.size
  if n < endRecordSize then none
  else
    let last := n - endRecordSize
    if number bytes last 4 = 0x06054b50 ∧ number bytes (n - 2) 2 = 0 then some last
    else
      let first := n - (65536 + endRecordSize)
      match lastSignature? bytes first (n - first) with
      | some p => if p + endRecordSize ≤ n then some p else none
      | none => none

/-- The end record, with the wide record before it if there is one. -/
def endRecord (bytes : ByteArray) : Except Fault EndRecord :=
  match endPosition? bytes with
  | none => .error .notAnArchive
  | some p =>
    let record : EndRecord := ⟨p, number bytes (p + 12) 4, number bytes (p + 16) 4, false⟩
    if p < wideLocatorSize then .ok record
    else
      let locator := p - wideLocatorSize
      if number bytes locator 4 ≠ 0x07064b50 then .ok record
      else if number bytes (locator + 4) 4 ≠ 0 ∨ 1 < number bytes (locator + 16) 4 then
        .error .severalDisks
      else if locator < wideRecordSize then .error .notAnArchive
      else
        let wide := locator - wideRecordSize
        if number bytes wide 4 ≠ 0x06064b50 then .ok record
        else .ok ⟨p, number bytes (wide + 40) 8, number bytes (wide + 48) 8, true⟩

/-- The sizes and the offset of a member, which wide fields of the extra data replace. -/
structure Extent where
  size : Nat
  compressedSize : Nat
  offset : Nat

/-- Takes one wide number for a field that needs it. -/
def takeWide (field : String) (needed : Bool) (old : Nat) (data : ByteArray) :
    Except Fault (Nat × ByteArray) :=
  if !needed then .ok (old, data)
  else if data.size < 8 then .error (.wideField field)
  else .ok (number data 0 8, data.extract 8 data.size)

/-- Reads the extra data of a directory entry; `fuel` bounds the number of its fields. -/
def readExtra (e : Extent) (extra : ByteArray) : Nat → Except Fault Extent
  | 0 => .ok e
  | fuel + 1 =>
    if extra.size < 4 then .ok e
    else
      let tag := number extra 0 2
      let n := number extra 2 2
      if extra.size < n + 4 then .error (.extraField tag n)
      else
        let rest := extra.extract (n + 4) extra.size
        if tag ≠ 1 then readExtra e rest fuel
        else do
          let data := extra.extract 4 (n + 4)
          let wide := 0xFFFFFFFF
          let (size, data) ← takeWide "File size"
            (e.size = 0xFFFFFFFFFFFFFFFF ∨ e.size = wide) e.size data
          let (compressedSize, data) ← takeWide "Compress size"
            (e.compressedSize = wide) e.compressedSize data
          let (offset, _) ← takeWide "Header offset" (e.offset = wide) e.offset data
          readExtra ⟨size, compressedSize, offset⟩ rest fuel

/-- A name in the spelling that the flags tell. -/
def readName (flags : Nat) (bytes : ByteArray) : Except Fault String :=
  if flags.testBit 11 then match Text.Utf8.decode bytes with
    | .ok s => .ok s
    | .error _ => .error .nameNotText
  else .ok (oldName bytes.toList)

def directoryEntrySize : Nat := 46
def localHeaderSize : Nat := 30
def newestVersion : Nat := 63

/-- The directory entries from position `i` up to a total of `directory.size` bytes. -/
def readDirectory (directory : ByteArray) (shift : Int) (size : Nat) (i : Nat) :
    Nat → Except Fault (List Member)
  | 0 => .ok []
  | fuel + 1 =>
    if size ≤ i then .ok []
    else if directory.size < i + directoryEntrySize then .error .directoryTruncated
    else if number directory i 4 ≠ 0x02014b50 then .error .directoryMagic
    else do
      let flags := number directory (i + 8) 2
      let nameSize := number directory (i + 28) 2
      let extraSize := number directory (i + 30) 2
      let commentSize := number directory (i + 32) 2
      let start := i + directoryEntrySize
      let spelled ← readName flags (directory.extract start (start + nameSize))
      if newestVersion < number directory (i + 6) 1 then
        throw (.version (number directory (i + 6) 1))
      let extra := directory.extract (start + nameSize) (start + nameSize + extraSize)
      let extent ← readExtra
        ⟨number directory (i + 24) 4, number directory (i + 20) 4, number directory (i + 42) 4⟩
        extra extra.size
      let member : Member :=
        { name := String.ofList (spelled.toList.takeWhile (· ≠ Char.ofNat 0))
          spelled := spelled
          flags := flags
          method := number directory (i + 10) 2
          crc := number directory (i + 16) 4
          compressedSize := extent.compressedSize
          size := extent.size
          offset := extent.offset + shift
          limit := 0 }
      let next := start + nameSize + extraSize + commentSize
      let rest ← readDirectory directory shift size next fuel
      return member :: rest

/-- The start of the next member in the file, for the members in order of falling offset. -/
def limitsFrom (limit : Int) : List (Nat × Member) → List (Nat × Int)
  | [] => []
  | (i, m) :: rest => (i, limit) :: limitsFrom m.offset rest

/-- Notes for each member where its data must end. -/
def withLimits (directoryStart : Int) (members : List Member) : List Member :=
  let numbered := (List.range members.length).zip members
  let ordered := numbered.mergeSort fun a b => b.2.offset ≤ a.2.offset
  let limits := limitsFrom directoryStart ordered
  numbered.map fun (i, m) =>
    { m with limit := ((limits.find? (·.1 == i)).map (·.2)).getD directoryStart }

/-- Opens an archive. -/
def Zip.ofBytes (bytes : ByteArray) : Except Fault Zip := do
  let record ← endRecord bytes
  let shift : Int := (record.position : Int) - record.directorySize - record.directoryOffset
    - (if record.wide then wideRecordSize + wideLocatorSize else 0)
  let start : Int := record.directoryOffset + shift
  if start < 0 then throw .directoryOffset
  let directory := bytes.extract start.toNat (start.toNat + record.directorySize)
  let members ← readDirectory directory shift record.directorySize 0 (directory.size + 1)
  return ⟨bytes, withLimits start members⟩

/-- The names of the members, in directory order. -/
def Zip.names (z : Zip) : List String := z.members.map Member.name

/-- The member that a name means. -/
def Zip.find? (z : Zip) (name : String) : Option Member :=
  z.members.reverse.find? (·.name = name)

/-- Checks the local header of a member and gives the position of its data. -/
def Zip.dataStart (z : Zip) (m : Member) : Except Fault Nat := do
  if m.offset < 0 then throw .position
  let h := m.offset.toNat
  if z.bytes.size < h + localHeaderSize then throw .headerTruncated
  if number z.bytes h 4 ≠ 0x04034b50 then throw .headerMagic
  let nameSize := number z.bytes (h + 26) 2
  let extraSize := number z.bytes (h + 28) 2
  let nameStart := h + localHeaderSize
  if m.flags.testBit 5 then throw .patchedData
  if m.flags.testBit 6 then throw .strongEncryption
  let name := z.bytes.extract nameStart (nameStart + nameSize)
  let spelled ← readName (number z.bytes (h + 6) 2) name
  if spelled ≠ m.spelled then throw (.nameMismatch m.spelled name.toList)
  let start := min z.bytes.size (nameStart + nameSize + extraSize)
  if m.limit < start + m.compressedSize then throw (.overlap m.spelled)
  if m.flags.testBit 0 then throw (.encrypted m.name)
  if m.method ≠ 0 ∧ m.method ≠ 8 then throw (.method m.method)
  return start

/-- The decompressed data of a member, at most as much as the directory promises, or what was
had of it when the data turned out not to be valid. -/
def Zip.contents (z : Zip) (m : Member) (start : Nat) : ByteArray × Option Fault :=
  let data := z.bytes.extract start (start + m.compressedSize)
  let (out, ending) :=
    if m.method = 8 then inflate data else (data, Inflate.Ending.complete)
  if ending = .invalid then (out, some .compressedData)
  else
    let out := out.extract 0 m.size
    if (crc32 out).toNat = m.crc then (out, none) else (out, some (.checksum m.name))

/-- The content of a member. -/
def Zip.read (z : Zip) (m : Member) : Except Fault ByteArray := do
  let start ← z.dataStart m
  match z.contents m start with
  | (out, none) => return out
  | (_, some fault) => throw fault

end Archive

end MavenImport
