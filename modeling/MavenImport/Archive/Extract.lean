/-
# Archive.Extract -- archives to directories

Before anything is written, every member's name is followed from the destination, and an
archive with a member that leads elsewhere is refused as a whole.  Members are then written in
order.  A member that is unsafe by itself -- by its name, its size or its rate of compression
-- ends the extraction, and so does one that cannot be written or read; what was written
before stays.
-/
import MavenImport.Action

namespace MavenImport.Archive

set_option autoImplicit false

open MavenImport.Action (inspect change ofExcept fail)

/-- The members of an archive that are extracted at most. -/
def maxMembers : Nat := 500

/-- The bytes that a member may have, and all members together. -/
def maxMemberSize : Nat := 1024 * 1024 * 1024
def maxTotalSize : Nat := 10 * maxMemberSize

/-- How many times its compressed size a member may be. -/
def maxRate : Nat := 150

/-- The bytes that a member without compressed data may claim to have. -/
def maxEmptyClaim : Nat := 10 * 1024 * 1024

/-- Bytes that are read and written at a time. -/
def chunkSize : Nat := 65536

/-- A name that might lead out of the destination. -/
def isUnsafeName (name : String) : Bool :=
  let path := Path.ofString name
  path.anchor ≠ .here || path.names.contains ".."
    || ((path.names.head?).map (Text.endsWith ":")).getD false

/-- Sizes beyond what is extracted. -/
def isUnsafeSize (m : Member) : Bool :=
  maxMemberSize < m.size
    || (if m.compressedSize = 0 then maxEmptyClaim < m.size
      else maxRate * m.compressedSize < m.size)

/-- The location that a member's name leads to from a directory. -/
def targetOf (fs : FileSystem) (root : Location) (m : Member) : Location :=
  fs.resolve ((Path.ofLocation root).joinText m.name)

/-- The first member whose name leads out of a directory. -/
def escaping? (fs : FileSystem) (root : Location) (members : List Member) : Option Member :=
  members.find? fun m => !root.isPrefixOf (targetOf fs root m)

/-- How many bytes of a content of `n` are written when reading it ends in a fault. -/
def writtenBefore (f : Fault) (n : Nat) : Nat := match f with
  | .checksum _ => chunkSize * ((n - 1) / chunkSize)
  | _ => chunkSize * (n / chunkSize)

/-- Writes one member that is a file.  Its header is checked first, and the file is opened
before the data is read. -/
def writeMember (z : Zip) (m : Member) (target : Path) : Action Unit := do
  change fun fs => fs.makeDirectories target.parent
  let start ← ofExcept .archive (z.dataStart m)
  let (files, inode) ← inspect fun fs => fs.truncateFile target
  modify fun w => { w with files := files }
  let write (bytes : ByteArray) : Action Unit :=
    modify fun w => { w with files := w.files.writeContent inode bytes }
  match z.contents m start with
  | (bytes, none) => write bytes
  | (bytes, some f) =>
    write (bytes.extract 0 (writtenBefore f bytes.size))
    fail (.archive f)

/-- Writes members in turn; `count` and `total` are the members and bytes before them. -/
def writeAll (z : Zip) (root : Path) (count total : Nat) : List Member → Action Unit
  | [] => pure ()
  | m :: ms => do
    if (Text.trim m.name).isEmpty then writeAll z root count total ms
    else
      let total := total + m.size
      if isUnsafeName m.name || maxMembers ≤ count || isUnsafeSize m || maxTotalSize < total then
        fail (.unsafeMember m.name)
      let target := root.joinText m.name
      if Text.endsWith "/" m.name then change fun fs => fs.makeDirectories target
      else writeMember z m target
      writeAll z root (count + 1) total ms

/-- Extracts an archive, which is called `source` where it is refused, into a directory. -/
def Zip.extractTo (z : Zip) (source : String) (destination : Path) : Action Unit := do
  change fun fs => fs.makeDirectories destination
  let files := (← get).files
  let root := files.resolve destination
  match escaping? files root z.members with
  | some m => fail (.escapingMember m.name source)
  | none => writeAll z (Path.ofLocation root) 0 0 z.members

/-- Opens an archive file. -/
def Zip.ofFile (path : Path) : Action Zip := do
  let bytes ← inspect fun fs => fs.readFile path
  ofExcept .archive (Zip.ofBytes bytes)

/-- Extracts an archive file into a directory. -/
def unzip (path destination : Path) : Action Unit := do
  (← Zip.ofFile path).extractTo path.text destination

end MavenImport.Archive
