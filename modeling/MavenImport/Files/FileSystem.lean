/-
# Files.FileSystem -- a file system as a value

Every entry has an absolute location, a list of names below the root.  An entry is a
directory, a file or a symbolic link.  File contents are kept apart from the entries, under
a number, so that two hard links to one file share what is written to it.  Numbers are given in
order, and every file system knows that its own are below the next one.  Replacing a file
gives the entry a new number and leaves the other links alone (`replaceFile`); opening one
for writing empties the shared content (`truncateFile`).

Operations take paths, which are followed from the working directory through symbolic links
(`locate`), and fail with the cause and the path they were given.
-/
import MavenImport.Files.Path
import MavenImport.Table
import MavenImport.Text.Quoted

namespace MavenImport

set_option autoImplicit false

/-- The absolute names of an entry. -/
abbrev Location := List String

inductive Entry
  | directory
  | file (inode : Nat)
  | link (target : String)
deriving Repr, DecidableEq

namespace Entry

/-- A file has a number below the given one. -/
def isBelow (n : Nat) : Entry → Bool
  | file inode => inode < n
  | _ => true

/-- The number of the next file when an entry is there. -/
def next (n : Nat) : Entry → Nat
  | file inode => max n (inode + 1)
  | _ => n

theorem le_next (n : Nat) (e : Entry) : n ≤ e.next n := by
  cases e with
  | file inode => exact Nat.le_max_left n _
  | _ => exact Nat.le_refl n

theorem isBelow_next (n : Nat) (e : Entry) : e.isBelow (e.next n) = true := by
  cases e with
  | file inode => exact decide_eq_true (Nat.le_max_right n _)
  | _ => rfl

theorem isBelow_mono {n m : Nat} (le : n ≤ m) {e : Entry} (below : e.isBelow n = true) :
    e.isBelow m = true := by
  cases e with
  | file inode => exact decide_eq_true (Nat.lt_of_lt_of_le (of_decide_eq_true below) le)
  | _ => rfl

end Entry

namespace Files

inductive Cause
  | notFound
  | exists
  | notDirectory
  | isDirectory
  | notPermitted
  | tooManyLinks
  | nameTooLong
  | nulInName
  /-- Links lead in a circle where a path must be followed to its end. -/
  | linkLoop
deriving Repr, DecidableEq

/-- A failed file operation: the cause and the path that was asked for. -/
structure Fault where
  cause : Cause
  path : Path
deriving Repr, DecidableEq

/-- The number and the wording of a cause, if the system itself gives it. -/
def Cause.errno? : Cause → Option (Nat × String)
  | .notFound => some (2, "No such file or directory")
  | .exists => some (17, "File exists")
  | .notDirectory => some (20, "Not a directory")
  | .isDirectory => some (21, "Is a directory")
  | .notPermitted => some (1, "Operation not permitted")
  | .tooManyLinks => some (40, "Too many levels of symbolic links")
  | .nameTooLong => some (36, "File name too long")
  | .nulInName | .linkLoop => none

def Fault.message (f : Fault) : String :=
  match f.cause.errno? with
  | some (number, wording) =>
    "[Errno " ++ toString number ++ "] " ++ wording ++ ": " ++ Text.quoted f.path.text
  | none =>
    if f.cause = .linkLoop then "Symlink loop from " ++ Text.quoted f.path.text
    else "embedded null byte"

/-- The system refused an operation, as against a path that no operation can take. -/
def Fault.isRefusal (f : Fault) : Bool := f.cause.errno?.isSome

end Files

open Files (Cause)

structure FileSystem where
  entries : Table Location Entry
  contents : Table Nat ByteArray
  /-- The number of the next file. -/
  fresh : Nat
  /-- The working directory, from which relative paths are followed. -/
  here : Location
  numbered : ∀ e ∈ entries.entries, e.2.isBelow fresh = true

namespace FileSystem

/-- The root directory and a working directory, without any other entry. -/
def empty (here : Location) : FileSystem where
  entries := .ofList ((List.range (here.length + 1)).map fun n => (here.take n, .directory))
  contents := ⟨[]⟩
  fresh := 0
  here := here
  numbered e listed := by
    rcases Table.mem_of_mem_putAll listed with none | above
    · cases none
    · obtain ⟨n, -, rfl⟩ := List.mem_map.mp above
      rfl

def entryAt? (fs : FileSystem) (l : Location) : Option Entry := fs.entries.find? l

/-- The number of the next file is above that of every file. -/
theorem inode_lt_fresh {fs : FileSystem} {l : Location} {inode : Nat}
    (found : fs.entryAt? l = some (.file inode)) : inode < fs.fresh :=
  of_decide_eq_true (fs.numbered _ (Table.findEntry_mem found))

/-- What is entered is counted. -/
theorem numbered_put (fs : FileSystem) {l : Location} {e : Entry} {n : Nat} (le : fs.fresh ≤ n)
    (below : e.isBelow n = true) : ∀ d ∈ (fs.entries.put l e).entries, d.2.isBelow n = true := by
  intro d listed
  rcases Table.mem_of_mem_putEntry listed with rfl | old
  · exact below
  · exact Entry.isBelow_mono le (fs.numbered d old)

/-- The number of links that are followed before a path is given up. -/
def maxLinks : Nat := 40

def maxNameBytes : Nat := 255

/-- Why no entry can have a name. -/
def nameFault? (name : String) : Option Cause :=
  if name.toList.contains (Char.ofNat 0) then some .nulInName
  else if maxNameBytes < name.utf8ByteSize then some .nameTooLong
  else none

/-- Where a walk along names ends. -/
inductive Stop
  /-- At the location that the names lead to. -/
  | arrived (l : Location)
  /-- In a directory, before a link that is to be followed and the names after it. -/
  | atLink (base : Location) (target : String) (rest : List String)

/-- Walks along names from a directory up to the first link that is to be followed.  The last
name may be missing, and a link there is followed only if `followLast` says so. -/
def walk (fs : FileSystem) (followLast : Bool) (base : Location) :
    List String → Except Cause Stop
  | [] => .ok (.arrived base)
  | name :: rest =>
    if name = ".." then walk fs followLast base.dropLast rest
    else match nameFault? name with
      | some cause => .error cause
      | none =>
        let l := base ++ [name]
        match fs.entryAt? l with
        | none => if rest = [] then .ok (.arrived l) else .error .notFound
        | some .directory => walk fs followLast l rest
        | some (.file _) => if rest = [] then .ok (.arrived l) else .error .notDirectory
        | some (.link target) =>
          if rest = [] ∧ !followLast then .ok (.arrived l) else .ok (.atLink base target rest)

/-- Follows names from a directory, through `links` links at most. -/
def follow (fs : FileSystem) (followLast : Bool) : (links : Nat) → (base : Location) →
    List String → Except Cause Location
  | 0, base, names => match fs.walk followLast base names with
    | .error cause => .error cause
    | .ok (.arrived l) => .ok l
    | .ok (.atLink _ _ _) => .error .tooManyLinks
  | links + 1, base, names => match fs.walk followLast base names with
    | .error cause => .error cause
    | .ok (.arrived l) => .ok l
    | .ok (.atLink base target rest) =>
      let p := Path.ofString target
      follow fs followLast links (if p.anchor = .here then base else []) (p.names ++ rest)

/-- Where following a path starts. -/
def start (fs : FileSystem) (p : Path) : Location := if p.anchor = .here then fs.here else []

/-- The location that a path leads to, with its last name followed through links. -/
def locate (fs : FileSystem) (p : Path) : Except Cause Location :=
  fs.follow true maxLinks (fs.start p) p.names

/-- The location of the entry that a path names, which may itself be a link. -/
def locateEntry (fs : FileSystem) (p : Path) : Except Cause Location :=
  fs.follow false maxLinks (fs.start p) p.names

/-- The entry that a path leads to. -/
def status (fs : FileSystem) (p : Path) : Except Files.Fault Entry :=
  match fs.locate p with
  | .error cause => .error ⟨cause, p⟩
  | .ok l => match fs.entryAt? l with
    | some e => .ok e
    | none => .error ⟨.notFound, p⟩

/-- Causes that mean that there is nothing at a path. -/
def isAbsence : Cause → Bool
  | .notFound | .notDirectory | .tooManyLinks | .nulInName => true
  | _ => false

/-- Whether a path leads to an entry. -/
def pathExists (fs : FileSystem) (p : Path) : Except Files.Fault Bool :=
  match fs.status p with
  | .ok _ => .ok true
  | .error f => if isAbsence f.cause then .ok false else .error f

def isDirectory (fs : FileSystem) (p : Path) : Except Files.Fault Bool :=
  match fs.status p with
  | .ok e => .ok (e = .directory)
  | .error f => if isAbsence f.cause then .ok false else .error f

/-- Whether a path names a symbolic link. -/
def isLink (fs : FileSystem) (p : Path) : Except Files.Fault Bool :=
  match fs.locateEntry p with
  | .error cause => if isAbsence cause then .ok false else .error ⟨cause, p⟩
  | .ok l => match fs.entryAt? l with
    | some (.link _) => .ok true
    | _ => .ok false

def content (fs : FileSystem) (inode : Nat) : ByteArray :=
  (fs.contents.find? inode).getD ByteArray.empty

def readFile (fs : FileSystem) (p : Path) : Except Files.Fault ByteArray :=
  match fs.status p with
  | .error f => .error f
  | .ok .directory => .error ⟨.isDirectory, p⟩
  | .ok (.file inode) => .ok (fs.content inode)
  | .ok (.link _) => .error ⟨.tooManyLinks, p⟩

def putEntry (fs : FileSystem) (l : Location) (e : Entry) : FileSystem :=
  { fs with
    entries := fs.entries.put l e
    fresh := e.next fs.fresh
    numbered := fs.numbered_put (e.le_next fs.fresh) (e.isBelow_next fs.fresh) }

def dropEntry (fs : FileSystem) (l : Location) : FileSystem :=
  { fs with
    entries := ⟨fs.entries.entries.filter (·.1 ≠ l)⟩
    numbered e listed := fs.numbered e (List.mem_filter.mp listed).1 }

/-- Enters a new file with the given content. -/
def putFile (fs : FileSystem) (l : Location) (bytes : ByteArray) : FileSystem :=
  { fs with
    entries := fs.entries.put l (.file fs.fresh)
    contents := fs.contents.put fs.fresh bytes
    fresh := fs.fresh + 1
    numbered := fs.numbered_put (Nat.le_succ _) (decide_eq_true (Nat.lt_succ_self _)) }

/-- Makes one directory, whose parent must be there. -/
def makeDirectory (fs : FileSystem) (p : Path) : Except Files.Fault FileSystem :=
  match fs.locateEntry p with
  | .error cause => .error ⟨cause, p⟩
  | .ok l => match fs.entryAt? l with
    | none => .ok (fs.putEntry l .directory)
    | some _ => .error ⟨.exists, p⟩

/-- Lets a failure to make a directory pass when the directory is there. -/
def orPresent (fs : FileSystem) (p : Path) (f : Files.Fault) : Except Files.Fault FileSystem :=
  match fs.isDirectory p with
  | .ok true => .ok fs
  | .ok false => .error f
  | .error e => .error e

/-- Makes the first `n` directories of a path that are missing, the outermost first. -/
def makeParents (fs : FileSystem) (p : Path) : Nat → Except Files.Fault FileSystem
  | 0 => match fs.makeDirectory p with
    | .ok fs => .ok fs
    | .error f => if f.cause = .notFound then .error f else fs.orPresent p f
  | n + 1 => match fs.makeDirectory p with
    | .ok fs => .ok fs
    | .error f =>
      if f.cause = .notFound then
        if p.parent = p then .error f
        else match fs.makeParents p.parent n with
          | .error e => .error e
          | .ok fs => match fs.makeDirectory p with
            | .ok fs => .ok fs
            | .error f => if f.cause = .notFound then .error f else fs.orPresent p f
      else fs.orPresent p f

/-- Makes a directory and its parents; directories that are there already are left. -/
def makeDirectories (fs : FileSystem) (p : Path) : Except Files.Fault FileSystem :=
  fs.makeParents p p.names.length

/-- The bytes that a temporary file's name needs beside the name of the file. -/
def temporaryNameBytes : Nat := 10

/-- Writes a file in one step, so that it has either its old content or all of the new one.
The parent directories are made first; an old file or link at the path is replaced. -/
def replaceFile (fs : FileSystem) (p : Path) (bytes : ByteArray) :
    Except Files.Fault FileSystem := do
  let fs ← fs.makeDirectories p.parent
  if maxNameBytes < p.name.utf8ByteSize + temporaryNameBytes then
    throw ⟨.nameTooLong, p⟩
  match fs.locateEntry p with
  | .error cause => throw ⟨cause, p⟩
  | .ok l => match fs.entryAt? l with
    | some .directory => throw ⟨.isDirectory, p⟩
    | _ => return fs.putFile l bytes

/-- Opens a file for writing: an old file is emptied, with all its links.  Gives the number
under which its content is written. -/
def truncateFile (fs : FileSystem) (p : Path) : Except Files.Fault (FileSystem × Nat) :=
  match fs.locate p with
  | .error cause => .error ⟨cause, p⟩
  | .ok l => match fs.entryAt? l with
    | none => .ok (fs.putFile l ByteArray.empty, fs.fresh)
    | some (.file inode) =>
      .ok ({ fs with contents := fs.contents.put inode ByteArray.empty }, inode)
    | some .directory => .error ⟨.isDirectory, p⟩
    | some (.link _) => .error ⟨.tooManyLinks, p⟩

/-- Writes the content of an open file. -/
def writeContent (fs : FileSystem) (inode : Nat) (bytes : ByteArray) : FileSystem :=
  { fs with contents := fs.contents.put inode bytes }

/-- Removes the file or link that a path names. -/
def remove (fs : FileSystem) (p : Path) : Except Files.Fault FileSystem :=
  match fs.locateEntry p with
  | .error cause => .error ⟨cause, p⟩
  | .ok l => match fs.entryAt? l with
    | none => .error ⟨.notFound, p⟩
    | some .directory => .error ⟨.isDirectory, p⟩
    | some _ => .ok (fs.dropEntry l)

/-- Gives the file or link that one path names a second name; directories cannot have one. -/
def hardLink (fs : FileSystem) (source destination : Path) : Except Files.Fault FileSystem :=
  match fs.locateEntry source with
  | .error cause => .error ⟨cause, source⟩
  | .ok l => match fs.entryAt? l with
    | none => .error ⟨.notFound, source⟩
    | some .directory => .error ⟨.notPermitted, source⟩
    | some e => match fs.locateEntry destination with
      | .error cause => .error ⟨cause, destination⟩
      | .ok l' => match fs.entryAt? l' with
        | none => .ok (fs.putEntry l' e)
        | some _ => .error ⟨.exists, destination⟩

/-- Makes a symbolic link to a target, which need not exist. -/
def symbolicLink (fs : FileSystem) (target : String) (destination : Path) :
    Except Files.Fault FileSystem :=
  match fs.locateEntry destination with
  | .error cause => .error ⟨cause, destination⟩
  | .ok l => match fs.entryAt? l with
    | none => .ok (fs.putEntry l (.link target))
    | some _ => .error ⟨.exists, destination⟩

/-- The absolute location of a path, followed through links as far as entries exist; names
after the first missing one are taken as they stand. -/
def resolveFrom (fs : FileSystem) (links : Nat) (base : Location) : List String → Location
  | [] => base
  | name :: rest =>
    if name = ".." then resolveFrom fs links base.dropLast rest
    else
      let l := base ++ [name]
      match fs.entryAt? l with
      | some (.link target) => match links with
        | 0 => resolveFrom fs 0 l rest
        | n + 1 =>
          let p := Path.ofString target
          resolveFrom fs n (if p.anchor = .here then base else []) (p.names ++ rest)
      | _ => resolveFrom fs links l rest
termination_by names => (links, names.length)

def resolve (fs : FileSystem) (p : Path) : Location :=
  fs.resolveFrom maxLinks (fs.start p) p.names

/-- The absolute location of a path whose links do not lead in a circle. -/
def resolveStrictly (fs : FileSystem) (p : Path) : Except Files.Fault Location :=
  let l := fs.resolve p
  match fs.follow true maxLinks [] l with
  | .error .tooManyLinks => .error ⟨.linkLoop, ⟨.root, l⟩⟩
  | _ => .ok l

end FileSystem

/-- The absolute path of a location. -/
def Path.ofLocation (l : Location) : Path := ⟨.root, l⟩

end MavenImport
