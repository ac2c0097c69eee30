/-
# Main -- the program

The program copies the part of the disk that an invocation concerns into a file system, carries
the invocation out there, and brings the disk up to date with what has changed.  It asks no
server itself: what is neither in the cache nor anywhere on the disk is not found.
-/
import MavenImport.Command.Run

namespace MavenImport.Program

set_option autoImplicit false

def entryAt (l : Location) : IO.FS.DirEntry := { root := "/", fileName := Text.joinWith "/" l }

/-- How deeply directories are copied. -/
def maxDepth : Nat := 100

/-- Copies what the disk has at a location, with everything inside it. -/
def copyIn (fs : FileSystem) (l : Location) : Nat → IO FileSystem
  | 0 => return fs
  | depth + 1 => do
    let path := (entryAt l).path
    if !(← path.pathExists) then return fs
    let fs := ((fs.makeDirectories (.ofLocation l.dropLast)).toOption).getD fs
    match (← path.metadata).type with
    | .file => return fs.putFile l (← IO.FS.readBinFile path)
    | .dir =>
      let mut fs := fs.putEntry l .directory
      for entry in ← path.readDir do
        fs ← copyIn fs (l ++ [entry.fileName]) depth
      return fs
    | _ => return fs

/-- The paths that a command reads or writes. -/
def pathsOf : Command → List Path
  | .generate o => [o.specification, o.workspace]
  | .fetch o => [o.workspace]
  | .describe _ => []

/-- All paths that an invocation concerns. -/
def concerned (i : Invocation) (around : Surroundings) : List Path :=
  i.config.toList ++ i.settings.toList ++ [around.defaultSettings, i.cache] ++ pathsOf i.command

/-- Whether a file has the content that it had before. -/
def isUnchanged (before after : FileSystem) (l : Location) (inode : Nat) : Bool :=
  match before.entryAt? l with
  | some (.file old) => (before.content old).data == (after.content inode).data
  | _ => false

/-- Writes to the disk what is new or has changed, and removes what is gone. -/
def copyOut (before after : FileSystem) : IO Unit := do
  for (l, entry) in after.entries.entries do
    let path := (entryAt l).path
    match entry with
    | .directory => if (before.entryAt? l).isNone then IO.FS.createDirAll path
    | .file inode =>
      if !isUnchanged before after l inode then
        IO.FS.createDirAll (entryAt l.dropLast).path
        IO.FS.writeBinFile path (after.content inode)
    | .link _ => pure ()
  for (l, entry) in before.entries.entries do
    if entry ≠ .directory ∧ (after.entryAt? l).isNone then IO.FS.removeFile (entryAt l).path

/-- Carries an invocation out on the disk. -/
def carryOut (i : Invocation) (around : Surroundings) (here : Location) : IO UInt32 := do
  let mut files := FileSystem.empty here
  for path in concerned i around do
    files ← copyIn files (files.resolve path) maxDepth
  let world : World := {
    files := files, web := ⟨[]⟩, requested := [], console := { verbosity := i.verbosity }
    models := ⟨[]⟩, elapsed := "0.0" }
  let (result, world) := (i.run around).perform world
  copyOut files world.files
  for message in world.console.messages do IO.print message
  match result with
  | .ok well => return (exitStatus well).toUInt32
  | .error f =>
    IO.eprintln f.message
    return 1

/-- What the surroundings of the program say. -/
def surroundings : IO Surroundings := do
  let home ← IO.getEnv "HOME"
  let temporary ← IO.getEnv "TMPDIR"
  let settings ← IO.getEnv "BAZEL_MAVEN_SETTINGS"
  return ⟨.ofString (home.getD "/"), .ofString (temporary.getD "/tmp"), settings⟩

def usage : String :=
  "usage: maven-to-bazel [options] (gen-maven-repo | fetch-artifact | resolve-artifact) ..."

end MavenImport.Program

open MavenImport in
def main (args : List String) : IO UInt32 := do
  let around ← Program.surroundings
  match Invocation.ofArguments around args with
  | .error .help =>
    IO.println Program.usage
    return Arguments.Exit.help.status.toUInt32
  | .error .usage =>
    IO.eprintln Program.usage
    return Arguments.Exit.usage.status.toUInt32
  | .ok i =>
    let here := Path.ofString (← IO.currentDir).toString
    Program.carryOut i around here.names
