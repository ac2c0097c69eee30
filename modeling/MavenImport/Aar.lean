/-
# Aar -- archives of Android libraries

An Android library has a manifest, which names the package of its resources, and libraries
bundled under `libs/`.  The manifest is at the top of the archive, or else at the top of an
archive nested in it, the first that has one.  What is wrong with an archive is a value; only
what is wrong beyond the archive's own form stops the inspection.
-/
import MavenImport.Archive.Extract

namespace MavenImport

set_option autoImplicit false

open Archive (Zip)

structure AarDetails where
  /-- The package of the resources. -/
  package : String
  /-- The names of the bundled libraries, in the order of the archive. -/
  libraries : List String
deriving Repr, DecidableEq

inductive AarProblem
  | unreadable (why : String)
  | noManifest
  | malformedManifest
  | noPackage
deriving Repr, DecidableEq

namespace AarProblem

/-- The kind of problem. -/
def text : AarProblem → String
  | unreadable _ => "unreadable archive"
  | noManifest => "manifest not found"
  | malformedManifest => "manifest unparseable"
  | noPackage => "null package"

/-- What is said of a problem with a file. -/
def message (path : Path) : AarProblem → String
  | unreadable why => "Could not open " ++ path.text ++ ": " ++ why
  | noManifest => "No AndroidManifest.xml in " ++ path.text
  | malformedManifest =>
    "Malformed AndroidManifest.xml in " ++ path.text ++ ": " ++ Xml.Fault.malformed.message
  | noPackage => "AndroidManifest.xml in " ++ path.text ++ " declares no package"

end AarProblem

namespace Aar

def manifestName : String := "AndroidManifest.xml"

def hasManifest (z : Zip) : Bool := z.names.contains manifestName

/-- The package that a manifest declares. -/
def packageOf? (e : Xml.Element) : Option String :=
  if e.name.label = "manifest" then e.attribute? "package" else none

def manifestPackage (bytes : ByteArray) : Except Xml.Fault (Option String) :=
  (Xml.Element.ofBytes bytes).map packageOf?

/-- A name of a bundled library. -/
def isBundled (name : String) : Bool :=
  Text.startsWith "libs/" name && Text.endsWith ".jar" name

/-- The content of the member that a name means. -/
def readNamed (z : Zip) (name : String) : Except Archive.Fault ByteArray :=
  match z.find? name with
  | some m => z.read m
  | none => .error .notAnArchive

/-- The first nested archive with a manifest among members of given names. -/
def nestedAmong? (z : Zip) : List String → Except Archive.Fault (Option (String × Zip))
  | [] => .ok none
  | name :: names =>
    if Text.endsWith ".aar" name then do
      let nested ← Zip.ofBytes (← readNamed z name)
      if hasManifest nested then return some (name, nested) else nestedAmong? z names
    else nestedAmong? z names

/-- The nested archive that has the manifest, if the archive itself has none. -/
def nested? (z : Zip) : Except Archive.Fault (Option (String × Zip)) :=
  if hasManifest z then .ok none else nestedAmong? z z.names

/-- The manifest and the bundled libraries of an archive. -/
def parts? (bytes : ByteArray) : Except Archive.Fault (Option (ByteArray × List String)) := do
  let z ← Zip.ofBytes bytes
  let holder := match ← nested? z with
    | some (_, inner) => inner
    | none => z
  if hasManifest holder then
    return some (← readNamed holder manifestName, holder.names.filter isBundled)
  else return none

/-- A fault that makes an archive unreadable, as against one that nothing answers for. -/
def isUnreadable (f : Archive.Fault) : Bool := f.isDamage || f = .position

/-- What an archive says of itself. -/
def inspect (file : Except Files.Fault ByteArray) : Except Fault (Except AarProblem AarDetails) :=
  match file with
  | .error f =>
    if f.isRefusal then .ok (.error (.unreadable f.message)) else .error (.file f)
  | .ok bytes => match parts? bytes with
    | .error f =>
      if isUnreadable f then .ok (.error (.unreadable f.message)) else .error (.archive f)
    | .ok none => .ok (.error .noManifest)
    | .ok (some (manifest, libraries)) => match manifestPackage manifest with
      | .error .malformed => .ok (.error .malformedManifest)
      | .error f => .error (.xml f)
      | .ok package => match given? package with
        | none => .ok (.error .noPackage)
        | some package => .ok (.ok ⟨package, libraries⟩)

/-- Inspects an archive file. -/
def inspectFile (path : Path) : Action (Except AarProblem AarDetails) := do
  Action.ofExcept id (inspect ((← get).files.readFile path))

/-- Unpacks an archive into a directory: the nested archive with the manifest, if the archive
itself has none. -/
def unpack (path destination : Path) : Action Unit := do
  let z ← Zip.ofFile path
  match ← Action.ofExcept .archive (nested? z) with
  | none => z.extractTo path.text destination
  | some (name, nested) => nested.extractTo (path.text ++ "!" ++ name) destination

end Aar

end MavenImport
