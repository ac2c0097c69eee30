/-
# Maven.Coordinate -- the names of artifacts

An artifact is named by its group, its own id and its version, written with colons between
them.  Without the version it is a slug, the identity that versions share.  From the names
follow the package and the target that the artifact gets (`groupPath`, `targetName`) and the
external repository that its files are fetched into (`fetchPackage`).
-/
import MavenImport.Text.Cut

namespace MavenImport

set_option autoImplicit false

structure Coordinate where
  group : String
  artifact : String
  version : String
deriving Repr, DecidableEq

/-- The identity that the versions of an artifact share. -/
def slugOf (group artifact : String) : String := group ++ ":" ++ artifact

namespace Coordinate

def slug (c : Coordinate) : String := slugOf c.group c.artifact

def text (c : Coordinate) : String := c.group ++ ":" ++ c.artifact ++ ":" ++ c.version

/-- Reads three parts that are not blank; blanks around a part are dropped. -/
def ofString? (s : String) : Option Coordinate :=
  match (Text.splitAt ':' s).map Text.trim with
  | [g, a, v] => if g = "" ∨ a = "" ∨ v = "" then none else some ⟨g, a, v⟩
  | _ => none

/-- What is said of a text that is no coordinate. -/
def malformedMessage (s : String) : String :=
  "Invalid artifact coordinate \"" ++ s ++ "\", expected groupId:artifactId:version"

/-- A version that may still change. -/
def isSnapshot (c : Coordinate) : Bool := Text.endsWith "-SNAPSHOT" c.version

end Coordinate

/-- The package path of a group. -/
def groupPath (group : String) : String := Text.replaceChar '.' '/' group

/-- Points and dashes as underscores. -/
def underscored (s : String) : String := Text.replaceChar '-' '_' (Text.replaceChar '.' '_' s)

/-- The target of an artifact within its package. -/
def targetName (artifact : String) : String := underscored artifact

/-- The package that holds fetched files, in the repository of each artifact. -/
def downloadPackage : String := "maven"

/-- The label of the package that holds an artifact's fetched files. -/
def fetchPackage (group artifact : String) : String :=
  "@" ++ underscored group ++ "_" ++ underscored artifact ++ "//" ++ downloadPackage

end MavenImport
