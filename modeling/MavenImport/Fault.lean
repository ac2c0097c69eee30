/-
# Fault -- everything that can stop an operation

Each part of the library has faults of its own; here they are put together, with the few that
belong to no part.  `Fault.message` is what a message says of a fault.
-/
import MavenImport.Archive.Zip
import MavenImport.Files.FileSystem
import MavenImport.Json.Access
import MavenImport.Maven.Version
import MavenImport.Maven.Coordinate
import MavenImport.Xml.Reader

namespace MavenImport

set_option autoImplicit false

inductive Fault
  /-- A text that is no coordinate. -/
  | coordinate (text : String)
  /-- A text that does not name a group and an artifact. -/
  | pair (text : String)
  | value (f : Json.Fault)
  /-- A file that is not JSON. -/
  | malformedJson (path : Path)
  /-- Bytes that are no text. -/
  | notText (position : Nat) (m : Text.Utf8.Malformed) (first : UInt8)
  | version (f : Version.Fault)
  | xml (f : Xml.Fault)
  | file (f : Files.Fault)
  | archive (f : Archive.Fault)
  /-- A member of an archive that would be written outside the destination. -/
  | escapingMember (name source : String)
  /-- A member of an archive that is not safe to extract. -/
  | unsafeMember (name : String)

def Xml.Fault.message : Xml.Fault → String
  | .malformed => "not a well-formed document"
  | .unknownCharset name => "unknown encoding: " ++ name
  | .multiByteCharset => "multi-byte encodings are not supported"

def Version.Fault.message : Version.Fault → String
  | .noNumber => "a version has digits that are no number"
  | .noVersion => "there is no version"

/-- Why bytes are no text, with their place. -/
def undecodable (position : Nat) (m : Text.Utf8.Malformed) (first : UInt8) : String :=
  let reason := match m.reason with
    | .invalidStart => "invalid start byte"
    | .invalidContinuation => "invalid continuation byte"
    | .endOfData => "unexpected end of data"
  if m.length = 1 then
    "'utf-8' codec can't decode byte 0x" ++ String.ofList (Text.hexDigits 2 first.toNat)
      ++ " in position " ++ toString position ++ ": " ++ reason
  else
    "'utf-8' codec can't decode bytes in position " ++ toString position ++ "-"
      ++ toString (position + m.length - 1) ++ ": " ++ reason

namespace Fault

/-- What is wrong with a file that is not JSON, apart from its name. -/
def malformedJsonMessage : String := "not a JSON value"

def message : Fault → String
  | coordinate text => Coordinate.malformedMessage text
  | pair _ => "not enough values to unpack (expected 2, got 1)"
  | value f => f.message
  | malformedJson path => malformedJsonMessage ++ " from " ++ path.text
  | notText position m first => undecodable position m first
  | version f => f.message
  | xml f => f.message
  | file f => f.message
  | archive f => f.message
  | escapingMember name source => "ERROR: Invalid ZIP entry " ++ name ++ " in " ++ source
  | unsafeMember name => "unsafe archive member " ++ Text.quoted name

end Fault

end MavenImport
