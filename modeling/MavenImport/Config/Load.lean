/-
# Config.Load -- configuration from files

A configuration file is UTF-8 text that holds one JSON value.  Loading a specification has
either the specification or the one fault that kept it from being read as its value
(`loadSpecification`); the other files are loaded by actions that may fail.
-/
import MavenImport.Action
import MavenImport.Config.Repositories
import MavenImport.Config.Specification
import MavenImport.Json.Reader

namespace MavenImport

set_option autoImplicit false

/-- Reads bytes as text. -/
def textOfBytes (bytes : ByteArray) : Except Fault String :=
  match Text.Utf8.decode bytes with
  | .ok s => .ok s
  | .error (position, m) => .error (.notText position m (bytes.toList.getD position 0))

/-- The value that the content of a file holds. -/
def jsonOfBytes (path : Path) (bytes : ByteArray) : Except Fault Json := do
  match Json.read? (← textOfBytes bytes) with
  | some v => return v
  | none => throw (.malformedJson path)

/-- The value that a file holds. -/
def loadJson (path : Path) : Action Json := do
  Effect.info ("Parsing " ++ path.text)
  let bytes ← Action.inspect fun fs => fs.readFile path
  Action.ofExcept id (jsonOfBytes path bytes)

/-- The specification that a file holds. -/
def readSpecification (path : Path) (defaultName : Json) : Action Specification := do
  let v ← loadJson path
  Action.ofExcept .value (Specification.ofJson v defaultName)

/-- Loads a specification, or tells why there is none. -/
def loadSpecification (path : Path) (defaultName : Json) :
    Effect (Except Fault Specification) :=
  Action.attempt (readSpecification path defaultName)

/-- What is said of a file that holds no specification. -/
def noSpecification (path : Path) : Fault → String
  | .value (.missingKey key) =>
    "missing required key " ++ (Json.Fault.missingKey key).message ++ " in " ++ path.text
  | f => f.message

/-- The mirrors that a settings file lists; there are none without a file. -/
def loadMirrors : Option Path → Action (List Mirror)
  | none => return []
  | some path => do Action.ofExcept .value (readMirrors (← loadJson path))

/-- The tool's configuration from a file; without a file everything has its default. -/
def loadToolConfig : Option Path → Action ToolConfig
  | none => return {}
  | some path => do Action.ofExcept .value (ToolConfig.ofJson (← loadJson path))

end MavenImport
