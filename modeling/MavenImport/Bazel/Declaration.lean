/-
# Bazel.Declaration -- the text that declares an artifact

An artifact is declared by one of three forms, chosen by what it is (`Resolution.Form`): a
library import; an Android library with the import of its classes and of each library bundled
with it; or a group of files for anything else.  A snippet in its options takes the place of
all of them.  Each form is a text with a few places to fill in.
-/
import MavenImport.Bazel.Edges
import MavenImport.Files.Path

namespace MavenImport

set_option autoImplicit false

/-- What an artifact is to be declared as. -/
inductive Form
  | library
  /-- An Android library, with the package of its resources and the libraries bundled in it. -/
  | android (package : String) (libraries : List String)
  | file
deriving Repr, DecidableEq

/-- A resolved artifact with its options and the form of its declaration. -/
structure Resolution where
  artifact : ResolvedArtifact
  config : ArtifactConfig
  form : Form

def Form.isAndroid : Form → Bool
  | .android _ _ => true
  | _ => false

namespace Resolution

def coordinate (r : Resolution) : Coordinate := r.artifact.coordinate

end Resolution

/-- What fills the places of a declaration. -/
structure Places where
  target : String
  coordinate : String
  fetchPackage : String
  /-- A line that marks an import as jetified, or nothing. -/
  jetify : String
  /-- A line that restricts the target to tests, or nothing. -/
  testonly : String
  /-- The labels of the dependencies, as the inside of a list. -/
  deps : String

def visibility : String := "[\"//visibility:public\"]"

/-- Labels one per line, as the inside of a list. -/
def labelLines (labels : List String) : String :=
  if labels.isEmpty then ""
  else "\n" ++ String.join (labels.map fun l => "        \"" ++ l ++ "\",\n") ++ "    "

namespace Places

def library (p : Places) : String :=
  "\n# " ++ p.coordinate ++ "\nraw_jvm_import(\n    name = \"" ++ p.target
    ++ "\",\n    jar = \"" ++ p.fetchPackage ++ "\",\n    visibility = " ++ visibility ++ ","
    ++ p.jetify ++ "\n    deps = [" ++ p.deps ++ "]," ++ p.testonly ++ "\n)\n"

def file (p : Places) : String :=
  "\n# " ++ p.coordinate ++ "\nfilegroup(\n    name = \"" ++ p.target
    ++ "\",\n    srcs = [\"" ++ p.fetchPackage ++ "\"],\n    visibility = " ++ visibility
    ++ ",\n    data = [" ++ p.deps ++ "]," ++ p.testonly ++ "\n)\n"

/-- The file name of a bundled library. -/
def fileName (library : String) : String := (Path.ofString library).name

/-- The target of a bundled library. -/
def bundledTarget (p : Places) (library : String) : String :=
  p.target ++ "_libs_"
    ++ String.ofList (Text.removeAll ".jar".toList 0 (fileName library).toList)

/-- The labels of the bundled libraries, as the inside of a list. -/
def bundledLines (p : Places) (libraries : List String) : String :=
  labelLines (libraries.map fun l => ":" ++ p.bundledTarget l)

/-- The import of a bundled library. -/
def bundledImport (p : Places) (library : String) : String :=
  "\nraw_jvm_import(\n    name = \"" ++ p.bundledTarget library ++ "\",\n    jar = \""
    ++ p.fetchPackage ++ ":libs/" ++ fileName library ++ "\"," ++ p.jetify ++ "\n)"

def android (p : Places) (package : String) (libraries : List String) : String :=
  let bundled := p.bundledLines libraries
  "\n# " ++ p.coordinate ++ " raw classes\nraw_jvm_import(\n    name = \"" ++ p.target
    ++ "_classes\",\n    jar = \"" ++ p.fetchPackage ++ "\"," ++ p.jetify ++ "\n    deps = ["
    ++ p.deps ++ "],\n)\n\n# " ++ p.coordinate
    ++ " library target\nandroid_library(\n    name = \"" ++ p.target
    ++ "\",\n    manifest = \"" ++ p.fetchPackage
    ++ ":AndroidManifest.xml\",\n    custom_package = \"" ++ package
    ++ "\",\n    visibility = " ++ visibility ++ ",\n    resource_files = [\""
    ++ p.fetchPackage ++ ":resources\"],\n    assets = [\"" ++ p.fetchPackage
    ++ ":assets\"],\n    assets_dir = \"assets\",\n    deps = [\":" ++ p.target
    ++ "_classes\"] + [" ++ bundled ++ "] + [" ++ p.deps ++ "]," ++ p.testonly
    ++ "\n    exports = [\":" ++ p.target ++ "_classes\"] + [" ++ bundled ++ "],\n)\n"
    ++ Text.joinWith "\n" (libraries.map p.bundledImport) ++ "\n"

end Places

namespace Resolution

/-- What fills the places in the declaration of an artifact. -/
def places (r : Resolution) (labels : List String) (jetify : Bool) : Places where
  target := targetName r.coordinate.artifact
  coordinate := r.coordinate.text
  fetchPackage := MavenImport.fetchPackage r.coordinate.group r.coordinate.artifact
  jetify := if jetify then "\n    jetify = True," else ""
  testonly := if r.config.testonly then "\n    testonly = True," else ""
  deps := labelLines labels

/-- The generated declaration of an artifact. -/
def generated (r : Resolution) (labels : List String) (jetify : Bool) : String :=
  let p := r.places labels jetify
  match r.form with
  | .library => p.library
  | .android package libraries => p.android package libraries
  | .file => p.file

/-- The declaration of an artifact: its snippet if there is one, else the generated one. -/
def declaration (r : Resolution) (labels : List Json) (jetify : Bool) : Json :=
  if r.config.snippet.isNull then .str (r.generated (labels.map Json.text) jetify)
  else r.config.snippet

end Resolution

end MavenImport
