/-
# Bazel.BuildFile -- the files that hold the declarations

Each group has one build file, in the package of the group.  It holds the declarations of the
group's artifacts in the order of their coordinates, under a header that loads what they use
(`BuildFile.content`), so that it does not depend on the order in which artifacts were
processed.  A further file at the root of the workspace gives every artifact a second name
(`aliasFile`).
-/
import MavenImport.Bazel.Declaration
import MavenImport.Config.Specification

namespace MavenImport

set_option autoImplicit false

/-- The name of every build file. -/
def buildFileName : String := "BUILD.bazel"

/-- A declaration, with the resolution that it was made from. -/
structure Declared where
  resolution : Resolution
  content : Json

namespace Declared

def coordinate (d : Declared) : String := d.resolution.coordinate.text

end Declared

/-- The build file of a group. -/
def buildFilePath (workspace : Path) (group : String) : Path :=
  (workspace.joinText (groupPath group)).joinText buildFileName

/-- Puts a declaration with the others of its file; files keep the order of their first
declaration. -/
def addToGroup (path : Path) (d : Declared) : List (Path × List Declared) →
    List (Path × List Declared)
  | [] => [(path, [d])]
  | g :: gs => if g.1 = path then (g.1, g.2 ++ [d]) :: gs else g :: addToGroup path d gs

/-- The declarations of each file, in the order in which they came. -/
def groupByFile (declared : List (Path × Declared)) : List (Path × List Declared) :=
  declared.foldl (fun groups (path, d) => addToGroup path d groups) []

/-- The files in the order of their paths. -/
def sortedGroups (groups : List (Path × List Declared)) : List (Path × List Declared) :=
  groups.mergeSort fun a b => a.1.ble b.1

namespace BuildFile

def header : String := "# Generated build file - do not modify"

def androidLoad : String :=
  "\nload(\"@build_bazel_rules_android//android:rules.bzl\", \"android_library\")\n"

def importLoad (rulesLabel : String) : String :=
  "\nload(\"@" ++ rulesLabel ++ "//maven:jvm.bzl\", \"raw_jvm_import\")\n"

/-- The declarations in the order of their coordinates. -/
def ordered (declared : List Declared) : List Declared :=
  declared.mergeSort fun a b => a.coordinate ≤ b.coordinate

/-- A text with its final line feeds replaced by a single one. -/
def endLine (s : String) : String := String.ofList (Text.trimEnd '\n' s.toList ++ ['\n'])

/-- The content of a build file.  A declaration that is no text has no place in it. -/
def content (declared : List Declared) (rulesLabel : String) : Except Json.Fault String := do
  let sorted := ordered declared
  let android := sorted.any fun d => d.resolution.form.isAndroid
  let body ← Json.joinTexts "\n" (sorted.map Declared.content)
  return endLine (header ++ (if android then androidLoad else "") ++ importLoad rulesLabel ++ body)

end BuildFile

/-! ## Second names at the root -/

def aliasPreamble : String :=
  "# Aliases from rules_jvm_external-style root targets to bazel_maven_repository\n"
    ++ "# package-name-spaced targets.\n"
    ++ "package(default_visibility = [\"//visibility:public\"])\n\n# Aliases\n\n"

/-- The line that gives an artifact its second name. -/
def aliasLine (workspace : String) (c : Coordinate) : String :=
  "alias(name = \"" ++ underscored (c.group ++ "_" ++ c.artifact) ++ "\", actual = \""
    ++ targetLabel workspace c.group c.artifact ++ "\") # " ++ c.text

/-- The content of the file of second names. -/
def aliasFile (workspace : String) (coordinates : List Coordinate) : String :=
  let sorted := coordinates.mergeSort fun a b => a.text ≤ b.text
  aliasPreamble ++ Text.joinWith "\n" (sorted.map (aliasLine workspace)) ++ "\n"

/-! ## Files of a fetch repository -/

/-- Files one per line, as the inside of a list. -/
def fileLines (files : List String) : String :=
  String.join (files.map fun f => "\n            \"" ++ f ++ "\",")

/-- The group of files that stands for a fetched artifact. -/
def fetchedGroup (target : String) (files : List String) : String :=
  "filegroup(\n    name = \"" ++ target ++ "\",\n    srcs = [" ++ fileLines files
    ++ "\n    ],\n)\n"

def publicPackage : String := "package(default_visibility = [\"//visibility:public\"])\n"

/-- The build file beside a fetched file. -/
def fetchedFile (target : String) (files : List String) : String :=
  publicPackage ++ fetchedGroup target files

/-- A group of files found by a pattern. -/
def patternGroup (target pattern : String) : String :=
  "\nfilegroup(\n    name = \"" ++ target ++ "\",\n    srcs = glob([\"" ++ pattern ++ "\"])\n)\n"

/-- The build file of an unpacked Android library. -/
def unpackedFile (target : String) (files : List String) : String :=
  publicPackage ++ "exports_files([\"AndroidManifest.xml\"] + glob([\"libs/*.jar\"]))\n\n"
    ++ fetchedGroup target files ++ patternGroup "resources" "res/**/*"
    ++ patternGroup "assets" "assets/**/*" ++ patternGroup "proguard" "proguard.txt"

end MavenImport
