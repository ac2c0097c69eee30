/-
# Command.Artifact -- the commands about one artifact

Fetching an artifact has two parts.  The artifact is accepted: resolved, had in the cache, and
compared with the digest that is expected of it (`accept`), which leaves the workspace alone.
Then it is placed: its POM and its main file are linked into the workspace, or unpacked there
if it is an Android library, and a build file is written beside them (`place`).  Each part may
end with a refusal, which is told as it is.

Describing an artifact resolves it and tells its packaging.
-/
import MavenImport.Aar
import MavenImport.Bazel.BuildFile
import MavenImport.Digest.Sha256
import MavenImport.Maven.Resolve

namespace MavenImport

set_option autoImplicit false

open Effect (say info detail inSeconds)
open MavenImport.Action (result inspect change ofExcept)

/-! ## Links -/

/-- Removes what is at a path, which must not be a directory. -/
def clear (path : Path) : Action Unit := do
  let there ← inspect fun fs => fs.pathExists path
  let linked ← if there then pure true else inspect fun fs => fs.isLink path
  if linked then change fun fs => fs.remove path

/-- Links a file to a second place: by a second name for it, or else by a symbolic link. -/
def linkFile (source destination : Path) : Action Unit := do
  change fun fs => fs.makeDirectories destination.parent
  clear destination
  match ← result (change fun fs => fs.hardLink source destination) with
  | .ok () => detail ("Hard link created from " ++ source.text ++ " to " ++ destination.text)
  | .error (.file f) =>
    if !f.isRefusal then Action.fail (.file f)
    let target ← inspect fun fs => fs.resolveStrictly source
    change fun fs => fs.symbolicLink (Path.ofLocation target).text destination
    detail ("Symbolic link created from " ++ source.text ++ " to " ++ destination.text)
  | .error f => Action.fail f

/-! ## Refusals -/

/-- Why an artifact is not fetched. -/
inductive Refusal
  | malformed (spec : String)
  | unresolved (spec : String) (urls : List Json)
  /-- What a repository sent is not what it published the digest of. -/
  | published (spec : String) (urls : List Json) (file : Path)
  /-- Several repositories were asked, and none has the file: each with what is said of it. -/
  | severally (spec path : String) (answers : List (Json × Attempt))
  | failed (spec : String) (attempt : Attempt)
  | absent (spec path : String) (url : Json)
  | digest (file : Path) (actual expected : String)
  | damaged (file : Path) (why : String)
  | escaping (name source : String)

/-- An optional value in a message. -/
def optionText {α : Type} (text : α → String) (v : Option α) : String := (v.map text).getD "None"

namespace Refusal

/-- What a repository answered, as said of a file that several do not have. -/
def answerLine (path : String) : Json × Attempt → String
  | (url, a) =>
    let answer := if a.outcome = .notFound then "(404 - not found)"
      else "(" ++ optionText toString a.responseCode ++ ") \"" ++ a.message ++ "\""
    "    - " ++ answer ++ " from " ++ url.text ++ "/" ++ path

def message : Refusal → String
  | malformed spec => "ERROR: " ++ Coordinate.malformedMessage spec
  | unresolved spec urls =>
    "ERROR: Could not resolve " ++ spec ++ "! Attempted from " ++ (Json.arr urls).text
  | published spec urls file =>
    "ERROR: Invalid maven hashes for " ++ spec ++ " from " ++ (Json.arr urls).text
      ++ ". Check that " ++ file.text ++ " is the expected file."
  | severally spec path answers =>
    Text.joinWith "\n" (("ERROR: Problem fetching main artifact for " ++ spec ++ ":")
      :: answers.map (answerLine path))
  | failed spec a =>
    "ERROR: Problem fetching main artifact for " ++ spec ++ " from "
      ++ optionText Json.text a.repository ++ ": (" ++ optionText toString a.responseCode ++ ") "
      ++ a.message
  | absent spec path url =>
    "ERROR: Artifact " ++ spec ++ " not found at " ++ url.text ++ "/" ++ path
  | digest file actual expected =>
    "ERROR: " ++ file.text ++ " hash (" ++ actual ++ ") is not the expected hash ("
      ++ expected ++ ")"
  | damaged file why => "ERROR: Could not unpack " ++ file.text ++ ": " ++ why
  | escaping name source => (Fault.escapingMember name source).message

end Refusal

/-! ## Acceptance -/

/-- The URLs of repositories by their ids. -/
def urlsById : List (Json × Json) → List Repository → Except Json.Fault (List (Json × Json))
  | urls, [] => .ok urls
  | urls, r :: rs =>
    if r.id.isScalar then urlsById (Json.putScalar r.id r.url urls) rs
    else .error (.unhashable r.id.kind)

/-- Why a file that no repository has is not had. -/
def fetchRefusal (s : Source) (spec : String) (a : ResolvedArtifact) (urls : List (Json × Json))
    (status : FetchStatus) : Refusal :=
  if status.outcome = .invalidHash then
    .published spec (urls.map Prod.snd) (s.localFile a.mainPath)
  else if 1 < status.errors.length then
    .severally spec a.mainPath
      (status.errors.map fun (id, e) => ((Json.findScalar id urls).getD id, e))
  else if status.outcome = .fetchError then .failed spec status.toAttempt
  else .absent spec a.mainPath ((urls.map Prod.snd).headD .null)

/-- Compares the digest of a file with the one that is expected of it, if one is. -/
def checkDigest (file : Path) (expected : Option String) : Action (Except Refusal Unit) := do
  match given? expected with
  | none => return .ok ()
  | some expected =>
    let actual := Digest.sha256 (← inspect fun fs => fs.readFile file)
    return if actual = Text.lower expected then .ok () else .error (.digest file actual expected)

/-- Resolves an artifact, gets its main file into the cache and checks its digest. -/
def accept (s : Source) (spec : String) (expected : Option String) :
    Action (Except Refusal (ResolvedArtifact × FetchStatus)) := do
  let urls ← ofExcept .value (urlsById [] s.repositories)
  match Coordinate.ofString? spec with
  | none => return .error (.malformed spec)
  | some c => match ← s.resolve c with
    | .error _ => return .error (.unresolved spec (urls.map Prod.snd))
    | .ok a =>
      let status ← s.download a
      if !status.isSuccess then return .error (fetchRefusal s spec a urls status)
      let checked ← checkDigest (s.localFile a.mainPath) expected
      return checked.map fun _ => (a, status)

/-! ## Placement -/

/-- Writes a text file. -/
def writeText (path : Path) (content : String) : Action Unit :=
  change fun fs => fs.replaceFile path content.toUTF8

/-- Links a file of the repository into a package. -/
def linkInto (s : Source) (package : Path) (path : String) : Action Unit :=
  linkFile (s.localFile path) (package.joinText path)

/-- Unpacks an Android library into a package. -/
def unpackInto (package file : Path) : Action (Except Refusal Unit) := do
  match ← result (Aar.unpack file package) with
  | .ok () => return .ok ()
  | .error (.escapingMember name source) => return .error (.escaping name source)
  | .error (.archive f) =>
    if f.isDamage then return .error (.damaged file f.message) else Action.fail (.archive f)
  | .error f => Action.fail f

/-- Places an artifact in a package of a workspace. -/
def place (s : Source) (workspace : Path) (package : String) (a : ResolvedArtifact) :
    Action (Except Refusal Unit) := do
  let directory := workspace.joinText package
  let buildFile := directory.joinText buildFileName
  linkInto s directory a.pomPath
  if Text.trim a.packaging = "aar" then
    match ← unpackInto directory (s.localFile a.mainPath) with
    | .error refusal => return .error refusal
    | .ok () =>
      writeText buildFile (unpackedFile package ["classes.jar"])
      return .ok ()
  else
    linkInto s directory a.mainPath
    writeText buildFile (fetchedFile package [a.mainPath])
    return .ok ()

/-! ## The commands -/

/-- Fetches an artifact into a package of a workspace; tells whether that went well. -/
def fetchArtifact (s : Source) (spec : String) (workspace : Path) (package : String)
    (expected : Option String) : Action Bool := do
  let refuse (r : Refusal) : Action Bool := do
    say r.message
    return false
  match ← accept s spec expected with
  | .error refusal => refuse refusal
  | .ok (a, status) => match ← place s workspace package a with
    | .error refusal => refuse refusal
    | .ok () =>
      let insecurely := if (given? expected).isSome then "" else " insecurely"
      info ("Fetched " ++ spec ++ insecurely ++ status.fromCache ++ (← inSeconds) ++ ".")
      return true

/-- Tells the packaging of an artifact; the value says whether that went well. -/
def describeArtifact (s : Source) (spec : String) : Action Bool := do
  match Coordinate.ofString? spec with
  | none =>
    say ("ERROR: " ++ Coordinate.malformedMessage spec)
    return false
  | some c => match ← s.resolve c with
    | .error failure =>
      say ("ERROR: Could not resolve " ++ spec ++ "! " ++ failure.message)
      return false
    | .ok a =>
      say (a.coordinate.text ++ "|" ++ a.packaging)
      info ("Resolved " ++ spec ++ (← inSeconds) ++ ".")
      return true

end MavenImport
