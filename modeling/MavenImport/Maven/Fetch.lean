/-
# Maven.Fetch -- files from the cache or from a repository

A file is taken from the cache if it is there, and otherwise from the first repository that
serves its kind of version and has it.  What a repository sends is compared with the digest
that it publishes beside the file, if it publishes one, and then kept in the cache for good.
If no repository has the file, the status tells of each what it answered.
-/
import MavenImport.Action
import MavenImport.Config.Repositories
import MavenImport.Digest.Sha1

namespace MavenImport

set_option autoImplicit false

inductive Outcome
  | foundInCache
  | downloaded
  | notFound
  | fetchError
  | invalidHash
deriving Repr, DecidableEq

/-- How an outcome is written. -/
def Outcome.text : Outcome → String
  | .foundInCache => "found in cache"
  | .downloaded => "downloaded"
  | .notFound => "not found"
  | .fetchError => "fetch error"
  | .invalidHash => "invalid hash"

/-- What came of asking for a file. -/
structure Attempt where
  outcome : Outcome
  /-- Where the file is in the cache. -/
  localFile : Option Path := none
  /-- The repository that answered. -/
  repository : Option Json := none
  responseCode : Option Int := none
  message : String := ""

/-- What came of asking for a file, and of each repository that did not have it. -/
structure FetchStatus extends Attempt where
  errors : List (Json × Attempt) := []

/-- The file is in the cache. -/
def Attempt.isSuccess (a : Attempt) : Bool :=
  a.outcome = .foundInCache || a.outcome = .downloaded

/-- The file, if it is in the cache. -/
def Attempt.file? (a : Attempt) : Option Path := if a.isSuccess then a.localFile else none

/-- A mark for what needed no request. -/
def Attempt.fromCache (a : Attempt) : String :=
  if a.outcome = .foundInCache then " from cache" else ""

/-- Where artifacts come from: the cache directory, and repositories in order. -/
structure Source where
  cache : Path
  repositories : List Repository

namespace Source

/-- A source without repositories of its own has the public ones. -/
def ofRepositories (cache : Path) (repositories : List Repository) : Source :=
  ⟨cache, if repositories.isEmpty then Repository.defaults else repositories⟩

def urls (s : Source) : List Json := s.repositories.map Repository.url

/-- Where a file is kept in the cache. -/
def localFile (s : Source) (path : String) : Path := s.cache.joinText path

/-- The URL of a file in a repository, if a client takes it. -/
def address (r : Repository) (path : String) : Except Json.Fault String := match r.url with
  | .str base =>
    let url := String.ofList (Text.trimEnd '/' base.toList) ++ "/" ++ path
    if Web.refuses url then .error (.refusedUrl url) else .ok url
  | v => .error (.lacks v.kind "rstrip")

/-- The digest that is published beside a file: the first word of what the server sends. -/
def publishedDigest (url : String) : Action (Option String) := do
  match ← Action.request (url ++ ".sha1") with
  | .response 200 _ body =>
    return (Text.words (Text.Utf8.decodeLenient body)).head?.map Text.lower
  | _ => return none

/-- What an answer other than success says of a file. -/
def refusal (r : Repository) (url : String) : Reply → Attempt
  | .response status reason _ =>
    if status = 404 then
      { outcome := .notFound, repository := some r.id, responseCode := some 404
        message := url ++ " not found" }
    else
      { outcome := .fetchError, repository := some r.id, responseCode := some status
        message := reason }
  | .failure kind message =>
    { outcome := .fetchError, repository := some r.id, message := kind ++ ": " ++ message }

/-- What is said of a file that no repository has: the first answer that was not merely that
it is not there, if there is one. -/
def combinedFailure (s : Source) (path : String) (errors : List (Json × Attempt)) :
    Except Json.Fault FetchStatus :=
  match errors.find? fun e => e.2.outcome = .fetchError with
  | some (_, first) => .ok { first with errors := errors }
  | none => do
    let urls ← Json.joinTexts ", " s.urls
    return { outcome := .notFound, message := path ++ " not found in " ++ urls, errors := errors }

/-- Keeps what a repository sent, unless its published digest is another. -/
def keep (s : Source) (path : String) (r : Repository) (url : String) (body : ByteArray) :
    Action FetchStatus := do
  let published ← publishedDigest url
  match published with
  | some digest =>
    if digest ≠ Digest.sha1 body then
      return {
        outcome := .invalidHash, repository := some r.id
        message := "sha1 of " ++ url ++ " does not match the published checksum " ++ digest }
  | none => pure ()
  let file := s.localFile path
  Action.change fun fs => fs.replaceFile file body
  return { outcome := .downloaded, localFile := some file, repository := some r.id }

/-- Asks repositories in turn; `errors` tells what those before them answered. -/
def fetchFrom (s : Source) (path : String) (errors : List (Json × Attempt)) :
    List Repository → Action FetchStatus
  | [] => Action.ofExcept .value (s.combinedFailure path errors)
  | r :: rs => do
    let url ← Action.ofExcept .value (address r path)
    let reply ← Action.request url
    match reply with
    | .response 200 _ body => s.keep path r url body
    | reply =>
      if !r.id.isScalar then Action.fail (.value (.unhashable r.id.kind))
      else s.fetchFrom path (Json.putScalar r.id (refusal r url reply) errors) rs

/-- Gets a file into the cache. -/
def fetch (s : Source) (path : String) (snapshot : Bool) : Action FetchStatus := do
  let file := s.localFile path
  if ← Action.inspect fun fs => fs.pathExists file then
    return { outcome := .foundInCache, localFile := some file }
  s.fetchFrom path [] (s.repositories.filter fun r => r.admits snapshot)

end Source

end MavenImport
