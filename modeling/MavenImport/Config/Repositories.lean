/-
# Config.Repositories -- where artifacts are looked for

The tool's configuration names the workspace and lists repositories; the settings of the
environment list mirrors, each of which replaces the URL of the repository with its id.
Without configured repositories two public ones are used.  Ids and URLs are texts in any
useful configuration, but reading does not insist on it.
-/
import MavenImport.Json.Access

namespace MavenImport

set_option autoImplicit false

structure Repository where
  id : Json
  url : Json
  /-- Serves versions that do not change any more. -/
  releases : Bool := true
  /-- Serves versions that may still change. -/
  snapshots : Bool := false

structure Mirror where
  id : Json
  url : Json

structure ToolConfig where
  /-- The name of the workspace, null if there is none. -/
  workspaceName : Json := .null
  repositories : List Repository := []

namespace Repository

/-- The repositories that are used if none are configured. -/
def defaults : List Repository :=
  [{ id := .str "central", url := .str "https://repo1.maven.org/maven2" },
   { id := .str "google", url := .str "https://maven.google.com" }]

def ofJson (v : Json) : Except Json.Fault Repository := do
  let id ← v.member "id"
  let url ← v.member "url"
  let releases ← v.field? "releases"
  let snapshots ← v.field? "snapshots"
  return ⟨id, url, (releases.getD (.bool true)).truth, (snapshots.getD (.bool false)).truth⟩

/-- Whether a repository serves a version of the given kind. -/
def admits (r : Repository) (snapshot : Bool) : Bool := if snapshot then r.snapshots else r.releases

end Repository

def Mirror.ofJson (v : Json) : Except Json.Fault Mirror := do
  let id ← v.member "id"
  let url ← v.member "url"
  return ⟨id, url⟩

/-- Reads the values of a list that an object may have. -/
def readList {α : Type} (read : Json → Except Json.Fault α) (v : Json) (key : String) :
    Except Json.Fault (List α) := do
  let listed ← v.field? key
  (← (listed.getD (.arr [])).elements).mapM read

/-- The mirrors that settings list. -/
def readMirrors (v : Json) : Except Json.Fault (List Mirror) := readList Mirror.ofJson v "mirrors"

def ToolConfig.ofJson (v : Json) : Except Json.Fault ToolConfig := do
  let name ← v.fieldOrNull "name"
  let repositories ← readList Repository.ofJson v "repositories"
  return ⟨name, repositories⟩

/-- The URL of each mirrored id; of mirrors for one id the last counts. -/
def mirrorUrls : List (Json × Json) → List Mirror → Except Json.Fault (List (Json × Json))
  | urls, [] => .ok urls
  | urls, m :: ms =>
    if m.id.isScalar then mirrorUrls (Json.putScalar m.id m.url urls) ms
    else .error (.unhashable m.id.kind)

/-- A repository with the URL of its mirror, if there is one. -/
def Repository.mirrored (urls : List (Json × Json)) (r : Repository) :
    Except Json.Fault Repository :=
  if r.id.isScalar then .ok { r with url := (Json.findScalar r.id urls).getD r.url }
  else .error (.unhashable r.id.kind)

/-- The repositories to look in, in order. -/
def effectiveRepositories (config : ToolConfig) (mirrors : List Mirror) :
    Except Json.Fault (List Repository) := do
  let urls ← mirrorUrls [] mirrors
  let configured := if config.repositories.isEmpty then Repository.defaults
    else config.repositories
  configured.mapM (Repository.mirrored urls)

end MavenImport
