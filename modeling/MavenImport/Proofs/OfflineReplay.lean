/-
# Proofs.OfflineReplay -- what was resolved once is resolved again without a request

Every POM that a source has read is in its cache in the end, and is what it was when it was read,
as long as the paths of the files that it takes into the cache are clear (`Source.Orderly`).  So an
action that ended well is repeated by a source over the same cache with the same answer and the same
models, whatever its repositories and their servers are by then, and without a request or a change
of files (`Source.Repeats`).  In particular a coordinate is resolved again, and a payload that was
downloaded is found (`offline_replay`).

A path that goes up is another matter: it may come to a file that was read before, and replace it
(`climbing_replaces`).
-/
import MavenImport.Proofs.KeptFiles
import MavenImport.Proofs.ModelReplay

namespace MavenImport

open MavenImport.Action (Judgement Meets)
open Relation (ReflTransGen)

set_option autoImplicit false

namespace Source

/-- The path of a file is clear in the cache, unless the file is there. -/
def Orderly (s : Source) (f : FileSystem) (path : String) : Prop :=
  f.pathExists (s.localFile path) ≠ .ok true → f.Clear (s.localFile path)

/-- If a first action ends well, then it takes nothing from the files, and a second action, in a
world that has kept the files that it leaves, gives its answer and its models, and changes nothing
else.  The worlds are those that a source leads to from a first one while it resolves a
coordinate. -/
structure Repeats {α : Type} (s : Source) (w : World) (c : Coordinate)
    (a a' : Action (Except ResolutionFailure α)) (may : α → Prop) : Prop where
  meets : Meets (s.Remembers w (s.Refers w c) (s.MayKnow w c)) .any a may fun _ => False
  again : ∀ v x v', s.Remembers w (s.Refers w c) (s.MayKnow w c) v → w.files.Keeps v.files →
    a.perform v = (.ok (.ok x), v') →
    v.files.Keeps v'.files ∧ ∀ u, v'.files.Keeps u.files → u.models = v.models →
      a'.perform u = (.ok (.ok x), { u with models := v'.models })

/-- Over files that have kept these, a fresh source resolves a coordinate to an artifact, whatever
servers answer, and changes nothing but the models that it keeps. -/
def Recalls (s : Source) (f : FileSystem) (c : Coordinate) (a : ResolvedArtifact) : Prop :=
  ∀ u : World, f.Keeps u.files → u.models = ⟨[]⟩ →
    ∃ models, (s.resolve c).perform u = (.ok (.ok a), { u with models := models })

/-- Over files that have kept these, the payload of an artifact is found in the cache, and nothing
changes. -/
def HasPayload (s : Source) (f : FileSystem) (a : ResolvedArtifact) : Prop :=
  ∀ u : World, f.Keeps u.files → ∃ status, (s.download a).perform u = (.ok status, u) ∧
    status.outcome = .foundInCache ∧ status.localFile = some (s.localFile a.mainPath)

end Source

variable {s s' : Source} {f : FileSystem}

/-! ## Fetching -/

section Fetch

variable {path : String} {snapshot : Bool}

theorem localFile_shared (shared : s'.cache = s.cache) : s'.localFile path = s.localFile path := by
  unfold Source.localFile
  rw [shared]

/-- A file that was fetched is in the cache from then on, and nothing was taken away for it. -/
theorem fetch_kept {v v' : World} {status : FetchStatus} {file : Path} (kept : f.Keeps v.files)
    (fetched : (s.fetch path snapshot).perform v = (.ok status, v'))
    (found : status.localFile = some file) (orderly : s.Orderly f path) :
    v.files.Keeps v'.files ∧ v'.models = v.models ∧ file = s.localFile path ∧
      v'.files.pathExists file = .ok true := by
  rcases fetch_cases fetched with ⟨present, rfl, rfl⟩ | ⟨absent, requested, ⟨-, lost, -⟩ |
    ⟨body, files, written, -, place, rfl⟩⟩
  · cases found
    exact ⟨keeps_refl kept.formed, rfl, rfl, present⟩
  · rw [lost] at found
    cases found
  · have clear : f.Clear (s.localFile path) := orderly fun present => by
      rw [pathExists_keeps kept present] at absent
      cases absent
    obtain ⟨keeps, readable⟩ :=
      replaceFile_keeps kept.formed (clear_keeps kept clear) absent written
    rw [place] at found
    cases found
    exact ⟨keeps, rfl, rfl, Source.pathExists_of_readFile readable⟩

theorem fetch_cached {u : World} (present : u.files.pathExists (s.localFile path) = .ok true) :
    (s.fetch path snapshot).perform u
      = (.ok { outcome := .foundInCache, localFile := some (s.localFile path) }, u) := by
  rw [fetch_eq, present]

/-- A file that counts as fetched has a place in the cache. -/
theorem fetch_success {v v' : World} {status : FetchStatus}
    (fetched : (s.fetch path snapshot).perform v = (.ok status, v'))
    (success : status.isSuccess = true) : status.localFile = some (s.localFile path) := by
  rcases fetch_cases fetched with ⟨-, -, rfl⟩ | ⟨-, requested, ⟨failed, -⟩ | ⟨_, _, -, -, place, -⟩⟩
  · rfl
  · rw [failed] at success
    cases success
  · exact place

end Fetch

/-! ## Repeating -/

section Repeats

variable {α β : Type} {w : World} {c : Coordinate} {may : α → Prop}

theorem repeats_value {x : α} (allowed : may x) :
    s.Repeats w c (pure (.ok x)) (pure (.ok x)) may where
  meets := Action.meets_pure allowed fun _ required => required.elim
  again v y v' _ kept ended := by
    cases ended
    refine ⟨keeps_refl kept.formed, fun u _ same => ?_⟩
    rw [Action.perform_pure, ← same]

/-- What fails is not repeated. -/
theorem repeats_failure (failure failure' : ResolutionFailure) :
    s.Repeats w c (pure (.error failure)) (pure (.error failure')) may where
  meets := Action.meets_failure trivial
  again _ _ _ _ _ ended := by cases ended

/-- A sequence is repeated if both parts are, one after the other. -/
theorem repeats_bind {a a' : Action (Except ResolutionFailure α)} {may' : β → Prop}
    {g g' : Except ResolutionFailure α → Action (Except ResolutionFailure β)}
    (first : s.Repeats w c a a' may) (fails : ∀ e, g (.error e) = pure (.error e))
    (second : ∀ x, may x → s.Repeats w c (g (.ok x)) (g' (.ok x)) may') :
    s.Repeats w c (a >>= g) (a' >>= g') may' where
  meets := by
    refine Action.meets_bind first.meets fails (fun x allowed => ?_) fun _ required => required.elim
    exact Action.meets_mono (second x allowed).meets (fun _ => id) fun _ required => required.2
  again v x v' remembers kept ended := by
    obtain ⟨failure | y, t, run, ended⟩ := Action.perform_bind_ok.mp ended
    · rw [fails failure] at ended
      cases ended
    · have allowed := first.meets.sound v remembers y (by rw [run])
      have remembers' := first.meets.keeps v remembers
      rw [run] at remembers'
      obtain ⟨keeps, repeated⟩ := first.again v y t remembers kept run
      obtain ⟨keeps', repeated'⟩ :=
        (second y allowed).again t x v' remembers' (keeps_trans kept keeps) ended
      refine ⟨keeps_trans keeps keeps', fun u later same => ?_⟩
      rw [Action.perform_bind, repeated u (keeps_trans keeps' later) same]
      exact repeated' { u with models := t.models } later rfl

/-- Being repeated, as a judgement. -/
def Source.repetition (s : Source) (w : World) (c : Coordinate) : Judgement ResolutionFailure where
  Holds a a' may _ := s.Repeats w c a a' may
  value allowed _ := repeats_value allowed
  sequence first fails _ second _ := repeats_bind first fails second
  weaken repeats allowed _ :=
    ⟨Action.meets_mono repeats.meets allowed fun _ => id, repeats.again⟩

end Repeats

/-! ## Models -/

section Models

theorem loadPom_ok {c : Coordinate} {v v' : World} {pom : Pom}
    (loaded : (s.loadPom c).perform v = (.ok (.ok pom), v')) : ∃ status file bytes,
      (s.fetch (artifactPath c "pom" none) c.isSnapshot).perform v = (.ok status, v') ∧
      status.localFile = some file ∧ v'.files.readFile file = .ok bytes ∧
      Pom.ofBytes bytes = .ok pom := by
  obtain ⟨status, t, fetched, loaded⟩ := Action.perform_bind_ok.mp loaded
  split at loaded
  · cases loaded
  · rename_i file found
    obtain ⟨bytes, t', readable, loaded⟩ := Action.perform_bind_ok.mp loaded
    rw [Action.perform_inspect] at readable
    cases content : t.files.readFile file with
    | error fault =>
        rw [content] at readable
        cases readable
    | ok bytes' =>
        rw [content] at readable
        cases readable
        split at loaded
        · rename_i pom' parsed
          cases loaded
          exact ⟨status, file, bytes, fetched, found, content, parsed⟩
        · cases loaded
        · cases loaded

theorem loadPom_cached {c : Coordinate} {u : World} {bytes : ByteArray} {pom : Pom}
    (readable : u.files.readFile (s.localFile (artifactPath c "pom" none)) = .ok bytes)
    (parsed : Pom.ofBytes bytes = .ok pom) : (s.loadPom c).perform u = (.ok (.ok pom), u) := by
  unfold Source.loadPom
  rw [Action.perform_bind, fetch_cached (Source.pathExists_of_readFile readable)]
  dsimp only
  rw [Action.perform_bind, Action.perform_inspect, readable]
  dsimp only [Action.mapError_ok]
  rw [parsed]
  rfl

/-- A POM that was read is in the cache, and is read there again. -/
theorem loadPom_again (shared : s'.cache = s.cache) {w v v' : World} {c : Coordinate} {pom : Pom}
    (orderly : s.Orderly w.files (artifactPath c "pom" none)) (kept : w.files.Keeps v.files)
    (loaded : (s.loadPom c).perform v = (.ok (.ok pom), v')) :
    v.files.Keeps v'.files ∧ ∀ u, v'.files.Keeps u.files → u.models = v.models →
      (s'.loadPom c).perform u = (.ok (.ok pom), { u with models := v'.models }) := by
  obtain ⟨status, file, bytes, fetched, found, readable, parsed⟩ := loadPom_ok loaded
  obtain ⟨keeps, models, own, -⟩ := fetch_kept kept fetched found orderly
  rw [own] at readable
  refine ⟨keeps, fun u later same => ?_⟩
  have readable' : u.files.readFile (s'.localFile (artifactPath c "pom" none)) = .ok bytes := by
    rw [localFile_shared shared]
    exact readFile_keeps later readable
  rw [loadPom_cached readable' parsed, models, ← same]

/-- A source puts models together again, beside another one over the same cache: POMs are read
again, and a model is kept both times or is put together both times. -/
theorem repeats_upholds (shared : s'.cache = s.cache) {w : World} {c : Coordinate}
    (orderly : ∀ d, s.Refers w c d → s.Orderly w.files (artifactPath d "pom" none)) :
    s.Upholds s' (s.repetition w c)
      (s.givenTerms w (s.Refers w c) fun d m => s.MayKnow w c d.text m) := by
  have meets := Source.carries_upholds (Source.carries_any (Source.refers_carries s w c))
  constructor
  case loads =>
    exact fun d refers => ⟨meets.loads d refers, fun _ _ _ _ kept loaded =>
      loadPom_again shared (orderly d refers) kept loaded⟩
  case keeps =>
    refine fun d m refers allowed =>
      ⟨Action.meets_mono (meets.keeps d m refers allowed) (fun _ => id) nofun, ?_⟩
    intro v x v' _ kept ended
    cases ended
    refine ⟨keeps_refl kept.formed, fun u _ same => ?_⟩
    show _ = (_, { u with models := v.models.put d.text m })
    rw [← same]
    rfl
  case looks =>
    refine fun n d a a' refers repeats => ⟨meets.looks n d a a' refers repeats.meets, ?_⟩
    intro v x v' remembers kept ended
    cases found : v.models.find? d.text with
    | some m =>
        rw [Source.lookUp_found found] at ended
        cases ended
        refine ⟨keeps_refl kept.formed, fun u _ same => ?_⟩
        rw [Source.lookUp_found (same ▸ found), ← same]
    | none =>
        rw [Source.lookUp_missing found] at ended
        obtain ⟨keeps, repeated⟩ := repeats.again v x v' remembers kept ended
        refine ⟨keeps, fun u later same => ?_⟩
        rw [Source.lookUp_missing (same ▸ found)]
        exact repeated u later same
  case deep => exact fun d _ => repeats_failure (s.tooDeep d) (s'.tooDeep d)

theorem resolve_repeats (shared : s'.cache = s.cache) {w : World} {c : Coordinate}
    (orderly : ∀ d, s.Refers w c d → s.Orderly w.files (artifactPath d "pom" none)) :
    s.Repeats w c (s.resolve c) (s'.resolve c)
      fun a => ∃ m, s.MayKnow w c c.text m ∧ a = m.resolved c :=
  Source.resolve_holds (Source.refers_carries s w c).closed (repeats_upholds shared orderly)
    (Source.refers_self s w c)

end Models

/-! ## Without servers -/

/-- What a fresh source resolves, over whatever files there are, is resolved again by every fresh
source over its cache, and what it downloads is found.  Nothing is requested or changed for it, and
everything that there was is kept. -/
theorem offline_replay (s s' : Source) (shared : s'.cache = s.cache) (c : Coordinate)
    (w v : World) (formed : w.files.Formed) (fresh : w.models = ⟨[]⟩) (a : ResolvedArtifact)
    (resolved : (s.resolve c).perform w = (.ok (.ok a), v))
    (orderly : ∀ d, s.Refers w c d → s.Orderly w.files (artifactPath d "pom" none)) :
    (w.files.Keeps v.files ∧ s'.Recalls v.files c a) ∧
      ∀ status v', (s.download a).perform v = (.ok status, v') → status.isSuccess = true →
        s.Orderly w.files a.mainPath →
          w.files.Keeps v'.files ∧ s'.Recalls v'.files c a ∧ s'.HasPayload v'.files a := by
  obtain ⟨keeps, repeated⟩ := (resolve_repeats shared orderly).again w a v
    (Source.remembers_known s w c) (keeps_refl formed) resolved
  have recalls : ∀ g, v.files.Keeps g → s'.Recalls g c a := fun g later u later' fresh' =>
    ⟨v.models, repeated u (keeps_trans later later') (fresh'.trans fresh.symm)⟩
  refine ⟨⟨keeps, recalls v.files (keeps_refl keeps.formed)⟩, ?_⟩
  intro status v' downloaded success orderly'
  obtain ⟨keeps', -, -, present⟩ :=
    fetch_kept keeps downloaded (fetch_success downloaded success) orderly'
  refine ⟨keeps_trans keeps keeps', recalls v'.files keeps', fun u later => ?_⟩
  have present' : u.files.pathExists (s'.localFile a.mainPath) = .ok true := by
    rw [localFile_shared shared]
    exact pathExists_keeps later present
  exact ⟨_, fetch_cached present', rfl, rfl⟩

/-! ### A child and its parent, without servers -/

namespace Offline

def child : Coordinate := ⟨"g", "a", "1"⟩

def parent : Coordinate := ⟨"g", "p", "1"⟩

def artifact : ResolvedArtifact := ⟨child, "jar", []⟩

def source : Source := ⟨.ofString "/cache", [{ id := .str "r", url := .str "http://r/" }]⟩

/-- Another source over the same cache. -/
def offline : Source := .ofRepositories (.ofString "/cache") []

/-- The servers of a child, its parent and its library. -/
def web : Web := ⟨[
  ("http://r/g/a/1/a-1.pom", .response 200 "OK" ("<project><parent><groupId>g</groupId>"
    ++ "<artifactId>p</artifactId><version>1</version></parent></project>").toUTF8),
  ("http://r/g/p/1/p-1.pom", .response 200 "OK" "<project/>".toUTF8),
  ("http://r/g/a/1/a-1.jar", .response 200 "OK" "x".toUTF8)]⟩

def world : World := ⟨.empty [], web, [], ⟨0, []⟩, ⟨[]⟩, "0"⟩

theorem plain : world.files.Plain := empty_plain

def childPom : Pom := ⟨"g", "", some "1", "jar", ⟨some "g", some "p", some "1"⟩, ⟨[]⟩, [], []⟩

def parentPom : Pom := ⟨"", "", none, "jar", ⟨none, none, none⟩, ⟨[]⟩, [], []⟩

theorem offers_child : source.offered world child = some childPom := by
  have delivered : (source.held? world.files child.pomFile).or
      (source.delivered? world.web child.pomFile)
        = some ("<project><parent><groupId>g</groupId>"
          ++ "<artifactId>p</artifactId><version>1</version></parent></project>").toUTF8 := by
    rfl
  rw [Source.offered, delivered, Option.bind_some, Pom.ofBytes_plain (ofList_pieces rfl rfl)
    (by decide) (by decide) (by decide +kernel : _ = some childPom)]
  rfl

theorem offers_parent : source.offered world parent = some parentPom := by
  have delivered : (source.held? world.files parent.pomFile).or
      (source.delivered? world.web parent.pomFile) = some "<project/>".toUTF8 := by rfl
  rw [Source.offered, delivered, Option.bind_some, Pom.ofBytes_plain rfl (by decide) (by decide)
    (by decide : _ = some parentPom)]
  rfl

/-- The child leads to the parent, and the parent to nothing. -/
theorem leads_cases {d e : Coordinate} (leads : StoreLeads (source.offered world) d e) :
    (d = child → e = parent) ∧ d ≠ parent := by
  obtain ⟨pom, offered, names⟩ := leads
  constructor <;> rintro rfl
  · cases offers_child.symm.trans offered
    cases names with
    | parent named => exact (Option.some.inj named).symm
    | imported _ listed _ => cases listed
  · cases offers_parent.symm.trans offered
    cases names with
    | parent named => cases named
    | imported _ listed _ => cases listed

theorem leads_from_child {d : Coordinate}
    (leads : ReflTransGen (StoreLeads (source.offered world)) child d) : d = child ∨ d = parent := by
  induction leads with
  | refl => exact .inl rfl
  | tail _ leads ih =>
      rcases ih with rfl | rfl
      · exact .inr ((leads_cases leads).1 rfl)
      · exact absurd rfl (leads_cases leads).2

theorem child_family : child.ProperFamily (source.offered world) := by
  intro d leads
  rcases leads_from_child leads with rfl | rfl <;> decide

/-- Neither of the two POMs has a path that goes up. -/
theorem orderly (d : Coordinate) (refers : source.Refers world child d) :
    source.Orderly world.files (artifactPath d "pom" none) := by
  have straight : source.cache.Straight := by decide
  have leads := refers_family straight plain rfl child_family refers
  refine fun _ => clear_straight plain ?_
  rcases leads_from_child leads with rfl | rfl <;> decide

end Offline

/-- The child is resolved and its library downloaded; then neither needs a server. -/
theorem child_replayed : ∃ v status v',
    (Offline.source.resolve Offline.child).perform Offline.world
        = (.ok (.ok Offline.artifact), v) ∧
      (Offline.source.download Offline.artifact).perform v = (.ok status, v') ∧
      status.outcome = .downloaded ∧
      Offline.offline.Recalls v'.files Offline.child Offline.artifact ∧
      Offline.offline.HasPayload v'.files Offline.artifact := by
  have checked :
      let first := (Offline.source.resolve Offline.child).perform Offline.world
      let second := (Offline.source.download Offline.artifact).perform first.2
      first.1.toOption.bind Except.toOption = some Offline.artifact ∧
        second.1.toOption.map (fun status => status.outcome) = some .downloaded := by
    decide +kernel
  rcases resolved : (Offline.source.resolve Offline.child).perform Offline.world with ⟨answer, v⟩
  rw [resolved] at checked
  rcases downloaded : (Offline.source.download Offline.artifact).perform v with ⟨answer', v'⟩
  simp only [downloaded] at checked
  obtain ⟨given, outcome⟩ := checked
  rcases answer with fault | failure | a <;> cases given
  rcases answer' with fault | status
  · cases outcome
  have outcome : status.outcome = .downloaded := Option.some.inj outcome
  obtain ⟨-, replayed⟩ := offline_replay Offline.source Offline.offline rfl Offline.child
    Offline.world v Offline.plain.toFormed rfl Offline.artifact resolved Offline.orderly
  obtain ⟨-, recalls, payload⟩ := replayed status v' downloaded
    (by simp [Attempt.isSuccess, outcome])
    fun _ => clear_straight Offline.plain (by decide)
  exact ⟨v, status, v', rfl, downloaded, outcome, recalls, payload⟩

/-! ### A parent whose path leads to the child -/

namespace Climbing

/-- The servers of a child and of a parent whose name goes up.  A client goes up no further than to
the root, and in the files the way leads on above the cache. -/
def web : Web := ⟨[
  ("http://r/g/a/1/a-1.pom", .response 200 "OK" ("<project><parent><groupId>p.p.p.p.p</groupId>"
    ++ "<artifactId>y/../../../../../../../cache/g/a/1/a</artifactId><version>1</version></parent>"
    ++ "</project>").toUTF8),
  ("http://r/cache/g/a/1/a-1.pom", .response 200 "OK"
    "<project><packaging>war</packaging></project>".toUTF8)]⟩

def world : World := { Offline.world with web := web }

end Climbing

/-- The POM of the parent takes the place of that of the child: nothing is there under its path,
until the directories below `p` are made to store it. -/
theorem climbing_replaces :
    let first := (Offline.source.resolve Offline.child).perform Climbing.world
    let again := (Offline.source.resolve Offline.child).perform { first.2 with models := ⟨[]⟩ }
    first.1.toOption.bind Except.toOption = some ⟨Offline.child, "jar", []⟩ ∧
      again.1.toOption.bind Except.toOption = some ⟨Offline.child, "war", []⟩ := by
  decide +kernel

end MavenImport
