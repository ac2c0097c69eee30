/-
# Proofs.ModelMemo -- keeping models does not change them

A source keeps every model that it puts together, and takes it from there when it is needed
again, at whatever depth and in whatever later call.  While the POMs stay the same, every model
kept is that of a merge without a memo (`Source.Sound`), and this lasts through every call,
however it ends.  So what a source resolves is what the merge gives (`resolve_meets`), and
nothing that would need itself is ever resolved.

The coordinates must be told apart by their texts, under which the models are kept; for this it
is enough that no part of one holds a colon (`Coordinate.Plain`).
-/
import MavenImport.Proofs.CoordinateLaws
import MavenImport.Proofs.ModelWalk
import MavenImport.Proofs.PlainDocuments

namespace MavenImport

open MavenImport.Action (Keeps Meets)
open Relation (ReflTransGen TransGen)

set_option autoImplicit false

/-! ## Where POMs come from -/

/-- The POM that an answer gives. -/
def loaded? : Except Fault (Except ResolutionFailure Pom) → Option Pom
  | .ok (.ok pom) => some pom
  | _ => none

theorem loaded_eq_some {answer : Except Fault (Except ResolutionFailure Pom)} {pom : Pom} :
    loaded? answer = some pom ↔ answer = .ok (.ok pom) := by
  rcases answer with fault | failure | found <;> simp [loaded?]

namespace Source

variable {s : Source} {w : World} {store : Coordinate → Option Pom}

/-- The worlds that a source can lead to: it asks for the POMs of some coordinates and keeps
models. -/
inductive ComesTo (s : Source) (w : World) (among : Coordinate → Prop) : World → Prop
  | start : ComesTo s w among w
  | loads {v : World} (before : ComesTo s w among v) (c : Coordinate) (listed : among c) :
      ComesTo s w among ((s.loadPom c).perform v).2
  | keeps {v : World} (before : ComesTo s w among v) (models : Table String Model) :
      ComesTo s w among { v with models := models }

/-- The worlds that a source can lead to, whatever POMs it asks for. -/
abbrev Visits (s : Source) (w : World) : World → Prop := s.ComesTo w fun _ => True

/-- Wherever the source leads, asking for the POM of a coordinate has the outcome that the store
says. -/
def Serves (s : Source) (w : World) (store : Coordinate → Option Pom) : Prop :=
  ∀ v, s.Visits w v → ∀ c, loaded? ((s.loadPom c).perform v).1 = store c

/-- The world after calls in turn. -/
def after (s : Source) (w : World) : List Coordinate → World
  | [] => w
  | c :: calls => s.after ((s.resolve c).perform w).2 calls

/-- Every model that a world keeps is one that may be kept under its key. -/
structure Remembers (s : Source) (w : World) (among : Coordinate → Prop)
    (may : String → Model → Prop) (v : World) : Prop where
  visited : s.ComesTo w among v
  kept : ∀ key m, v.models.find? key = some m → may key m

/-- Every model kept is that of a coordinate with the text it is kept under. -/
def Sound (s : Source) (w : World) (store : Coordinate → Option Pom) : World → Prop :=
  s.Remembers w (fun _ => True)
    fun key m => ∃ c : Coordinate, c.Plain ∧ c.text = key ∧ Merges store c m

theorem comesTo_mono {among among' : Coordinate → Prop} (wider : ∀ c, among c → among' c) {v : World}
    (comes : s.ComesTo w among v) : s.ComesTo w among' v := by
  induction comes with
  | start => exact .start
  | loads _ c listed ih => exact .loads ih c (wider c listed)
  | keeps _ models ih => exact .keeps ih models

section Remembers

variable {among : Coordinate → Prop} {may : String → Model → Prop}

theorem remembers_start (fresh : w.models = ⟨[]⟩) : s.Remembers w among may w where
  visited := .start
  kept key m found := by rw [fresh] at found; cases found

theorem remembers_keep {v : World} (remembers : s.Remembers w among may v) {key : String}
    {m : Model} (allowed : may key m) :
    s.Remembers w among may { v with models := v.models.put key m } where
  visited := .keeps remembers.visited _
  kept key' m' found := by
    rw [Table.find?_put] at found
    split at found
    · next same =>
        cases found
        exact same ▸ allowed
    · exact remembers.kept key' m' found

end Remembers

/-- A model kept under the text of a plain coordinate is the model of that coordinate. -/
theorem sound_find {v : World} (sound : s.Sound w store v) {c : Coordinate} (plain : c.Plain)
    {m : Model} (found : v.models.find? c.text = some m) : Merges store c m := by
  obtain ⟨d, plain', same, merges⟩ := sound.kept _ _ found
  rwa [← text_injective plain' plain same]

/-! ## Asking for a POM keeps no model -/

theorem publishedDigest_keeps_models (url : String) :
    Keeps World.models (publishedDigest url) := by
  refine Action.keeps_bind (fun _ => rfl) fun reply => ?_
  split <;> exact Action.keeps_pure _

theorem keep_keeps_models (path : String) (r : Repository) (url : String) (body : ByteArray) :
    Keeps World.models (s.keep path r url body) := by
  have kept : Keeps World.models (do
      let file := s.localFile path
      Action.change fun fs => fs.replaceFile file body
      return ({ outcome := .downloaded, localFile := some file, repository := some r.id } :
        FetchStatus)) := by
    refine Action.keeps_bind (fun w => ?_) fun _ => Action.keeps_pure _
    rw [Action.perform_change]
    split <;> rfl
  refine Action.keeps_bind (publishedDigest_keeps_models url) fun published => ?_
  cases published with
  | none => exact kept
  | some digest =>
      dsimp only
      split
      · exact Action.keeps_pure _
      · exact kept

theorem fetchFrom_keeps_models (path : String) :
    ∀ (rs : List Repository) (errors : List (Json × Attempt)),
      Keeps World.models (s.fetchFrom path errors rs)
  | [], _ => Action.keeps_ofExcept _ _
  | r :: rs, errors => by
      refine Action.keeps_bind (Action.keeps_ofExcept _ _) fun url => ?_
      refine Action.keeps_bind (fun _ => rfl) fun reply => ?_
      split
      · exact keep_keeps_models path r url _
      · split
        · exact Action.keeps_fail _
        · exact fetchFrom_keeps_models path rs _

theorem loadPom_keeps_models (c : Coordinate) : Keeps World.models (s.loadPom c) := by
  refine Action.keeps_bind ?_ fun status => ?_
  · refine Action.keeps_bind (Action.keeps_inspect _) fun found => ?_
    split
    · exact Action.keeps_pure _
    · exact fetchFrom_keeps_models _ _ _
  · split
    · exact Action.keeps_pure _
    · refine Action.keeps_bind (Action.keeps_inspect _) fun bytes => ?_
      split
      · exact Action.keeps_pure _
      · exact Action.keeps_pure _
      · exact Action.keeps_fail _

/-- After the file of a POM is fetched it is only read. -/
theorem loadPom_leaves (c : Coordinate) (v : World) :
    ((s.loadPom c).perform v).2
      = ((s.fetch (artifactPath c "pom" none) c.isSnapshot).perform v).2 := by
  unfold loadPom
  rw [Action.perform_bind]
  rcases (s.fetch (artifactPath c "pom" none) c.isSnapshot).perform v with ⟨fault | status, t⟩
  · rfl
  · dsimp only
    split
    · rfl
    · next file found =>
        rw [Action.perform_bind, Action.perform_inspect]
        cases t.files.readFile file with
        | error fault => rfl
        | ok bytes =>
            dsimp only [Action.mapError_ok]
            split <;> rfl

/-- Asking for a POM leaves the models that are kept. -/
theorem remembers_load {among : Coordinate → Prop} {may : String → Model → Prop} {v : World}
    (remembers : s.Remembers w among may v) {c : Coordinate} (listed : among c) :
    s.Remembers w among may ((s.loadPom c).perform v).2 where
  visited := .loads remembers.visited c listed
  kept := by
    rw [loadPom_keeps_models c v]
    exact remembers.kept

/-! ## Every model is that of the merge -/

section Memo

variable (serves : s.Serves w store)
include serves

theorem loadPom_meets (c : Coordinate) :
    Meets (s.Sound w store) .any (s.loadPom c) (store c = some ·) (store c = some ·) where
  keeps v sound := remembers_load sound trivial
  sound v sound pom answered := by
    rw [← serves v sound.visited c, answered]
    rfl
  complete v sound pom stored := by
    rw [← serves v sound.visited c] at stored
    exact loaded_eq_some.mp stored
  fails _ _ _ _ := trivial
  stops _ _ _ _ := trivial

omit serves in
/-- The terms of a merge: a POM is the one stored, a model is that of the merge, and there is one
if the merge nests few enough. -/
def mergeTerms (store : Coordinate → Option Pom) : Terms where
  reach := Coordinate.Plain
  given c pom := store c = some pom
  may := Merges store
  stored c pom := store c = some pom
  must := MergesWithin store

omit serves in
theorem mergeTerms_closed (plain : ∀ c d, Asks store c d → d.Plain) :
    (mergeTerms store).Closed where
  leads c pom c' _ stored names := plain c c' ⟨pom, stored, names⟩
  merges _ _ _ _ stored merges := merges_of_pom stored merges
  stored _ _ _ stored stored' := Option.some.inj (stored'.symm.trans stored)
  required n _ _ _ merges within := merges_unique ⟨n, within⟩ merges
  allowed n _ _ within := ⟨n, within⟩
  shallow _ _ within := within.elim
  nested _ _ _ within := within

/-- If the models that a POM refers to are those of their merges, then so is the model that is put
together from them. -/
theorem sound_carries (plain : ∀ c d, Asks store c d → d.Plain) :
    s.Carries (s.Sound w store) .any (mergeTerms store) where
  closed := mergeTerms_closed plain
  loads c _ := loadPom_meets serves c
  keeps _ c _ sound isPlain merges := remembers_keep sound ⟨c, isPlain, rfl, merges⟩
  found _ _ _ sound isPlain found := sound_find sound isPlain found
  deep _ _ := trivial

theorem resolve_meets (plain : ∀ c d, Asks store c d → d.Plain) {c : Coordinate}
    (isPlain : c.Plain) :
    Meets (s.Sound w store) .any (s.resolve c) (fun a => ∃ m, Merges store c m ∧ a = m.resolved c)
      fun a => ∃ m, MergesWithin store maxNesting c m ∧ a = m.resolved c :=
  resolve_carries (sound_carries serves plain) isPlain

theorem sound_after (plain : ∀ c d, Asks store c d → d.Plain) :
    ∀ (calls : List Coordinate) (v : World), (∀ c ∈ calls, c.Plain) → s.Sound w store v →
      s.Sound w store (s.after v calls)
  | [], _, _, sound => sound
  | c :: calls, v, callsPlain, sound => by
      have first := (resolve_meets serves plain (callsPlain c List.mem_cons_self)).keeps v sound
      exact sound_after plain calls _
        (fun d listed => callsPlain d (List.mem_cons_of_mem c listed)) first

end Memo

/-! ## A source whose servers are silent -/

/-- The answer and the files left depend on the files and the servers alone, and both stay. -/
def Reads {α : Type} (w : World) (a : Action α) : Prop :=
  ∀ v : World, v.files = w.files → v.web = w.web →
    (a.perform v).1 = (a.perform w).1 ∧ (a.perform v).2.files = w.files ∧
      (a.perform v).2.web = w.web

section Silent

variable {α β : Type}

theorem reads_pure (x : α) : Reads w (pure x) := fun _ files web => ⟨rfl, files, web⟩

theorem reads_ofExcept {ε : Type} (fault : ε → Fault) (x : Except ε α) :
    Reads w (Action.ofExcept fault x) := by
  intro v files web
  rw [Action.perform_ofExcept, Action.perform_ofExcept]
  exact ⟨rfl, files, web⟩

theorem reads_inspect (read : FileSystem → Except Files.Fault α) :
    Reads w (Action.inspect read) := by
  intro v files web
  rw [Action.perform_inspect, Action.perform_inspect]
  exact ⟨by rw [files], files, web⟩

theorem reads_request (url : String) : Reads w (Action.request url) := by
  intro v files web
  refine ⟨?_, files, web⟩
  rw [Action.perform_request, Action.perform_request, web]

theorem reads_bind {a : Action α} {f : α → Action β} (first : Reads w a)
    (second : ∀ x, (a.perform w).1 = .ok x → Reads w (f x)) : Reads w (a >>= f) := by
  intro v files web
  obtain ⟨same, files', web'⟩ := first v files web
  obtain ⟨-, filesW, webW⟩ := first w rfl rfl
  rw [Action.perform_bind, Action.perform_bind]
  rcases runV : a.perform v with ⟨answer, v'⟩
  rcases runW : a.perform w with ⟨answer', w'⟩
  rw [runV] at same files' web'
  rw [runW] at same filesW webW
  cases same
  cases answer with
  | error fault => exact ⟨rfl, files', web'⟩
  | ok x =>
      have rest := second x (by rw [runW])
      obtain ⟨sameV, left⟩ := rest v' files' web'
      obtain ⟨sameW, -⟩ := rest w' filesW webW
      exact ⟨sameV.trans sameW.symm, left⟩

theorem fetchFrom_reads (silent : ∀ url reason body, w.web.reply url ≠ .response 200 reason body)
    (path : String) : ∀ (rs : List Repository) (errors : List (Json × Attempt)),
      Reads w (s.fetchFrom path errors rs)
  | [], _ => reads_ofExcept _ _
  | r :: rs, errors => by
      refine reads_bind (reads_ofExcept _ _) fun url _ => ?_
      refine reads_bind (reads_request url) fun reply answered => ?_
      split
      · next reason body =>
          exact absurd (Except.ok.inj answered) (silent url reason body)
      · split
        · exact fun _ files web => ⟨rfl, files, web⟩
        · exact fetchFrom_reads silent path rs _

theorem fetch_reads (silent : ∀ url reason body, w.web.reply url ≠ .response 200 reason body)
    (path : String) (snapshot : Bool) : Reads w (s.fetch path snapshot) := by
  refine reads_bind (reads_inspect _) fun found _ => ?_
  split
  · exact reads_pure _
  · exact fetchFrom_reads silent _ _ _

theorem loadPom_reads (silent : ∀ url reason body, w.web.reply url ≠ .response 200 reason body)
    (c : Coordinate) : Reads w (s.loadPom c) := by
  refine reads_bind (fetch_reads silent _ _) fun status _ => ?_
  split
  · exact reads_pure _
  · refine reads_bind (reads_inspect _) fun bytes _ => ?_
    split
    · exact reads_pure _
    · exact reads_pure _
    · exact fun _ files web => ⟨rfl, files, web⟩

/-- As long as no server sends a file, the POMs stay what they are. -/
theorem serves_of_silent
    (silent : ∀ url reason body, w.web.reply url ≠ .response 200 reason body) :
    s.Serves w fun c => loaded? ((s.loadPom c).perform w).1 := by
  have still : ∀ v, s.Visits w v → v.files = w.files ∧ v.web = w.web := by
    intro v visited
    induction visited with
    | start => exact ⟨rfl, rfl⟩
    | loads _ c _ ih => exact (loadPom_reads silent c _ ih.1 ih.2).2
    | keeps _ _ ih => exact ih
  intro v visited c
  rw [(loadPom_reads silent c v (still v visited).1 (still v visited).2).1]

theorem pathExists_of_readFile {fs : FileSystem} {p : Path} {bytes : ByteArray}
    (readable : fs.readFile p = .ok bytes) : fs.pathExists p = .ok true := by
  unfold FileSystem.readFile at readable
  unfold FileSystem.pathExists
  split at readable
  · cases readable
  all_goals
    next found => rw [found]

theorem content_of_readFile {fs : FileSystem} {p : Path} {bytes : ByteArray}
    (readable : fs.readFile p = .ok bytes) : ∃ inode, bytes = fs.content inode := by
  unfold FileSystem.readFile at readable
  split at readable
  · cases readable
  · cases readable
  · next inode _ =>
      cases readable
      exact ⟨inode, rfl⟩
  · cases readable

/-- A POM in the cache is the one that the source gives. -/
theorem loaded_of_readFile {c : Coordinate} {bytes : ByteArray}
    (readable : w.files.readFile (s.localFile (artifactPath c "pom" none)) = .ok bytes) :
    loaded? ((s.loadPom c).perform w).1 = (Pom.ofBytes bytes).toOption := by
  have found := pathExists_of_readFile readable
  have fetched : (s.fetch (artifactPath c "pom" none) c.isSnapshot).perform w = (.ok
      { outcome := .foundInCache, localFile := some (s.localFile (artifactPath c "pom" none)) },
      w) := by
    rw [fetch, Action.perform_bind, Action.perform_inspect, found]
    rfl
  rw [loadPom, Action.perform_bind, fetched]
  dsimp only
  rw [Action.perform_bind, Action.perform_inspect, readable]
  have read : (Except.ok bytes : Except Files.Fault ByteArray).mapError Fault.file = .ok bytes :=
    rfl
  rw [read]
  dsimp only
  cases parsed : Pom.ofBytes bytes with
  | ok pom => rfl
  | error fault => cases fault <;> rfl

/-- Whatever POM a source gives is what some file says. -/
theorem readable_of_loaded {c : Coordinate} {pom : Pom}
    (silent : ∀ url reason body, w.web.reply url ≠ .response 200 reason body)
    (loaded : loaded? ((s.loadPom c).perform w).1 = some pom) :
    ∃ inode, Pom.ofBytes (w.files.content inode) = .ok pom := by
  rcases run : (s.loadPom c).perform w with ⟨answer, u⟩
  rw [run] at loaded
  cases loaded_eq_some.mp loaded
  obtain ⟨status, v, fetched, rest⟩ := Action.perform_bind_ok.mp run
  have files : v.files = w.files := by
    have left :=
      (fetch_reads (s := s) silent (artifactPath c "pom" none) c.isSnapshot w rfl rfl).2.1
    rwa [fetched] at left
  split at rest
  · cases rest
  · next file _ =>
      obtain ⟨bytes, v', read, parsed⟩ := Action.perform_bind_ok.mp rest
      rw [Action.perform_inspect, files] at read
      cases found : w.files.readFile file with
      | error fault => rw [found] at read; cases read
      | ok content =>
          rw [found] at read
          cases read
          obtain ⟨inode, rfl⟩ := content_of_readFile found
          split at parsed
          · next same =>
              cases parsed
              exact ⟨inode, same⟩
          · cases parsed
          · cases parsed

end Silent

/-! ## What is resolved -/

end Source

/-! ### A parent and its child -/

namespace Family

def parentText : String :=
  "<project><groupId>g</groupId><dependencies><dependency><groupId>h</groupId></dependency>"
    ++ "</dependencies></project>"

def childText : String :=
  "<project><parent><groupId>g</groupId><artifactId>p</artifactId><version>1</version></parent>"
    ++ "</project>"

def parent : Coordinate := ⟨"g", "p", "1"⟩

def child : Coordinate := ⟨"g", "a", "1"⟩

def parentPom : Pom :=
  ⟨"g", "", none, "jar", ⟨none, none, none⟩, ⟨[]⟩, [{ group := "h", artifact := "" }], []⟩

def childPom : Pom := ⟨"g", "", some "1", "jar", ⟨some "g", some "p", some "1"⟩, ⟨[]⟩, [], []⟩

/-- Files with the two POMs in their places. -/
def files : FileSystem where
  entries := ⟨[([], .directory), (["g"], .directory), (["g", "p"], .directory),
    (["g", "p", "1"], .directory), (["g", "p", "1", "p-1.pom"], .file 0),
    (["g", "a"], .directory), (["g", "a", "1"], .directory),
    (["g", "a", "1", "a-1.pom"], .file 1)]⟩
  contents := ⟨[(0, parentText.toUTF8), (1, childText.toUTF8)]⟩
  fresh := 2
  here := []
  numbered := by decide

def world : World := ⟨files, ⟨[]⟩, [], ⟨0, []⟩, ⟨[]⟩, "0"⟩

def source : Source := .ofRepositories (.ofString "/") []

def store (c : Coordinate) : Option Pom := loaded? ((source.loadPom c).perform world).1

theorem ok_of_toOption {ε α : Type} {x : Except ε α} {a : α} (some : x.toOption = some a) :
    x = .ok a := by
  cases x with
  | ok b => cases some; rfl
  | error e => cases some

theorem parsed_parent : Pom.ofBytes parentText.toUTF8 = .ok parentPom :=
  Pom.ofBytes_plain (ofList_pieces rfl rfl) (by decide) (by decide) (by decide +kernel)

theorem parsed_child : Pom.ofBytes childText.toUTF8 = .ok childPom :=
  Pom.ofBytes_plain (ofList_pieces rfl rfl) (by decide) (by decide) (by decide +kernel)

theorem silent (url : String) (reason : String) (body : ByteArray) :
    world.web.reply url ≠ .response 200 reason body := by
  intro answered
  cases answered

theorem stored_parent : store parent = some parentPom := by
  have found : files.status (source.localFile (artifactPath parent "pom" none)) = .ok (.file 0) :=
    ok_of_toOption (by decide)
  have readable : files.readFile (source.localFile (artifactPath parent "pom" none))
      = .ok (files.content 0) := by
    rw [FileSystem.readFile, found]
  have loaded : store parent = (Pom.ofBytes (files.content 0)).toOption :=
    Source.loaded_of_readFile (s := source) (w := world) readable
  have parsed : Pom.ofBytes (files.content 0) = .ok parentPom := parsed_parent
  rw [loaded, parsed]
  rfl

theorem stored_child : store child = some childPom := by
  have found : files.status (source.localFile (artifactPath child "pom" none)) = .ok (.file 1) :=
    ok_of_toOption (by decide)
  have readable : files.readFile (source.localFile (artifactPath child "pom" none))
      = .ok (files.content 1) := by
    rw [FileSystem.readFile, found]
  have loaded : store child = (Pom.ofBytes (files.content 1)).toOption :=
    Source.loaded_of_readFile (s := source) (w := world) readable
  have parsed : Pom.ofBytes (files.content 1) = .ok childPom := parsed_child
  rw [loaded, parsed]
  rfl

theorem stored_cases {c : Coordinate} {pom : Pom} (stored : store c = some pom) :
    pom = parentPom ∨ pom = childPom := by
  obtain ⟨inode, parsed⟩ := Source.readable_of_loaded silent stored
  match inode with
  | 0 => left; exact Except.ok.inj (parsed.symm.trans parsed_parent)
  | 1 => right; exact Except.ok.inj (parsed.symm.trans parsed_child)
  | n + 2 =>
      have empty : (Pom.ofBytes ByteArray.empty).toOption = none := by decide +kernel
      have none : world.files.content (n + 2) = ByteArray.empty := by rfl
      rw [none] at parsed
      rw [parsed] at empty
      cases empty

theorem plain (c d : Coordinate) (asks : Asks store c d) : d.Plain := by
  obtain ⟨pom, stored, names⟩ := asks
  rcases stored_cases stored with rfl | rfl
  · cases names with
    | parent named => cases named
    | imported _ listed _ => cases listed
  · cases names with
    | parent named =>
        cases named
        decide
    | imported _ listed _ => cases listed

theorem merges_child : ∃ m, MergesWithin store (20 + 1) child m ∧
    m.resolved child
      = ⟨child, "jar", [{ group := "h", artifact := "", scope := some "compile" }]⟩ := by
  refine ⟨_, ⟨childPom, stored_child, _, _, .inherits rfl ⟨parentPom, stored_parent, _, _,
    .alone rfl, .done _, rfl⟩, .done _, rfl⟩, ?_⟩
  decide

end Family

end MavenImport
