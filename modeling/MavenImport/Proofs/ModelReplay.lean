/-
# Proofs.ModelReplay -- resolving again from a cache that has grown

Resolving a coordinate asks for POMs and keeps models.  If it is done again with the same models
kept and with a cache that came later, every POM that was asked for is spent: so the same models
come out of it and are kept, no file changes, and nothing that is in the cache is requested
(`resolve_replays`).  What fails may fail for another reason.

This holds as long as the coordinates that POMs lead to are proper (`Coordinate.ProperFamily`).
Then the POMs are those that the cache held or that repositories deliver, whatever was loaded before
(`gives_offered`, `refers_family`).
-/
import MavenImport.Proofs.CacheGrowth
import MavenImport.Proofs.ModelInvariants

namespace MavenImport

open MavenImport.Action (Judgement)
open Relation (ReflTransGen)

set_option autoImplicit false

/-! ## What POMs lead to -/

/-- The stored POM of a coordinate names another one, where no models are known before. -/
def StoreLeads (store : Coordinate → Option Pom) : Coordinate → Coordinate → Prop :=
  Leads (fun _ _ => False) fun c pom => store c = some pom

/-- Everything that a coordinate leads to is proper, itself included. -/
def Coordinate.ProperFamily (store : Coordinate → Option Pom) (c : Coordinate) : Prop :=
  ∀ d, ReflTransGen (StoreLeads store) c d → d.Proper

theorem family_leads {store : Coordinate → Option Pom} {c d : Coordinate}
    (family : c.ProperFamily store) (leads : StoreLeads store c d) : d.ProperFamily store :=
  fun e below => family e (.head leads below)

/-! ## What is repeated -/

/-- The value that an answer gives. -/
def valueOf? {ε α : Type} : Except Fault (Except ε α) → Option α
  | .ok (.ok x) => some x
  | _ => none

namespace Source

/-- The POM that a cache holds or that repositories deliver. -/
def offered (s : Source) (w : World) (c : Coordinate) : Option Pom :=
  ((s.held? w.files c.pomFile).or (s.delivered? w.web c.pomFile)).bind fun bytes =>
    (Pom.ofBytes bytes).toOption

/-- A model may be kept under a key by a source that has kept none before. -/
def MayOffer (s : Source) (w : World) : String → Model → Prop :=
  MayKeep (fun _ _ => False) fun c pom => s.offered w c = some pom

/-- Terms over the POMs that a source offers, for coordinates that lead to proper ones. -/
def offerTerms (s : Source) (w : World) : Terms where
  reach c := c.ProperFamily (s.offered w)
  given c pom := s.offered w c = some pom
  may c m := s.MayOffer w c.text m

/-- From one world to another one no file changes, and nothing is requested that is in the
cache. -/
structure Stays (s : Source) (u v : World) : Prop where
  files : v.files = u.files
  web : v.web = u.web
  requests : ∃ urls, v.requested = urls ++ u.requested ∧ ∀ url ∈ urls, s.Lacks u.files url

/-- A world that comes after another one, with models that may be kept. -/
structure Reached (s : Source) (w v : World) : Prop where
  web : v.web = w.web
  later : s.Later w.web w.files v.files
  kept : ∀ key m, v.models.find? key = some m → s.MayOffer w key m

/-- How an action ends again: with the same value and the same models, and without any
change. -/
structure Again {α : Type} (s : Source) (u : World)
    (first second : Except Fault (Except ResolutionFailure α) × World) : Prop where
  value : valueOf? second.1 = valueOf? first.1
  models : second.2.models = first.2.models
  stays : s.Stays u second.2

/-- An action ends in the same way again, in every world that has the same models as the one
before and the files of the one after, or more. -/
structure Replays {α : Type} (s : Source) (w : World) (a : Action (Except ResolutionFailure α))
    (may : α → Prop) : Prop where
  reached : ∀ v, s.Reached w v → s.Reached w (a.perform v).2
  later : ∀ v, s.Reached w v → s.Later w.web v.files (a.perform v).2.files
  sound : ∀ v, s.Reached w v → ∀ x, valueOf? (a.perform v).1 = some x → may x
  fails : ∀ v, s.Reached w v → ∀ failure, (a.perform v).1 = .ok (.error failure) →
    failure.repositories = s.urls
  again : ∀ v u, s.Reached w v → s.Reached w u → u.models = v.models →
    s.Later w.web (a.perform v).2.files u.files → s.Again u (a.perform v) (a.perform u)

end Source

variable {s : Source} {w : World}

theorem valueOf_eq_some {ε α : Type} {answer : Except Fault (Except ε α)} {x : α} :
    valueOf? answer = some x ↔ answer = .ok (.ok x) := by
  rcases answer with fault | failure | found <;> simp [valueOf?]

section Stays

variable {u v t : World}

theorem stays_refl (u : World) : s.Stays u u :=
  ⟨rfl, rfl, [], rfl, fun _ none => absurd none List.not_mem_nil⟩

theorem stays_trans (first : s.Stays u v) (second : s.Stays v t) : s.Stays u t where
  files := second.files.trans first.files
  web := second.web.trans first.web
  requests := by
    obtain ⟨urls, requested, lack⟩ := first.requests
    obtain ⟨urls', requested', lack'⟩ := second.requests
    refine ⟨urls' ++ urls, by rw [requested', requested, List.append_assoc], fun url listed => ?_⟩
    rcases List.mem_append.mp listed with new | old
    · rw [← first.files]
      exact lack' url new
    · exact lack url old

theorem reached_plain (reached : s.Reached w v) : v.files.Plain := reached.later.plain

end Stays

/-! ## Putting replays together -/

section Replays

variable {α β : Type} {may : α → Prop} {may' : β → Prop}

theorem replays_pure {x : α} (allowed : may x) : s.Replays w (pure (.ok x)) may where
  reached _ reached := reached
  later _ reached := later_refl (reached_plain reached)
  sound _ _ y answered := by
    rw [← Option.some.inj (answered : some x = some y)]
    exact allowed
  fails _ _ failure answered := by cases answered
  again _ u _ _ same _ := ⟨rfl, same, stays_refl u⟩

theorem replays_failure {failure : ResolutionFailure} (repositories : failure.repositories = s.urls) :
    s.Replays w (pure (.error failure)) may where
  reached _ reached := reached
  later _ reached := later_refl (reached_plain reached)
  sound _ _ y answered := by cases answered
  fails _ _ failure' answered := by
    cases answered
    exact repositories
  again _ u _ _ same _ := ⟨rfl, same, stays_refl u⟩

theorem replays_mono {may' : α → Prop} {a : Action (Except ResolutionFailure α)}
    (replays : s.Replays w a may) (allowed : ∀ x, may x → may' x) : s.Replays w a may' where
  reached := replays.reached
  later := replays.later
  sound v reached x answered := allowed x (replays.sound v reached x answered)
  fails := replays.fails
  again := replays.again

/-- A first part without a value ends the whole. -/
theorem perform_bind_missing {a : Action (Except ResolutionFailure α)}
    {f : Except ResolutionFailure α → Action (Except ResolutionFailure β)} {v : World}
    (fails : ∀ e, f (.error e) = pure (.error e)) (missing : valueOf? (a.perform v).1 = none) :
    valueOf? ((a >>= f).perform v).1 = none ∧ ((a >>= f).perform v).2 = (a.perform v).2 ∧
      ∀ failure, ((a >>= f).perform v).1 = .ok (.error failure) →
        (a.perform v).1 = .ok (.error failure) := by
  rw [Action.perform_bind]
  rcases run : a.perform v with ⟨fault | failure | x, v'⟩ <;> rw [run] at missing
  · exact ⟨rfl, rfl, fun failure answered => by cases answered⟩
  · dsimp only
    rw [fails failure]
    exact ⟨rfl, rfl, fun failure answered => by cases answered; rfl⟩
  · cases missing

theorem perform_bind_given {a : Action (Except ResolutionFailure α)}
    {f : Except ResolutionFailure α → Action (Except ResolutionFailure β)} {v : World} {x : α}
    (given : valueOf? (a.perform v).1 = some x) :
    (a >>= f).perform v = (f (.ok x)).perform (a.perform v).2 := by
  rw [Action.perform_bind]
  rcases run : a.perform v with ⟨fault | failure | y, v'⟩ <;> rw [run] at given <;> cases given
  rfl

/-- If both parts of a sequence are repeated, so is the sequence: the second time both find the
files that the whole has left. -/
theorem replays_bind {a : Action (Except ResolutionFailure α)}
    {f : Except ResolutionFailure α → Action (Except ResolutionFailure β)}
    (first : s.Replays w a may) (fails : ∀ e, f (.error e) = pure (.error e))
    (second : ∀ x, may x → s.Replays w (f (.ok x)) may') : s.Replays w (a >>= f) may' := by
  have later : ∀ v, s.Reached w v → s.Later w.web (a.perform v).2.files
      ((a >>= f).perform v).2.files := by
    intro v reached
    cases given : valueOf? (a.perform v).1 with
    | none =>
        rw [(perform_bind_missing fails given).2.1]
        exact later_refl (reached_plain (first.reached v reached))
    | some x =>
        rw [perform_bind_given given]
        exact (second x (first.sound v reached x given)).later _ (first.reached v reached)
  refine ⟨fun v reached => ?_, fun v reached => ?_, fun v reached y answered => ?_,
    fun v reached failure answered => ?_, fun v u reached reached' same last => ?_⟩
  · cases given : valueOf? (a.perform v).1 with
    | none =>
        rw [(perform_bind_missing fails given).2.1]
        exact first.reached v reached
    | some x =>
        rw [perform_bind_given given]
        exact (second x (first.sound v reached x given)).reached _ (first.reached v reached)
  · exact later_trans (first.later v reached) (later v reached)
  · cases given : valueOf? (a.perform v).1 with
    | none =>
        rw [(perform_bind_missing fails given).1] at answered
        cases answered
    | some x =>
        rw [perform_bind_given given] at answered
        exact (second x (first.sound v reached x given)).sound _ (first.reached v reached) y answered
  · cases given : valueOf? (a.perform v).1 with
    | none =>
        exact first.fails v reached failure ((perform_bind_missing fails given).2.2 failure answered)
    | some x =>
        rw [perform_bind_given given] at answered
        exact (second x (first.sound v reached x given)).fails _ (first.reached v reached) failure
          answered
  · have one := first.again v u reached reached' same (later_trans (later v reached) last)
    cases given : valueOf? (a.perform v).1 with
    | none =>
        have missing : valueOf? (a.perform u).1 = none := one.value.trans given
        obtain ⟨none, left, -⟩ := perform_bind_missing (f := f) fails given
        obtain ⟨none', left', -⟩ := perform_bind_missing (f := f) fails missing
        exact ⟨none'.trans none.symm, by rw [left, left']; exact one.models,
          by rw [left']; exact one.stays⟩
    | some x =>
        have repeated : valueOf? (a.perform u).1 = some x := one.value.trans given
        rw [perform_bind_given given] at last ⊢
        rw [perform_bind_given repeated]
        have two := (second x (first.sound v reached x given)).again _ _ (first.reached v reached)
          (first.reached u reached') one.models (by rw [one.stays.files]; exact last)
        exact ⟨two.value, two.models, stays_trans one.stays two.stays⟩

/-- Being repeated, as a judgement on one action. -/
def Source.replaying (s : Source) (w : World) : Judgement ResolutionFailure where
  Holds a _ may _ := s.Replays w a may
  value allowed _ := replays_pure allowed
  sequence first fails _ second _ := replays_bind first fails second
  weaken replays allowed _ := replays_mono replays allowed

end Replays

/-! ## Loading a POM -/

section Load

variable (straight : s.cache.Straight)
include straight

/-- A POM is loaded if the cache holds one in the end. -/
theorem loadPom_held {c : Coordinate} (proper : c.Proper) {v : World} (plain : v.files.Plain) :
    s.FetchEnds v.web c.pomFile v ((s.fetch (artifactPath c "pom" none) c.isSnapshot).perform v) ∧
    ((s.loadPom c).perform v).2
        = ((s.fetch (artifactPath c "pom" none) c.isSnapshot).perform v).2 ∧
      valueOf? ((s.loadPom c).perform v).1
        = (s.held? ((s.loadPom c).perform v).2.files c.pomFile).bind
            (fun bytes => (Pom.ofBytes bytes).toOption) ∧
      ∀ failure, ((s.loadPom c).perform v).1 = .ok (.error failure) →
        failure.repositories = s.urls := by
  have ends := fetch_ends (s := s) straight (pomFile_proper proper) plain
  rw [show (s.fetch c.pomFile.path c.pomFile.coordinate.isSnapshot).perform v
    = (s.fetch (artifactPath c "pom" none) c.isSnapshot).perform v from rfl] at ends
  refine ⟨ends, ?_⟩
  have readable := held_readFile (s := s) straight (pomFile_proper proper) ends.later.plain
  unfold Source.loadPom
  rw [Action.perform_bind]
  rcases run : (s.fetch (artifactPath c "pom" none) c.isSnapshot).perform v with
    ⟨fault | status, v'⟩ <;> rw [run] at ends readable
  · refine ⟨rfl, ?_, fun failure answered => by cases answered⟩
    show none = (s.held? v'.files c.pomFile).bind _
    rw [ends.lost nofun, Option.bind_none]
  · dsimp only at readable ⊢
    cases located : status.localFile with
    | none =>
        refine ⟨rfl, ?_, fun failure answered => by cases answered; rfl⟩
        show none = (s.held? v'.files c.pomFile).bind _
        rw [ends.lost fun status' answered _ => by rw [← Except.ok.inj answered, located],
          Option.bind_none]
    | some file =>
        obtain rfl := (ends.only status file rfl located).symm
        dsimp only
        rw [Action.perform_bind, Action.perform_inspect]
        cases read : v'.files.readFile (s.localFile c.pomFile.path) with
        | error fault =>
            rw [read] at readable
            refine ⟨rfl, ?_, fun failure answered => by cases answered⟩
            show none = (s.held? v'.files c.pomFile).bind _
            rw [readable]
            rfl
        | ok bytes =>
            rw [read] at readable
            simp only [Action.mapError_ok]
            cases parsed : Pom.ofBytes bytes with
            | ok pom =>
                refine ⟨rfl, ?_, fun failure answered => by cases answered⟩
                show some pom = (s.held? v'.files c.pomFile).bind _
                rw [readable]
                simp [parsed, Except.toOption]
            | error fault =>
                cases fault with
                | malformed =>
                    refine ⟨rfl, ?_, fun failure answered => by cases answered; rfl⟩
                    show none = (s.held? v'.files c.pomFile).bind _
                    rw [readable]
                    simp [parsed, Except.toOption]
                | _ =>
                    refine ⟨rfl, ?_, fun failure answered => by cases answered⟩
                    show none = (s.held? v'.files c.pomFile).bind _
                    rw [readable]
                    simp [parsed, Except.toOption]

omit straight in
/-- What the cache holds after some time was offered from the beginning. -/
theorem offered_of_held {c : Coordinate} (proper : c.Proper) {f : FileSystem} {bytes : ByteArray}
    (later : s.Later w.web w.files f) (held : s.held? f c.pomFile = some bytes) :
    s.offered w c = (Pom.ofBytes bytes).toOption := by
  unfold Source.offered
  cases before : s.held? w.files c.pomFile with
  | some bytes' =>
      have still := later.kept _ (pomFile_proper proper) bytes' before
      rw [held] at still
      rw [Option.some.inj still]
      rfl
  | none =>
      rcases later.stored _ (pomFile_proper proper) bytes held with same | ⟨delivered, -⟩
      · rw [before] at same
        cases same
      · rw [delivered]
        rfl

theorem loadPom_replays {c : Coordinate} (proper : c.Proper) :
    s.Replays w (s.loadPom c) (s.offered w c = some ·) where
  reached v reached := by
    obtain ⟨ends, left, -⟩ := loadPom_held straight proper (reached_plain reached)
    rw [left]
    exact ⟨ends.sameWeb.trans reached.web, later_trans reached.later (reached.web ▸ ends.later),
      by rw [ends.sameModels]; exact reached.kept⟩
  later v reached := by
    obtain ⟨ends, left, -⟩ := loadPom_held straight proper (reached_plain reached)
    rw [left]
    exact reached.web ▸ ends.later
  sound v reached pom answered := by
    obtain ⟨ends, left, given, -⟩ := loadPom_held straight proper (reached_plain reached)
    rw [given, Option.bind_eq_some_iff] at answered
    obtain ⟨bytes, held, parsed⟩ := answered
    rw [left] at held
    rw [offered_of_held proper
      (later_trans reached.later (reached.web ▸ ends.later)) held, parsed]
  fails v reached := (loadPom_held straight proper (reached_plain reached)).2.2.2
  again v u reached reached' same later := by
    obtain ⟨ends, left, given, -⟩ := loadPom_held straight proper (reached_plain reached)
    obtain ⟨ends', left', given', -⟩ := loadPom_held straight proper (reached_plain reached')
    rw [left] at later
    -- what the first time asked for is spent, so the second time leaves the files
    have spent : s.Spent w.web u.files c.pomFile :=
      spent_later ends.later.plain later (reached.web ▸ ends.spent)
    have still := ends'.still (reached'.web.symm ▸ spent)
    exact
      { value := by
          rw [given, given', left, left', still,
            spent_held ends.later.plain later (reached.web ▸ ends.spent) (pomFile_proper proper)]
        models := by rw [left, left', ends.sameModels, ends'.sameModels, same]
        stays := by
          rw [left']
          exact ⟨still, ends'.sameWeb, ends'.requests⟩ }

end Load

/-! ## Models that are kept -/

section Memo

theorem offerTerms_closed (s : Source) (w : World) : (s.offerTerms w).Closed where
  leads _ pom _ family offered names := family_leads family ⟨pom, offered, names⟩
  merges _ _ _ _ offered merges := mayKeep_merged offered merges
  stored _ _ _ _ stored := stored.elim
  required _ _ _ _ _ required := required.elim
  allowed _ _ _ required := required.elim
  shallow _ _ required := required
  nested _ _ _ required := required.elim

/-- A model that may be kept is kept. -/
theorem keepModel_replays {c : Coordinate} {m : Model} (known : s.MayOffer w c.text m) :
    s.Replays w (Source.keepModel c m) (s.MayOffer w c.text) where
  reached v reached :=
    { web := reached.web
      later := reached.later
      kept := fun key m' found => by
        have found : (v.models.put c.text m).find? key = some m' := found
        rw [Table.find?_put] at found
        split at found
        · next same =>
            rw [← Option.some.inj found, ← same]
            exact known
        · exact reached.kept key m' found }
  later _ reached := later_refl (reached_plain reached)
  sound _ _ m' answered := by
    rw [← Option.some.inj (answered : some m = some m')]
    exact known
  fails _ _ _ answered := by cases answered
  again v u _ _ same _ :=
    ⟨rfl, congrArg (fun models => models.put c.text m) same, ⟨rfl, rfl, (stays_refl u).requests⟩⟩

/-- A model that is kept is the answer at once, both times. -/
theorem lookUp_replays {c : Coordinate} {a : Action (Except ResolutionFailure Model)}
    (replays : s.Replays w a (s.MayOffer w c.text)) :
    s.Replays w (Source.lookUp c a) (s.MayOffer w c.text) := by
  refine ⟨fun v reached => ?_, fun v reached => ?_, fun v reached m answered => ?_,
    fun v reached failure answered => ?_, fun v u reached reached' same later => ?_⟩
  all_goals cases found : v.models.find? c.text
  · rw [Source.lookUp_missing found]
    exact replays.reached v reached
  · rw [Source.lookUp_found found]
    exact reached
  · rw [Source.lookUp_missing found]
    exact replays.later v reached
  · rw [Source.lookUp_found found]
    exact later_refl (reached_plain reached)
  · rw [Source.lookUp_missing found] at answered
    exact replays.sound v reached m answered
  · rw [Source.lookUp_found found] at answered
    cases answered
    exact reached.kept _ _ found
  · rw [Source.lookUp_missing found] at answered
    exact replays.fails v reached failure answered
  · rw [Source.lookUp_found found] at answered
    cases answered
  · rw [Source.lookUp_missing found] at later ⊢
    rw [Source.lookUp_missing (same ▸ found)]
    exact replays.again v u reached reached' same later
  · rw [Source.lookUp_found found, Source.lookUp_found (same ▸ found)]
    exact ⟨rfl, same, stays_refl u⟩

variable (straight : s.cache.Straight)
include straight

theorem replays_upholds : s.Upholds s (s.replaying w) (s.offerTerms w) where
  loads c family := loadPom_replays straight (family c .refl)
  keeps _ _ _ known := keepModel_replays known
  looks _ _ _ _ _ replays := lookUp_replays replays
  deep _ _ := replays_failure rfl

/-- Resolving again gives the same artifact, if it gave one, and changes nothing. -/
theorem resolve_replays {c : Coordinate} (family : c.ProperFamily (s.offered w)) :
    s.Replays w (s.resolve c) (fun a => a.coordinate = c) := by
  have holds : s.Replays w (s.resolve c) fun a => ∃ m, s.MayOffer w c.text m ∧ a = m.resolved c :=
    Source.resolve_holds (offerTerms_closed s w) (replays_upholds straight) family
  refine replays_mono holds ?_
  rintro a ⟨m, -, rfl⟩
  rfl

end Memo

/-! ## What comes up is offered -/

section Offered

variable (straight : s.cache.Straight) (plain : w.files.Plain)
include straight plain

/-- While only proper coordinates are asked for, the cache grows. -/
theorem comesTo_later {among : Coordinate → Prop} (proper : ∀ c, among c → c.Proper) {v : World}
    (comes : s.ComesTo w among v) : v.web = w.web ∧ s.Later w.web w.files v.files := by
  induction comes with
  | start => exact ⟨rfl, later_refl plain⟩
  | loads _ c listed ih =>
      obtain ⟨web, later⟩ := ih
      obtain ⟨ends, left, -⟩ := loadPom_held (s := s) straight (proper c listed) later.plain
      rw [left]
      exact ⟨ends.sameWeb.trans web, later_trans later (web ▸ ends.later)⟩
  | keeps _ _ ih => exact ih

/-- A POM that is given was held or is delivered. -/
theorem gives_offered {among : Coordinate → Prop} (proper : ∀ c, among c → c.Proper)
    {c : Coordinate} {pom : Pom} (given : s.GivesAmong w among c pom) :
    s.offered w c = some pom := by
  obtain ⟨listed, v, comes, loaded⟩ := given
  obtain ⟨web, later⟩ := comesTo_later straight plain proper comes
  obtain ⟨ends, left, value, -⟩ := loadPom_held (s := s) straight (proper c listed) later.plain
  rw [valueOf_eq_some.mpr (loaded_eq_some.mp loaded)] at value
  obtain ⟨bytes, held, parsed⟩ := Option.bind_eq_some_iff.mp value.symm
  rw [left] at held
  rw [offered_of_held (proper c listed) (later_trans later (web ▸ ends.later)) held, parsed]

/-- A source that has kept no models asks for nothing else than what the POMs lead to that it
offers. -/
theorem refers_family (fresh : w.models = ⟨[]⟩) {c d : Coordinate}
    (family : c.ProperFamily (s.offered w)) (refers : s.Refers w c d) :
    ReflTransGen (StoreLeads (s.offered w)) c d := by
  refine refers (ReflTransGen (StoreLeads (s.offered w)) c) .refl ?_
  rintro d d' below leads
  refine .tail below (leads_mono (fun key m found => ?_)
    (fun _ _ => gives_offered straight plain family) leads)
  rw [fresh] at found
  cases found

end Offered

end MavenImport
