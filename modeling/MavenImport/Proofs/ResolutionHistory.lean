/-
# Proofs.ResolutionHistory -- what earlier calls change in a later one

Two sources may have the same POMs and may have been called before, each in its own way.  Where
both resolve a coordinate, they resolve it to the same artifact; and unless a merge of it nests
more than twenty models below it, either both of them resolve it or none does (`resolve_alike`).

Where more models are nested, it depends on the calls, for a model that is kept is found at any
depth: the first of a chain of coordinates that is one too long is resolved after the
second one was, and not without that (`chain_remembered`).
-/
import MavenImport.Proofs.ModelReplay

namespace MavenImport

open MavenImport.Action (perform_bind_answer)

set_option autoImplicit false

namespace Source

variable {s s' : Source} {w w' v : World} {store : Coordinate → Option Pom}

/-! ## Two histories -/

section Histories

/-- What is resolved at any time is what the merge gives, and what nests no more models than may be
nested is resolved. -/
theorem resolve_value (serves : s.Serves w store) (plain : ∀ c d, Asks store c d → d.Plain)
    (sound : s.Sound w store v) {c : Coordinate} (isPlain : c.Plain) :
    (∀ a, valueOf? ((s.resolve c).perform v).1 = some a → ∃ m, Merges store c m ∧ a = m.resolved c) ∧
      ∀ m, MergesWithin store maxNesting c m →
        valueOf? ((s.resolve c).perform v).1 = some (m.resolved c) := by
  have meets := resolve_meets serves plain isPlain
  refine ⟨fun a given => meets.sound v sound a (valueOf_eq_some.mp given), fun m within => ?_⟩
  exact valueOf_eq_some.mpr (meets.complete v sound _ ⟨m, within, rfl⟩)

/-- Whatever two sources over the same POMs were called for before: if both resolve a coordinate,
they give the same artifact, and if its merges nest no more than twenty models below it, either
both resolve it or none does. -/
theorem resolve_alike (serves : s.Serves w store) (serves' : s'.Serves w' store)
    (fresh : w.models = ⟨[]⟩) (fresh' : w'.models = ⟨[]⟩)
    (plain : ∀ c d, Asks store c d → d.Plain) (calls calls' : List Coordinate)
    (callsPlain : ∀ c ∈ calls ++ calls', c.Plain) (c : Coordinate) (isPlain : c.Plain) :
    (∀ a a', valueOf? ((s.resolve c).perform (s.after w calls)).1 = some a →
      valueOf? ((s'.resolve c).perform (s'.after w' calls')).1 = some a' → a = a') ∧
    ((∀ m, Merges store c m → MergesWithin store (20 + 1) c m) →
      valueOf? ((s.resolve c).perform (s.after w calls)).1
        = valueOf? ((s'.resolve c).perform (s'.after w' calls')).1) := by
  have sound := sound_after serves plain calls w
    (fun d listed => callsPlain d (List.mem_append_left _ listed)) (remembers_start fresh)
  have sound' := sound_after serves' plain calls' w'
    (fun d listed => callsPlain d (List.mem_append_right _ listed)) (remembers_start fresh')
  obtain ⟨merged, given⟩ := resolve_value serves plain sound isPlain
  obtain ⟨merged', given'⟩ := resolve_value serves' plain sound' isPlain
  constructor
  · intro a a' one other
    obtain ⟨m, merges, rfl⟩ := merged a one
    obtain ⟨m', merges', rfl⟩ := merged' a' other
    rw [merges_unique merges merges']
  · intro nests
    by_cases some : ∃ m, Merges store c m
    · obtain ⟨m, merges⟩ := some
      rw [given m (nests m merges), given' m (nests m merges)]
    · have neither : ∀ {answer : Option ResolvedArtifact},
          (∀ a, answer = .some a → ∃ m, Merges store c m ∧ a = m.resolved c) → answer = none := by
        intro answer sound
        refine Option.eq_none_iff_forall_ne_some.mpr fun a found => some ?_
        obtain ⟨m, merges, -⟩ := sound a found
        exact ⟨m, merges⟩
      rw [neither merged, neither merged']

end Histories

end Source

theorem family_alike :
    (∀ m, Merges Family.store Family.child m → MergesWithin Family.store (20 + 1) Family.child m) ∧
    valueOf? ((Family.source.resolve Family.child).perform Family.world).1
      = valueOf? ((Family.source.resolve Family.child).perform
          (Family.source.after Family.world [⟨"g", "b", "1"⟩, Family.parent])).1 := by
  have serves : Family.source.Serves Family.world Family.store :=
    Source.serves_of_silent Family.silent
  have nests : ∀ m, Merges Family.store Family.child m →
      MergesWithin Family.store (20 + 1) Family.child m := by
    intro m merges
    obtain ⟨m', within, -⟩ := Family.merges_child
    rwa [merges_unique merges ⟨_, within⟩]
  exact ⟨nests, (Source.resolve_alike serves serves rfl rfl Family.plain []
    [⟨"g", "b", "1"⟩, Family.parent] (by decide) Family.child (by decide)).2 nests⟩

/-! ## One reference at a time -/

/-- A POM refers to one coordinate, which is its parent or its only import. -/
inductive Pom.RefersOnly (pom : Pom) (c : Coordinate) : Coordinate → Prop
  | parent {c' : Coordinate} (named : pom.parent? = some c') (unmanaged : pom.managed = []) :
      Pom.RefersOnly pom c c'
  | imported {c' : Coordinate} {d : Dependency} (orphan : pom.parent? = none)
      (managed : pom.managed = [d])
      (named : (Draft.empty.defineAll pom c).imported? d = some c') : Pom.RefersOnly pom c c'

namespace Source

section Merging

variable {pom : Pom} {c c' : Coordinate}

/-- The model of a POM that refers to one coordinate comes of the model of that. -/
theorem mergeModel_refers (refers : pom.RefersOnly c c') :
    ∃ f : Model → Model, ∀ (give : Coordinate → Action (Except ResolutionFailure Model)) (v : World),
      (mergeModel give c pom).perform v = (do return (← give c').map f : Action _).perform v := by
  cases refers with
  | parent named unmanaged =>
      refine ⟨fun m => (((Draft.inherit m).defineAll pom c).depend pom).finish pom c,
        fun give v => ?_⟩
      simp only [mergeModel, startDraft, named, unmanaged, Action.perform_bind]
      rcases (give c').perform v with ⟨fault | failure | m, v'⟩ <;> rfl
  | imported orphan managed named =>
      refine ⟨fun m => (((Draft.empty.defineAll pom c).importAll m).depend pom).finish pom c,
        fun give v => ?_⟩
      have isImport := isImport_of_imported named
      simp only [Draft.imported?, isImport, if_true, Option.map_eq_some_iff] at named
      obtain ⟨version, versioned, rfl⟩ := named
      simp only [mergeModel, startDraft, orphan, managed, manageAll, isImport, if_true, versioned,
        Action.perform_bind, Action.perform_pure]
      rcases (give _).perform v with ⟨fault | failure | m, v'⟩ <;> rfl

/-- A POM that refers to nothing has a model by itself. -/
theorem mergeModel_alone (orphan : pom.parent? = none) (unmanaged : pom.managed = []) :
    ∃ m : Model, ∀ give : Coordinate → Action (Except ResolutionFailure Model),
      mergeModel give c pom = pure (.ok m) := by
  refine ⟨((Draft.empty.defineAll pom c).depend pom).finish pom c, fun give => ?_⟩
  simp only [mergeModel, startDraft, orphan, unmanaged]
  rfl

end Merging

end Source

/-! ## Chains -/

/-- Each of so many coordinates refers to the next one alone. -/
def Linked (store : Coordinate → Option Pom) (chain : Nat → Coordinate) (n : Nat) : Prop :=
  ∀ k < n, ∃ pom, store (chain k) = some pom ∧ pom.RefersOnly (chain k) (chain (k + 1))

/-- So many coordinates refer to the next one alone, and the one after them to nothing. -/
structure Chain (store : Coordinate → Option Pom) (chain : Nat → Coordinate) (n : Nat) :
    Prop where
  linked : Linked store chain n
  ends : ∃ pom, store (chain n) = some pom ∧ pom.parent? = none ∧ pom.managed = []

section Tails

variable {store : Coordinate → Option Pom} {chain : Nat → Coordinate} {n : Nat}

theorem linked_tail (linked : Linked store chain (n + 1)) :
    Linked store (fun k => chain (k + 1)) n :=
  fun k less => linked (k + 1) (by omega)

theorem chain_tail (isChain : Chain store chain (n + 1)) : Chain store (fun k => chain (k + 1)) n :=
  ⟨linked_tail isChain.linked, isChain.ends⟩

end Tails

namespace Source

variable {s : Source} {w v : World} {store : Coordinate → Option Pom}
  {give : Coordinate → Action (Except ResolutionFailure Model)} {c c' : Coordinate} {pom : Pom}

section Links

variable (serves : s.Serves w store) (visited : s.Visits w v) (stored : store c = some pom)
include serves visited stored

theorem loadPom_answer : ((s.loadPom c).perform v).1 = .ok (.ok pom) :=
  loaded_eq_some.mp ((serves v visited c).trans stored)

/-- What cannot be put together is not kept. -/
theorem newModel_fails
    (fails : ∀ u, s.Visits w u → u.models = v.models →
      ∃ failure t, (mergeModel give c pom).perform u = (.ok (.error failure), t)) :
    ∃ failure t, (s.newModel give c).perform v = (.ok (.error failure), t) := by
  obtain ⟨failure, t, failed⟩ := fails _ (.loads visited c trivial) (loadPom_keeps_models c v)
  refine ⟨failure, t, ?_⟩
  rw [newModel, perform_bind_answer (loadPom_answer serves visited stored)]
  dsimp only
  rw [Action.perform_bind, failed]
  rfl

/-- What is put together is kept. -/
theorem newModel_given
    (gives : ∀ u, s.Visits w u → u.models = v.models →
      ∃ m t, (mergeModel give c pom).perform u = (.ok (.ok m), t) ∧ s.Visits w t) :
    ∃ m t, (s.newModel give c).perform v = (.ok (.ok m), t) ∧ s.Visits w t ∧
      t.models.find? c.text = some m := by
  obtain ⟨m, t, given, visits⟩ := gives _ (.loads visited c trivial) (loadPom_keeps_models c v)
  refine ⟨m, { t with models := t.models.put c.text m }, ?_, .keeps visits _,
    Table.find?_put_self _ _ _⟩
  rw [newModel, perform_bind_answer (loadPom_answer serves visited stored)]
  dsimp only
  rw [Action.perform_bind, given]
  rfl

/-- So it is if the only model that the POM refers to is given. -/
theorem newModel_linked (refers : pom.RefersOnly c c')
    (gives : ∀ u, s.Visits w u → u.models = v.models →
      ∃ m t, (give c').perform u = (.ok (.ok m), t) ∧ s.Visits w t) :
    ∃ m t, (s.newModel give c).perform v = (.ok (.ok m), t) ∧ s.Visits w t ∧
      t.models.find? c.text = some m := by
  refine newModel_given serves visited stored fun u visits same => ?_
  obtain ⟨f, made⟩ := mergeModel_refers refers
  obtain ⟨m, t, given, visits'⟩ := gives u visits same
  refine ⟨f m, t, ?_, visits'⟩
  rw [made, Action.perform_bind, given]
  rfl

end Links

section Chains

variable (serves : s.Serves w store)
include serves

/-- Of a chain that is longer than the depth no model is put together, if none is kept. -/
theorem modelOf_fails : ∀ (n : Nat) (chain : Nat → Coordinate) (v : World),
    s.Visits w v → Linked store chain n → (∀ k ≤ n, v.models.find? (chain k).text = none) →
      ∃ failure t, (s.modelOf n (chain 0)).perform v = (.ok (.error failure), t)
  | 0, _, _, _, _, missing => ⟨_, _, modelOf_deep (missing 0 (Nat.le_refl 0))⟩
  | n + 1, chain, v, visited, linked, missing => by
      obtain ⟨pom, stored, refers⟩ := linked 0 (Nat.succ_pos n)
      rw [modelOf_new (missing 0 (Nat.zero_le _))]
      obtain ⟨f, made⟩ := mergeModel_refers refers
      refine newModel_fails serves visited stored fun u visits same => ?_
      obtain ⟨failure, t, failed⟩ := modelOf_fails n (fun k => chain (k + 1)) u visits
        (linked_tail linked) fun k le => by rw [same]; exact missing (k + 1) (Nat.succ_le_succ le)
      refine ⟨failure, t, ?_⟩
      rw [made, Action.perform_bind, failed]
      rfl

/-- A chain that is no longer than the depth is put together, whatever models are kept. -/
theorem modelOf_given : ∀ (n : Nat) (chain : Nat → Coordinate) (v : World),
    s.Visits w v → Chain store chain n →
      ∃ m t, (s.modelOf (n + 1) (chain 0)).perform v = (.ok (.ok m), t) ∧ s.Visits w t ∧
        t.models.find? (chain 0).text = some m := by
  intro n
  induction n with
  | zero =>
      intro chain v visited isChain
      cases found : v.models.find? (chain 0).text with
      | some m => exact ⟨m, v, modelOf_found found _, visited, found⟩
      | none =>
          obtain ⟨pom, stored, orphan, unmanaged⟩ := isChain.ends
          rw [modelOf_new found]
          obtain ⟨m, made⟩ := mergeModel_alone (c := chain 0) orphan unmanaged
          exact newModel_given serves visited stored fun u visits _ =>
            ⟨m, u, by rw [made, Action.perform_pure], visits⟩
  | succ n ih =>
      intro chain v visited isChain
      cases found : v.models.find? (chain 0).text with
      | some m => exact ⟨m, v, modelOf_found found _, visited, found⟩
      | none =>
          obtain ⟨pom, stored, refers⟩ := isChain.linked 0 (Nat.succ_pos n)
          rw [modelOf_new found]
          refine newModel_linked serves visited stored refers fun u visits _ => ?_
          obtain ⟨m, t, given, visits', -⟩ := ih _ u visits (chain_tail isChain)
          exact ⟨m, t, given, visits'⟩

/-- The first of a chain of as many coordinates as may be nested, and one more, is resolved if
the second one was resolved before, and not if nothing was. -/
theorem chain_remembered (fresh : w.models = ⟨[]⟩) {chain : Nat → Coordinate}
    (isChain : Chain store chain maxNesting) :
    valueOf? ((s.resolve (chain 0)).perform w).1 = none ∧
      (valueOf? ((s.resolve (chain 0)).perform (s.after w [chain 1])).1).isSome = true := by
  constructor
  · obtain ⟨failure, t, failed⟩ := modelOf_fails serves maxNesting chain w .start isChain.linked
      fun k _ => by rw [fresh]; rfl
    rw [resolve, Action.perform_bind, failed]
    rfl
  · obtain ⟨m, v, given, visited, kept⟩ :=
      modelOf_given serves 20 (fun k => chain (k + 1)) w .start (chain_tail isChain)
    have after : s.after w [chain 1] = v := by
      show ((s.resolve (chain 1)).perform w).2 = v
      rw [resolve, Action.perform_bind, maxNesting, given]
      rfl
    have first : ∃ m t, (s.modelOf maxNesting (chain 0)).perform v = (.ok (.ok m), t) := by
      cases found : v.models.find? (chain 0).text with
      | some m => exact ⟨m, v, modelOf_found found _⟩
      | none =>
          obtain ⟨pom, stored, refers⟩ := isChain.linked 0 (by decide)
          rw [maxNesting, modelOf_new found]
          obtain ⟨m', t, given', -⟩ := newModel_linked serves visited stored refers
            fun u visits same => ⟨m, u, modelOf_found (by rw [same]; exact kept) _, visits⟩
          exact ⟨m', t, given'⟩
    obtain ⟨m', t, given'⟩ := first
    rw [after, resolve, Action.perform_bind, given']
    rfl

end Chains

end Source

/-! ### Versions of which each imports the next longer one -/

namespace Ladder

def importText : String :=
  "<project><dependencyManagement><dependencies><dependency><groupId>g</groupId>"
    ++ "<artifactId>a</artifactId><version>$\x7bversion\x7d1</version><type>pom</type>"
    ++ "<scope>import</scope></dependency></dependencies></dependencyManagement></project>"

/-- A version has one more digit than its number. -/
def rung (k : Nat) : Coordinate := ⟨"g", "a", String.ofList (List.replicate (k + 1) '1')⟩

/-- The last version has a POM of its own, and all others share one. -/
def files : FileSystem where
  entries := ⟨[([], .directory), (["g"], .directory), (["g", "a"], .directory)]
    ++ (List.range 22).flatMap fun k =>
      [(["g", "a", (rung k).version], .directory),
       (["g", "a", (rung k).version, "a-" ++ (rung k).version ++ ".pom"],
        .file (if k < 21 then 0 else 1))]⟩
  contents := ⟨[(0, importText.toUTF8), (1, "<project/>".toUTF8)]⟩
  fresh := 2
  here := []
  numbered := by decide

def world : World := ⟨files, ⟨[]⟩, [], ⟨0, []⟩, ⟨[]⟩, "0"⟩

def source : Source := .ofRepositories (.ofString "/") []

def store (c : Coordinate) : Option Pom := loaded? ((source.loadPom c).perform world).1

theorem silent (url : String) (reason : String) (body : ByteArray) :
    world.web.reply url ≠ .response 200 reason body := by
  intro answered
  cases answered

theorem stored {k : Nat} (less : k < 22) :
    store (rung k) = (Pom.ofBytes (files.content (if k < 21 then 0 else 1))).toOption := by
  have all : ∀ k < 22, (files.status (source.localFile (artifactPath (rung k) "pom" none))).toOption
      = some (.file (if k < 21 then 0 else 1)) := by decide +kernel
  have found := Family.ok_of_toOption (all k less)
  refine Source.loaded_of_readFile (s := source) (w := world) ?_
  show files.readFile _ = _
  rw [FileSystem.readFile, found]

def import1 : Dependency :=
  { group := "g", artifact := "a", version := some "$\x7bversion\x7d1", kind := some "pom",
    scope := some "import" }

def importPom : Pom := ⟨"", "", none, "jar", ⟨none, none, none⟩, ⟨[]⟩, [], [import1]⟩

theorem parsed_import : Pom.ofBytes importText.toUTF8 = .ok importPom :=
  Pom.ofBytes_plain (ofList_pieces (ofList_pieces rfl rfl) rfl) (by decide) (by decide)
    (by decide +kernel)

theorem isChain : Chain store rung Source.maxNesting where
  linked k less := by
    have imports : ∀ k < 21, (Draft.empty.defineAll importPom (rung k)).imported? import1
        = some (rung (k + 1)) := by decide +kernel
    have less : k < 21 := less
    refine ⟨importPom, ?_, .imported rfl rfl (imports k less)⟩
    rw [stored (by omega), if_pos less]
    exact congrArg Except.toOption parsed_import
  ends := by
    have parsed : (Pom.ofBytes (files.content 1)).toOption.map
        (fun pom => (pom.parent?, pom.managed.length)) = some (none, 0) := by decide +kernel
    obtain ⟨pom, read, found⟩ := Option.map_eq_some_iff.mp parsed
    obtain ⟨orphan, managed⟩ := Prod.mk.inj found
    have last : store (rung 21) = (Pom.ofBytes (files.content 1)).toOption := stored (by decide)
    exact ⟨pom, last.trans read, orphan, List.length_eq_zero_iff.mp managed⟩

end Ladder

/-- The first rung is resolved after the second one was, and not before. -/
theorem ladder_remembered :
    valueOf? ((Ladder.source.resolve (Ladder.rung 0)).perform Ladder.world).1 = none ∧
      (valueOf? ((Ladder.source.resolve (Ladder.rung 0)).perform
        (Ladder.source.after Ladder.world [Ladder.rung 1])).1).isSome = true :=
  have serves : Ladder.source.Serves Ladder.world Ladder.store :=
    Source.serves_of_silent Ladder.silent
  Source.chain_remembered serves rfl Ladder.isChain

end MavenImport
