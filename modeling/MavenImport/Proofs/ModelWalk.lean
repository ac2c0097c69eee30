/-
# Proofs.ModelWalk -- one way through the models that a source puts together

To resolve a coordinate, a source looks for its model, loads its POM, has the models that the POM
names, and keeps the one that it puts together from them.  Whatever is judged of these steps is
judged of the whole (`Source.Upholds`, `resolve_holds`).  What is said there of POMs and models is
collected in `Terms`; it must be handed on from what a POM names to what it merges into
(`Terms.Closed`).

A property of worlds that loading a POM and keeping a model leave in force is the first use of this
(`Source.Carries`).
-/
import MavenImport.Maven.Resolve
import MavenImport.Proofs.ActionLaws
import MavenImport.Proofs.ModelMerge

namespace MavenImport

open MavenImport.Action (Judgement Losses Meets perform_get_bind)

set_option autoImplicit false

/-! ## Terms -/

/-- What is said of coordinates, and of POMs and models under them. -/
structure Terms where
  /-- The coordinates that come up. -/
  reach : Coordinate → Prop
  given : Coordinate → Pom → Prop
  may : Coordinate → Model → Prop
  /-- The POM that must be given. -/
  stored : Coordinate → Pom → Prop := fun _ _ => False
  /-- The model that must be had where so many models may be nested in each other. -/
  must : Nat → Coordinate → Model → Prop := fun _ _ _ => False

/-- What is said of a coordinate holds because of what is said of those that its POM names. -/
structure Terms.Closed (t : Terms) : Prop where
  leads : ∀ c pom c', t.reach c → t.given c pom → pom.Names t.may c c' → t.reach c'
  merges : ∀ c pom m, t.reach c → t.given c pom → pom.MergesInto t.may c m → t.may c m
  stored : ∀ c pom pom', t.given c pom → t.stored c pom' → pom' = pom
  required : ∀ n c m m', t.may c m → t.must n c m' → m' = m
  allowed : ∀ n c m, t.must n c m → t.may c m
  shallow : ∀ c m, ¬ t.must 0 c m
  nested : ∀ n c m, t.must (n + 1) c m → ∃ pom, t.stored c pom ∧ pom.MergesInto (t.must n) c m

section Terms

variable {t : Terms}

theorem must_unique (closed : t.Closed) (n : Nat) (c : Coordinate) (m m' : Model)
    (one : t.must n c m) (other : t.must n c m') : m = m' :=
  closed.required n c m' m (closed.allowed n c m' other) one

end Terms

namespace Source

/-- The model that is kept for a coordinate, or else another answer. -/
def lookUp (c : Coordinate) (otherwise : Action (Except ResolutionFailure Model)) :
    Action (Except ResolutionFailure Model) := do
  match (← get).models.find? c.text with
  | some model => return .ok model
  | none => otherwise

/-- Keeps a model. -/
def keepModel (c : Coordinate) (m : Model) : Action (Except ResolutionFailure Model) := do
  modify fun w => { w with models := w.models.put c.text m }
  return .ok m

/-- A judgement holds of what a source does with one coordinate at a time, beside another source
that does the same. -/
structure Upholds (s s' : Source) (J : Judgement ResolutionFailure) (t : Terms) : Prop where
  loads : ∀ c, t.reach c → J.Holds (s.loadPom c) (s'.loadPom c) (t.given c) (t.stored c)
  keeps : ∀ c m, t.reach c → t.may c m →
    J.Holds (keepModel c m) (keepModel c m) (t.may c) (· = m)
  looks : ∀ n c a a', t.reach c → J.Holds a a' (t.may c) (t.must n c) →
    J.Holds (lookUp c a) (lookUp c a') (t.may c) (t.must n c)
  deep : ∀ c, t.reach c →
    J.Holds (pure (.error (s.tooDeep c))) (pure (.error (s'.tooDeep c))) (t.may c) fun _ => False

variable {s s' : Source} {J : Judgement ResolutionFailure}

/-! ## Looking a model up -/

theorem modelOf_zero (c : Coordinate) :
    s.modelOf 0 c = lookUp c (pure (.error (s.tooDeep c))) := rfl

theorem modelOf_succ (n : Nat) (c : Coordinate) :
    s.modelOf (n + 1) c = lookUp c (s.newModel (s.modelOf n) c) := rfl

section LookUp

variable {v : World} {c : Coordinate}

theorem lookUp_found {a : Action (Except ResolutionFailure Model)} {m : Model}
    (found : v.models.find? c.text = some m) : (lookUp c a).perform v = (.ok (.ok m), v) := by
  rw [lookUp, perform_get_bind, found]
  rfl

theorem lookUp_missing {a : Action (Except ResolutionFailure Model)}
    (missing : v.models.find? c.text = none) : (lookUp c a).perform v = a.perform v := by
  rw [lookUp, perform_get_bind, missing]

/-- A model that is kept answers at once. -/
theorem modelOf_found {m : Model} (found : v.models.find? c.text = some m) :
    ∀ n, (s.modelOf n c).perform v = (.ok (.ok m), v)
  | 0 => by rw [modelOf_zero, lookUp_found found]
  | n + 1 => by rw [modelOf_succ, lookUp_found found]

theorem modelOf_new (missing : v.models.find? c.text = none) (n : Nat) :
    (s.modelOf (n + 1) c).perform v = (s.newModel (s.modelOf n) c).perform v := by
  rw [modelOf_succ, lookUp_missing missing]

theorem modelOf_deep (missing : v.models.find? c.text = none) :
    (s.modelOf 0 c).perform v = (.ok (.error (s.tooDeep c)), v) := by
  rw [modelOf_zero, lookUp_missing missing]
  rfl

end LookUp

/-! ## Putting a model together -/

section Merging

variable {may must : Coordinate → Model → Prop}
  {give give' : Coordinate → Action (Except ResolutionFailure Model)}
  (unique : ∀ c m m', must c m → must c m' → m = m')
include unique

theorem startDraft_holds (pom : Pom)
    (gives : ∀ c, pom.parent? = some c → J.Holds (give c) (give' c) (may c) (must c)) :
    J.Holds (startDraft give pom) (startDraft give' pom) (pom.Starts may) (pom.Starts must) := by
  unfold startDraft
  cases named : pom.parent? with
  | none =>
      refine J.value (.alone named) fun draft starts => ?_
      cases starts with
      | alone _ => rfl
      | inherits named' _ => rw [named] at named'; cases named'
  | some parent =>
      refine J.weaken (J.map (gives parent named) (unique parent) Draft.inherit) ?_ ?_
      · rintro draft ⟨m, merged, rfl⟩
        exact .inherits named merged
      · intro draft starts
        cases starts with
        | alone orphan => rw [named] at orphan; cases orphan
        | inherits named' merged =>
            rw [named] at named'
            cases named'
            exact ⟨_, merged, rfl⟩

/-- Taking up a dependency does not change which coordinates the others stand for. -/
theorem manageAll_holds :
    ∀ (ds : List Dependency) (draft : Draft),
      (∀ d ∈ ds, ∀ c, draft.imported? d = some c → J.Holds (give c) (give' c) (may c) (must c)) →
      J.Holds (manageAll give draft ds) (manageAll give' draft ds) (draft.Manages may ds)
        (draft.Manages must ds)
  | [], draft, _ => by
      refine J.value (.done draft) fun draft' manages => ?_
      cases manages
      rfl
  | d :: ds, draft, gives => by
      have later : ∀ d' ∈ ds, ∀ c, draft.imported? d' = some c →
          J.Holds (give c) (give' c) (may c) (must c) :=
        fun d' listed => gives d' (List.mem_cons_of_mem d listed)
      unfold manageAll
      dsimp only
      split
      · next isImport =>
          split
          · next unversioned =>
              have nothing : draft.imported? d = none := by
                simp [Draft.imported?, isImport, unversioned]
              exact J.weaken (manageAll_holds ds draft later)
                (fun _ => (manages_unversioned isImport nothing).mpr)
                fun _ => (manages_unversioned isImport nothing).mp
          · next version versioned =>
              have named : draft.imported? d = some
                  ⟨(draft.interpolate d).group, (draft.interpolate d).artifact, version⟩ := by
                simp [Draft.imported?, isImport, versioned]
              refine J.sequence (gives d List.mem_cons_self _ named) (fun _ => rfl) (fun _ => rfl)
                (fun m merged => ?_) fun draft' manages => ?_
              · refine J.weaken (manageAll_holds ds (draft.importAll m) later)
                  (fun _ rest => .imports named merged rest) ?_
                rintro draft' ⟨asked, manages⟩
                obtain ⟨m', asked', rest⟩ := (manages_import named).mp manages
                rwa [unique _ _ _ asked asked']
              · obtain ⟨m, merged, -⟩ := (manages_import named).mp manages
                exact ⟨m, merged⟩
      · next own =>
          have own : (draft.interpolate d).isImport = false := by simpa using own
          exact J.weaken (manageAll_holds ds (draft.manage (draft.interpolate d)) later)
            (fun _ => (manages_own own).mpr) fun _ => (manages_own own).mp

/-- Only the models of coordinates that the POM names are asked for. -/
theorem mergeModel_holds (c : Coordinate) (pom : Pom)
    (gives : ∀ c', pom.Names may c c' → J.Holds (give c') (give' c') (may c') (must c')) :
    J.Holds (mergeModel give c pom) (mergeModel give' c pom) (pom.MergesInto may c)
      (pom.MergesInto must c) := by
  have start := startDraft_holds (J := J) unique pom fun parent named => gives parent (.parent named)
  refine J.sequence start (fun _ => rfl) (fun _ => rfl) (fun draft starts => ?_) ?_
  · refine J.sequence (manageAll_holds unique _ _ fun d listed c' named =>
      gives c' (.imported starts listed named)) (fun _ => rfl) (fun _ => rfl)
      (fun draft' manages => ?_) ?_
    · refine J.value ⟨draft, draft', starts, manages, rfl⟩ ?_
      rintro m ⟨asked, started, again, managed, starts', manages', rfl⟩
      cases starts_unique unique started starts'
      rw [manages_unique unique asked manages']
    · rintro m ⟨started, again, managed, starts', manages', -⟩
      cases starts_unique unique started starts'
      exact ⟨managed, manages'⟩
  · rintro m ⟨draft, draft', starts, -, -⟩
    exact ⟨draft, starts⟩

end Merging

/-! ## Putting together whatever comes up -/

section Upholds

variable {t : Terms} (closed : t.Closed) (upholds : s.Upholds s' J t)
include closed

/-- A POM that was given is merged with the models that it names. -/
theorem mergeGiven_holds {n : Nat} {give give' : Coordinate → Action (Except ResolutionFailure Model)}
    (gives : ∀ c, t.reach c → J.Holds (give c) (give' c) (t.may c) (t.must n c)) {c : Coordinate}
    (reached : t.reach c) {pom : Pom} (given : t.given c pom) :
    J.Holds (mergeModel give c pom) (mergeModel give' c pom) (pom.MergesInto t.may c)
      (pom.MergesInto (t.must n) c) :=
  mergeModel_holds (must_unique closed n) c pom fun c' names =>
    gives c' (closed.leads c pom c' reached given names)

include upholds

/-- One level of the recursion. -/
theorem newModel_holds {n : Nat} {give give' : Coordinate → Action (Except ResolutionFailure Model)}
    (gives : ∀ c, t.reach c → J.Holds (give c) (give' c) (t.may c) (t.must n c)) {c : Coordinate}
    (reached : t.reach c) :
    J.Holds (s.newModel give c) (s'.newModel give' c) (t.may c) (t.must (n + 1) c) := by
  refine J.sequence (upholds.loads c reached) (fun _ => rfl) (fun _ => rfl) (fun pom given => ?_) ?_
  · have merging := mergeGiven_holds closed gives reached given
    refine J.sequence merging (fun _ => rfl) (fun _ => rfl) (fun m merged => ?_) ?_
    · have allowed : t.may c m := closed.merges c pom m reached given merged
      refine J.weaken (upholds.keeps c m reached allowed) (fun _ => id) ?_
      rintro m' ⟨-, -, required⟩
      exact closed.required (n + 1) c m m' allowed required
    · rintro m ⟨-, required⟩
      obtain ⟨pom', stored, merges⟩ := closed.nested n c m required
      cases closed.stored c pom pom' given stored
      exact ⟨m, merges⟩
  · intro m required
    obtain ⟨pom, stored, -⟩ := closed.nested n c m required
    exact ⟨pom, stored⟩

theorem modelOf_holds (n : Nat) {c : Coordinate} (reached : t.reach c) :
    J.Holds (s.modelOf n c) (s'.modelOf n c) (t.may c) (t.must n c) := by
  induction n generalizing c with
  | zero =>
      rw [modelOf_zero, modelOf_zero]
      refine upholds.looks 0 c _ _ reached ?_
      exact J.weaken (upholds.deep c reached) (fun _ => id) fun m => closed.shallow c m
  | succ n ih =>
      rw [modelOf_succ, modelOf_succ]
      exact upholds.looks (n + 1) c _ _ reached
        (newModel_holds closed upholds (fun _ => ih) reached)

theorem resolve_holds {c : Coordinate} (reached : t.reach c) :
    J.Holds (s.resolve c) (s'.resolve c) (fun a => ∃ m, t.may c m ∧ a = m.resolved c)
      fun a => ∃ m, t.must maxNesting c m ∧ a = m.resolved c :=
  J.map (modelOf_holds closed upholds maxNesting reached) (must_unique closed maxNesting c)
    fun m => m.resolved c

end Upholds

/-! ## What lasts while models are put together -/

/-- A property of worlds lasts while a source is held to terms, and its failures and faults are
some that may be. -/
structure Carries (s : Source) (good : World → Prop) (lost : Losses ResolutionFailure) (t : Terms) :
    Prop where
  closed : t.Closed
  loads : ∀ c, t.reach c → Meets good lost (s.loadPom c) (t.given c) (t.stored c)
  keeps : ∀ v c m, good v → t.reach c → t.may c m →
    good { v with models := v.models.put c.text m }
  found : ∀ v c m, good v → t.reach c → v.models.find? c.text = some m → t.may c m
  deep : ∀ c, t.reach c → lost.fails (s.tooDeep c)

section Carries

variable {good : World → Prop} {lost : Losses ResolutionFailure} {t : Terms}
  (carries : s.Carries good lost t)
include carries

/-- A model that is kept may be had, so it is the one that must be had, if there is one. -/
theorem lookUp_meets {n : Nat} {c : Coordinate} {a : Action (Except ResolutionFailure Model)}
    (reached : t.reach c) (meets : Meets good lost a (t.may c) (t.must n c)) :
    Meets good lost (lookUp c a) (t.may c) (t.must n c) := by
  have ends : ∀ v, good v → (lookUp c a).perform v = a.perform v ∨
      ∃ m, t.may c m ∧ (lookUp c a).perform v = (.ok (.ok m), v) := by
    intro v started
    cases found : v.models.find? c.text with
    | none => exact .inl (lookUp_missing found)
    | some m => exact .inr ⟨m, carries.found v c m started reached found, lookUp_found found⟩
  constructor
  case keeps =>
    intro v started
    obtain ended | ⟨m, allowed, ended⟩ := ends v started <;> rw [ended]
    · exact meets.keeps v started
    · exact started
  case sound =>
    intro v started m' answered
    obtain ended | ⟨m, allowed, ended⟩ := ends v started <;> rw [ended] at answered
    · exact meets.sound v started m' answered
    · cases answered
      exact allowed
  case complete =>
    intro v started m' required
    obtain ended | ⟨m, allowed, ended⟩ := ends v started <;> rw [ended]
    · exact meets.complete v started m' required
    · rw [carries.closed.required n c m m' allowed required]
  case fails =>
    intro v started failure failed
    obtain ended | ⟨m, allowed, ended⟩ := ends v started <;> rw [ended] at failed
    · exact meets.fails v started failure failed
    · cases failed
  case stops =>
    intro v started fault stopped
    obtain ended | ⟨m, allowed, ended⟩ := ends v started <;> rw [ended] at stopped ⊢
    · exact meets.stops v started fault stopped
    · cases stopped

theorem carries_any : s.Carries good .any t :=
  { carries with
    loads := fun c reached => Action.meets_any (carries.loads c reached)
    deep := fun _ _ => trivial }

theorem carries_upholds : s.Upholds s (.meets good lost) t where
  loads := carries.loads
  keeps c m reached allowed :=
    { keeps := fun v started => carries.keeps v c m started reached allowed
      sound := fun v _ m' answered => by
        cases answered
        exact allowed
      complete := fun v _ m' same => by
        rw [same]
        rfl
      fails := fun _ _ _ failed => by cases failed
      stops := fun _ _ _ stopped => by cases stopped }
  looks _ _ _ _ reached meets := lookUp_meets carries reached meets
  deep c reached := Action.meets_failure (carries.deep c reached)

theorem modelOf_carries (n : Nat) {c : Coordinate} (reached : t.reach c) :
    Meets good lost (s.modelOf n c) (t.may c) (t.must n c) :=
  modelOf_holds carries.closed (carries_upholds carries) n reached

theorem resolve_carries {c : Coordinate} (reached : t.reach c) :
    Meets good lost (s.resolve c) (fun a => ∃ m, t.may c m ∧ a = m.resolved c)
      fun a => ∃ m, t.must maxNesting c m ∧ a = m.resolved c :=
  resolve_holds carries.closed (carries_upholds carries) reached

/-- A coordinate without a model is resolved by loading its POM, and what holds from then on holds
in the end. -/
theorem resolve_loaded {c : Coordinate} (reached : t.reach c) {w u : World}
    (missing : w.models.find? c.text = none) {a : ResolvedArtifact}
    (resolved : (s.resolve c).perform w = (.ok (.ok a), u)) :
    ∃ pom v, (s.loadPom c).perform w = (.ok (.ok pom), v) ∧
      (t.given c pom → good v → good u) := by
  rw [resolve, Action.perform_bind,
    show s.modelOf maxNesting c = s.modelOf (20 + 1) c from rfl, modelOf_new missing] at resolved
  rw [newModel, Action.perform_bind] at resolved
  rcases loaded : (s.loadPom c).perform w with ⟨fault | failure | pom, v⟩ <;>
    rw [loaded] at resolved
  · cases resolved
  · cases resolved
  · refine ⟨pom, v, rfl, fun given started => ?_⟩
    have merging : (Judgement.meets good lost).Holds (mergeModel (s.modelOf 20) c pom)
        (mergeModel (s.modelOf 20) c pom) (pom.MergesInto t.may c) (pom.MergesInto (t.must 20) c) :=
      mergeGiven_holds carries.closed (fun _ reached => modelOf_carries carries 20 reached) reached
        given
    have kept := Meets.keeps merging v started
    have said := Meets.sound merging v started
    dsimp only at resolved
    rw [Action.perform_bind] at resolved
    rcases merged : (mergeModel (s.modelOf 20) c pom).perform v with ⟨fault | failure | m, v'⟩ <;>
      rw [merged] at resolved kept said
    · cases resolved
    · cases resolved
    · cases resolved
      exact carries.keeps v' c m kept reached
        (carries.closed.merges c pom m reached given (said m rfl))

end Carries

end Source

end MavenImport
