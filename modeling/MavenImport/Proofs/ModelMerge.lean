/-
# Proofs.ModelMerge -- the model of an artifact without a memo

`Merges store c m` says that the POMs of a store merge into the model `m` of the coordinate `c`:
there is a finite derivation by the rules for the parent and for each managed dependency, each
model in it derived anew.  `MergesWithin` counts how many models are nested in each other.

A merge is unique (`merges_unique`), and whatever a merged POM asks for is merged at a smaller
depth (`asked_merges`), so nothing below it asks for itself (`merges_acyclic`).

Who keeps models under the texts of coordinates may confuse two of one text, and may know models
from before.  `MayKeep` says what can be kept then, and `Leads` which coordinates come up.
-/
import Mathlib.Logic.Relation
import MavenImport.Maven.Model

namespace MavenImport

open Relation (ReflTransGen TransGen)

set_option autoImplicit false

/-! ## Derivations -/

/-- What a POM starts from, where `R` says which model a coordinate has. -/
inductive Pom.Starts (R : Coordinate → Model → Prop) (pom : Pom) : Draft → Prop
  | alone (orphan : pom.parent? = none) : Pom.Starts R pom .empty
  | inherits {parent : Coordinate} {m : Model} (named : pom.parent? = some parent)
      (merged : R parent m) : Pom.Starts R pom (.inherit m)

/-- The coordinate that a managed dependency stands for, if it is an import with a version. -/
def Draft.imported? (draft : Draft) (d : Dependency) : Option Coordinate :=
  let d := draft.interpolate d
  if d.isImport then (given? d.version).map fun version => ⟨d.group, d.artifact, version⟩ else none

/-- What a draft comes to when it takes up managed dependencies in turn. -/
inductive Draft.Manages (R : Coordinate → Model → Prop) :
    Draft → List Dependency → Draft → Prop
  | done (draft : Draft) : Draft.Manages R draft [] draft
  | takes {draft draft' : Draft} {d : Dependency} {ds : List Dependency}
      (own : (draft.interpolate d).isImport = false)
      (rest : Draft.Manages R (draft.manage (draft.interpolate d)) ds draft') :
      Draft.Manages R draft (d :: ds) draft'
  | passes {draft draft' : Draft} {d : Dependency} {ds : List Dependency}
      (isImport : (draft.interpolate d).isImport = true) (unversioned : draft.imported? d = none)
      (rest : Draft.Manages R draft ds draft') : Draft.Manages R draft (d :: ds) draft'
  | imports {draft draft' : Draft} {d : Dependency} {ds : List Dependency} {c : Coordinate}
      {m : Model} (named : draft.imported? d = some c) (merged : R c m)
      (rest : Draft.Manages R (draft.importAll m) ds draft') :
      Draft.Manages R draft (d :: ds) draft'

/-- A POM merges into a model. -/
def Pom.MergesInto (R : Coordinate → Model → Prop) (pom : Pom) (c : Coordinate) (m : Model) :
    Prop :=
  ∃ draft draft', pom.Starts R draft ∧
    (draft.defineAll pom c).Manages R pom.managed draft' ∧ m = (draft'.depend pom).finish pom c

/-- The model of a coordinate is derived with at most so many models nested in each other, its
own one included. -/
def MergesWithin (store : Coordinate → Option Pom) : Nat → Coordinate → Model → Prop
  | 0, _, _ => False
  | n + 1, c, m => ∃ pom, store c = some pom ∧ pom.MergesInto (MergesWithin store n) c m

/-- The model of a coordinate is derived. -/
def Merges (store : Coordinate → Option Pom) (c : Coordinate) (m : Model) : Prop :=
  ∃ n, MergesWithin store n c m

/-- A POM names a coordinate, as its parent or as an import with a version. -/
inductive Pom.Names (R : Coordinate → Model → Prop) (pom : Pom) (c : Coordinate) : Coordinate → Prop
  | parent {c' : Coordinate} (named : pom.parent? = some c') : Pom.Names R pom c c'
  | imported {draft : Draft} {d : Dependency} {c' : Coordinate} (starts : pom.Starts R draft)
      (listed : d ∈ pom.managed) (named : (draft.defineAll pom c).imported? d = some c') :
      Pom.Names R pom c c'

/-- The POM of a coordinate names another one. -/
def Asks (store : Coordinate → Option Pom) (c c' : Coordinate) : Prop :=
  ∃ pom, store c = some pom ∧ pom.Names (Merges store) c c'

/-- A model may be kept under a key: it is known, or it is put together from a POM that is given
for a coordinate with that text, and from models that may be kept. -/
def MayKeep (known : String → Model → Prop) (given : Coordinate → Pom → Prop) (key : String)
    (m : Model) : Prop :=
  ∀ R : String → Model → Prop, (∀ key m, known key m → R key m) →
    (∀ c pom m, given c pom → pom.MergesInto (fun d m => R d.text m) c m → R c.text m) → R key m

/-- A POM that is given for a coordinate names another one, where models are found by the texts of
coordinates. -/
def Leads (known : String → Model → Prop) (given : Coordinate → Pom → Prop) (c c' : Coordinate) :
    Prop :=
  ∃ pom, given c pom ∧ pom.Names (fun d m => MayKeep known given d.text m) c c'

/-! ## More models admit more derivations -/

section Monotone

variable {R R' : Coordinate → Model → Prop} (wider : ∀ c m, R c m → R' c m)
include wider

theorem starts_mono {pom : Pom} {draft : Draft} (starts : pom.Starts R draft) :
    pom.Starts R' draft := by
  cases starts with
  | alone orphan => exact .alone orphan
  | inherits named merged => exact .inherits named (wider _ _ merged)

theorem manages_mono {draft draft' : Draft} {ds : List Dependency}
    (manages : draft.Manages R ds draft') : draft.Manages R' ds draft' := by
  induction manages with
  | done draft => exact .done draft
  | takes own _ ih => exact .takes own ih
  | passes isImport unversioned _ ih => exact .passes isImport unversioned ih
  | imports named merged _ ih => exact .imports named (wider _ _ merged) ih

theorem names_mono {pom : Pom} {c c' : Coordinate} (names : pom.Names R c c') :
    pom.Names R' c c' := by
  cases names with
  | parent named => exact .parent named
  | imported starts listed named => exact .imported (starts_mono wider starts) listed named

theorem mergesInto_mono {pom : Pom} {c : Coordinate} {m : Model} (merges : pom.MergesInto R c m) :
    pom.MergesInto R' c m := by
  obtain ⟨draft, draft', starts, manages, made⟩ := merges
  exact ⟨draft, draft', starts_mono wider starts, manages_mono wider manages, made⟩

end Monotone

section MayKeep

variable {known : String → Model → Prop} {given : Coordinate → Pom → Prop}

theorem mayKeep_known {key : String} {m : Model} (found : known key m) : MayKeep known given key m :=
  fun _ knows _ => knows key m found

theorem mayKeep_merged {c : Coordinate} {pom : Pom} {m : Model} (loaded : given c pom)
    (merges : pom.MergesInto (fun d m => MayKeep known given d.text m) c m) :
    MayKeep known given c.text m :=
  fun R knows closed =>
    closed c pom m loaded (mergesInto_mono (fun _ _ kept => kept R knows closed) merges)

variable {known' : String → Model → Prop} {given' : Coordinate → Pom → Prop}
  (knows : ∀ key m, known key m → known' key m) (wider : ∀ c pom, given c pom → given' c pom)
include knows wider

theorem mayKeep_mono {key : String} {m : Model} (kept : MayKeep known given key m) :
    MayKeep known' given' key m :=
  fun R knows' closed =>
    kept R (fun key m found => knows' key m (knows key m found))
      fun c pom m loaded merges => closed c pom m (wider c pom loaded) merges

theorem leads_mono {c c' : Coordinate} (leads : Leads known given c c') :
    Leads known' given' c c' := by
  obtain ⟨pom, loaded, names⟩ := leads
  exact ⟨pom, wider c pom loaded, names_mono (fun _ _ => mayKeep_mono knows wider) names⟩

end MayKeep

theorem mergesWithin_succ {store : Coordinate → Option Pom} :
    ∀ (n : Nat) (c : Coordinate) (m : Model),
      MergesWithin store n c m → MergesWithin store (n + 1) c m
  | 0, _, _, merges => merges.elim
  | n + 1, _, _, merges => by
      obtain ⟨pom, stored, into⟩ := merges
      exact ⟨pom, stored, mergesInto_mono (mergesWithin_succ n) into⟩

theorem mergesWithin_mono {store : Coordinate → Option Pom} {n k : Nat} {c : Coordinate}
    {m : Model} (le : n ≤ k) (merges : MergesWithin store n c m) : MergesWithin store k c m := by
  induction le with
  | refl => exact merges
  | step _ ih => exact mergesWithin_succ _ _ _ ih

/-! ## A derivation is finite -/

section Finite

variable {store : Coordinate → Option Pom}

theorem starts_bounded {pom : Pom} {draft : Draft} (starts : pom.Starts (Merges store) draft) :
    ∃ n, pom.Starts (MergesWithin store n) draft := by
  cases starts with
  | alone orphan => exact ⟨0, .alone orphan⟩
  | inherits named merged =>
      obtain ⟨n, within⟩ := merged
      exact ⟨n, .inherits named within⟩

theorem manages_bounded {draft draft' : Draft} {ds : List Dependency}
    (manages : draft.Manages (Merges store) ds draft') :
    ∃ n, draft.Manages (MergesWithin store n) ds draft' := by
  induction manages with
  | done draft => exact ⟨0, .done draft⟩
  | takes own _ ih =>
      obtain ⟨n, rest⟩ := ih
      exact ⟨n, .takes own rest⟩
  | passes isImport unversioned _ ih =>
      obtain ⟨n, rest⟩ := ih
      exact ⟨n, .passes isImport unversioned rest⟩
  | imports named merged _ ih =>
      obtain ⟨n, rest⟩ := ih
      obtain ⟨k, within⟩ := merged
      have left : n ≤ max n k := Nat.le_max_left n k
      have right : k ≤ max n k := Nat.le_max_right n k
      exact ⟨max n k, .imports named (mergesWithin_mono right within)
        (manages_mono (fun _ _ => mergesWithin_mono left) rest)⟩

/-- A POM that merges with the models of what it refers to has a model itself. -/
theorem merges_of_pom {c : Coordinate} {pom : Pom} {m : Model} (stored : store c = some pom)
    (into : pom.MergesInto (Merges store) c m) : Merges store c m := by
  obtain ⟨draft, draft', starts, manages, made⟩ := into
  obtain ⟨n, starts⟩ := starts_bounded starts
  obtain ⟨k, manages⟩ := manages_bounded manages
  have left : n ≤ max n k := Nat.le_max_left n k
  have right : k ≤ max n k := Nat.le_max_right n k
  exact ⟨max n k + 1, pom, stored, draft, draft',
    starts_mono (fun _ _ => mergesWithin_mono left) starts,
    manages_mono (fun _ _ => mergesWithin_mono right) manages, made⟩

end Finite

/-! ## A merge is unique -/

theorem isImport_of_imported {draft : Draft} {d : Dependency} {c : Coordinate}
    (named : draft.imported? d = some c) : (draft.interpolate d).isImport = true := by
  cases own : (draft.interpolate d).isImport with
  | true => rfl
  | false => simp [Draft.imported?, own] at named

section Inversion

variable {R : Coordinate → Model → Prop} {draft draft' : Draft} {d : Dependency}
  {ds : List Dependency}

theorem manages_own (own : (draft.interpolate d).isImport = false) :
    draft.Manages R (d :: ds) draft'
      ↔ (draft.manage (draft.interpolate d)).Manages R ds draft' := by
  refine ⟨fun manages => ?_, .takes own⟩
  cases manages with
  | takes _ rest => exact rest
  | passes isImport _ _ => rw [own] at isImport; cases isImport
  | imports named _ _ => rw [isImport_of_imported named] at own; cases own

theorem manages_unversioned (isImport : (draft.interpolate d).isImport = true)
    (unversioned : draft.imported? d = none) :
    draft.Manages R (d :: ds) draft' ↔ draft.Manages R ds draft' := by
  refine ⟨fun manages => ?_, .passes isImport unversioned⟩
  cases manages with
  | takes own _ => rw [isImport] at own; cases own
  | passes _ _ rest => exact rest
  | imports named _ _ => rw [unversioned] at named; cases named

theorem manages_import {c : Coordinate} (named : draft.imported? d = some c) :
    draft.Manages R (d :: ds) draft'
      ↔ ∃ m, R c m ∧ (draft.importAll m).Manages R ds draft' := by
  refine ⟨fun manages => ?_, fun ⟨_, merged, rest⟩ => .imports named merged rest⟩
  cases manages with
  | takes own _ => rw [isImport_of_imported named] at own; cases own
  | passes _ unversioned _ => rw [named] at unversioned; cases unversioned
  | @imports _ _ _ _ _ m named' merged rest =>
      rw [named] at named'
      cases named'
      exact ⟨m, merged, rest⟩

end Inversion

section Unique

variable {R R' : Coordinate → Model → Prop} (same : ∀ c m m', R c m → R' c m' → m = m')
include same

theorem starts_unique {pom : Pom} {draft draft' : Draft} (one : pom.Starts R draft)
    (other : pom.Starts R' draft') : draft = draft' := by
  cases one with
  | alone orphan =>
      cases other with
      | alone _ => rfl
      | inherits named _ => rw [orphan] at named; cases named
  | inherits named merged =>
      cases other with
      | alone orphan => rw [orphan] at named; cases named
      | inherits named' merged' =>
          rw [named] at named'
          cases named'
          rw [same _ _ _ merged merged']

theorem manages_unique {draft : Draft} {ds : List Dependency} {one other : Draft}
    (first : draft.Manages R ds one) (second : draft.Manages R' ds other) : one = other := by
  induction first with
  | done draft => cases second; rfl
  | takes own _ ih => exact ih ((manages_own own).mp second)
  | passes isImport unversioned _ ih =>
      exact ih ((manages_unversioned isImport unversioned).mp second)
  | imports named merged _ ih =>
      obtain ⟨m', merged', rest⟩ := (manages_import named).mp second
      cases same _ _ _ merged merged'
      exact ih rest

end Unique

theorem mergesWithin_unique {store : Coordinate → Option Pom} :
    ∀ (n k : Nat) (c : Coordinate) (m m' : Model),
      MergesWithin store n c m → MergesWithin store k c m' → m = m'
  | 0, _, _, _, _, one, _ => one.elim
  | _ + 1, 0, _, _, _, _, other => other.elim
  | n + 1, k + 1, c, m, m', one, other => by
      obtain ⟨pom, stored, draft, draft', starts, manages, rfl⟩ := one
      obtain ⟨pom', stored', other, other', starts', manages', rfl⟩ := other
      have same : ∀ c m m', MergesWithin store n c m → MergesWithin store k c m' → m = m' :=
        mergesWithin_unique n k
      rw [stored] at stored'
      cases stored'
      cases starts_unique same starts starts'
      rw [manages_unique same manages manages']

theorem merges_unique {store : Coordinate → Option Pom} {c : Coordinate} {m m' : Model}
    (one : Merges store c m) (other : Merges store c m') : m = m' := by
  obtain ⟨n, one⟩ := one
  obtain ⟨k, other⟩ := other
  exact mergesWithin_unique n k c m m' one other

/-! ## What a merged POM asks for -/

/-- Taking up managed dependencies does not change what references mean, so each import stands
for the same coordinate at its turn as at the start. -/
theorem manages_imported {R : Coordinate → Model → Prop} {draft draft' : Draft}
    {ds : List Dependency} (manages : draft.Manages R ds draft') :
    ∀ d ∈ ds, ∀ c, draft.imported? d = some c → ∃ m, R c m := by
  induction manages with
  | done => intro d listed; cases listed
  | takes own _ ih =>
      intro d listed c named
      rcases List.mem_cons.mp listed with rfl | later
      · simp [Draft.imported?, own] at named
      · exact ih d later c named
  | passes _ unversioned _ ih =>
      intro d listed c named
      rcases List.mem_cons.mp listed with rfl | later
      · rw [unversioned] at named; cases named
      · exact ih d later c named
  | imports named merged _ ih =>
      intro d listed c named'
      rcases List.mem_cons.mp listed with rfl | later
      · rw [named] at named'
        cases named'
        exact ⟨_, merged⟩
      · exact ih d later c named'

/-- Whatever a merged POM asks for is merged with fewer models nested in each other. -/
theorem asked_merges {store : Coordinate → Option Pom} {n : Nat} {c c' : Coordinate} {m : Model}
    (merges : MergesWithin store (n + 1) c m) (asks : Asks store c c') :
    ∃ m', MergesWithin store n c' m' := by
  obtain ⟨pom, stored, draft, draft', starts, manages, -⟩ := merges
  obtain ⟨pom', stored', names⟩ := asks
  obtain rfl := Option.some.inj (stored.symm.trans stored')
  cases names with
  | parent named =>
      cases starts with
      | alone orphan => rw [orphan] at named; cases named
      | inherits named' merged =>
          rw [named'] at named
          cases named
          exact ⟨_, merged⟩
  | imported starts' listed named =>
      have agree : ∀ c m m', MergesWithin store n c m → Merges store c m' → m = m' :=
        fun c m m' one other => merges_unique ⟨n, one⟩ other
      cases starts_unique agree starts starts'
      exact manages_imported manages _ listed _ named

/-- What is asked for through others is merged with fewer models still. -/
theorem reached_merges {store : Coordinate → Option Pom} {c c' : Coordinate}
    (reached : TransGen (Asks store) c c') :
    ∀ (n : Nat) (m : Model), MergesWithin store n c m →
      ∃ k, k < n ∧ ∃ m', MergesWithin store k c' m' := by
  induction reached with
  | single asks =>
      intro n m merges
      cases n with
      | zero => exact merges.elim
      | succ n => exact ⟨n, by omega, asked_merges merges asks⟩
  | tail _ asks ih =>
      intro n m merges
      obtain ⟨k, less, m', between⟩ := ih n m merges
      cases k with
      | zero => exact between.elim
      | succ k => exact ⟨k, by omega, asked_merges between asks⟩

/-- A coordinate that has a model does not ask for itself, not even through others. -/
theorem merges_irreflexive {store : Coordinate → Option Pom} {c : Coordinate} :
    ∀ (n : Nat) (m : Model), MergesWithin store n c m → ¬ TransGen (Asks store) c c := by
  intro n
  induction n using Nat.strongRecOn with
  | ind n ih =>
      intro m merges circle
      obtain ⟨k, less, m', below⟩ := reached_merges circle n m merges
      exact ih k less m' below circle

/-- Nothing that is asked for below a merged coordinate asks for itself. -/
theorem merges_acyclic {store : Coordinate → Option Pom} {c d : Coordinate} {m : Model}
    (merges : Merges store c m) (below : ReflTransGen (Asks store) c d) :
    ¬ TransGen (Asks store) d d := by
  obtain ⟨n, merges⟩ := merges
  rcases Relation.reflTransGen_iff_eq_or_transGen.mp below with rfl | reached
  · exact merges_irreflexive n m merges
  · obtain ⟨k, -, m', below⟩ := reached_merges reached n m merges
    exact merges_irreflexive k m' below

end MavenImport
