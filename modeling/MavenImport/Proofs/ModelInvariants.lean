/-
# Proofs.ModelInvariants -- where a source leads to, and what stops it

A source puts models together from POMs that it was given (`Source.Gives`), and keeps them under
the texts of coordinates.  What holds of the model that a POM comes to, whenever it holds of the
models that the POM names, holds of every model that it keeps (`remembers_carries`).

Which coordinates come up while one is resolved follows from the POMs that are given and the models
that may be kept (`Source.Refers`); and which POMs are given may depend on those that were loaded
before, so these are taken to be of such coordinates only.  A source leads to no other worlds than
those of asking for these POMs and keeping models (`resolve_comes`, `resolve_guarded`).  Where it
comes to a failure or ends with a fault, loading one of these POMs did, or models were nested too
deeply (`resolve_failed`, `resolve_stopped`).
-/
import MavenImport.Proofs.ModelMemo

namespace MavenImport

open MavenImport.Action (Losses Meets)

set_option autoImplicit false

namespace Source

variable {s : Source} {w : World}

/-- The source gave the POM when it was asked for the coordinate. -/
def Gives (s : Source) (w : World) (c : Coordinate) (pom : Pom) : Prop :=
  ∃ v, s.Visits w v ∧ loaded? ((s.loadPom c).perform v).1 = some pom

/-- The source gave the POM of one of some coordinates, after it was asked for no others. -/
def GivesAmong (s : Source) (w : World) (among : Coordinate → Prop) (c : Coordinate) (pom : Pom) :
    Prop :=
  among c ∧ ∃ v, s.ComesTo w among v ∧ loaded? ((s.loadPom c).perform v).1 = some pom

/-- Terms over the POMs that a source gives while it asks for those of some coordinates. -/
def givenTerms (s : Source) (w : World) (among : Coordinate → Prop)
    (may : Coordinate → Model → Prop) : Terms where
  reach := among
  given := s.GivesAmong w among
  may := may

section Remembers

variable {among : Coordinate → Prop} {may : Coordinate → Model → Prop}
  {known : String → Model → Prop} {lost : Losses ResolutionFailure}

/-- What coordinates of one text have in common, and what a merge hands on, holds of all models that
are kept. -/
theorem remembers_carries (texts : ∀ c m, known c.text m ↔ may c m)
    (leads : ∀ c pom c', among c → s.GivesAmong w among c pom → pom.Names may c c' → among c')
    (merges : ∀ c pom m, s.GivesAmong w among c pom → pom.MergesInto may c m → may c m)
    (fails : ∀ c v failure, among c → s.ComesTo w among v →
      ((s.loadPom c).perform v).1 = .ok (.error failure) → lost.fails failure)
    (stops : ∀ c v fault, among c → s.ComesTo w among v →
      ((s.loadPom c).perform v).1 = .error fault → lost.stops fault ((s.loadPom c).perform v).2)
    (deep : ∀ c, among c → lost.fails (s.tooDeep c)) :
    s.Carries (s.Remembers w among known) lost (s.givenTerms w among may) where
  closed :=
    { leads := leads
      merges := fun c _ m _ => merges c _ m
      stored := fun _ _ _ _ stored => stored.elim
      required := fun _ _ _ _ _ required => required.elim
      allowed := fun _ _ _ required => required.elim
      shallow := fun _ _ required => required
      nested := fun _ _ _ required => required.elim }
  loads c listed :=
    { keeps := fun _ remembers => remembers_load remembers listed
      sound := fun v remembers _ answered =>
        ⟨listed, v, remembers.visited, loaded_eq_some.mpr answered⟩
      complete := fun _ _ _ required => required.elim
      fails := fun v remembers failure => fails c v failure listed remembers.visited
      stops := fun v remembers fault => stops c v fault listed remembers.visited }
  keeps _ c m remembers _ allowed := remembers_keep remembers ((texts c m).mpr allowed)
  found _ c m remembers _ found := (texts c m).mp (remembers.kept c.text m found)
  deep := deep

/-- The same for all coordinates, whatever the failures and the faults are. -/
theorem all_carries (texts : ∀ c m, known c.text m ↔ may c m)
    (merges : ∀ c pom m, s.Gives w c pom → pom.MergesInto may c m → may c m) :
    s.Carries (s.Remembers w (fun _ => True) known) .any (s.givenTerms w (fun _ => True) may) :=
  remembers_carries texts (fun _ _ _ _ _ _ => trivial)
    (fun c pom m given => merges c pom m given.2) (fun _ _ _ _ _ _ => trivial)
    (fun _ _ _ _ _ _ => trivial) fun _ _ => trivial

theorem after_carries {good : World → Prop} {t : Terms} (carries : s.Carries good lost t)
    (all : ∀ c, t.reach c) (calls : List Coordinate) {v : World} (started : good v) :
    good (s.after v calls) := by
  induction calls generalizing v with
  | nil => exact started
  | cons c calls ih => exact ih ((resolve_carries carries (all c)).keeps v started)

end Remembers

/-! ## What comes up while a coordinate is resolved -/

/-- The POM of a coordinate names another one, for a source that asks for the POMs of some
coordinates and has the models of a world. -/
def LeadsAmong (s : Source) (w : World) (among : Coordinate → Prop) :
    Coordinate → Coordinate → Prop :=
  Leads (fun key m => w.models.find? key = some m) (s.GivesAmong w among)

/-- A coordinate refers to itself, to the parents and imports that its POM names, and to those that
theirs name in turn, where only these POMs are asked for. -/
def Refers (s : Source) (w : World) (c d : Coordinate) : Prop :=
  ∀ among : Coordinate → Prop, among c →
    (∀ d d', among d → s.LeadsAmong w among d d' → among d') → among d

/-- A model may be kept under a key while a coordinate is resolved. -/
def MayKnow (s : Source) (w : World) (c : Coordinate) : String → Model → Prop :=
  MayKeep (fun key m => w.models.find? key = some m) (s.GivesAmong w (s.Refers w c))

/-- A fault is that of loading the POM of a coordinate that is referred to. -/
def StoppedBy (s : Source) (w : World) (c : Coordinate) (fault : Fault) (u : World) : Prop :=
  ∃ d v, s.Refers w c d ∧ s.ComesTo w (s.Refers w c) v ∧
    (s.loadPom d).perform v = (.error fault, u)

/-- A failure is that of loading the POM of a coordinate that is referred to, or of a nesting that
is too deep. -/
inductive FailedBy (s : Source) (w : World) (c : Coordinate) (failure : ResolutionFailure) : Prop
  | loading {d : Coordinate} {v u : World} (refers : s.Refers w c d)
      (comes : s.ComesTo w (s.Refers w c) v)
      (failed : (s.loadPom d).perform v = (.ok (.error failure), u)) : FailedBy s w c failure
  | nesting {d : Coordinate} (refers : s.Refers w c d) (deep : failure = s.tooDeep d) :
      FailedBy s w c failure

section Refers

variable {c d d' : Coordinate}

theorem refers_self (s : Source) (w : World) (c : Coordinate) : s.Refers w c c :=
  fun _ own _ => own

theorem leadsAmong_mono {among among' : Coordinate → Prop} (wider : ∀ c, among c → among' c)
    (leads : s.LeadsAmong w among d d') : s.LeadsAmong w among' d d' :=
  leads_mono (fun _ _ => id) (fun e _ ⟨listed, v, comes, loaded⟩ =>
    ⟨wider e listed, v, comesTo_mono wider comes, loaded⟩) leads

theorem refers_leads (refers : s.Refers w c d) (leads : s.LeadsAmong w (s.Refers w c) d d') :
    s.Refers w c d' := fun among own closed =>
  closed d d' (refers among own closed) (leadsAmong_mono (fun _ r => r among own closed) leads)

end Refers

section Resolving

variable {c : Coordinate}

/-- The failures and faults of resolving a coordinate. -/
def losses (s : Source) (w : World) (c : Coordinate) : Losses ResolutionFailure :=
  ⟨s.FailedBy w c, s.StoppedBy w c⟩

theorem refers_carries (s : Source) (w : World) (c : Coordinate) :
    s.Carries (s.Remembers w (s.Refers w c) (s.MayKnow w c)) (s.losses w c)
      (s.givenTerms w (s.Refers w c) fun d m => s.MayKnow w c d.text m) :=
  remembers_carries (fun _ _ => Iff.rfl)
    (fun _ pom _ refers given names => refers_leads refers ⟨pom, given, names⟩)
    (fun _ _ _ given merges => mayKeep_merged given merges)
    (fun _ _ _ refers comes failed => .loading refers comes (Action.perform_answered failed))
    (fun d v _ refers comes stopped => ⟨d, v, refers, comes, Action.perform_answered stopped⟩)
    fun _ refers => .nesting refers rfl

theorem remembers_known (s : Source) (w : World) (c : Coordinate) :
    s.Remembers w (s.Refers w c) (s.MayKnow w c) w where
  visited := .start
  kept _ _ found := mayKeep_known found

theorem resolve_loses (s : Source) (w : World) (c : Coordinate) :
    Meets (s.Remembers w (s.Refers w c) (s.MayKnow w c)) (s.losses w c) (s.resolve c)
      (fun a => ∃ m, s.MayKnow w c c.text m ∧ a = m.resolved c)
      fun a => ∃ m : Model, False ∧ a = m.resolved c :=
  resolve_carries (refers_carries s w c) (refers_self s w c)

/-- To resolve a coordinate is to ask for POMs that it refers to and to keep models. -/
theorem resolve_comes (s : Source) (c : Coordinate) (w : World) :
    s.ComesTo w (s.Refers w c) ((s.resolve c).perform w).2 :=
  ((resolve_loses s w c).keeps w (remembers_known s w c)).visited

/-- To resolve a coordinate ends with a fault only where loading the POM of a coordinate does that
it refers to. -/
theorem resolve_stopped {fault : Fault} {u : World}
    (stopped : (s.resolve c).perform w = (.error fault, u)) : s.StoppedBy w c fault u := by
  have known := (resolve_loses s w c).stops w (remembers_known s w c) fault
  rw [stopped] at known
  exact known rfl

/-- To resolve a coordinate comes to a failure only where loading a POM does, or at the bound of the
nesting. -/
theorem resolve_failed {failure : ResolutionFailure} {u : World}
    (failed : (s.resolve c).perform w = (.ok (.error failure), u)) : s.FailedBy w c failure := by
  have known := (resolve_loses s w c).fails w (remembers_known s w c) failure
  rw [failed] at known
  exact known rfl

/-- What loading the POMs that a coordinate refers to leaves in force, and so does keeping models. -/
structure Guards (s : Source) (w : World) (c : Coordinate) (good : World → Prop) : Prop where
  loads : ∀ d v, s.Refers w c d → s.ComesTo w (s.Refers w c) v → good v →
    good ((s.loadPom d).perform v).2
  keeps : ∀ v models, good v → good { v with models := models }

variable {good : World → Prop} (guards : s.Guards w c good)
include guards

theorem guards_carries :
    s.Carries (fun v => s.Remembers w (s.Refers w c) (s.MayKnow w c) v ∧ good v) (s.losses w c)
      (s.givenTerms w (s.Refers w c) fun d m => s.MayKnow w c d.text m) :=
  have carries := refers_carries s w c
  { closed := carries.closed
    loads := fun d refers => Action.meets_and (carries.loads d refers) fun v remembers =>
      guards.loads d v refers remembers.visited
    keeps := fun v d m held refers allowed =>
      ⟨carries.keeps v d m held.1 refers allowed, guards.keeps v _ held.2⟩
    found := fun v d m held => carries.found v d m held.1
    deep := carries.deep }

/-- What is left in force holds of the world that resolving the coordinate leads to. -/
theorem resolve_guarded (started : good w) : good ((s.resolve c).perform w).2 :=
  ((resolve_carries (guards_carries guards) (refers_self s w c)).keeps w
    ⟨remembers_known s w c, started⟩).2

/-- A coordinate without a model is resolved by loading its POM, and what is left in force from then
on holds in the end. -/
theorem resolve_guarded_from (missing : w.models.find? c.text = none) {a : ResolvedArtifact}
    {u : World} (resolved : (s.resolve c).perform w = (.ok (.ok a), u)) :
    ∃ pom v, (s.loadPom c).perform w = (.ok (.ok pom), v) ∧ (good v → good u) := by
  obtain ⟨pom, v, loaded, keeps⟩ :=
    resolve_loaded (guards_carries guards) (refers_self s w c) missing resolved
  have remembers := remembers_load (remembers_known s w c) (refers_self s w c)
  rw [loaded] at remembers
  have given : s.GivesAmong w (s.Refers w c) c pom :=
    ⟨refers_self s w c, w, .start, by rw [loaded]; rfl⟩
  exact ⟨pom, v, loaded, fun started => (keeps given ⟨remembers, started⟩).2⟩

end Resolving

end Source

end MavenImport
