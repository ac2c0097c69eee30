/-
# Proofs.CheckAnswers -- how the checks of a run end

The checks end with a fault if a declared key is no coordinate, or if a missing artifact is asked
for in a version that has no order (`Progress.Unordered`).  Neither depends on the order in which
anything arrived, nor on why artifacts could not be resolved.  So the checks of two runs that tell
the same apart from that end in the same way, and find the same if nothing failed
(`checks_agree`).
-/
import MavenImport.Proofs.MissingArtifacts
import MavenImport.Proofs.RunReplay
import MavenImport.Proofs.ScheduleIndependence
import MavenImport.Proofs.VersionOrder

namespace MavenImport

open MavenImport.Action (Agree)

set_option autoImplicit false

/-- A missing artifact is asked for in a version that has no order. -/
def Progress.Unordered (p : Progress) : Prop :=
  ∃ slug version, (p.ledger.find? slug).isSome ∧ slug ∉ p.declaredSlugs ∧
    version ∈ p.ledger.versionsOf slug ∧ Version.key? version = none

/-- The ledger is in order, and the failures are noted and can be put into words. -/
structure Progress.Reportable (p : Progress) : Prop where
  tidy : p.ledger.Tidy
  versions : ∀ slug entry, p.ledger.find? slug = some entry → entry.versions ≠ []
  unresolved : ∀ failure ∈ p.unresolved,
    ∃ text, Json.joinTexts ", " failure.repositories = .ok text
  noted : p.unresolved ≠ [] → p.failed = true

/-- The failures of a run arrived as notes. -/
theorem told_failure {plan : Plan} {answers : Answers} {parts : List Part} {arrival : List Note}
    {r : Run} (told : r.Told plan answers parts arrival) {failure : ResolutionFailure}
    (listed : failure ∈ r.progress.unresolved) : .unresolved failure ∈ arrival := by
  rw [told.progress, noteAll_unresolved] at listed
  obtain ⟨note, noted, shown⟩ := List.mem_filterMap.mp listed
  cases note <;> cases shown
  exact noted

/-- The findings of a run can be reported if its failures can be put into words. -/
theorem told_reportable {plan : Plan} {answers : Answers} {parts : List Part} {arrival : List Note}
    {r : Run} (told : r.Told plan answers parts arrival)
    (worded : ∀ failure ∈ r.progress.unresolved,
      ∃ text, Json.joinTexts ", " failure.repositories = .ok text) : r.progress.Reportable where
  tidy := told_tidy told
  versions slug entry found none := by
    have ledger : r.progress.ledger
        = Ledger.empty.recordThese (arrival.filterMap Note.record?) := by
      rw [told.progress, noteAll_ledger]
    have known : (r.progress.ledger.find? slug).isSome := by rw [found]; rfl
    rw [ledger, Ledger.find?_recordThese] at known
    obtain ⟨e, recorded, same⟩ := known.resolve_left Bool.false_ne_true
    have version := (Ledger.versionsOf_recordThese (arrival.filterMap Note.record?) .empty slug
      e.2.1).mpr (.inr ⟨e, recorded, same, rfl⟩)
    rw [← ledger, Ledger.versionsOf, found, Option.map_some, Option.getD_some, none] at version
    cases version
  unresolved := worded
  noted some := by
    obtain ⟨failure, listed⟩ := List.exists_mem_of_ne_nil _ some
    rw [told.progress, noteAll_failed, Bool.or_eq_true]
    exact .inr (List.any_eq_true.mpr ⟨_, told_failure told listed, rfl⟩)

/-! ## Reports -/

section Reports

variable {α : Type} {w : World}

theorem report_answer (found : List α) (tell : List α → Action Unit)
    (tells : ((tell found).perform w).1 = .ok ()) :
    ∃ told, ((Checks.report found tell).perform w).1 = .ok told := by
  unfold Checks.report
  split
  · exact ⟨false, rfl⟩
  · rw [Action.perform_bind_answer tells]
    exact ⟨true, rfl⟩

theorem report_fault {found : List α} {tell : List α → Action Unit} (some : found ≠ [])
    {fault : Fault} (tells : ((tell found).perform w).1 = .error fault) :
    ((Checks.report found tell).perform w).1 = .error fault := by
  unfold Checks.report
  rw [if_neg (by simpa using some), Action.perform_bind_fault tells]

/-- A line is said once it is made. -/
theorem say_answer {ε β : Type} (fault : ε → Fault) (line : Except ε β) (text : β → String) :
    ((do let x ← Action.ofExcept fault line; liftM (Effect.say (text x)) : Action PUnit).perform w).1
      = (line.mapError fault).map fun _ => ⟨⟩ := by
  rw [Action.perform_bind, Action.perform_ofExcept]
  cases line <;> rfl

section Loops

variable {f : α → Action PUnit}

theorem forM_succeeds {xs : List α} (each : ∀ x ∈ xs, ∀ w, ((f x).perform w).1 = .ok ⟨⟩) (w : World) :
    ((xs.forM f).perform w).1 = .ok ⟨⟩ := by
  induction xs generalizing w with
  | nil => rfl
  | cons x xs ih =>
      show ((f x >>= fun _ => xs.forM f).perform w).1 = _
      rw [Action.perform_bind_answer (each x List.mem_cons_self w)]
      exact ih (fun y listed => each y (List.mem_cons_of_mem x listed)) _

/-- If all that can go wrong is one fault, a single member is enough for it. -/
theorem forM_fails {fault : Fault} {xs : List α}
    (each : ∀ x ∈ xs, ∀ w, ((f x).perform w).1 = .ok ⟨⟩ ∨ ((f x).perform w).1 = .error fault)
    {bad : α} (listed : bad ∈ xs) (fails : ∀ w, ((f bad).perform w).1 = .error fault) (w : World) :
    ((xs.forM f).perform w).1 = .error fault := by
  induction xs generalizing w with
  | nil => cases listed
  | cons x xs ih =>
      show ((f x >>= fun _ => xs.forM f).perform w).1 = _
      rcases each x List.mem_cons_self w with good | wrong
      · rw [Action.perform_bind_answer good]
        rcases List.mem_cons.mp listed with rfl | later
        · rw [fails w] at good
          cases good
        · exact ih (fun y listed => each y (List.mem_cons_of_mem x listed)) later _
      · rw [Action.perform_bind_fault wrong]

end Loops

section Missing

variable {found : List (String × LedgerEntry)} (versions : ∀ e ∈ found, e.2.versions ≠ [])
include versions

/-- What is missing is reported unless a version has no order. -/
theorem reportMissing_ok
    (ordered : ∀ e ∈ found, ¬ ∃ version ∈ e.2.versions, Version.key? version = none) (w : World) :
    ((Checks.reportMissing found).perform w).1 = .ok () := by
  unfold Checks.reportMissing
  rw [say_bind, say_bind, say_bind, Action.perform_bind_answer (x := ⟨⟩)]
  · rfl
  · refine forM_succeeds (fun e listed w => ?_) _
    obtain ⟨version, highest⟩ := Version.highest_ordered (versions e listed) (ordered e listed)
    rw [say_answer, highest]
    rfl

theorem reportMissing_error {e : String × LedgerEntry} (listed : e ∈ found)
    (unordered : ∃ version ∈ e.2.versions, Version.key? version = none) (w : World) :
    ((Checks.reportMissing found).perform w).1 = .error (.version .noNumber) := by
  unfold Checks.reportMissing
  rw [say_bind, say_bind, say_bind, Action.perform_bind_fault]
  refine forM_fails (fun e listed w => ?_) listed (fun w => ?_) _
  · rw [say_answer]
    by_cases unordered : ∃ version ∈ e.2.versions, Version.key? version = none
    · rw [Version.highest_unordered unordered]
      exact .inr rfl
    · obtain ⟨version, highest⟩ := Version.highest_ordered (versions e listed) unordered
      rw [highest]
      exact .inl rfl
  · rw [say_answer, Version.highest_unordered unordered]
    rfl

end Missing

/-- Failures that can be put into words are reported. -/
theorem reportUnresolved_answer {failures : List ResolutionFailure}
    (texts : ∀ failure ∈ failures,
      ∃ text, Json.joinTexts ", " failure.repositories = .ok text) (w : World) :
    ((Checks.reportUnresolved failures).perform w).1 = .ok () := by
  unfold Checks.reportUnresolved
  dsimp only
  rw [say_bind]
  refine forM_succeeds (fun failure listed w => ?_) _
  obtain ⟨text, made⟩ := texts failure (List.mem_mergeSort.mp listed)
  rw [say_answer, Checks.unresolvedLine, made]
  rfl

end Reports

/-! ## All checks -/

section Checks

variable {plan : Plan} {p p' : Progress} {w u : World}

theorem missing_versions (reportable : p.Reportable) :
    ∀ e ∈ Checks.missing p.ledger p.declaredSlugs, e.2.versions ≠ [] := fun e listed =>
  reportable.versions e.1 e.2 ((mem_missing reportable.tidy).mp listed).1

theorem unordered_iff (reportable : p.Reportable) : p.Unordered ↔
    ∃ e ∈ Checks.missing p.ledger p.declaredSlugs,
      ∃ version ∈ e.2.versions, Version.key? version = none := by
  constructor
  · rintro ⟨slug, version, known, undeclared, asked, none⟩
    obtain ⟨entry, found⟩ := Option.isSome_iff_exists.mp known
    rw [Ledger.versionsOf, found] at asked
    exact ⟨(slug, entry), (mem_missing reportable.tidy).mpr ⟨found, undeclared⟩, version, asked, none⟩
  · rintro ⟨⟨slug, entry⟩, listed, version, asked, none⟩
    obtain ⟨found, undeclared⟩ := (mem_missing reportable.tidy).mp listed
    refine ⟨slug, version, by rw [found]; rfl, undeclared, ?_, none⟩
    rw [Ledger.versionsOf, found]
    exact asked

variable (plan) in
/-- How the checks end. -/
theorem checks_answer (reportable : p.Reportable) (w : World) :
    (∃ fault, Checks.duplicates (plan.specification.artifacts.map Prod.fst) = .error fault ∧
      ((Checks.run plan.specification p.declaredSlugs p.unresolved p.ledger).perform w).1
        = .error fault) ∨
    (∃ found, Checks.duplicates (plan.specification.artifacts.map Prod.fst) = .ok found) ∧
      ((p.Unordered ∧
        ((Checks.run plan.specification p.declaredSlugs p.unresolved p.ledger).perform w).1
          = .error (.version .noNumber)) ∨
      ¬ p.Unordered ∧ ∃ found,
        ((Checks.run plan.specification p.declaredSlugs p.unresolved p.ledger).perform w).1
          = .ok found) := by
  unfold Checks.run
  cases duplicates : Checks.duplicates (plan.specification.artifacts.map Prod.fst) with
  | error fault => exact .inl ⟨fault, rfl, rfl⟩
  | ok found =>
      refine .inr ⟨⟨found, rfl⟩, ?_⟩
      have listed : ((Action.ofExcept id (Except.ok found : Except Fault _)).perform w).1
          = .ok found := rfl
      rw [Action.perform_bind_answer listed]
      obtain ⟨a, first⟩ := report_answer found Checks.reportDuplicates
        (w := ((Action.ofExcept id (Except.ok found : Except Fault _)).perform w).2) rfl
      rw [Action.perform_bind_answer first]
      obtain ⟨b, second⟩ := report_answer _ _ (reportUnresolved_answer reportable.unresolved _)
      rw [Action.perform_bind_answer second]
      obtain ⟨c, third⟩ := report_answer _ Checks.reportLegacy rfl
      rw [Action.perform_bind_answer third]
      by_cases unordered : p.Unordered
      · obtain ⟨e, listed, bad⟩ := (unordered_iff reportable).mp unordered
        have told := reportMissing_error (missing_versions reportable) listed bad
        rw [Action.perform_bind_fault (report_fault (List.ne_nil_of_mem listed) (told _))]
        exact .inl ⟨unordered, rfl⟩
      · obtain ⟨d, fourth⟩ := report_answer _ _ (reportMissing_ok (missing_versions reportable)
          (fun e listed bad => unordered ((unordered_iff reportable).mpr ⟨e, listed, bad⟩)) _)
        rw [Action.perform_bind_answer fourth]
        exact .inr ⟨unordered, _, rfl⟩

/-- Where nothing failed there is nothing unresolved. -/
theorem settled_eq (reportable : p.Reportable) (well : p.failed = false) : p.settled = p := by
  have none : p.unresolved = [] := by
    by_contra some
    rw [reportable.noted some] at well
    cases well
  rw [Progress.settled, ← none]

theorem resembles_symm (resembles : p.Resembles p') : p'.Resembles p :=
  ⟨progress_alike_symm resembles.alike, resembles.declared.symm⟩

theorem resembles_unordered (resembles : p.Resembles p') (unordered : p.Unordered) :
    p'.Unordered := by
  obtain ⟨slug, version, known, undeclared, asked, none⟩ := unordered
  have ledger : p.ledger.Alike p'.ledger := resembles.alike.ledger
  exact ⟨slug, version, (ledger.slugs slug).mp known,
    fun declared => undeclared ((resembles.alike.declaredSlugs slug).mpr declared),
    (ledger.versions slug version).mp asked, none⟩

/-- If nothing failed, the checks of runs that tell the same find the same. -/
theorem found_agree (resembles : p.Resembles p') (reportable : p.Reportable)
    (reportable' : p'.Reportable) (well : p.failed = false) {found found' : Bool}
    (one : ((Checks.run plan.specification p.declaredSlugs p.unresolved p.ledger).perform w).1
      = .ok found)
    (other : ((Checks.run plan.specification p'.declaredSlugs p'.unresolved p'.ledger).perform u).1
      = .ok found') : found = found' := by
  have well' : p'.failed = false := resembles.alike.failed.symm.trans well
  have alike : p.Alike p' := by
    have settled := resembles.alike
    rwa [settled_eq reportable well, settled_eq reportable' well'] at settled
  have quiet : plan.Quiet p ↔ plan.Quiet p' :=
    ⟨quiet_alike alike, quiet_alike (progress_alike_symm alike)⟩
  have finds : found = false ↔ plan.Quiet p := (checks_ok (Prod.ext one rfl)).1
  have finds' : found' = false ↔ plan.Quiet p' := (checks_ok (Prod.ext other rfl)).1
  rw [Bool.eq_iff_iff, ← not_iff_not, Bool.not_eq_true, Bool.not_eq_true, finds, finds', quiet]

variable (plan) in
/-- The checks of runs that tell the same end with the same fault, or both well; and if nothing
failed they find the same. -/
theorem checks_agree (resembles : p.Resembles p') (reportable : p.Reportable)
    (reportable' : p'.Reportable) (w u : World) :
    Agree (fun found found' => p.failed = false → found = found')
      ((Checks.run plan.specification p.declaredSlugs p.unresolved p.ledger).perform w).1
      ((Checks.run plan.specification p'.declaredSlugs p'.unresolved p'.ledger).perform u).1 := by
  have unordered : p.Unordered ↔ p'.Unordered :=
    ⟨resembles_unordered resembles, resembles_unordered (resembles_symm resembles)⟩
  rcases checks_answer plan reportable w with ⟨fault, wrong, one⟩ |
    ⟨⟨found, right⟩, ⟨bad, one⟩ | ⟨good, found₁, one⟩⟩ <;>
    rcases checks_answer plan reportable' u with ⟨fault', wrong', other⟩ |
      ⟨⟨found', right'⟩, ⟨bad', other⟩ | ⟨good', found₂, other⟩⟩
  · rw [wrong] at wrong'
    cases wrong'
    rw [one, other]
    exact .fault fault
  · rw [wrong] at right'
    cases right'
  · rw [wrong] at right'
    cases right'
  · rw [right] at wrong'
    cases wrong'
  · rw [one, other]
    exact .fault _
  · exact absurd (unordered.mp bad) good'
  · rw [right] at wrong'
    cases wrong'
  · exact absurd (unordered.mpr bad') good
  · rw [one, other]
    exact .value fun well => found_agree resembles reportable reportable' well one other

end Checks

end MavenImport
