/-
# Proofs.RunFiles -- what a run writes and finds

A run that has come to an end wrote its files one after the other (`Written`), in an order and
with contents that follow from its progress (`Plan.files`), and all is well if nothing failed, no
file was refused, and the checks found nothing (`Plan.Quiet`).  Both are said of every conclusion
that ends without a fault (`conclude_ok`), and then of whole runs (`runBy_ok`).
-/
import MavenImport.Generate.Run
import MavenImport.Proofs.ActionLaws
import MavenImport.Proofs.TableLaws

namespace MavenImport

open MavenImport.Action (perform_bind_ok perform_lift_bind perform_ofExcept)

set_option autoImplicit false

/-! ## Writing -/

/-- Files are written one after the other; what the system refuses is left out. -/
inductive Written : FileSystem → List Output → FileSystem → Prop
  | nothing (f : FileSystem) : Written f [] f
  | written {f g h : FileSystem} {path : Path} {text : String} {outputs : List Output}
      (made : f.replaceFile path text.toUTF8 = .ok g) (later : Written g outputs h) :
      Written f (⟨path, text, true⟩ :: outputs) h
  | refused {f g : FileSystem} {path : Path} {text : String} {outputs : List Output}
      {fault : Files.Fault} (refusal : f.replaceFile path text.toUTF8 = .error fault)
      (later : Written f outputs g) : Written f (⟨path, text, false⟩ :: outputs) g

theorem written_append {f g h : FileSystem} {outputs more : List Output}
    (first : Written f outputs g) (second : Written g more h) :
    Written f (outputs ++ more) h := by
  induction first with
  | nothing => exact second
  | written made _ ih => exact .written made (ih second)
  | refused refusal _ ih => exact .refused refusal (ih second)

/-- What an output says where. -/
def Output.file (o : Output) : Path × String := (o.path, o.text)

namespace Plan

/-- The build files of the groups, in order. -/
def groupFiles (plan : Plan) (groups : List (Path × List Declared)) :
    Except Json.Fault (List (Path × String)) :=
  groups.mapM fun g =>
    (BuildFile.content g.2 plan.specification.rulesLabel.text).map fun text => (g.1, text)

/-- The file of second names, if there is to be one. -/
def aliasFiles (plan : Plan) (declared : List (Path × Declared)) : List (Path × String) :=
  if plan.specification.writeAliases then
    [(plan.workspace.joinText buildFileName,
      aliasFile plan.specification.name.text (declared.map fun e => e.2.resolution.coordinate))]
  else []

/-- The files that a run is to write, in order. -/
def files (plan : Plan) (p : Progress) : Except Json.Fault (List (Path × String)) := do
  return (← plan.groupFiles (sortedGroups (groupByFile p.declared))) ++ plan.aliasFiles p.declared

/-- The checks find nothing. -/
structure Quiet (plan : Plan) (p : Progress) : Prop where
  duplicates : Checks.duplicates (plan.specification.artifacts.map Prod.fst) = .ok []
  unresolved : p.unresolved = []
  legacy : Checks.legacyArtifacts p.declaredSlugs plan.specification = []
  missing : Checks.missing p.ledger p.declaredSlugs = []

/-- What a run says in the end. -/
def summary (plan : Plan) (e : Ending) (elapsed : String) : String :=
  "Resolved " ++ toString e.progress.resolvedCount ++ " artifacts with "
    ++ toString (max 1 plan.threads) ++ " threads" ++ (" in " ++ elapsed ++ " seconds")

/-- A run ended with a progress, on some files. -/
structure Concluded (plan : Plan) (p : Progress) (f : FileSystem) (e : Ending) (g : FileSystem) :
    Prop where
  progress : e.progress = p
  files : plan.files p = .ok (e.outputs.map Output.file)
  written : Written f e.outputs g
  well : e.well = true ↔
    p.failed = false ∧ (∀ o ∈ e.outputs, o.written = true) ∧ plan.Quiet p

end Plan

section Steps

variable {plan : Plan} {w v : World}

theorem say_bind {β : Type} (message : String) (f : PUnit → Action β) :
    ((liftM (Effect.say message) : Action PUnit) >>= f).perform w
      = (f ⟨⟩).perform { w with console := w.console.print .always message true } := rfl

theorem write_ok {path : Path} {text : String} {o : Output}
    (ended : (Plan.write path text).perform w = (.ok o, v)) :
    o.file = (path, text) ∧ Written w.files [o] v.files := by
  unfold Plan.write at ended
  rw [perform_bind_ok] at ended
  obtain ⟨answer, w₁, changed, ended⟩ := ended
  rw [Action.perform_result, Action.perform_change] at changed
  cases made : w.files.replaceFile path text.toUTF8 with
  | ok files =>
      rw [made] at changed
      cases changed
      cases ended
      exact ⟨rfl, .written made (.nothing files)⟩
  | error fault =>
      rw [made] at changed
      cases changed
      dsimp only at ended
      split at ended
      · next refusal =>
          cases ended
          exact ⟨rfl, .refused made (.nothing _)⟩
      · cases ended

theorem writeGroup_ok {path : Path} {declared : List Declared} {o : Output}
    (ended : (plan.writeGroup path declared).perform w = (.ok o, v)) :
    BuildFile.content declared plan.specification.rulesLabel.text = .ok o.text ∧ o.path = path ∧
      Written w.files [o] v.files := by
  unfold Plan.writeGroup at ended
  rw [perform_bind_ok] at ended
  obtain ⟨text, w₁, made, ended⟩ := ended
  rw [perform_ofExcept] at made
  rw [perform_bind_ok] at ended
  obtain ⟨o', w₂, wrote, ended⟩ := ended
  obtain ⟨file, written⟩ := write_ok wrote
  cases content : BuildFile.content declared plan.specification.rulesLabel.text with
  | error fault => rw [content] at made; cases made
  | ok text' =>
      rw [content] at made
      cases made
      split at ended
      all_goals
        cases ended
        cases file
        exact ⟨rfl, rfl, written⟩

theorem writeGroups_ok :
    ∀ {groups : List (Path × List Declared)} {outputs : List Output} {w v : World},
      (plan.writeGroups groups).perform w = (.ok outputs, v) →
        plan.groupFiles groups = .ok (outputs.map Output.file) ∧ Written w.files outputs v.files
  | [], _, _, _, ended => by
      cases ended
      exact ⟨rfl, .nothing _⟩
  | (path, declared) :: groups, outputs, w, v, ended => by
      unfold Plan.writeGroups at ended
      rw [perform_bind_ok] at ended
      obtain ⟨o, w₁, wrote, ended⟩ := ended
      rw [perform_bind_ok] at ended
      obtain ⟨others, w₂, wroteOthers, ended⟩ := ended
      cases ended
      obtain ⟨content, rfl, written⟩ := writeGroup_ok wrote
      obtain ⟨files, writtenOthers⟩ := writeGroups_ok wroteOthers
      refine ⟨?_, written_append written writtenOthers⟩
      unfold Plan.groupFiles at files ⊢
      rw [List.mapM_cons, content, files]
      rfl

theorem writeAliases_ok {declared : List (Path × Declared)} {outputs : List Output}
    (ended : (plan.writeAliases (declared.map Prod.snd)).perform w = (.ok outputs, v)) :
    outputs.map Output.file = plan.aliasFiles declared ∧ Written w.files outputs v.files := by
  unfold Plan.writeAliases at ended
  unfold Plan.aliasFiles
  cases wanted : plan.specification.writeAliases with
  | false =>
      rw [wanted] at ended
      cases ended
      exact ⟨rfl, .nothing _⟩
  | true =>
      rw [wanted] at ended
      rw [if_neg (by simp), perform_bind_ok] at ended
      obtain ⟨o, w₁, wrote, ended⟩ := ended
      obtain ⟨file, written⟩ := write_ok wrote
      rw [List.map_map] at file
      split at ended
      all_goals
        cases ended
        exact ⟨by rw [if_pos rfl, List.map_cons, file]; rfl, written⟩

/-! ## Checks -/

section Keeps

variable {γ : Type} {view : World → γ}

theorem keeps_forM {α : Type} {f : α → Action PUnit} (each : ∀ x, Action.Keeps view (f x)) :
    ∀ xs : List α, Action.Keeps view (xs.forM f)
  | [] => Action.keeps_pure _
  | x :: xs => Action.keeps_bind (each x) fun _ => keeps_forM each xs

-- what is printed does not show in the view
variable (silent : ∀ (w : World) (console : Console), view { w with console := console } = view w)
include silent

theorem keeps_print (level : Level) (message : String) :
    Action.Keeps view (liftM (Effect.print level message) : Action PUnit) := fun w => silent w _

theorem keeps_sayAll (lines : List String) :
    Action.Keeps view (liftM (Checks.sayAll lines) : Action PUnit) := by
  intro w
  induction lines generalizing w with
  | nil => rfl
  | cons line lines ih => exact (ih _).trans (silent w _)

theorem reportDuplicates_keeps (found : List (String × List String)) :
    Action.Keeps view (Checks.reportDuplicates found) :=
  Action.keeps_bind (keeps_print silent _ _) fun _ => keeps_sayAll silent _

theorem reportUnresolved_keeps (failures : List ResolutionFailure) :
    Action.Keeps view (Checks.reportUnresolved failures) := by
  refine Action.keeps_bind (keeps_print silent _ _) fun _ => keeps_forM (fun f => ?_) _
  exact Action.keeps_bind (Action.keeps_ofExcept _ _) fun _ => keeps_print silent _ _

theorem reportLegacy_keeps (found : List (String × String)) :
    Action.Keeps view (Checks.reportLegacy found) :=
  Action.keeps_bind (keeps_print silent _ _) fun _ => keeps_sayAll silent _

theorem reportMissing_keeps (found : List (String × LedgerEntry)) :
    Action.Keeps view (Checks.reportMissing found) := by
  refine Action.keeps_bind (keeps_print silent _ _) fun _ => ?_
  refine Action.keeps_bind (keeps_print silent _ _) fun _ => ?_
  refine Action.keeps_bind (keeps_print silent _ _) fun _ => ?_
  refine Action.keeps_bind (keeps_forM (fun f => ?_) _) fun _ => ?_
  · exact Action.keeps_bind (Action.keeps_ofExcept _ _) fun _ => keeps_print silent _ _
  · exact Action.keeps_bind (keeps_print silent _ _) fun _ => keeps_sayAll silent _

omit silent in
theorem report_keeps {α : Type} {found : List α} {tell : List α → Action Unit}
    (tells : ∀ found, Action.Keeps view (tell found)) :
    Action.Keeps view (Checks.report found tell) := by
  unfold Checks.report
  split
  · exact Action.keeps_pure _
  · exact Action.keeps_bind (tells found) fun _ => Action.keeps_pure _

theorem checks_keeps (spec : Specification) (p : Progress) :
    Action.Keeps view (Checks.run spec p.declaredSlugs p.unresolved p.ledger) := by
  unfold Checks.run
  refine Action.keeps_bind (Action.keeps_ofExcept _ _) fun _ => ?_
  refine Action.keeps_bind (report_keeps (reportDuplicates_keeps silent)) fun _ => ?_
  refine Action.keeps_bind (report_keeps (reportUnresolved_keeps silent)) fun _ => ?_
  refine Action.keeps_bind (report_keeps (reportLegacy_keeps silent)) fun _ => ?_
  exact Action.keeps_bind (report_keeps (reportMissing_keeps silent)) fun _ => Action.keeps_pure _

-- neither do the files
variable (apart : ∀ (w : World) (files : FileSystem), view { w with files := files } = view w)
include apart

theorem write_keeps (path : Path) (text : String) : Action.Keeps view (Plan.write path text) := by
  refine Action.keeps_bind (Action.keeps_result (Action.keeps_change apart _)) fun _ => ?_
  split
  · exact Action.keeps_pure _
  · split
    · exact Action.keeps_bind (keeps_print silent _ _) fun _ => Action.keeps_pure _
    · exact Action.keeps_fail _
  · exact Action.keeps_fail _

theorem writeGroup_keeps (path : Path) (declared : List Declared) :
    Action.Keeps view (plan.writeGroup path declared) := by
  refine Action.keeps_bind (Action.keeps_ofExcept _ _) fun _ => ?_
  refine Action.keeps_bind (write_keeps silent apart _ _) fun _ => ?_
  dsimp only
  split
  · exact Action.keeps_bind (keeps_print silent _ _) fun _ => Action.keeps_pure _
  · exact Action.keeps_pure _

theorem writeGroups_keeps :
    ∀ groups : List (Path × List Declared), Action.Keeps view (plan.writeGroups groups)
  | [] => Action.keeps_pure _
  | g :: groups => Action.keeps_bind (writeGroup_keeps silent apart g.1 g.2) fun _ =>
      Action.keeps_bind (writeGroups_keeps groups) fun _ => Action.keeps_pure _

theorem writeAliases_keeps (declared : List Declared) :
    Action.Keeps view (plan.writeAliases declared) := by
  unfold Plan.writeAliases
  dsimp only
  split
  · exact Action.keeps_pure _
  · refine Action.keeps_bind (write_keeps silent apart _ _) fun _ => ?_
    split
    · exact Action.keeps_bind (keeps_print silent _ _) fun _ => Action.keeps_pure _
    · exact Action.keeps_pure _

/-- Concluding a run shows in its files and on the console alone. -/
theorem conclude_keeps (p : Progress) : Action.Keeps view (plan.conclude p) := by
  refine Action.keeps_bind (writeGroups_keeps silent apart _) fun _ => ?_
  refine Action.keeps_bind (keeps_print silent _ _) fun _ => ?_
  refine Action.keeps_bind (checks_keeps silent _ _) fun _ => ?_
  exact Action.keeps_bind (writeAliases_keeps silent apart _) fun _ => Action.keeps_pure _

end Keeps

theorem files_silent (w : World) (console : Console) :
    ({ w with console := console } : World).files = w.files := rfl

/-- A report tells whether there was something to report. -/
theorem report_ok {α : Type} {found : List α} {tell : List α → Action Unit}
    (keeps : ∀ found, Action.Keeps World.files (tell found)) {told : Bool}
    (ended : (Checks.report found tell).perform w = (.ok told, v)) :
    (told = false ↔ found = []) ∧ v.files = w.files := by
  unfold Checks.report at ended
  cases found with
  | nil =>
      cases ended
      exact ⟨⟨fun _ => rfl, fun _ => rfl⟩, rfl⟩
  | cons x found =>
      rw [List.isEmpty_cons, if_neg (by simp), perform_bind_ok] at ended
      obtain ⟨_, w₁, said, ended⟩ := ended
      have kept := keeps (x :: found) w
      rw [said] at kept
      cases ended
      exact ⟨⟨fun h => by simp at h, fun h => by simp at h⟩, kept⟩

/-- The checks tell whether they found something, and leave the files as they are. -/
theorem checks_ok {p : Progress} {found : Bool}
    (ended : (Checks.run plan.specification p.declaredSlugs p.unresolved p.ledger).perform w
      = (.ok found, v)) :
    (found = false ↔ plan.Quiet p) ∧ v.files = w.files := by
  unfold Checks.run at ended
  rw [perform_bind_ok] at ended
  obtain ⟨duplicates, w₀, listed, ended⟩ := ended
  rw [perform_bind_ok] at ended
  obtain ⟨a, w₁, first, ended⟩ := ended
  rw [perform_bind_ok] at ended
  obtain ⟨b, w₂, second, ended⟩ := ended
  rw [perform_bind_ok] at ended
  obtain ⟨c, w₃, third, ended⟩ := ended
  rw [perform_bind_ok] at ended
  obtain ⟨d, w₄, fourth, ended⟩ := ended
  cases ended
  obtain ⟨a_iff, kept₁⟩ := report_ok (reportDuplicates_keeps files_silent) first
  obtain ⟨b_iff, kept₂⟩ := report_ok (reportUnresolved_keeps files_silent) second
  obtain ⟨c_iff, kept₃⟩ := report_ok (reportLegacy_keeps files_silent) third
  obtain ⟨d_iff, kept₄⟩ := report_ok (reportMissing_keeps files_silent) fourth
  rw [perform_ofExcept] at listed
  have same : Checks.duplicates (plan.specification.artifacts.map Prod.fst) = .ok duplicates ∧
      w₀ = w := by
    cases computed : Checks.duplicates (plan.specification.artifacts.map Prod.fst) with
    | error fault => rw [computed] at listed; cases listed
    | ok found => rw [computed] at listed; cases listed; exact ⟨rfl, rfl⟩
  obtain ⟨computed, rfl⟩ := same
  refine ⟨?_, kept₄.trans (kept₃.trans (kept₂.trans kept₁))⟩
  simp only [Bool.or_eq_false_iff, a_iff, b_iff, c_iff, d_iff]
  constructor
  · rintro ⟨⟨⟨rfl, unresolved⟩, legacy⟩, missing⟩
    exact ⟨computed, unresolved, legacy, missing⟩
  · rintro ⟨none, unresolved, legacy, missing⟩
    rw [computed] at none
    exact ⟨⟨⟨Except.ok.inj none, unresolved⟩, legacy⟩, missing⟩

/-- Nothing is missing if every slug that the ledger knows is declared. -/
theorem missing_nil {ledger : Ledger} {declared : List String} :
    Checks.missing ledger declared = [] ↔
      ∀ slug, (ledger.find? slug).isSome → slug ∈ declared := by
  unfold Checks.missing sortedByKey Table.find?
  rw [List.filter_eq_nil_iff]
  constructor
  · intro none slug known
    obtain ⟨e, listed, rfl⟩ := List.mem_map.mp ((findEntry_isSome slug _).mp known)
    simpa using none e ((List.mergeSort_perm _ _).mem_iff.mpr listed)
  · intro all e listed
    have known := (List.mergeSort_perm _ _).mem_iff.mp listed
    simpa using all e.1 ((findEntry_isSome e.1 _).mpr (List.mem_map_of_mem known))

/-- Old support artifacts are of no concern, or there are none. -/
theorem legacy_nil {spec : Specification} {declared : List String} :
    Checks.legacyArtifacts declared spec = [] ↔
      (!spec.useJetifier || spec.ignoreLegacy) = true ∨
        ∀ slug ∈ declared, Checks.legacy? spec slug = none := by
  unfold Checks.legacyArtifacts sortedTexts
  by_cases ignored : (!spec.useJetifier || spec.ignoreLegacy) = true
  · simp [ignored]
  · rw [if_neg ignored, List.filterMap_eq_nil_iff]
    simp only [ignored, (List.mergeSort_perm _ _).mem_iff]
    simp

/-! ## Runs -/

theorem conclude_ok {p : Progress} {e : Ending}
    (ended : (plan.conclude p).perform w = (.ok e, v)) :
    plan.Concluded p w.files e v.files := by
  unfold Plan.conclude at ended
  rw [perform_bind_ok] at ended
  obtain ⟨outputs, w₁, wrote, ended⟩ := ended
  rw [say_bind, perform_bind_ok] at ended
  obtain ⟨found, w₂, checked, ended⟩ := ended
  rw [perform_bind_ok] at ended
  obtain ⟨more, w₃, wroteMore, ended⟩ := ended
  obtain ⟨files, written⟩ := writeGroups_ok wrote
  obtain ⟨quiet, kept⟩ := checks_ok checked
  obtain ⟨aliases, writtenMore⟩ := writeAliases_ok wroteMore
  cases ended
  rw [kept] at writtenMore
  refine ⟨rfl, ?_, written_append written writtenMore, ?_⟩
  · unfold Plan.files
    rw [files, List.map_append, aliases]
    rfl
  · dsimp only
    rw [Bool.and_eq_true, Bool.and_eq_true, Bool.not_eq_true', Bool.not_eq_true', quiet,
      List.all_eq_true, and_assoc]

/-- A run that ends returned from its pool and concluded with what the tasks had come to; then it
said how many artifacts these were. -/
theorem runBy_parts {schedule : List Turn} {e : Ending}
    (ended : (plan.runBy schedule).perform w = (.ok (some e), v)) :
    ∃ w₀ pool w₁ w₂, plan.prepare.perform w = (.ok (), w₀) ∧
      (Pool.follow plan schedule (.start plan.specification plan.workers plan.workers)).run w₀
        = (pool, w₁) ∧ pool.phase = .returned ∧
      (plan.conclude pool.run.progress).perform w₁ = (.ok e, w₂) ∧
      v = { w₂ with console := w₂.console.print .always (plan.summary e w₂.elapsed) true } := by
  unfold Plan.runBy at ended
  rw [perform_bind_ok] at ended
  obtain ⟨_, w₀, prepared, ended⟩ := ended
  rw [perform_lift_bind] at ended
  rcases followed : (Pool.follow plan schedule
    (.start plan.specification plan.workers plan.workers)).run w₀ with ⟨pool, w₁⟩
  rw [followed] at ended
  dsimp only at ended
  split at ended
  · cases ended
  · next returned =>
      rw [perform_bind_ok] at ended
      obtain ⟨e', w₂, concluded, ended⟩ := ended
      cases ended
      exact ⟨w₀, pool, w₁, w₂, prepared, followed, by simpa using returned, concluded, rfl⟩

section Followed

variable {schedule : List Turn} {w₀ w₁ : World} {pool : Pool}
  (prepared : plan.prepare.perform w = (.ok (), w₀))
  (followed : (Pool.follow plan schedule
    (.start plan.specification plan.workers plan.workers)).run w₀ = (pool, w₁))
include prepared followed

/-- There is no ending before the pool returns. -/
theorem runBy_waits (waits : pool.phase ≠ .returned) :
    (plan.runBy schedule).perform w = (.ok none, w₁) := by
  unfold Plan.runBy
  rw [Action.perform_bind, prepared]
  dsimp only
  rw [perform_lift_bind, followed]
  dsimp only
  rw [if_pos waits]
  rfl

/-- A run ends if its pool returns and what the tasks had come to can be concluded. -/
theorem runBy_ends (returned : pool.phase = .returned) {e : Ending} {w₂ : World}
    (concluded : (plan.conclude pool.run.progress).perform w₁ = (.ok e, w₂)) :
    (plan.runBy schedule).perform w = (.ok (some e),
      { w₂ with console := w₂.console.print .always (plan.summary e w₂.elapsed) true }) := by
  unfold Plan.runBy
  rw [Action.perform_bind, prepared]
  dsimp only
  rw [perform_lift_bind, followed]
  dsimp only
  rw [if_neg (by simp [returned]), Action.perform_bind, concluded]
  rfl

/-- A run ends with the fault that stops its conclusion. -/
theorem runBy_fails (returned : pool.phase = .returned) {fault : Fault}
    (stopped : ((plan.conclude pool.run.progress).perform w₁).1 = .error fault) :
    ((plan.runBy schedule).perform w).1 = .error fault := by
  unfold Plan.runBy
  rw [Action.perform_bind, prepared]
  dsimp only
  rw [perform_lift_bind, followed]
  dsimp only
  rw [if_neg (by simp [returned]), Action.perform_bind_fault stopped]

end Followed

/-- What the tasks had come to was written when a run ends. -/
theorem runBy_ok {schedule : List Turn} {e : Ending}
    (ended : (plan.runBy schedule).perform w = (.ok (some e), v)) :
    ∃ w₀ pool w₁, plan.prepare.perform w = (.ok (), w₀) ∧
      (Pool.follow plan schedule (.start plan.specification plan.workers plan.workers)).run w₀
        = (pool, w₁) ∧ pool.phase = .returned ∧
      plan.Concluded pool.run.progress w₁.files e v.files := by
  obtain ⟨w₀, pool, w₁, w₂, prepared, followed, returned, concluded, rfl⟩ := runBy_parts ended
  have result := conclude_ok concluded
  exact ⟨w₀, pool, w₁, prepared, followed, returned, result⟩

theorem generateBy_valid (plan : Plan) (valid : plan.specification.problems = [])
    (schedule : List Turn) :
    plan.generateBy schedule = plan.runBy schedule := by
  unfold Plan.generateBy
  rw [valid]

/-- What a run by a schedule leaves, if it comes to its end. -/
def Plan.left? (plan : Plan) (schedule : List Turn) (w : World) : Option (Ending × World) :=
  match (plan.generateBy schedule).perform w with
  | (.ok (some e), v) => some (e, v)
  | _ => none

theorem left_ended (plan : Plan) (schedule : List Turn) (w : World)
    (left : (plan.left? schedule w).isSome = true) :
    ∃ e v, (plan.generateBy schedule).perform w = (.ok (some e), v) ∧
      plan.left? schedule w = some (e, v) := by
  unfold Plan.left? at left ⊢
  split at left
  · next e v ended => exact ⟨e, v, ended, rfl⟩
  · cases left

end Steps

end MavenImport
