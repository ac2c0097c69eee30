/-
# Proofs.ExitStatus -- when all is well

Every turn of a schedule that advances a task is a step that this task makes in some world
(`Pool.steps`), and it goes well or it does not (`Task.Smooth`).  A run has failed exactly if one
of its steps did not go well (`follow_failed`): there is no step that goes wrong without leaving
a mark, and no later step takes the mark away.

So a run that ends is well exactly if its specification is valid, every step of it went well,
every file was written and the checks found nothing (`generateBy_status`).
-/
import MavenImport.Proofs.Regeneration

namespace MavenImport

set_option autoImplicit false

/-! ## Steps -/

/-- The next step of a task goes well. -/
@[mk_iff]
structure Task.Smooth (plan : Plan) (t : Task) (w : World) : Prop where
  /-- The artifact is resolved. -/
  resolves : ∀ c, t.stage = .named c → ∃ a, ((plan.resolver.resolve c).perform w).1 = .ok (.ok a)
  /-- Its packaging has a form of its own, or need not have one. -/
  handled : ∀ a, t.stage = .resolved a → plan.unknownPackaging = .fail →
    isClassLibrary a.packaging = true ∨ a.packaging = "aar"
  /-- The file of an Android library is delivered. -/
  delivers : ∀ a, t.stage = .opening a → ∃ status file,
    ((plan.resolver.download a).perform w).1 = .ok status ∧ status.file? = some file
  /-- It says what it should. -/
  inspects : ∀ a file, t.stage = .inspecting a file →
    ∃ details, Aar.inspect (w.files.readFile file) = .ok (.ok details)
  calm : ¬ t.Raises plan w

/-- The steps that a schedule makes: each is that of a task, in a world. -/
def Pool.steps (plan : Plan) : List Turn → Pool → World → List (Task × World)
  | [], _, _ => []
  | turn :: schedule, p, w =>
    (((p.task? turn).bind fun i => p.run.tasks[i]?).map fun t => (t, w)).toList
      ++ steps plan schedule ((p.advance plan turn).run w).1 ((p.advance plan turn).run w).2

/-- The steps of a run by a schedule. -/
def Plan.steps (plan : Plan) (schedule : List Turn) (w : World) : List (Task × World) :=
  (Pool.start plan.specification plan.workers plan.workers).steps plan schedule
    (plan.prepare.perform w).2

/-- A task comes to its end by steps among others. -/
inductive Task.Way (plan : Plan) (steps : List (Task × World)) : Task → Fate → Prop
  | ended {t : Task} {fate : Fate} (done : t.stage = .ended fate) : Way plan steps t fate
  | step {t : Task} {w : World} {p : Progress} {fate : Fate} (made : (t, w) ∈ steps)
      (later : Way plan steps { t with stage := ((t.advance plan p).run w).1.1 } fate) :
      Way plan steps t fate

section Steps

variable {plan : Plan}

theorem finishNotes_failed (r : Resolution) :
    (plan.finishNotes r).any Note.isFailure = true ↔ ∃ fault, plan.labels r = .error fault := by
  unfold Plan.finishNotes
  cases plan.labels r <;> simp [Plan.needNote, Note.isFailure]

theorem unknownNotes_failed :
    plan.unknownNotes.any Note.isFailure = true ↔ plan.unknownPackaging = .fail := by
  unfold Plan.unknownNotes
  split
  · next fail => simp [fail, Note.isFailure]
  · next other => simp [other]

/-- A step notes a failure exactly if it does not go well. -/
theorem step_smooth {t : Task} {w : World} {more : List Note} {stage : Stage}
    (step : Task.Step plan (plan.answersIn w) t.key t.config t.stage more stage) :
    more.any Note.isFailure = true ↔ ¬ t.Smooth plan w := by
  obtain ⟨key, config, before⟩ := t
  dsimp only at step
  have labels : ∀ (a : ResolvedArtifact) (form : Form),
      plan.labels ⟨a, config, form⟩ = plan.labels ⟨a, config, .file⟩ := fun _ _ => rfl
  cases step with
  | named parsed => simp [Task.smooth_iff, Task.Raises, Note.isFailure, parsed]
  | malformed refused => simp [Task.smooth_iff, Task.Raises, Note.isFailure, refused]
  | faulted answer =>
      have answer : ((plan.resolver.resolve _).perform w).1 = _ := answer
      simp [Task.smooth_iff, Task.Raises, Note.isFailure, answer]
  | unresolved answer =>
      have answer : ((plan.resolver.resolve _).perform w).1 = _ := answer
      simp [Task.smooth_iff, Task.Raises, Note.isFailure, answer]
  | resolved answer =>
      have answer : ((plan.resolver.resolve _).perform w).1 = _ := answer
      simp [Task.smooth_iff, Task.Raises, Note.isFailure, answer]
  | @library a classes =>
      have other : a.packaging ≠ "aar" := by
        intro aar
        rw [aar] at classes
        exact absurd classes (by decide)
      rw [List.any_cons, Bool.or_eq_true, finishNotes_failed, labels]
      simp [Task.smooth_iff, Task.Raises, Note.isFailure, classes, other]
  | android other aar => simp [Task.smooth_iff, Task.Raises, Note.isFailure, aar]
  | @file a other noAar =>
      rw [List.any_append, List.any_cons, Bool.or_eq_true, Bool.or_eq_true, finishNotes_failed,
        unknownNotes_failed, labels]
      simp [Task.smooth_iff, Task.Raises, Note.isFailure, other, noAar]
      tauto
  | @undelivered a answer answered missing =>
      refine iff_of_true rfl fun smooth => ?_
      obtain ⟨status, file, same, found⟩ := smooth.delivers a rfl
      rw [missing status (Eq.trans (Eq.symm answered) same)] at found
      cases found
  | @delivered a status file answered found =>
      have answered : ((plan.resolver.download a).perform w).1 = .ok status := answered
      simp [Task.smooth_iff, Task.Raises, Note.isFailure, answered, found]
  | @unusable a file answer answered wrong =>
      refine iff_of_true rfl fun smooth => ?_
      obtain ⟨details, same⟩ := smooth.inspects a file rfl
      exact wrong details (Eq.trans (Eq.symm answered) same)
  | @inspected a file details answered =>
      have answered : Aar.inspect (w.files.readFile file) = .ok (.ok details) := answered
      rw [finishNotes_failed, labels]
      simp [Task.smooth_iff, Task.Raises, answered]
  | rested => simp [Task.smooth_iff, Task.Raises]

/-- A step of a task marks the progress as failed exactly if it does not go well. -/
theorem advance_failed (t : Task) (p : Progress) (w : World) :
    ((t.advance plan p).run w).1.2.failed = true ↔ p.failed = true ∨ ¬ t.Smooth plan w := by
  obtain ⟨more, step, noted, -⟩ := advance_explained plan p w t
  rw [noted, noteAll_failed, Bool.or_eq_true, step_smooth step]

variable (plan) in
/-- In a turn either nothing happens to the run or a task makes a step. -/
theorem turn_cases (p : Pool) (turn : Turn) (w : World) :
    ((p.task? turn).bind fun i => p.run.tasks[i]?) = none ∧
        ((p.advance plan turn).run w).1.run = p.run ∨
      ∃ i t, ((p.task? turn).bind fun i => p.run.tasks[i]?) = some t ∧
        p.run.tasks[i]? = some t ∧
        ((p.advance plan turn).run w).1.run
          = ⟨p.run.tasks.set i { t with stage := ((t.advance plan p.run.progress).run w).1.1 },
            ((t.advance plan p.run.progress).run w).1.2⟩ := by
  have step := congrArg Prod.fst (advance_task plan p turn w)
  dsimp only at step
  rw [step]
  cases moved : p.task? turn with
  | none => exact .inl ⟨rfl, rfl⟩
  | some i =>
      dsimp only
      cases found : p.run.tasks[i]? with
      | none => exact .inl ⟨found, by rw [run_advance_none found]⟩
      | some t => exact .inr ⟨i, t, found, found, by rw [run_advance_some found]⟩

theorem steps_cons (turn : Turn) (schedule : List Turn) (p : Pool) (w : World) :
    p.steps plan (turn :: schedule) w
      = (((p.task? turn).bind fun i => p.run.tasks[i]?).map fun t => (t, w)).toList
        ++ ((p.advance plan turn).run w).1.steps plan schedule ((p.advance plan turn).run w).2 :=
  rfl

variable (plan) in
/-- A schedule has failed exactly if a step of it did not go well. -/
theorem follow_failed :
    ∀ (schedule : List Turn) (p : Pool) (w : World),
      ((Pool.follow plan schedule p).run w).1.run.progress.failed = true ↔
        p.run.progress.failed = true ∨ ∃ x ∈ p.steps plan schedule w, ¬ x.1.Smooth plan x.2
  | [], _, _ => ⟨.inl, fun failed => failed.elim id fun ⟨_, made, _⟩ => absurd made List.not_mem_nil⟩
  | turn :: schedule, p, w => by
      have later := follow_failed schedule ((p.advance plan turn).run w).1
        ((p.advance plan turn).run w).2
      refine later.trans ?_
      rw [steps_cons]
      rcases turn_cases plan p turn w with ⟨still, same⟩ | ⟨i, t, moved, -, run⟩
      · rw [still, same]
        rfl
      · rw [moved, run, advance_failed]
        simp only [Option.map_some, Option.toList_some, List.singleton_append, List.mem_cons,
          exists_eq_or_imp, or_assoc]

theorem way_mono {steps more : List (Task × World)} {t : Task} {fate : Fate}
    (within : ∀ x ∈ steps, x ∈ more) (way : t.Way plan steps fate) : t.Way plan more fate := by
  induction way with
  | ended done => exact .ended done
  | step made _ ih => exact .step (within _ made) ih

/-- A task that has ended after a schedule came to its end by the steps of that schedule. -/
theorem follow_way :
    ∀ (schedule : List Turn) (p : Pool) (w : World) (i : Nat) (t t' : Task) (fate : Fate),
      p.run.tasks[i]? = some t →
      ((Pool.follow plan schedule p).run w).1.run.tasks[i]? = some t' →
      t'.stage = .ended fate → t.Way plan (p.steps plan schedule w) fate
  | [], p, w, i, t, t', fate, found, last, ended => by
      obtain rfl : t = t' := Option.some.inj (found.symm.trans last)
      exact .ended ended
  | turn :: schedule, p, w, i, t, t', fate, found, last, ended => by
      have later := fun t₁ found₁ => follow_way schedule ((p.advance plan turn).run w).1
        ((p.advance plan turn).run w).2 i t₁ t' fate found₁ last ended
      rw [steps_cons]
      rcases turn_cases plan p turn w with ⟨still, same⟩ | ⟨j, t₁, moved, found₁, run⟩
      · rw [still]
        exact later t (same ▸ found)
      · rw [moved]
        by_cases own : j = i
        · subst own
          obtain rfl : t = t₁ := Option.some.inj (found.symm.trans found₁)
          have less := (List.getElem?_eq_some_iff.mp found).1
          have moves := later _ (by rw [run]; exact List.getElem?_set_self less)
          exact .step List.mem_cons_self (way_mono (fun _ => List.mem_cons_of_mem _) moves)
        · refine way_mono (fun _ => List.mem_cons_of_mem _) (later t ?_)
          rw [run]
          exact (List.getElem?_set_ne own).trans found

end Steps

/-! ## The status -/

section Status

variable {plan : Plan} {schedule : List Turn} {w v : World} {e : Ending}

/-- What is wrong with a specification is told. -/
theorem problems_told (wrong : plan.specification.problems ≠ [])
    (ended : (plan.generateBy schedule).perform w = (.ok (some e), v)) :
    ∀ problem ∈ plan.specification.problems,
      v.Says ("ERROR: Invalid config: " ++ problem.message) := by
  intro problem listed
  unfold Plan.generateBy at ended
  split at ended
  · next none => exact absurd none wrong
  · obtain ⟨_, w₁, told, rest⟩ := Action.perform_bind_ok.mp ended
    cases rest
    obtain ⟨w₂, w₃, said, more⟩ := forM_performed (fun _ => extends_say _) told problem listed
    cases said
    exact says_mono more (says_say _ w₂)

/-- When the pool returns, the steps of the schedule have taken every artifact to its end. -/
theorem follow_ways {k m : Nat} (returned :
      ((Pool.follow plan schedule (.start plan.specification k m)).run w).1.phase = .returned) :
    ∀ a ∈ plan.specification.artifacts, ∃ fate,
      Task.Way plan ((Pool.start plan.specification k m).steps plan schedule w)
        ⟨a.1, a.2, .listed⟩ fate := by
  intro a listed
  have reached := follow_reaches plan schedule (.start plan.specification k m) w
  have ended := ended_returned (orderly_reached reached) returned
  obtain ⟨i, found⟩ := List.mem_iff_getElem?.mp listed
  -- the task of the artifact stood at the beginning of the run, and there are no fewer now
  have first : (Run.start plan.specification).tasks[i]? = some ⟨a.1, a.2, .listed⟩ := by
    rw [Run.start, List.getElem?_map, found]
    rfl
  have less : i < ((Pool.follow plan schedule (.start plan.specification k m)).run
      w).1.run.tasks.length := by
    rw [reached_length reached]
    exact (List.getElem?_eq_some_iff.mp found).1
  have last := List.getElem?_eq_getElem less
  obtain ⟨fate, done⟩ := ended _ (List.getElem_mem less)
  exact ⟨fate, follow_way schedule _ w i _ _ fate first last done⟩

/-- A run that ends is well exactly if its specification is valid, every step of it went well,
every file was written and the checks found nothing.  The steps take every artifact to its end,
and the files are all that the run was to write; but where the specification is wrong there is
nothing but a message for each problem. -/
theorem generateBy_status (plan : Plan) (schedule : List Turn) (w v : World) (e : Ending)
    (ended : (plan.generateBy schedule).perform w = (.ok (some e), v)) :
    (e.well = true ↔ plan.specification.problems = [] ∧
      (∀ x ∈ plan.steps schedule w, x.1.Smooth plan x.2) ∧
      (∀ o ∈ e.outputs, o.written = true) ∧ plan.Quiet e.progress) ∧
    (plan.specification.problems = [] →
      (∀ a ∈ plan.specification.artifacts,
        ∃ fate, Task.Way plan (plan.steps schedule w) ⟨a.1, a.2, .listed⟩ fate) ∧
      plan.files e.progress = .ok (e.outputs.map Output.file) ∧
      ∃ f, Written f e.outputs v.files) ∧
    (plan.specification.problems ≠ [] →
      v.files = w.files ∧ v.requested = w.requested ∧
      ∀ problem ∈ plan.specification.problems,
        v.Says ("ERROR: Invalid config: " ++ problem.message)) := by
  by_cases valid : plan.specification.problems = []
  · rw [generateBy_valid plan valid] at ended
    obtain ⟨w₀, pool, w₁, prepared, followed, returned, concluded⟩ := runBy_ok ended
    have steps : plan.steps schedule w
        = (Pool.start plan.specification plan.workers plan.workers).steps plan schedule w₀ := by
      rw [Plan.steps, prepared]
    have failed := follow_failed plan schedule
      (.start plan.specification plan.workers plan.workers) w₀
    rw [followed, ← steps] at failed
    have smooth : pool.run.progress.failed = false ↔
        ∀ x ∈ plan.steps schedule w, x.1.Smooth plan x.2 := by
      constructor
      · intro fine x made
        by_contra rough
        rw [failed.mpr (.inr ⟨x, made, rough⟩)] at fine
        cases fine
      · intro all
        refine Bool.eq_false_iff.mpr fun marked => ?_
        rcases failed.mp marked with early | ⟨x, made, rough⟩
        · cases early
        · exact rough (all x made)
    refine ⟨?_, fun _ => ⟨fun a listed => ?_, ?_, w₁.files, concluded.written⟩,
      fun wrong => absurd valid wrong⟩
    · rw [concluded.well, smooth, concluded.progress]
      simp only [valid, true_and]
    · rw [steps]
      exact follow_ways (by rw [followed]; exact returned) a listed
    · rw [concluded.progress]
      exact concluded.files
  · obtain ⟨answer, files, requested⟩ := generateBy_invalid valid schedule w
    have told := problems_told valid ended
    rw [ended] at answer files requested
    cases answer
    exact ⟨⟨fun well => absurd well Bool.false_ne_true, fun all => absurd all.1 valid⟩,
      fun right => absurd right valid, fun _ => ⟨files, requested, told⟩⟩

end Status

/-- The ring is well, so its only artifact was resolved and packaged, and nothing is missing. -/
theorem ring_status :
    ∃ e v, Ring.plan.left? (inTurn 1) Pair.world = some (e, v) ∧ e.well = true ∧
      (∀ x ∈ Ring.plan.steps (inTurn 1) Pair.world, x.1.Smooth Ring.plan x.2) ∧
      Ring.plan.Quiet e.progress := by
  obtain ⟨e, v, ended, left⟩ := left_ended Ring.plan (inTurn 1) Pair.world (by decide +kernel)
  have well : e.well = true := by
    have found : (Ring.plan.left? (inTurn 1) Pair.world).map (fun x => x.1.well) = some true := by
      decide +kernel
    rw [left] at found
    exact Option.some.inj found
  obtain ⟨-, smooth, -, quiet⟩ :=
    (generateBy_status Ring.plan (inTurn 1) Pair.world v e ended).1.mp well
  exact ⟨e, v, left, well, smooth, quiet⟩

end MavenImport
