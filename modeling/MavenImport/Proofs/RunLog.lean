/-
# Proofs.RunLog -- the notes of a run

In a run the notes of the tasks arrive mixed.  `Run.Told` ties the three together: the progress
is what the arrived notes make of it, the arrived notes are those of the tasks in some order,
and each task came to its stage by the notes that are its own (`Task.Story`).  It holds at the
start and lasts through every step of any task (`told_advance`), so whatever does not depend on
the order of notes can be read off the tasks alone.
-/
import Mathlib.Data.List.Basic
import Mathlib.Data.List.Perm.Basic
import MavenImport.Generate.Pool
import MavenImport.Proofs.TaskSteps

namespace MavenImport

set_option autoImplicit false

/-! ## The story of a task -/

/-- The notes by which a task came to its stage. -/
inductive Task.Story (plan : Plan) (answers : Answers) (key : String) (config : ArtifactConfig) :
    List Note → Stage → Prop
  | start : Story plan answers key config [] .listed
  | next {notes more : List Note} {stage stage' : Stage}
      (before : Story plan answers key config notes stage)
      (step : Task.Step plan answers key config stage more stage') :
      Story plan answers key config (notes ++ more) stage'

/-- A task with its notes. -/
abbrev Part := Task × List Note

/-- The notes that arrived in a run are those of its tasks, and the progress is made of them. -/
structure Run.Told (plan : Plan) (answers : Answers) (parts : List Part) (arrival : List Note)
    (r : Run) : Prop where
  artifacts : parts.map (fun e => (e.1.key, e.1.config)) = plan.specification.artifacts
  tasks : r.tasks = parts.map Prod.fst
  stories : ∀ e ∈ parts, Task.Story plan answers e.1.key e.1.config e.2 e.1.stage
  arrived : arrival.Perm (parts.flatMap Prod.snd)
  progress : r.progress = ({} : Progress).noteAll arrival

/-- All tasks of a run have come to their ends. -/
def Run.Done (r : Run) : Prop := ∀ t ∈ r.tasks, ∃ fate, t.stage = .ended fate

theorem told_start (plan : Plan) (answers : Answers) :
    (Run.start plan.specification).Told plan answers
      (plan.specification.artifacts.map fun e => ({ key := e.1, config := e.2 }, [])) [] where
  artifacts := by simp [Function.comp_def]
  tasks := by simp [Run.start, Function.comp_def]
  stories e listed := by
    obtain ⟨declared, -, rfl⟩ := List.mem_map.mp listed
    exact .start
  arrived := by
    have none : ∀ artifacts : List (String × ArtifactConfig), (artifacts.map fun e =>
        (({ key := e.1, config := e.2 }, []) : Part)).flatMap Prod.snd = [] := by
      intro artifacts
      induction artifacts with
      | nil => rfl
      | cons e es ih => exact ih
    rw [none]
  progress := rfl

/-- What is added to one part is added to the whole, up to order. -/
theorem flatMap_set_append {parts : List Part} {i : Nat} {e : Part} (found : parts[i]? = some e)
    (t : Task) (more : List Note) :
    ((parts.set i (t, e.2 ++ more)).flatMap Prod.snd).Perm (parts.flatMap Prod.snd ++ more) := by
  obtain ⟨less, rfl⟩ := List.getElem?_eq_some_iff.mp found
  have after := (List.set_perm_cons_eraseIdx less (t, parts[i].2 ++ more)).flatMap_right Prod.snd
  have before := (List.getElem_cons_eraseIdx_perm less).flatMap_right Prod.snd
  refine (after.trans ?_).trans (before.append_right more)
  simp only [List.flatMap_cons, List.append_assoc]
  exact List.perm_append_comm.append_left _

/-! ## Steps of a run -/

theorem run_advance_none {plan : Plan} {r : Run} {i : Nat} (missing : r.tasks[i]? = none)
    (w : World) : (r.advance plan i).run w = (r, w) := by
  rw [Run.advance, missing]
  rfl

theorem run_advance_some {plan : Plan} {r : Run} {i : Nat} {t : Task}
    (found : r.tasks[i]? = some t) (w : World) :
    (r.advance plan i).run w =
      ((⟨r.tasks.set i { t with stage := ((t.advance plan r.progress).run w).1.1 },
        ((t.advance plan r.progress).run w).1.2⟩ : Run),
        ((t.advance plan r.progress).run w).2) := by
  rw [Run.advance, found]
  rfl

/-- A step of a run is a step of its task. -/
theorem run_advance_explained (plan : Plan) {r : Run} {i : Nat} {t : Task}
    (found : r.tasks[i]? = some t) (w : World) :
    ∃ more stage, Task.Step plan (plan.answersIn w) t.key t.config t.stage more stage ∧
      ((r.advance plan i).run w).1
        = ⟨r.tasks.set i { t with stage := stage }, r.progress.noteAll more⟩ ∧
      plan.resolver.Leads w (callsOf more) ((r.advance plan i).run w).2 := by
  obtain ⟨more, step, noted, led⟩ := advance_explained plan r.progress w t
  rw [run_advance_some found]
  exact ⟨more, _, step, by rw [noted], led⟩

/-- The notes of a step arrive last, and they become part of those of its task. -/
theorem told_step {plan : Plan} {answers : Answers} {parts : List Part} {arrival : List Note}
    {r : Run} (told : r.Told plan answers parts arrival) {i : Nat} {e : Part}
    (found : parts[i]? = some e) {more : List Note} {stage : Stage}
    (step : Task.Step plan answers e.1.key e.1.config e.1.stage more stage) :
    Run.Told plan answers (parts.set i ({ e.1 with stage := stage }, e.2 ++ more))
      (arrival ++ more) ⟨r.tasks.set i { e.1 with stage := stage }, r.progress.noteAll more⟩ where
  artifacts := by
    rw [← told.artifacts, List.map_set]
    have same : (parts.map fun e => (e.1.key, e.1.config))[i]?
        = some (e.1.key, e.1.config) := by
      rw [List.getElem?_map, found]
      rfl
    obtain ⟨less, value⟩ := List.getElem?_eq_some_iff.mp same
    rw [← value, List.set_getElem_self]
  tasks := by rw [told.tasks, List.map_set]
  stories := by
    intro e' listed
    rcases List.mem_or_eq_of_mem_set listed with old | rfl
    · exact told.stories e' old
    · exact .next (told.stories e (List.mem_of_getElem? found)) step
  arrived := (told.arrived.append_right more).trans (flatMap_set_append found _ more).symm
  progress := by
    rw [told.progress]
    exact (Progress.noteAll_append _ _ _).symm

/-- The part of a task. -/
theorem told_task {plan : Plan} {answers : Answers} {parts : List Part} {arrival : List Note}
    {r : Run} (told : r.Told plan answers parts arrival) (i : Nat) :
    r.tasks[i]? = parts[i]?.map Prod.fst := by
  rw [told.tasks, List.getElem?_map]

/-- A step of any task is told.  What it may do has to be among what the answers allow. -/
theorem told_advance {plan : Plan} {answers : Answers} {parts : List Part} {arrival : List Note}
    {r : Run} (told : r.Told plan answers parts arrival) (i : Nat) (w : World)
    (admits : ∀ e ∈ parts, ∀ more stage,
      Task.Step plan (plan.answersIn w) e.1.key e.1.config e.1.stage more stage →
        Task.Step plan answers e.1.key e.1.config e.1.stage more stage) :
    ∃ parts' more, ((r.advance plan i).run w).1.Told plan answers parts' (arrival ++ more) ∧
      plan.resolver.Leads w (callsOf more) ((r.advance plan i).run w).2 := by
  have task := told_task told i
  cases found : parts[i]? with
  | none =>
      rw [found] at task
      rw [run_advance_none task]
      refine ⟨parts, [], ?_, .start⟩
      rwa [List.append_nil]
  | some e =>
      rw [found] at task
      obtain ⟨more, stage, step, same, led⟩ := run_advance_explained plan task w
      rw [same]
      exact ⟨_, more, told_step told found
        (admits e (List.mem_of_getElem? found) more stage step), led⟩

/-! ## What a ledger records -/

namespace Ledger

theorem mem_dependantsOf_record (l : Ledger) (slug version t owner : String) (d : Option String) :
    owner ∈ (l.record slug version d).dependantsOf t ↔
      owner ∈ l.dependantsOf t ∨ slug = t ∧ d = some owner := by
  by_cases same : slug = t
  · subst same
    simp only [dependantsOf, find?_record, if_true, Option.map_some, Option.getD_some,
      LedgerEntry.add, true_and]
    cases d with
    | none => cases l.find? slug <;> simp
    | some d => cases l.find? slug <;> simp [mem_addOnce, eq_comm]
  · simp [dependantsOf, find?_record, same]

section Records

variable (records : List (String × String × Option String)) (l : Ledger) (slug : String)

/-- A ledger with some things recorded. -/
def recordThese : Ledger := records.foldl (fun l e => l.record e.1 e.2.1 e.2.2) l

theorem find?_recordThese :
    ((l.recordThese records).find? slug).isSome ↔
      (l.find? slug).isSome ∨ ∃ e ∈ records, e.1 = slug := by
  induction records generalizing l with
  | nil => simp [recordThese]
  | cons e records ih =>
      rw [recordThese, List.foldl_cons]
      refine (ih _).trans ?_
      rw [find?_record]
      by_cases same : e.1 = slug <;> simp [same]

theorem versionsOf_recordThese (version : String) :
    version ∈ (l.recordThese records).versionsOf slug ↔
      version ∈ l.versionsOf slug ∨ ∃ e ∈ records, e.1 = slug ∧ e.2.1 = version := by
  induction records generalizing l with
  | nil => simp [recordThese]
  | cons e records ih =>
      rw [recordThese, List.foldl_cons]
      refine (ih _).trans ?_
      rw [mem_versionsOf_record, List.exists_mem_cons_iff, or_assoc, eq_comm (a := version)]

theorem dependantsOf_recordThese (owner : String) :
    owner ∈ (l.recordThese records).dependantsOf slug ↔
      owner ∈ l.dependantsOf slug ∨ ∃ e ∈ records, e.1 = slug ∧ e.2.2 = some owner := by
  induction records generalizing l with
  | nil => simp [recordThese]
  | cons e records ih =>
      rw [recordThese, List.foldl_cons]
      refine (ih _).trans ?_
      rw [mem_dependantsOf_record, List.exists_mem_cons_iff, or_assoc]

end Records

end Ledger

/-! ## Views of a progress -/

namespace Note

def failure? : Note → Option ResolutionFailure
  | unresolved f => some f
  | _ => none

def declaration? : Note → Option (Path × Declared)
  | declared path d => some (path, d)
  | _ => none

/-- What is recorded in the ledger: a slug, a version, and who asked for it. -/
def record? : Note → Option (String × String × Option String)
  | named c => some (c.slug, c.version, none)
  | needed slug version owner => some (slug, version, some owner)
  | _ => none

/-- Something went wrong. -/
def isFailure : Note → Bool
  | failed => true
  | unresolved _ => true
  | _ => false

def isCount : Note → Bool
  | counted => true
  | _ => false

end Note

section Views

variable (notes : List Note) (p : Progress)

/-- What every note appends to a list of the progress stands there in the order of the notes. -/
theorem noteAll_appends {α : Type} {field : Progress → List α} {view : Note → Option α}
    (step : ∀ p n, field (p.note n) = field p ++ (view n).toList) :
    field (p.noteAll notes) = field p ++ notes.filterMap view := by
  induction notes generalizing p with
  | nil => simp
  | cons n notes ih =>
      rw [Progress.noteAll_cons, ih, step, List.filterMap_cons]
      cases view n <;> simp

theorem noteAll_unresolved :
    (p.noteAll notes).unresolved = p.unresolved ++ notes.filterMap Note.failure? := by
  apply noteAll_appends notes p
  intro p n
  cases n <;> simp [Progress.note, Progress.declareSlug, Progress.fail, Progress.addUnresolved,
    Progress.countResolved, Note.failure?]

theorem noteAll_declared :
    (p.noteAll notes).declared = p.declared ++ notes.filterMap Note.declaration? := by
  apply noteAll_appends notes p
  intro p n
  cases n <;> simp [Progress.note, Progress.declareSlug, Progress.fail, Progress.addUnresolved,
    Progress.countResolved, Note.declaration?]

theorem noteAll_resolvedCount :
    (p.noteAll notes).resolvedCount = p.resolvedCount + notes.countP Note.isCount := by
  induction notes generalizing p with
  | nil => simp
  | cons n notes ih =>
      have step : (p.note n).resolvedCount = p.resolvedCount + if n.isCount then 1 else 0 := by
        cases n <;> simp [Progress.note, Progress.declareSlug, Progress.fail,
          Progress.addUnresolved, Progress.countResolved, Note.isCount]
      rw [Progress.noteAll_cons, ih, step, List.countP_cons]
      omega

theorem noteAll_failed :
    (p.noteAll notes).failed = (p.failed || notes.any Note.isFailure) := by
  induction notes generalizing p with
  | nil => simp
  | cons n notes ih =>
      have step : (p.note n).failed = (p.failed || n.isFailure) := by
        cases n <;> simp [Progress.note, Progress.declareSlug, Progress.fail,
          Progress.addUnresolved, Progress.countResolved, Note.isFailure]
      rw [Progress.noteAll_cons, ih, step, List.any_cons, Bool.or_assoc]

theorem mem_declaredSlugs (slug : String) :
    slug ∈ (p.noteAll notes).declaredSlugs ↔
      slug ∈ p.declaredSlugs ∨ ∃ c, Note.named c ∈ notes ∧ c.slug = slug := by
  induction notes generalizing p with
  | nil => simp
  | cons n notes ih =>
      rw [Progress.noteAll_cons, ih]
      cases n with
      | named c =>
          have added : slug ∈ (p.note (.named c)).declaredSlugs ↔
              slug ∈ p.declaredSlugs ∨ slug = c.slug := by
            simp only [Progress.note, Progress.declareSlug]
            split
            · next old => exact ⟨.inl, fun h => h.elim id fun same => same ▸ old⟩
            · simp
          rw [added]
          constructor
          · rintro ((old | same) | ⟨c', later, same⟩)
            · exact .inl old
            · exact .inr ⟨c, List.mem_cons_self, same.symm⟩
            · exact .inr ⟨c', List.mem_cons_of_mem _ later, same⟩
          · rintro (old | ⟨c', listed, same⟩)
            · exact .inl (.inl old)
            · rcases List.mem_cons.mp listed with first | later
              · cases first
                exact .inl (.inr same.symm)
              · exact .inr ⟨c', later, same⟩
      | _ => simp [Progress.note, Progress.fail, Progress.addUnresolved, Progress.countResolved]

theorem noteAll_ledger :
    (p.noteAll notes).ledger = p.ledger.recordThese (notes.filterMap Note.record?) := by
  induction notes generalizing p with
  | nil => rfl
  | cons n notes ih =>
      rw [Progress.noteAll_cons, ih, List.filterMap_cons]
      cases n <;> rfl

end Views

/-! ## What a stage says of its story -/

namespace Stage

def failure? : Stage → Option ResolutionFailure
  | ended (.unresolved f) => some f
  | _ => none

def declaration? : Stage → Option (Path × Declared)
  | ended (.declared path d) => some (path, d)
  | _ => none

/-- The artifact was taken up for packaging. -/
def isCounted : Stage → Bool
  | opening _ | inspecting _ _ | ended .dropped | ended (.declared _ _) => true
  | _ => false

/-- Something went wrong on the way of the artifact. -/
def isFailed : Stage → Bool
  | ended .lost | ended (.unresolved _) | ended .dropped => true
  | _ => false

end Stage

section Stories

variable {plan : Plan} {answers : Answers} {key : String} {config : ArtifactConfig}
  {notes : List Note} {stage : Stage}

theorem finishNotes_failures (r : Resolution) :
    (plan.finishNotes r).filterMap Note.failure? = (plan.finishStage r).failure?.toList := by
  unfold Plan.finishNotes Plan.finishStage
  cases plan.labels r <;> simp [Plan.needNote, Note.failure?, Stage.failure?, Function.comp_def]

theorem finishNotes_declarations (r : Resolution) :
    (plan.finishNotes r).filterMap Note.declaration?
      = (plan.finishStage r).declaration?.toList := by
  unfold Plan.finishNotes Plan.finishStage
  cases plan.labels r <;>
    simp [Plan.needNote, Note.declaration?, Stage.declaration?, Function.comp_def]

theorem finishNotes_counts (r : Resolution) : (plan.finishNotes r).countP Note.isCount = 0 := by
  unfold Plan.finishNotes
  cases plan.labels r <;> simp [Plan.needNote, Note.isCount]

theorem finishStage_counted (r : Resolution) : (plan.finishStage r).isCounted = true := by
  unfold Plan.finishStage
  cases plan.labels r <;> rfl

theorem finishStage_failed (r : Resolution) (failed : (plan.finishStage r).isFailed = true) :
    (plan.finishNotes r).any Note.isFailure = true := by
  unfold Plan.finishStage at failed
  unfold Plan.finishNotes
  cases made : plan.labels r with
  | ok labels => rw [made] at failed; cases failed
  | error f => simp [Note.isFailure]

/-- The failure of an artifact is noted once, in the step that ends its way with it. -/
theorem step_failures {stage' : Stage}
    (step : Task.Step plan answers key config stage notes stage') :
    stage.failure?.toList ++ notes.filterMap Note.failure? = stage'.failure?.toList := by
  cases step with
  | library _ => exact finishNotes_failures _
  | inspected _ => exact finishNotes_failures _
  | file _ _ =>
      have quiet : plan.unknownNotes.filterMap Note.failure? = [] := by
        unfold Plan.unknownNotes
        split <;> rfl
      rw [List.filterMap_append, finishNotes_failures]
      exact congrArg (· ++ _) quiet
  | rested => exact List.append_nil _
  | _ => rfl

/-- The declaration of an artifact is noted once, in the step that ends its way with it. -/
theorem step_declarations {stage' : Stage}
    (step : Task.Step plan answers key config stage notes stage') :
    stage.declaration?.toList ++ notes.filterMap Note.declaration?
      = stage'.declaration?.toList := by
  cases step with
  | library _ => exact finishNotes_declarations _
  | inspected _ => exact finishNotes_declarations _
  | file _ _ =>
      have quiet : plan.unknownNotes.filterMap Note.declaration? = [] := by
        unfold Plan.unknownNotes
        split <;> rfl
      rw [List.filterMap_append, finishNotes_declarations]
      exact congrArg (· ++ _) quiet
  | rested => exact List.append_nil _
  | _ => rfl

/-- An artifact is counted in the step that takes it up for packaging. -/
theorem step_counts {stage' : Stage}
    (step : Task.Step plan answers key config stage notes stage') :
    stage.isCounted.toNat + notes.countP Note.isCount = stage'.isCounted.toNat := by
  cases step with
  | library _ =>
      rw [finishStage_counted, List.countP_cons, finishNotes_counts]
      rfl
  | inspected _ =>
      rw [finishStage_counted, finishNotes_counts]
      rfl
  | file _ _ =>
      have quiet : plan.unknownNotes.countP Note.isCount = 0 := by
        unfold Plan.unknownNotes
        split <;> rfl
      rw [finishStage_counted, List.countP_append, List.countP_cons, quiet, finishNotes_counts]
      rfl
  | _ => rfl

/-- A step that ends the way of an artifact without a declaration notes that something went
wrong. -/
theorem step_failed {stage' : Stage}
    (step : Task.Step plan answers key config stage notes stage')
    (failed : stage'.isFailed = true) :
    stage.isFailed = true ∨ notes.any Note.isFailure = true := by
  cases step with
  | library _ => exact .inr (finishStage_failed _ failed)
  | inspected _ => exact .inr (finishStage_failed _ failed)
  | file _ _ => exact .inr (by simp [finishStage_failed _ failed])
  | rested => exact .inl failed
  | named _ | resolved _ | android _ _ | delivered _ _ => cases failed
  | _ => exact .inr rfl

/-- Whatever its way, a task that has left the list had its coordinate recorded, if its key is
one. -/
theorem story_named {c : Coordinate} (story : Task.Story plan answers key config notes stage)
    (parsed : Coordinate.ofString? key = some c) (left : stage ≠ .listed) :
    Note.named c ∈ notes := by
  induction story with
  | start => exact absurd rfl left
  | @next notes more stage stage' before step ih =>
      rw [List.mem_append]
      by_cases listed : stage = .listed
      · subst listed
        cases step with
        | named parsed' =>
            rw [parsed] at parsed'
            cases parsed'
            exact .inr List.mem_cons_self
        | malformed refused => rw [parsed] at refused; cases refused
      · exact .inl (ih listed)

/-- Only what a key reads is recorded as its coordinate. -/
theorem story_named_key {c : Coordinate} (story : Task.Story plan answers key config notes stage)
    (noted : Note.named c ∈ notes) : Coordinate.ofString? key = some c := by
  have finish : ∀ r, Note.named c ∉ plan.finishNotes r := by
    intro r
    unfold Plan.finishNotes
    cases plan.labels r <;> simp [Plan.needNote]
  have unknown : Note.named c ∉ plan.unknownNotes := by
    unfold Plan.unknownNotes
    split <;> simp
  induction story with
  | start => cases noted
  | next _ step ih =>
      rcases List.mem_append.mp noted with before | now
      · exact ih before
      · cases step with
        | named parsed =>
            cases List.mem_singleton.mp now
            exact parsed
        | library _ => exact absurd ((List.mem_cons.mp now).resolve_left (by simp)) (finish _)
        | file _ _ =>
            rcases List.mem_append.mp now with told | made
            · exact absurd ((List.mem_cons.mp told).resolve_left (by simp)) unknown
            · exact absurd made (finish _)
        | inspected _ => exact absurd now (finish _)
        | _ => simp at now

/-- What every step notes as its stage shows it is noted by the whole story. -/
theorem story_shows {α : Type} {view : Note → Option α} {shown : Stage → Option α}
    (listed : shown .listed = none)
    (steps : ∀ {more stage stage'}, Task.Step plan answers key config stage more stage' →
      (shown stage).toList ++ more.filterMap view = (shown stage').toList)
    (story : Task.Story plan answers key config notes stage) :
    notes.filterMap view = (shown stage).toList := by
  induction story with
  | start => rw [listed]; rfl
  | next _ step ih => rw [List.filterMap_append, ih, steps step]

theorem story_counts (story : Task.Story plan answers key config notes stage) :
    notes.countP Note.isCount = stage.isCounted.toNat := by
  induction story with
  | start => rfl
  | next _ step ih => rw [List.countP_append, ih, step_counts step]

theorem story_failed (story : Task.Story plan answers key config notes stage)
    (failed : stage.isFailed = true) : notes.any Note.isFailure = true := by
  induction story with
  | start => cases failed
  | next _ step ih =>
      rw [List.any_append, Bool.or_eq_true]
      exact (step_failed step failed).imp ih id

end Stories

/-! ## What the tasks say of the progress -/

theorem countP_parts {parts : List Part} {counts : Note → Bool} {holds : Task → Bool}
    (own : ∀ e ∈ parts, e.2.countP counts = (holds e.1).toNat) :
    (parts.flatMap Prod.snd).countP counts = (parts.map Prod.fst).countP holds := by
  induction parts with
  | nil => rfl
  | cons e parts ih =>
      have rest := ih fun e' later => own e' (List.mem_cons_of_mem e later)
      rw [List.flatMap_cons, List.countP_append, rest, own e List.mem_cons_self, List.map_cons,
        List.countP_cons]
      cases holds e.1 <;> simp [Nat.add_comm]

section Told

variable {plan : Plan} {answers : Answers} {parts : List Part} {arrival : List Note} {r : Run}
  (told : r.Told plan answers parts arrival)
include told

/-- What the steps of a task note as its stage shows it is noted by all tasks in turn. -/
theorem parts_show {α : Type} {view : Note → Option α} {shown : Stage → Option α}
    (listed : shown .listed = none)
    (steps : ∀ {key config more stage stage'}, Task.Step plan answers key config stage more stage' →
      (shown stage).toList ++ more.filterMap view = (shown stage').toList) :
    (parts.flatMap Prod.snd).filterMap view = r.tasks.filterMap fun t => shown t.stage := by
  rw [List.filterMap_flatMap, told.tasks, List.filterMap_map, List.filterMap_eq_flatMap_toList]
  apply List.flatMap_congr
  intro e member
  exact story_shows listed steps (told.stories e member)

/-- So it has arrived for all tasks. -/
theorem told_shows {α : Type} {view : Note → Option α} {shown : Stage → Option α}
    (listed : shown .listed = none)
    (steps : ∀ {key config more stage stage'}, Task.Step plan answers key config stage more stage' →
      (shown stage).toList ++ more.filterMap view = (shown stage').toList) :
    (arrival.filterMap view).Perm (r.tasks.filterMap fun t => shown t.stage) := by
  rw [← parts_show told listed steps]
  exact told.arrived.filterMap view

theorem told_unresolved :
    r.progress.unresolved.Perm (r.tasks.filterMap fun t => t.stage.failure?) := by
  rw [told.progress, noteAll_unresolved]
  exact told_shows told rfl step_failures

theorem told_declared :
    r.progress.declared.Perm (r.tasks.filterMap fun t => t.stage.declaration?) := by
  rw [told.progress, noteAll_declared]
  exact told_shows told rfl step_declarations

theorem told_resolvedCount :
    r.progress.resolvedCount = r.tasks.countP fun t => t.stage.isCounted := by
  have own : (parts.flatMap Prod.snd).countP Note.isCount
      = r.tasks.countP fun t => t.stage.isCounted := by
    rw [told.tasks]
    exact countP_parts fun e listed => story_counts (told.stories e listed)
  rw [told.progress, noteAll_resolvedCount, ← own, told.arrived.countP_eq]
  exact Nat.zero_add _

/-- The notes of a task are among those that arrived. -/
theorem told_part {t : Task} (listed : t ∈ r.tasks) :
    ∃ notes, Task.Story plan answers t.key t.config notes t.stage ∧ ∀ n ∈ notes, n ∈ arrival := by
  rw [told.tasks] at listed
  obtain ⟨e, member, rfl⟩ := List.mem_map.mp listed
  refine ⟨e.2, told.stories e member, fun n own => ?_⟩
  exact told.arrived.mem_iff.mpr (List.mem_flatMap.mpr ⟨e, member, own⟩)

theorem told_failed {t : Task} (listed : t ∈ r.tasks) (failed : t.stage.isFailed = true) :
    r.progress.failed = true := by
  obtain ⟨notes, story, arrived⟩ := told_part told listed
  obtain ⟨n, own, wrong⟩ := List.any_eq_true.mp (story_failed story failed)
  have noted : arrival.any Note.isFailure = true :=
    List.any_eq_true.mpr ⟨n, arrived n own, wrong⟩
  rw [told.progress, noteAll_failed, noted, Bool.or_true]

theorem told_slug {t : Task} {c : Coordinate} (listed : t ∈ r.tasks)
    (parsed : Coordinate.ofString? t.key = some c) (left : t.stage ≠ .listed) :
    c.slug ∈ r.progress.declaredSlugs := by
  obtain ⟨notes, story, arrived⟩ := told_part told listed
  rw [told.progress, mem_declaredSlugs]
  exact .inr ⟨c, arrived _ (story_named story parsed left), rfl⟩

end Told

end MavenImport
