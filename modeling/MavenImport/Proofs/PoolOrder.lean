/-
# Proofs.PoolOrder -- no task is lost or done twice

Whoever's turn it is, a pool keeps its lines in order (`Pool.Orderly`): a line counts its tasks
that wait or have a worker, every task that is to be resolved is in the first line or with one of
its workers, once, and every task that is to be packaged is in the second.  When the run that
waits returns, nothing is in the lines, so every task has come to its end, and what the tasks
have come to is what the progress says (`Pool.Accounts`).

Steps are taken in any world whatever, so that nothing is assumed of the resolver, of the files
or of what changes between two steps.
-/
import Mathlib.Logic.Relation
import MavenImport.Proofs.RunLog

namespace MavenImport

open Relation (ReflTransGen)

set_option autoImplicit false

/-! ## Lines -/

namespace Worker

/-- The task that a worker advances. -/
def task? : Worker → Option Nat
  | busy i => some i
  | _ => none

def isOpen (w : Worker) : Bool := w ≠ idle

end Worker

namespace Line

/-- The tasks that wait or are being advanced. -/
def held (l : Line) : List Nat := l.waiting ++ l.workers.filterMap Worker.task?

/-- The tasks that are not marked as done wait or have a worker. -/
def Counted (l : Line) : Prop := l.unfinished = l.waiting.length + l.workers.countP Worker.isOpen

end Line

section Lines

variable {l : Line} {k i : Nat}

/-- Setting a worker changes nothing of the others. -/
theorem workers_split {workers : List Worker} {x : Worker} (found : workers[k]? = some x)
    (y : Worker) : ∃ others, workers.Perm (x :: others) ∧ (workers.set k y).Perm (y :: others) := by
  obtain ⟨less, rfl⟩ := List.getElem?_eq_some_iff.mp found
  exact ⟨workers.eraseIdx k, (List.getElem_cons_eraseIdx_perm less).symm,
    List.set_perm_cons_eraseIdx less y⟩

theorem take_counted (counted : l.Counted) (idle : l.workers[k]? = some .idle) :
    (l.take k).Counted := by
  unfold Line.Counted Line.take at *
  cases waiting : l.waiting with
  | nil => rw [waiting] at counted; simpa [waiting] using counted
  | cons i rest =>
      obtain ⟨others, before, after⟩ := workers_split idle (.busy i)
      have open' := after.countP_eq Worker.isOpen
      rw [waiting, before.countP_eq, List.countP_cons_of_neg (by simp [Worker.isOpen])] at counted
      rw [List.countP_cons_of_pos (by simp [Worker.isOpen])] at open'
      simp only [List.length_cons] at counted ⊢
      omega

theorem take_held (idle : l.workers[k]? = some .idle) : (l.take k).held.Perm l.held := by
  unfold Line.held Line.take
  cases waiting : l.waiting with
  | nil => simp [waiting]
  | cons i rest =>
      obtain ⟨others, before, after⟩ := workers_split idle (.busy i)
      have held' : ((l.workers.set k (.busy i)).filterMap Worker.task?).Perm
          (i :: others.filterMap Worker.task?) := after.filterMap Worker.task?
      have held : (l.workers.filterMap Worker.task?).Perm (others.filterMap Worker.task?) :=
        before.filterMap Worker.task?
      refine (held'.append_left rest).trans (List.perm_middle.trans ?_)
      exact (held.symm.append_left rest).cons i

theorem leave_counted (counted : l.Counted) (busy : l.workers[k]? = some (.busy i)) :
    (l.leave k i).Counted := by
  obtain ⟨others, before, after⟩ := workers_split busy (.leaving i)
  have open' := after.countP_eq Worker.isOpen
  unfold Line.Counted Line.leave at *
  rw [before.countP_eq, List.countP_cons_of_pos (by simp [Worker.isOpen])] at counted
  rw [List.countP_cons_of_pos (by simp [Worker.isOpen])] at open'
  dsimp only
  omega

/-- A task that is left is held no more. -/
theorem leave_held (busy : l.workers[k]? = some (.busy i)) :
    l.held.Perm (i :: (l.leave k i).held) := by
  obtain ⟨others, before, after⟩ := workers_split busy (.leaving i)
  have held : (l.workers.filterMap Worker.task?).Perm (i :: others.filterMap Worker.task?) :=
    before.filterMap Worker.task?
  have held' : ((l.workers.set k (.leaving i)).filterMap Worker.task?).Perm
      (others.filterMap Worker.task?) := after.filterMap Worker.task?
  unfold Line.held Line.leave
  refine (held.append_left l.waiting).trans (List.perm_middle.trans ?_)
  exact (held'.symm.append_left l.waiting).cons i

theorem mark_counted (counted : l.Counted) (leaving : l.workers[k]? = some (.leaving i)) :
    (l.mark k).Counted := by
  obtain ⟨others, before, after⟩ := workers_split leaving .idle
  have open' := after.countP_eq Worker.isOpen
  unfold Line.Counted Line.mark at *
  rw [before.countP_eq, List.countP_cons_of_pos (by simp [Worker.isOpen])] at counted
  rw [List.countP_cons_of_neg (by simp [Worker.isOpen])] at open'
  dsimp only
  omega

theorem mark_held (leaving : l.workers[k]? = some (.leaving i)) : (l.mark k).held.Perm l.held := by
  obtain ⟨others, before, after⟩ := workers_split leaving .idle
  have held : (l.workers.filterMap Worker.task?).Perm (others.filterMap Worker.task?) :=
    before.filterMap Worker.task?
  have held' : ((l.workers.set k .idle).filterMap Worker.task?).Perm
      (others.filterMap Worker.task?) := after.filterMap Worker.task?
  exact (held'.trans held.symm).append_left l.waiting

theorem put_counted (counted : l.Counted) : (l.put i).Counted := by
  unfold Line.Counted Line.put at *
  simp only [List.length_append, List.length_singleton]
  omega

theorem put_held : (l.put i).held.Perm (i :: l.held) := by
  unfold Line.held Line.put
  rw [List.append_assoc]
  exact List.perm_middle

/-- Nothing is left of a line without open tasks. -/
theorem counted_none (counted : l.Counted) (none : l.unfinished = 0) :
    l.waiting = [] ∧ ∀ w ∈ l.workers, w = .idle := by
  unfold Line.Counted at counted
  constructor
  · exact List.eq_nil_of_length_eq_zero (by omega)
  · intro w listed
    have none : l.workers.countP Worker.isOpen = 0 := by omega
    have idle := List.countP_eq_zero.mp none w listed
    simpa [Worker.isOpen] using idle

theorem held_none (counted : l.Counted) (none : l.unfinished = 0) : l.held = [] := by
  obtain ⟨empty, idle⟩ := counted_none counted none
  have noTask : l.workers.filterMap Worker.task? = [] := by
    rw [List.filterMap_eq_nil_iff]
    intro w listed
    rw [idle w listed]
    rfl
  rw [Line.held, empty, noTask]
  rfl

end Lines

/-! ## Stages -/

theorem stage_set {r : Run} {t : Task} {i : Nat} (found : r.tasks[i]? = some t) (stage : Stage)
    (p : Progress) (j : Nat) :
    Run.stage? ⟨r.tasks.set i { t with stage := stage }, p⟩ j
      = if i = j then some stage else r.stage? j := by
  obtain ⟨less, -⟩ := List.getElem?_eq_some_iff.mp found
  unfold Run.stage?
  rw [List.getElem?_set]
  split
  · next same =>
      subst same
      simp
  · rfl

/-- A step of a task changes no stage but its own, and what is to be packaged is never to be
resolved again. -/
theorem advance_stage (plan : Plan) {r : Run} {i : Nat} {stage : Stage}
    (found : r.stage? i = some stage) (w : World) :
    ∃ stage', (∀ j, ((r.advance plan i).run w).1.stage? j
        = if i = j then some stage' else r.stage? j) ∧
      (stage.isPackaging = true → stage'.isResolving = false) := by
  obtain ⟨t, task, rfl⟩ := Option.map_eq_some_iff.mp found
  obtain ⟨notes, step, -, -⟩ := advance_explained plan r.progress w t
  rw [run_advance_some task]
  refine ⟨((t.advance plan r.progress).run w).1.1, stage_set task _ _, fun packaging => ?_⟩
  have ends : ∀ resolution, (plan.finishStage resolution).isResolving = false := by
    intro resolution
    unfold Plan.finishStage
    cases plan.labels resolution <;> rfl
  generalize t.stage = stage at step packaging
  generalize ((t.advance plan r.progress).run w).1.1 = stage' at step ⊢
  cases step with
  | library _ => exact ends _
  | file _ _ => exact ends _
  | inspected _ => exact ends _
  | named _ | malformed _ | faulted _ | unresolved _ | resolved _ | rested => cases packaging
  | _ => rfl

/-! ## Pools -/

/-- The lines of a pool hold the tasks that are to be resolved and those that are to be packaged,
each once, and count those that are not done. -/
structure Pool.Orderly (p : Pool) : Prop where
  resolvingCounted : p.resolving.Counted
  packagingCounted : p.packaging.Counted
  resolvingOnce : p.resolving.held.Nodup
  packagingOnce : p.packaging.held.Nodup
  toResolve : ∀ i, i ∈ p.resolving.held ↔ ∃ stage, p.run.stage? i = some stage ∧
    stage.isResolving = true
  toPackage : ∀ i, i ∈ p.packaging.held ↔ ∃ stage, p.run.stage? i = some stage ∧
    stage.isPackaging = true
  resolved : p.phase ≠ .resolving → p.resolving.unfinished = 0
  packaged : p.phase = .returned → p.packaging.unfinished = 0

/-- A pool makes a step, in some world. -/
def Pool.Step (plan : Plan) (p q : Pool) : Prop :=
  ∃ turn w, ((p.advance plan turn).run w).1 = q

theorem start_counted (tasks workers : Nat) : (Line.start tasks workers).Counted := by
  simp [Line.start, Line.Counted, Worker.isOpen, List.countP_replicate]

theorem start_held (tasks workers : Nat) : (Line.start tasks workers).held = List.range tasks := by
  simp [Line.start, Line.held, Worker.task?]

theorem start_stage (spec : Specification) (i : Nat) :
    (Run.start spec).stage? i = if i < spec.artifacts.length then some .listed else none := by
  unfold Run.start Run.stage?
  rw [List.getElem?_map]
  split
  · next less => simp [List.getElem?_eq_getElem less]
  · next more => simp [List.getElem?_eq_none (by omega : spec.artifacts.length ≤ i)]

theorem orderly_start (spec : Specification) (m n : Nat) : (Pool.start spec m n).Orderly where
  resolvingCounted := start_counted _ _
  packagingCounted := start_counted _ _
  resolvingOnce := by
    rw [Pool.start, start_held]
    exact List.nodup_range
  packagingOnce := by
    rw [Pool.start, start_held]
    exact List.nodup_range
  toResolve i := by
    rw [Pool.start, start_held, start_stage, List.mem_range]
    split <;> simp_all [Stage.isResolving]
  toPackage i := by
    rw [Pool.start, start_held, start_stage, List.mem_range]
    split <;> simp [Stage.isPackaging]
  resolved other := absurd rfl other
  packaged returned := by cases returned

section Step

variable {plan : Plan} {p : Pool}

/-- Only the lines change, and in each of them who holds which task. -/
theorem orderly_lines (orderly : p.Orderly) {resolving packaging : Line}
    (counted : resolving.Counted) (counted' : packaging.Counted)
    (held : resolving.held.Perm p.resolving.held) (held' : packaging.held.Perm p.packaging.held)
    (resolved : p.phase ≠ .resolving → resolving.unfinished = 0)
    (packaged : p.phase = .returned → packaging.unfinished = 0) :
    ({ p with resolving := resolving, packaging := packaging } : Pool).Orderly where
  resolvingCounted := counted
  packagingCounted := counted'
  resolvingOnce := held.nodup_iff.mpr orderly.resolvingOnce
  packagingOnce := held'.nodup_iff.mpr orderly.packagingOnce
  toResolve i := held.mem_iff.trans (orderly.toResolve i)
  toPackage i := held'.mem_iff.trans (orderly.toPackage i)
  resolved := resolved
  packaged := packaged

theorem orderly_main (orderly : p.Orderly) : p.main.Orderly := by
  unfold Pool.main
  cases phase : p.phase with
  | resolving =>
      dsimp only
      split
      · next done =>
          exact
            { orderly with
              resolved := fun _ => done
              packaged := fun returned => by cases returned }
      · exact orderly
  | packaging =>
      dsimp only
      split
      · next done =>
          have resolved : p.resolving.unfinished = 0 := orderly.resolved (by rw [phase]; simp)
          exact { orderly with resolved := fun _ => resolved, packaged := fun _ => done }
      · exact orderly
  | returned => exact orderly

/-- While a worker has a task, the run still waits for its line. -/
theorem resolving_open (orderly : p.Orderly) {k : Nat} {x : Worker}
    (found : p.resolving.workers[k]? = some x) (isOpen : x ≠ .idle) : p.phase = .resolving := by
  by_contra other
  have none := orderly.resolved other
  have idle := (counted_none orderly.resolvingCounted none).2
  exact isOpen (idle x (List.mem_of_getElem? found))

theorem packaging_open (orderly : p.Orderly) {k : Nat} {x : Worker}
    (found : p.packaging.workers[k]? = some x) (isOpen : x ≠ .idle) : p.phase ≠ .returned := by
  intro returned
  have none := orderly.packaged returned
  have idle := (counted_none orderly.packagingCounted none).2
  exact isOpen (idle x (List.mem_of_getElem? found))

theorem mem_held_of_busy {l : Line} {k i : Nat} (busy : l.workers[k]? = some (.busy i)) :
    i ∈ l.held :=
  (leave_held busy).mem_iff.mpr List.mem_cons_self

theorem leave_nodup {l : Line} {k i : Nat} (once : l.held.Nodup)
    (busy : l.workers[k]? = some (.busy i)) :
    i ∉ (l.leave k i).held ∧ (l.leave k i).held.Nodup :=
  List.nodup_cons.mp ((leave_held busy).nodup_iff.mp once)

theorem not_packaging {stage : Stage} (resolving : stage.isResolving = true) :
    stage.isPackaging = false := by
  cases stage <;> first | rfl | cases resolving

theorem putIf_facts {l : Line} {i : Nat} (put : Bool) (counted : l.Counted)
    (once : l.held.Nodup) (fresh : i ∉ l.held) :
    (if put then l.put i else l).Counted ∧ (if put then l.put i else l).held.Nodup ∧
      ∀ j, j ∈ (if put then l.put i else l).held ↔ j ∈ l.held ∨ j = i ∧ put = true := by
  cases put with
  | false => exact ⟨counted, once, fun j => by simp⟩
  | true =>
      refine ⟨put_counted counted, put_held.nodup_iff.mpr (List.nodup_cons.mpr ⟨fresh, once⟩), ?_⟩
      intro j
      rw [if_pos rfl, put_held.mem_iff, List.mem_cons]
      simp [or_comm]

/-! ### A task comes to a stage

The tasks that a line holds are those whose stages are of one kind.  This stays so when one task
comes to another stage, if it stays in the line as long as it is of that kind. -/

section Held

variable {r run : Run} {i : Nat} {old stage : Stage} {kind : Stage → Bool} {held after : List Nat}
  (holds : ∀ j, j ∈ held ↔ ∃ s, r.stage? j = some s ∧ kind s = true)
  (stages : ∀ j, run.stage? j = if i = j then some stage else r.stage? j)
include holds stages

theorem held_kept (found : r.stage? i = some old) (same : kind stage = kind old) :
    ∀ j, j ∈ held ↔ ∃ s, run.stage? j = some s ∧ kind s = true := by
  intro j
  rw [holds, stages]
  split
  · next here =>
      subst here
      simp [found, same]
  · rfl

theorem held_left (left : held.Perm (i :: after)) (gone : i ∉ after) (other : kind stage = false) :
    ∀ j, j ∈ after ↔ ∃ s, run.stage? j = some s ∧ kind s = true := by
  intro j
  rw [stages]
  split
  · next here =>
      subst here
      simp [gone, other]
  · next elsewhere =>
      rw [← holds, left.mem_iff, List.mem_cons]
      simp [Ne.symm elsewhere]

theorem held_put (put : ∀ j, j ∈ after ↔ j ∈ held ∨ j = i ∧ kind stage = true)
    (fresh : i ∉ held) : ∀ j, j ∈ after ↔ ∃ s, run.stage? j = some s ∧ kind s = true := by
  intro j
  rw [put, stages]
  split
  · next here =>
      subst here
      simp [fresh]
  · next elsewhere =>
      rw [← holds]
      simp [Ne.symm elsewhere]

end Held

/-- A resolver passes a task on exactly when it is not to be resolved any more. -/
theorem orderly_passOn (orderly : p.Orderly) {k i : Nat}
    (busy : p.resolving.workers[k]? = some (.busy i)) {run : Run} {stage : Stage}
    (stages : ∀ j, run.stage? j = if i = j then some stage else p.run.stage? j) :
    (({ p with run := run } : Pool).passOn k i).Orderly := by
  have phase : p.phase = .resolving := resolving_open orderly busy (by simp)
  obtain ⟨old, found, resolving⟩ := (orderly.toResolve i).mp (mem_held_of_busy busy)
  have notYet : i ∉ p.packaging.held := by
    intro held
    obtain ⟨same, found', packaging⟩ := (orderly.toPackage i).mp held
    rw [found] at found'
    cases found'
    rw [not_packaging resolving] at packaging
    cases packaging
  have own : run.stage? i = some stage := by rw [stages, if_pos rfl]
  unfold Pool.passOn
  rw [show ({ p with run := run } : Pool).run.stage? i = some stage from own]
  cases again : stage.isResolving with
  | true =>
      dsimp only
      rw [if_pos again]
      exact
        { orderly with
          toResolve := held_kept orderly.toResolve stages found (again.trans resolving.symm)
          toPackage := held_kept orderly.toPackage stages found
            ((not_packaging again).trans (not_packaging resolving).symm) }
  | false =>
      obtain ⟨gone, once⟩ := leave_nodup orderly.resolvingOnce busy
      dsimp only
      rw [if_neg (by simp [again])]
      obtain ⟨counted, once', put⟩ := putIf_facts stage.isPackaging orderly.packagingCounted
        orderly.packagingOnce notYet
      exact
        { resolvingCounted := leave_counted orderly.resolvingCounted busy
          packagingCounted := counted
          resolvingOnce := once
          packagingOnce := once'
          toResolve := held_left orderly.toResolve stages (leave_held busy) gone again
          toPackage := held_put orderly.toPackage stages put notYet
          resolved := fun other => absurd phase other
          packaged := fun returned => by rw [phase] at returned; cases returned }

/-- A packager releases a task exactly when it is not to be packaged any more. -/
theorem orderly_release (orderly : p.Orderly) {k i : Nat}
    (busy : p.packaging.workers[k]? = some (.busy i)) {run : Run} {stage : Stage}
    (stages : ∀ j, run.stage? j = if i = j then some stage else p.run.stage? j)
    (forward : stage.isResolving = false) :
    (({ p with run := run } : Pool).release k i).Orderly := by
  have waits : p.phase ≠ .returned := packaging_open orderly busy (by simp)
  obtain ⟨old, found, packaging⟩ := (orderly.toPackage i).mp (mem_held_of_busy busy)
  have notAgain : old.isResolving = false := by
    cases resolving : old.isResolving with
    | false => rfl
    | true => rw [not_packaging resolving] at packaging; cases packaging
  have toResolve := held_kept orderly.toResolve stages found (forward.trans notAgain.symm)
  have own : run.stage? i = some stage := by rw [stages, if_pos rfl]
  unfold Pool.release
  rw [show ({ p with run := run } : Pool).run.stage? i = some stage from own]
  cases still : stage.isPackaging with
  | true =>
      dsimp only
      rw [if_pos still]
      exact
        { orderly with
          toResolve := toResolve
          toPackage := held_kept orderly.toPackage stages found (still.trans packaging.symm) }
  | false =>
      obtain ⟨gone, once⟩ := leave_nodup orderly.packagingOnce busy
      dsimp only
      rw [if_neg (by simp [still])]
      exact
        { orderly with
          packagingCounted := leave_counted orderly.packagingCounted busy
          packagingOnce := once
          toResolve := toResolve
          toPackage := held_left orderly.toPackage stages (leave_held busy) gone still
          packaged := fun returned => absurd returned waits }

theorem orderly_resolver (orderly : p.Orderly) (k : Nat) (w : World) :
    ((p.resolver plan k).run w).1.Orderly := by
  unfold Pool.resolver
  cases found : p.resolving.workers[k]? with
  | none => exact orderly
  | some worker =>
      cases worker with
      | idle =>
          have same : (p.resolving.take k).unfinished = p.resolving.unfinished := by
            unfold Line.take
            split <;> rfl
          exact orderly_lines orderly (take_counted orderly.resolvingCounted found)
            orderly.packagingCounted (take_held found) (.refl _)
            (fun other => same.trans (orderly.resolved other)) orderly.packaged
      | busy i =>
          obtain ⟨old, own, -⟩ := (orderly.toResolve i).mp (mem_held_of_busy found)
          obtain ⟨stage, stages, -⟩ := advance_stage plan own w
          exact orderly_passOn orderly found stages
      | leaving i =>
          exact orderly_lines orderly (mark_counted orderly.resolvingCounted found)
            orderly.packagingCounted (mark_held found) (.refl _)
            (fun other => absurd (resolving_open orderly found (by simp)) other) orderly.packaged

theorem orderly_packager (orderly : p.Orderly) (k : Nat) (w : World) :
    ((p.packager plan k).run w).1.Orderly := by
  unfold Pool.packager
  cases found : p.packaging.workers[k]? with
  | none => exact orderly
  | some worker =>
      cases worker with
      | idle =>
          have same : (p.packaging.take k).unfinished = p.packaging.unfinished := by
            unfold Line.take
            split <;> rfl
          exact orderly_lines orderly orderly.resolvingCounted
            (take_counted orderly.packagingCounted found) (.refl _) (take_held found)
            orderly.resolved (fun returned => same.trans (orderly.packaged returned))
      | busy i =>
          obtain ⟨old, own, packaging⟩ := (orderly.toPackage i).mp (mem_held_of_busy found)
          obtain ⟨stage, stages, forward⟩ := advance_stage plan own w
          exact orderly_release orderly found stages (forward packaging)
      | leaving i =>
          exact orderly_lines orderly orderly.resolvingCounted
            (mark_counted orderly.packagingCounted found) (.refl _) (mark_held found)
            orderly.resolved
            (fun returned => absurd returned (packaging_open orderly found (by simp)))

/-- Whoever's turn it is, a pool stays in order. -/
theorem orderly_advance (orderly : p.Orderly) (turn : Turn) (w : World) :
    ((p.advance plan turn).run w).1.Orderly := by
  unfold Pool.advance
  split
  · exact orderly
  · cases turn with
    | resolver k => exact orderly_resolver orderly k w
    | packager k => exact orderly_packager orderly k w
    | main => exact orderly_main orderly

end Step

/-! ## The run in a pool -/

section Run

variable {plan : Plan} {p : Pool}

theorem passOn_run (k i : Nat) : (p.passOn k i).run = p.run := by
  unfold Pool.passOn
  split
  · split <;> rfl
  · rfl

theorem release_run (k i : Nat) : (p.release k i).run = p.run := by
  unfold Pool.release
  split
  · split <;> rfl
  · rfl

/-- In a step of a pool its run makes a step too, or nothing happens to it. -/
theorem advance_run (plan : Plan) (p : Pool) (turn : Turn) (w : World) :
    (((p.advance plan turn).run w).1.run = p.run ∧ ((p.advance plan turn).run w).2 = w) ∨
      ∃ i, ((p.advance plan turn).run w).1.run = ((p.run.advance plan i).run w).1 ∧
        ((p.advance plan turn).run w).2 = ((p.run.advance plan i).run w).2 := by
  unfold Pool.advance
  split
  · exact .inl ⟨rfl, rfl⟩
  · cases turn with
    | resolver k =>
        dsimp only
        unfold Pool.resolver
        split
        · exact .inl ⟨rfl, rfl⟩
        · exact .inl ⟨rfl, rfl⟩
        · next i _ => exact .inr ⟨i, passOn_run k i, rfl⟩
        · exact .inl ⟨rfl, rfl⟩
    | packager k =>
        dsimp only
        unfold Pool.packager
        split
        · exact .inl ⟨rfl, rfl⟩
        · exact .inl ⟨rfl, rfl⟩
        · next i _ => exact .inr ⟨i, release_run k i, rfl⟩
        · exact .inl ⟨rfl, rfl⟩
    | main =>
        refine .inl ⟨?_, rfl⟩
        show p.main.run = p.run
        unfold Pool.main
        split
        · split <;> rfl
        · split <;> rfl
        · rfl

/-- What every step of a run keeps lasts while a pool follows a schedule. -/
theorem follow_invariant {I : Run → World → Prop}
    (keeps : ∀ r w i, I r w → I ((r.advance plan i).run w).1 ((r.advance plan i).run w).2) :
    ∀ (schedule : List Turn) (p : Pool) (w : World), I p.run w →
      I ((Pool.follow plan schedule p).run w).1.run ((Pool.follow plan schedule p).run w).2
  | [], _, _, holds => holds
  | turn :: schedule, p, w, holds => by
      refine follow_invariant keeps schedule ((p.advance plan turn).run w).1
        ((p.advance plan turn).run w).2 ?_
      rcases advance_run plan p turn w with ⟨same, still⟩ | ⟨i, run, world⟩
      · rwa [same, still]
      · rw [run, world]
        exact keeps p.run w i holds

theorem follow_reaches (plan : Plan) :
    ∀ (schedule : List Turn) (p : Pool) (w : World),
      ReflTransGen (Pool.Step plan) p ((Pool.follow plan schedule p).run w).1
  | [], _, _ => .refl
  | turn :: schedule, p, w =>
      .head ⟨turn, w, rfl⟩ (follow_reaches plan schedule ((p.advance plan turn).run w).1 _)

theorem orderly_reached {m n : Nat}
    (reached : ReflTransGen (Pool.Step plan) (.start plan.specification m n) p) : p.Orderly := by
  induction reached with
  | refl => exact orderly_start _ m n
  | tail _ step ih =>
      obtain ⟨turn, w, rfl⟩ := step
      exact orderly_advance ih turn w

theorem told_reached {answers : Answers} (within : ∀ w, (plan.answersIn w).Within answers)
    {m n : Nat} (reached : ReflTransGen (Pool.Step plan) (.start plan.specification m n) p) :
    ∃ parts arrival, p.run.Told plan answers parts arrival := by
  induction reached with
  | refl => exact ⟨_, _, told_start plan answers⟩
  | @tail p' _ _ step ih =>
      obtain ⟨turn, w, rfl⟩ := step
      obtain ⟨parts, arrival, told⟩ := ih
      rcases advance_run plan p' turn w with ⟨same, -⟩ | ⟨i, run, -⟩
      · rw [same]
        exact ⟨parts, arrival, told⟩
      · obtain ⟨parts', more, told', -⟩ := told_advance told i w
          fun _ _ _ _ step => step_within (within w) step
        rw [run]
        exact ⟨parts', arrival ++ more, told'⟩

end Run

/-! ## When the run returns -/

namespace Stage

/-- A fault ended the way of the artifact before it was resolved. -/
def isLost : Stage → Bool
  | ended .lost => true
  | _ => false

/-- A fault or a failure ended the way of the artifact after it was resolved. -/
def isDropped : Stage → Bool
  | ended .dropped => true
  | _ => false

theorem ended_of_neither {stage : Stage} (resolved : stage.isResolving = false)
    (packaged : stage.isPackaging = false) : ∃ fate, stage = .ended fate := by
  cases stage with
  | ended fate => exact ⟨fate, rfl⟩
  | listed | named _ => cases resolved
  | resolved _ | opening _ | inspecting _ _ => cases packaged

end Stage

/-- Every task of a pool has come to one end, and the progress accounts for each of them. -/
structure Pool.Accounts (plan : Plan) (p : Pool) : Prop where
  /-- No task waits, and no worker has one. -/
  nothingOpen : (p.resolving.waiting = [] ∧ ∀ w ∈ p.resolving.workers, w = .idle) ∧
    p.packaging.waiting = [] ∧ ∀ w ∈ p.packaging.workers, w = .idle
  /-- The tasks are the declared artifacts. -/
  artifacts : p.run.tasks.map (fun t => (t.key, t.config)) = plan.specification.artifacts
  ended : ∀ t ∈ p.run.tasks, ∃ fate, t.stage = .ended fate
  unresolved : p.run.progress.unresolved.Perm (p.run.tasks.filterMap fun t => t.stage.failure?)
  declared : p.run.progress.declared.Perm (p.run.tasks.filterMap fun t => t.stage.declaration?)
  taskCount : plan.specification.artifacts.length
    = (p.run.tasks.countP fun t => t.stage.isLost) + p.run.progress.unresolved.length
      + p.run.progress.resolvedCount
  resolvedCount : p.run.progress.resolvedCount
    = (p.run.tasks.countP fun t => t.stage.isDropped) + p.run.progress.declared.length
  slugs : ∀ e ∈ plan.specification.artifacts, ∀ c, Coordinate.ofString? e.1 = some c →
    c.slug ∈ p.run.progress.declaredSlugs
  failed : p.run.progress.declared.length < plan.specification.artifacts.length →
    p.run.progress.failed = true

theorem ended_counts :
    ∀ tasks : List Task, (∀ t ∈ tasks, ∃ fate, t.stage = .ended fate) →
      tasks.length = (tasks.countP fun t => t.stage.isLost)
          + (tasks.filterMap fun t => t.stage.failure?).length
          + (tasks.countP fun t => t.stage.isCounted) ∧
        (tasks.countP fun t => t.stage.isCounted) = (tasks.countP fun t => t.stage.isDropped)
          + (tasks.filterMap fun t => t.stage.declaration?).length
  | [], _ => ⟨rfl, rfl⟩
  | t :: tasks, ended => by
      obtain ⟨all, counted⟩ := ended_counts tasks
        fun t' later => ended t' (List.mem_cons_of_mem t later)
      obtain ⟨fate, stage⟩ := ended t List.mem_cons_self
      simp only [List.countP_cons, List.filterMap_cons, List.length_cons, stage]
      generalize (tasks.countP fun t => t.stage.isLost) = lost at all ⊢
      generalize (tasks.countP fun t => t.stage.isCounted) = taken at all counted ⊢
      generalize (tasks.countP fun t => t.stage.isDropped) = dropped at counted ⊢
      generalize (tasks.filterMap fun t => t.stage.failure?) = failures at all ⊢
      generalize (tasks.filterMap fun t => t.stage.declaration?) = declarations at counted ⊢
      cases fate <;> simp [Stage.isLost, Stage.failure?, Stage.isCounted, Stage.isDropped,
        Stage.declaration?] <;> omega

/-- A task that has no declaration in the end has failed. -/
theorem ended_failed :
    ∀ tasks : List Task, (∀ t ∈ tasks, ∃ fate, t.stage = .ended fate) →
      (tasks.filterMap fun t => t.stage.declaration?).length < tasks.length →
        ∃ t ∈ tasks, t.stage.isFailed = true
  | [], _, less => absurd less (Nat.lt_irrefl 0)
  | t :: tasks, ended, less => by
      obtain ⟨fate, stage⟩ := ended t List.mem_cons_self
      cases fate with
      | declared path d =>
          have rest : (tasks.filterMap fun t => t.stage.declaration?).length < tasks.length := by
            simpa [List.filterMap_cons, stage, Stage.declaration?] using less
          obtain ⟨t', later, failed⟩ := ended_failed tasks
            (fun t' later => ended t' (List.mem_cons_of_mem t later)) rest
          exact ⟨t', List.mem_cons_of_mem t later, failed⟩
      | _ => exact ⟨t, List.mem_cons_self, by rw [stage]; rfl⟩

/-- The run that waits for the first line and then for the second finds both done when it
returns: every task has come to an end. -/
theorem ended_returned {p : Pool} (orderly : p.Orderly) (returned : p.phase = .returned) :
    p.run.Done := by
  intro t listed
  have resolving : p.resolving.held = [] :=
    held_none orderly.resolvingCounted (orderly.resolved (by rw [returned]; simp))
  have packaging : p.packaging.held = [] :=
    held_none orderly.packagingCounted (orderly.packaged returned)
  obtain ⟨i, found⟩ := List.mem_iff_getElem?.mp listed
  have stage : p.run.stage? i = some t.stage := by rw [Run.stage?, found]; rfl
  refine Stage.ended_of_neither ?_ ?_
  · cases still : t.stage.isResolving with
    | false => rfl
    | true =>
        have held := (orderly.toResolve i).mpr ⟨t.stage, stage, still⟩
        rw [resolving] at held
        cases held
  · cases still : t.stage.isPackaging with
    | false => rfl
    | true =>
        have held := (orderly.toPackage i).mpr ⟨t.stage, stage, still⟩
        rw [packaging] at held
        cases held

/-- With any number of workers in each line, whoever's turn it is and whatever the resolver and
the files answer: when the run returns, no task is lost or done twice. -/
theorem returned_accounts (plan : Plan) (m n : Nat) (p : Pool)
    (reached : ReflTransGen (Pool.Step plan) (.start plan.specification m n) p)
    (returned : p.phase = .returned) : p.Accounts plan := by
  have orderly := orderly_reached reached
  obtain ⟨parts, arrival, told⟩ := told_reached (fun w => within_any _) reached
  have artifacts : p.run.tasks.map (fun t => (t.key, t.config)) = plan.specification.artifacts := by
    rw [← told.artifacts, told.tasks, List.map_map]
    rfl
  have length : p.run.tasks.length = plan.specification.artifacts.length := by
    rw [← artifacts, List.length_map]
  have ended := ended_returned orderly returned
  have unresolved := told_unresolved told
  have declared := told_declared told
  obtain ⟨all, counted⟩ := ended_counts p.run.tasks ended
  exact
    { nothingOpen :=
        ⟨counted_none orderly.resolvingCounted (orderly.resolved (by rw [returned]; simp)),
          counted_none orderly.packagingCounted (orderly.packaged returned)⟩
      artifacts := artifacts
      ended := ended
      unresolved := unresolved
      declared := declared
      taskCount := by
        rw [unresolved.length_eq, told_resolvedCount told, ← length, all]
      resolvedCount := by
        rw [declared.length_eq, told_resolvedCount told, counted]
      slugs := by
        intro e listed c parsed
        rw [← artifacts] at listed
        obtain ⟨t, member, rfl⟩ := List.mem_map.mp listed
        obtain ⟨fate, stage⟩ := ended t member
        exact told_slug told member parsed (by rw [stage]; simp)
      failed := by
        intro less
        rw [declared.length_eq, ← length] at less
        obtain ⟨t, member, failed⟩ := ended_failed p.run.tasks ended less
        exact told_failed told member failed }

/-! ### Two artifacts, of which one cannot be resolved -/

namespace Pair

def config : ArtifactConfig := ⟨.null, true, .null, false, [], [], []⟩

def specification : Specification :=
  ⟨.str "maven", [("g:a:1", config), ("g:b:1", config)], .obj [], false, [], [], [],
    .str "rules", false, false⟩

def failure (c : Coordinate) : ResolutionFailure := ⟨c.text, .notFound, "", none, none, []⟩

def plan : Plan where
  specification := specification
  workspace := ⟨.here, ["w"]⟩
  resolver :=
    { resolve := fun c =>
        return if c.artifact = "b" then .error (failure c) else .ok ⟨c, "jar", []⟩
      download := fun _ => return { outcome := .notFound } }

def world : World := ⟨.empty [], ⟨[]⟩, [], ⟨0, []⟩, ⟨[]⟩, "0"⟩

/-- Two resolvers and a packager take turns, and the first artifact is packaged before the second
one is resolved. -/
def schedule : List Turn :=
  [.resolver 1, .resolver 0, .resolver 1, .resolver 1, .packager 0, .packager 0, .main,
    .resolver 0, .packager 0, .resolver 0, .resolver 1, .resolver 0, .main, .packager 0, .main]

def pool : Pool := ((Pool.follow plan schedule (.start specification 2 1)).run world).1

end Pair

theorem pair_accounts : Pair.pool.phase = .returned ∧ Pair.pool.Accounts Pair.plan := by
  have returned : Pair.pool.phase = .returned := by decide +kernel
  exact ⟨returned, returned_accounts Pair.plan 2 1 Pair.pool
    (follow_reaches Pair.plan Pair.schedule _ Pair.world) returned⟩

end MavenImport
