/-
# Proofs.PoolEnds -- a pool can be brought to its end

With any number of workers in each line, a turn leaves a pool and its world as they are, or it
brings the pool nearer to its end (`advance_nearer`).  The measure prices what is still to be done:
a step of a task pays for its being put in the second line, taken, left and marked there.  While the
run waits, somebody has a step to make (`turn_left`).  So a schedule makes only so many steps, and
whatever was done by a schedule so far, it can be continued until the pool returns
(`schedule_returns`).
-/
import MavenImport.Generate.Run
import MavenImport.Proofs.TurnEnds

namespace MavenImport

set_option autoImplicit false

/-! ## What is still to be done -/

/-- How many steps a task makes at most until its end. -/
def Stage.left : Stage → Nat
  | listed => 5
  | named _ => 4
  | resolved _ => 3
  | opening _ => 2
  | inspecting _ _ => 1
  | ended _ => 0

def Run.left (r : Run) : Nat := (r.tasks.map fun t => t.stage.left).sum

/-- A worker leaves its task, and marks it. -/
def Worker.left : Worker → Nat
  | busy _ => 2
  | leaving _ => 1
  | idle => 0

/-- A task that waits is taken, left and marked. -/
def Line.left (l : Line) : Nat := 3 * l.waiting.length + (l.workers.map Worker.left).sum

def Phase.left : Phase → Nat
  | resolving => 2
  | packaging => 1
  | returned => 0

def Pool.left (p : Pool) : Nat :=
  4 * p.run.left + p.resolving.left + p.packaging.left + p.phase.left

/-- Each line has a worker. -/
structure Pool.Served (p : Pool) : Prop where
  resolving : 0 < p.resolving.workers.length
  packaging : 0 < p.packaging.workers.length

theorem sum_set {α : Type} (f : α → Nat) {x : α} (y : α) :
    ∀ {l : List α} {i : Nat}, l[i]? = some x →
      ((l.set i y).map f).sum + f x = (l.map f).sum + f y
  | z :: l, 0, found => by
      obtain rfl : z = x := by simpa using found
      simp only [List.set_cons_zero, List.map_cons, List.sum_cons]
      omega
  | z :: l, i + 1, found => by
      have rest := sum_set f y (l := l) (i := i) (by simpa using found)
      simp only [List.set_cons_succ, List.map_cons, List.sum_cons]
      omega

/-! ## Steps of a task -/

section Steps

variable {plan : Plan} {answers : Answers} {key : String} {config : ArtifactConfig}
  {stage stage' : Stage} {notes : List Note}

theorem left_open : 0 < stage.left ↔ stage.isResolving = true ∨ stage.isPackaging = true := by
  cases stage <;> simp [Stage.left, Stage.isResolving, Stage.isPackaging]

theorem step_nearer (step : Task.Step plan answers key config stage notes stage')
    (unended : 0 < stage.left) : stage'.left < stage.left := by
  have ends : ∀ resolution, (plan.finishStage resolution).left = 0 := by
    intro resolution
    unfold Plan.finishStage
    cases plan.labels resolution <;> rfl
  cases step with
  | library _ | file _ _ | inspected _ =>
      rw [ends]
      exact unended
  | rested => exact absurd unended (Nat.lt_irrefl 0)
  | _ => simp [Stage.left]

variable (plan) in
/-- A step of a task that has not ended brings the whole run nearer to its end. -/
theorem run_nearer {r : Run} {i : Nat} (found : r.stage? i = some stage)
    (unended : 0 < stage.left) (w : World) : ((r.advance plan i).run w).1.left < r.left := by
  obtain ⟨t, task, rfl⟩ := Option.map_eq_some_iff.mp found
  obtain ⟨more, after, step, left, -⟩ := run_advance_explained plan task w
  have nearer := step_nearer step unended
  have sums := sum_set (fun t => t.stage.left) { t with stage := after } task
  rw [left]
  unfold Run.left
  dsimp only at sums ⊢
  omega

end Steps

/-! ## Steps of a line -/

section Lines

variable {l : Line} {k i : Nat}

theorem take_left {rest : List Nat} (idle : l.workers[k]? = some .idle)
    (waiting : l.waiting = i :: rest) : (l.take k).left < l.left := by
  have sums := sum_set Worker.left (.busy i) idle
  unfold Line.take Line.left
  rw [waiting]
  simp only [Worker.left, List.length_cons] at sums ⊢
  omega

theorem leave_left (busy : l.workers[k]? = some (.busy i)) : (l.leave k i).left < l.left := by
  have sums := sum_set Worker.left (.leaving i) busy
  unfold Line.leave Line.left
  simp only [Worker.left] at sums ⊢
  omega

theorem mark_left (leaving : l.workers[k]? = some (.leaving i)) : (l.mark k).left < l.left := by
  have sums := sum_set Worker.left .idle leaving
  unfold Line.mark Line.left
  simp only [Worker.left] at sums ⊢
  omega

theorem put_left : (l.put i).left = l.left + 3 := by
  unfold Line.put Line.left
  simp only [List.length_append, List.length_singleton]
  omega

/-- In a line that is not done a task waits for an idle worker, or a worker is not idle. -/
theorem line_open (counted : l.Counted) (undone : l.unfinished ≠ 0)
    (served : 0 < l.workers.length) :
    ∃ (k : Nat) (x : Worker), l.workers[k]? = some x ∧ ¬ (x = .idle ∧ l.waiting = []) := by
  by_cases none : l.waiting = []
  · have working : 0 < l.workers.countP Worker.isOpen := by
      rw [counted, none] at undone
      exact Nat.pos_of_ne_zero (by simpa using undone)
    obtain ⟨x, listed, notIdle⟩ := List.countP_pos_iff.mp working
    obtain ⟨k, found⟩ := List.mem_iff_getElem?.mp listed
    exact ⟨k, x, found, fun idle => absurd idle.1 (by simpa [Worker.isOpen] using notIdle)⟩
  · exact ⟨0, l.workers[0], List.getElem?_eq_getElem served, fun idle => none idle.2⟩

end Lines

/-! ## Steps of a pool -/

section Pools

variable {plan : Plan} {p : Pool} {k i : Nat} {x : Worker}

theorem passOn_left (busy : p.resolving.workers[k]? = some (.busy i)) :
    (p.passOn k i).left ≤ p.left + 3 := by
  have leaves := leave_left busy
  unfold Pool.passOn
  split
  · split
    · exact Nat.le_add_right _ _
    · unfold Pool.left
      dsimp only
      split
      · rw [put_left]
        omega
      · omega
  · exact Nat.le_add_right _ _

theorem release_left (busy : p.packaging.workers[k]? = some (.busy i)) :
    (p.release k i).left ≤ p.left := by
  have leaves := leave_left busy
  unfold Pool.release
  split
  · split
    · exact Nat.le_refl _
    · unfold Pool.left
      dsimp only
      omega
  · exact Nat.le_refl _

variable (plan) in
/-- A resolver that has something to do brings the pool nearer to its end. -/
theorem resolver_nearer (orderly : p.Orderly) (found : p.resolving.workers[k]? = some x)
    (w : World) : (x = .idle ∧ p.resolving.waiting = []) ∧ (p.resolver plan k).run w = (p, w) ∨
      ((p.resolver plan k).run w).1.left < p.left := by
  unfold Pool.resolver
  rw [found]
  cases x with
  | idle =>
      cases waiting : p.resolving.waiting with
      | nil =>
          refine .inl ⟨⟨rfl, rfl⟩, ?_⟩
          have still : p.resolving.take k = p.resolving := by rw [Line.take, waiting]
          dsimp only
          rw [still]
          rfl
      | cons i rest =>
          have taken := take_left found waiting
          refine .inr (Nat.add_lt_add_right (Nat.add_lt_add_right ?_ _) _)
          exact Nat.add_lt_add_left taken _
  | leaving i =>
      have marked := mark_left found
      refine .inr (Nat.add_lt_add_right (Nat.add_lt_add_right ?_ _) _)
      exact Nat.add_lt_add_left marked _
  | busy i =>
      obtain ⟨stage, own, resolving⟩ := (orderly.toResolve i).mp (mem_held_of_busy found)
      have nearer := run_nearer plan own (left_open.mpr (.inl resolving)) w
      have passed := passOn_left (p := { p with run := ((p.run.advance plan i).run w).1 }) found
      right
      show (({ p with run := ((p.run.advance plan i).run w).1 } : Pool).passOn k i).left < p.left
      unfold Pool.left at passed ⊢
      dsimp only at passed
      omega

variable (plan) in
/-- A packager that has something to do brings the pool nearer to its end. -/
theorem packager_nearer (orderly : p.Orderly) (found : p.packaging.workers[k]? = some x)
    (w : World) : (x = .idle ∧ p.packaging.waiting = []) ∧ (p.packager plan k).run w = (p, w) ∨
      ((p.packager plan k).run w).1.left < p.left := by
  unfold Pool.packager
  rw [found]
  cases x with
  | idle =>
      cases waiting : p.packaging.waiting with
      | nil =>
          refine .inl ⟨⟨rfl, rfl⟩, ?_⟩
          have still : p.packaging.take k = p.packaging := by rw [Line.take, waiting]
          dsimp only
          rw [still]
          rfl
      | cons i rest =>
          have taken := take_left found waiting
          exact .inr (Nat.add_lt_add_right (Nat.add_lt_add_left taken _) _)
  | leaving i =>
      have marked := mark_left found
      exact .inr (Nat.add_lt_add_right (Nat.add_lt_add_left marked _) _)
  | busy i =>
      obtain ⟨stage, own, packaging⟩ := (orderly.toPackage i).mp (mem_held_of_busy found)
      have nearer := run_nearer plan own (left_open.mpr (.inr packaging)) w
      have passed := release_left (p := { p with run := ((p.run.advance plan i).run w).1 }) found
      right
      show (({ p with run := ((p.run.advance plan i).run w).1 } : Pool).release k i).left < p.left
      unfold Pool.left at passed ⊢
      dsimp only at passed
      omega

theorem main_nearer : p.main = p ∨ p.main.left < p.left := by
  have moves : ∀ phase : Phase, phase.left < p.phase.left →
      ({ p with phase := phase } : Pool).left < p.left := fun _ less => Nat.add_lt_add_left less _
  unfold Pool.main
  split
  · next waits =>
      split
      · exact .inr (moves .packaging (by rw [waits]; decide))
      · exact .inl rfl
  · next waits =>
      split
      · exact .inr (moves .returned (by rw [waits]; decide))
      · exact .inl rfl
  · exact .inl rfl

variable (plan) in
/-- Whoever's turn it is: nothing happens, or the pool is nearer to its end. -/
theorem advance_nearer (orderly : p.Orderly) (turn : Turn) (w : World) :
    (p.advance plan turn).run w = (p, w) ∨ ((p.advance plan turn).run w).1.left < p.left := by
  unfold Pool.advance
  split
  · exact .inl rfl
  · cases turn with
    | resolver k =>
        dsimp only
        cases found : p.resolving.workers[k]? with
        | none =>
            unfold Pool.resolver
            rw [found]
            exact .inl rfl
        | some x => exact (resolver_nearer plan orderly found w).imp And.right id
    | packager k =>
        dsimp only
        cases found : p.packaging.workers[k]? with
        | none =>
            unfold Pool.packager
            rw [found]
            exact .inl rfl
        | some x => exact (packager_nearer plan orderly found w).imp And.right id
    | main => exact main_nearer.imp (fun still => by rw [still]; rfl) id

variable (plan) in
/-- While the run waits, there is a turn that brings the pool nearer to its end. -/
theorem turn_left (orderly : p.Orderly) (served : p.Served) (waits : p.phase ≠ .returned)
    (w : World) : ∃ turn, ((p.advance plan turn).run w).1.left < p.left := by
  have goes : ∀ (turn : Turn) {q : Effect Pool}, p.advance plan turn = q →
      (q.run w).1.left < p.left → ∃ turn, ((p.advance plan turn).run w).1.left < p.left :=
    fun turn _ same less => ⟨turn, same ▸ less⟩
  cases phase : p.phase with
  | returned => exact absurd phase waits
  | resolving =>
      by_cases done : p.resolving.unfinished = 0
      · refine goes .main (if_neg waits) ?_
        show p.main.left < p.left
        rw [Pool.main, phase]
        dsimp only
        rw [if_pos done]
        exact Nat.add_lt_add_left (by rw [phase]; exact Nat.lt_succ_self _) _
      · obtain ⟨k, x, found, active⟩ := line_open orderly.resolvingCounted done served.resolving
        rcases resolver_nearer plan orderly found w with ⟨still, -⟩ | nearer
        · exact absurd still active
        · exact goes (.resolver k) (if_neg waits) nearer
  | packaging =>
      by_cases done : p.packaging.unfinished = 0
      · refine goes .main (if_neg waits) ?_
        show p.main.left < p.left
        rw [Pool.main, phase]
        dsimp only
        rw [if_pos done]
        exact Nat.add_lt_add_left (by rw [phase]; exact Nat.lt_succ_self _) _
      · obtain ⟨k, x, found, active⟩ := line_open orderly.packagingCounted done served.packaging
        rcases packager_nearer plan orderly found w with ⟨still, -⟩ | nearer
        · exact absurd still active
        · exact goes (.packager k) (if_neg waits) nearer

/-! ## Schedules -/

theorem take_workers (l : Line) (k : Nat) : (l.take k).workers.length = l.workers.length := by
  unfold Line.take
  split
  · rfl
  · exact List.length_set

theorem passOn_served (served : p.Served) (k i : Nat) : (p.passOn k i).Served := by
  unfold Pool.passOn
  split
  · split
    · exact served
    · refine ⟨?_, ?_⟩ <;> dsimp only
      · rw [Line.leave, List.length_set]
        exact served.resolving
      · split <;> exact served.packaging
  · exact served

theorem release_served (served : p.Served) (k i : Nat) : (p.release k i).Served := by
  unfold Pool.release
  split
  · split
    · exact served
    · refine ⟨served.resolving, ?_⟩
      dsimp only
      rw [Line.leave, List.length_set]
      exact served.packaging
  · exact served

/-- Each line keeps its workers. -/
theorem served_advance (served : p.Served) (turn : Turn) (w : World) :
    ((p.advance plan turn).run w).1.Served := by
  unfold Pool.advance
  split
  · exact served
  · cases turn with
    | resolver k =>
        dsimp only
        unfold Pool.resolver
        split
        · exact served
        · exact ⟨(take_workers _ k).symm ▸ served.resolving, served.packaging⟩
        · next i _ =>
            exact passOn_served (p := { p with run := ((p.run.advance plan i).run w).1 })
              ⟨served.resolving, served.packaging⟩ k i
        · exact ⟨List.length_set.symm ▸ served.resolving, served.packaging⟩
    | packager k =>
        dsimp only
        unfold Pool.packager
        split
        · exact served
        · exact ⟨served.resolving, (take_workers _ k).symm ▸ served.packaging⟩
        · next i _ =>
            exact release_served (p := { p with run := ((p.run.advance plan i).run w).1 })
              ⟨served.resolving, served.packaging⟩ k i
        · exact ⟨served.resolving, List.length_set.symm ▸ served.packaging⟩
    | main =>
        show p.main.Served
        unfold Pool.main
        split
        · split <;> exact ⟨served.resolving, served.packaging⟩
        · split <;> exact ⟨served.resolving, served.packaging⟩
        · exact served

variable (plan) in
/-- What a schedule keeps, and that it leads nowhere away from the end. -/
theorem follow_nearer :
    ∀ (turns : List Turn) (p : Pool) (w : World), p.Orderly → p.Served →
      ((Pool.follow plan turns p).run w).1.Orderly ∧ ((Pool.follow plan turns p).run w).1.Served ∧
        ((Pool.follow plan turns p).run w).1.left ≤ p.left
  | [], _, _, orderly, served => ⟨orderly, served, Nat.le_refl _⟩
  | turn :: turns, p, w, orderly, served => by
      obtain ⟨orderly', served', later⟩ := follow_nearer turns ((p.advance plan turn).run w).1
        ((p.advance plan turn).run w).2 (orderly_advance orderly turn w)
        (served_advance served turn w)
      refine ⟨orderly', served', Nat.le_trans later ?_⟩
      rcases advance_nearer plan orderly turn w with still | nearer
      · exact Nat.le_of_eq (by rw [still])
      · exact Nat.le_of_lt nearer

variable (plan) in
/-- A pool returns after no more turns than its measure says, if they are chosen well. -/
theorem follow_returns :
    ∀ (n : Nat) (p : Pool) (w : World), p.Orderly → p.Served → p.left ≤ n →
      ∃ turns, turns.length ≤ n ∧ ((Pool.follow plan turns p).run w).1.phase = .returned
  | n, p, w, orderly, served, less => by
      by_cases waits : p.phase = .returned
      · exact ⟨[], Nat.zero_le n, waits⟩
      obtain ⟨turn, nearer⟩ := turn_left plan orderly served waits w
      cases n with
      | zero => omega
      | succ n =>
          obtain ⟨turns, few, returned⟩ := follow_returns n ((p.advance plan turn).run w).1
            ((p.advance plan turn).run w).2 (orderly_advance orderly turn w)
            (served_advance served turn w) (by omega)
          exact ⟨turn :: turns, Nat.succ_le_succ few, returned⟩

theorem start_left (spec : Specification) (m n : Nat) :
    (Pool.start spec m n).left = 23 * spec.artifacts.length + 2 := by
  have idle : ∀ n : Nat, ((List.replicate n Worker.idle).map Worker.left).sum = 0 := by
    intro n
    simp [Worker.left]
  have listed : (Run.start spec).left = 5 * spec.artifacts.length := by
    simp [Run.left, Run.start, Function.comp_def, Stage.left, Nat.mul_comm]
  unfold Pool.left Pool.start Line.start Line.left
  dsimp only
  rw [idle, idle, listed, List.length_range, List.length_range]
  simp only [Phase.left]
  omega

theorem start_served (plan : Plan) :
    (Pool.start plan.specification plan.workers plan.workers).Served := by
  have some : 0 < plan.workers := by
    unfold Plan.workers
    omega
  have each : ∀ tasks, 0 < (Line.start tasks plan.workers).workers.length := by
    intro tasks
    rw [Line.start, List.length_replicate]
    exact some
  exact ⟨each _, each _⟩

/-- However a schedule goes, it can be continued until the pool returns. -/
theorem schedule_returns (plan : Plan) (schedule : List Turn) (w : World) :
    ∃ more, more.length ≤ 23 * plan.specification.artifacts.length + 2 ∧
      ((Pool.follow plan (schedule ++ more)
        (.start plan.specification plan.workers plan.workers)).run w).1.phase = .returned := by
  obtain ⟨orderly, served, left⟩ := follow_nearer plan schedule
    (.start plan.specification plan.workers plan.workers) w (orderly_start _ _ _) (start_served plan)
  rw [start_left] at left
  obtain ⟨more, few, returned⟩ := follow_returns plan _ _
    ((Pool.follow plan schedule (.start plan.specification plan.workers plan.workers)).run w).2
    orderly served left
  exact ⟨more, few, by rw [turns_append]; exact returned⟩

end Pools

end MavenImport
