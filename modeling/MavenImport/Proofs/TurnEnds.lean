/-
# Proofs.TurnEnds -- a run in turn comes to its end

A task makes at most two steps to be resolved and three to be packaged (`step_forward`).  So a
line with a single worker has a number of steps before it (`Line.remaining`), and each step of the
worker is one of them.  The turns of `inTurn` are enough for all of them: whatever the resolver
and the files answer, the pool returns (`inTurn_returns`).
-/
import Mathlib.Algebra.GroupWithZero.Nat
import Mathlib.Data.List.Perm.Subperm
import MavenImport.Proofs.TurnOrder

namespace MavenImport

set_option autoImplicit false

/-! ## The steps of a line -/

/-- How many steps a task makes at most until it is resolved. -/
def Stage.toResolve : Stage → Nat
  | listed => 2
  | named _ => 1
  | _ => 0

/-- How many steps a resolved task makes at most until it is packaged. -/
def Stage.toPackage : Stage → Nat
  | resolved _ => 3
  | opening _ => 2
  | inspecting _ _ => 1
  | _ => 0

/-- The measure of the stage that a task of a run has come to. -/
def Run.measure (r : Run) (left : Stage → Nat) (i : Nat) : Nat := ((r.stage? i).map left).getD 0

def Worker.remaining (left : Nat → Nat) : Worker → Nat
  | idle => 0
  | busy i => left i + 1
  | leaving _ => 1

/-- How many steps the workers of a line make at most, if a task takes some number of them beside
being taken and being marked. -/
def Line.remaining (l : Line) (most : Nat) (left : Nat → Nat) : Nat :=
  (most + 2) * l.waiting.length + (l.workers.map (Worker.remaining left)).sum

section Lines

variable {l : Line} {i most : Nat} {left left' : Nat → Nat}

theorem take_remaining (idle : l.workers = [.idle])
    (bounded : ∀ i ∈ l.waiting, left i ≤ most) :
    (l.take 0).remaining most left ≤ l.remaining most left - 1 := by
  unfold Line.remaining Line.take
  cases waiting : l.waiting with
  | nil => simp [waiting, idle, Worker.remaining]
  | cons i rest =>
      have less := bounded i (waiting ▸ List.mem_cons_self)
      simp only [idle, List.set_cons_zero, List.map_cons, List.map_nil, List.sum_cons,
        List.sum_nil, Worker.remaining, List.length_cons, Nat.mul_add]
      omega

theorem busy_remaining (busy : l.workers = [.busy i]) (less : left' i < left i) :
    l.remaining most left' ≤ l.remaining most left - 1 := by
  simp only [Line.remaining, busy, List.map_cons, List.map_nil, List.sum_cons, List.sum_nil,
    Worker.remaining]
  omega

theorem leave_remaining (busy : l.workers = [.busy i]) (some : 0 < left i) :
    (l.leave 0 i).remaining most left' ≤ l.remaining most left - 1 := by
  simp only [Line.remaining, Line.leave, busy, List.set_cons_zero, List.map_cons, List.map_nil,
    List.sum_cons, List.sum_nil, Worker.remaining]
  omega

theorem mark_remaining (leaving : l.workers = [.leaving i]) :
    (l.mark 0).remaining most left ≤ l.remaining most left - 1 := by
  simp only [Line.remaining, Line.mark, leaving, List.set_cons_zero, List.map_cons, List.map_nil,
    List.sum_cons, List.sum_nil, Worker.remaining]
  omega

/-- A worker that is not idle has a step to make. -/
theorem countP_le_remaining : ∀ workers : List Worker,
    workers.countP Worker.isOpen ≤ (workers.map (Worker.remaining left)).sum
  | [] => Nat.le_refl 0
  | x :: workers => by
      have rest := countP_le_remaining workers
      rw [List.countP_cons, List.map_cons, List.sum_cons]
      cases x <;> simp [Worker.isOpen, Worker.remaining] <;> omega

/-- A line is done when no step remains. -/
theorem remaining_none (counted : l.Counted) (none : l.remaining most left = 0) :
    l.unfinished = 0 := by
  obtain ⟨waiting, workers⟩ := Nat.add_eq_zero_iff.mp none
  have idle : l.workers.countP Worker.isOpen ≤ 0 := workers ▸ countP_le_remaining l.workers
  have empty : l.waiting.length = 0 := by
    rcases Nat.mul_eq_zero.mp waiting with zero | zero <;> omega
  rw [counted]
  omega

end Lines

/-! ## The steps of a task -/

section Steps

variable {plan : Plan} {answers : Answers} {key : String} {config : ArtifactConfig}
  {stage stage' : Stage} {notes : List Note}

theorem toResolve_pos : 0 < stage.toResolve ↔ stage.isResolving = true := by
  cases stage <;> simp [Stage.toResolve, Stage.isResolving]

theorem toPackage_pos : 0 < stage.toPackage ↔ stage.isPackaging = true := by
  cases stage <;> simp [Stage.toPackage, Stage.isPackaging]

theorem toResolve_le (stage : Stage) : stage.toResolve ≤ 2 := by
  cases stage <;> simp [Stage.toResolve]

theorem toPackage_le (stage : Stage) : stage.toPackage ≤ 3 := by
  cases stage <;> simp [Stage.toPackage]

/-- Each step of a task in a line brings it nearer to its end there. -/
theorem step_forward (step : Task.Step plan answers key config stage notes stage') :
    (stage.isResolving = true → stage'.toResolve < stage.toResolve) ∧
      (stage.isPackaging = true → stage'.toPackage < stage.toPackage) := by
  have ends : ∀ resolution, (plan.finishStage resolution).toPackage = 0 := by
    intro resolution
    unfold Plan.finishStage
    cases plan.labels resolution <;> rfl
  cases step <;> simp_all [Stage.isResolving, Stage.isPackaging, Stage.toResolve, Stage.toPackage]

end Steps

/-- A step of a run changes the stage of one task, and brings it nearer to its end. -/
theorem advance_forward (plan : Plan) {r : Run} {i : Nat} {stage : Stage}
    (found : r.stage? i = some stage) (w : World) :
    ∃ stage', ((r.advance plan i).run w).1.stage? i = some stage' ∧
      (stage.isResolving = true → stage'.toResolve < stage.toResolve) ∧
      (stage.isPackaging = true → stage'.toPackage < stage.toPackage) := by
  obtain ⟨t, task, rfl⟩ := Option.map_eq_some_iff.mp found
  obtain ⟨more, stage', step, left, -⟩ := run_advance_explained plan task w
  rw [left]
  exact ⟨stage', by rw [stage_set task, if_pos rfl], step_forward step⟩

/-! ## The steps of a pool -/

section Pools

variable {plan : Plan} {p : Pool}

def Pool.toResolve (p : Pool) : Nat := p.resolving.remaining 2 (p.run.measure Stage.toResolve)

def Pool.toPackage (p : Pool) : Nat := p.packaging.remaining 3 (p.run.measure Stage.toPackage)

theorem measure_le {r : Run} {left : Stage → Nat} {most : Nat} (bounded : ∀ s, left s ≤ most)
    (i : Nat) : r.measure left i ≤ most := by
  unfold Run.measure
  cases r.stage? i with
  | none => exact Nat.zero_le _
  | some stage => exact bounded stage

section Busy

variable {r : Run} {i : Nat} {stage stage' : Stage} (own : p.run.stage? i = some stage)
  (own' : r.stage? i = some stage')
include own own'

theorem passOn_forward (busy : p.resolving.workers = [.busy i])
    (resolving : stage.isResolving = true) (less : stage'.toResolve < stage.toResolve) :
    (({ p with run := r } : Pool).passOn 0 i).toResolve ≤ p.toResolve - 1 ∧
      (({ p with run := r } : Pool).passOn 0 i).phase = p.phase ∧
      (({ p with run := r } : Pool).passOn 0 i).packaging.workers = p.packaging.workers := by
  have before : p.run.measure Stage.toResolve i = stage.toResolve := by rw [Run.measure, own]; rfl
  unfold Pool.passOn
  rw [show ({ p with run := r } : Pool).run.stage? i = some stage' from own']
  dsimp only
  split
  · refine ⟨busy_remaining busy ?_, rfl, rfl⟩
    rw [before, Run.measure, own']
    exact less
  · refine ⟨leave_remaining busy (before ▸ toResolve_pos.mpr resolving), rfl, ?_⟩
    dsimp only
    split <;> rfl

theorem release_forward (busy : p.packaging.workers = [.busy i])
    (packaging : stage.isPackaging = true) (less : stage'.toPackage < stage.toPackage) :
    (({ p with run := r } : Pool).release 0 i).toPackage ≤ p.toPackage - 1 ∧
      (({ p with run := r } : Pool).release 0 i).phase = p.phase := by
  have before : p.run.measure Stage.toPackage i = stage.toPackage := by rw [Run.measure, own]; rfl
  unfold Pool.release
  rw [show ({ p with run := r } : Pool).run.stage? i = some stage' from own']
  dsimp only
  split
  · refine ⟨busy_remaining busy ?_, rfl⟩
    rw [before, Run.measure, own']
    exact less
  · exact ⟨leave_remaining busy (before ▸ toPackage_pos.mpr packaging), rfl⟩

end Busy

variable (plan) in
/-- A step of the only resolver is one of those that remain. -/
theorem resolver_forward (orderly : p.Orderly) (single : p.resolving.workers.length = 1)
    (w : World) :
    ((p.resolver plan 0).run w).1.toResolve ≤ p.toResolve - 1 ∧
      ((p.resolver plan 0).run w).1.phase = p.phase ∧
      ((p.resolver plan 0).run w).1.packaging.workers = p.packaging.workers := by
  obtain ⟨x, only⟩ := List.length_eq_one_iff.mp single
  have found : p.resolving.workers[0]? = some x := by rw [only]; rfl
  unfold Pool.resolver
  rw [found]
  cases x with
  | idle => exact ⟨take_remaining only fun i _ => measure_le toResolve_le i, rfl, rfl⟩
  | leaving i => exact ⟨mark_remaining only, rfl, rfl⟩
  | busy i =>
      obtain ⟨stage, own, resolving⟩ := (orderly.toResolve i).mp (mem_held_of_busy found)
      obtain ⟨stage', own', forward, -⟩ := advance_forward plan own w
      exact passOn_forward own own' only resolving (forward resolving)

variable (plan) in
/-- A step of the only packager is one of those that remain. -/
theorem packager_forward (orderly : p.Orderly) (single : p.packaging.workers.length = 1)
    (w : World) :
    ((p.packager plan 0).run w).1.toPackage ≤ p.toPackage - 1 ∧
      ((p.packager plan 0).run w).1.phase = p.phase := by
  obtain ⟨x, only⟩ := List.length_eq_one_iff.mp single
  have found : p.packaging.workers[0]? = some x := by rw [only]; rfl
  unfold Pool.packager
  rw [found]
  cases x with
  | idle => exact ⟨take_remaining only fun i _ => measure_le toPackage_le i, rfl⟩
  | leaving i => exact ⟨mark_remaining only, rfl⟩
  | busy i =>
      obtain ⟨stage, own, packaging⟩ := (orderly.toPackage i).mp (mem_held_of_busy found)
      obtain ⟨stage', own', -, forward⟩ := advance_forward plan own w
      exact release_forward own own' only packaging (forward packaging)

/-! ## All turns -/

theorem turns_append (plan : Plan) :
    ∀ (turns more : List Turn) (p : Pool) (w : World),
      (Pool.follow plan (turns ++ more) p).run w
        = (Pool.follow plan more ((Pool.follow plan turns p).run w).1).run
            ((Pool.follow plan turns p).run w).2
  | [], _, _, _ => rfl
  | turn :: turns, more, p, w =>
      turns_append plan turns more ((p.advance plan turn).run w).1 ((p.advance plan turn).run w).2

theorem turns_cons {turn : Turn} {q : Effect Pool} (step : p.advance plan turn = q) (n : Nat)
    (w : World) : (Pool.follow plan (List.replicate (n + 1) turn) p).run w
      = (Pool.follow plan (List.replicate n turn) (q.run w).1).run (q.run w).2 := by
  rw [List.replicate_succ, ← step]
  rfl

variable (plan) in
/-- Enough turns of the only resolver resolve all that is to be resolved. -/
theorem resolvers_end : ∀ (n : Nat) (p : Pool) (w : World), p.Orderly → p.InTurn →
    p.phase = .resolving → p.toResolve ≤ n →
      ((Pool.follow plan (List.replicate n (.resolver 0)) p).run w).1.resolving.unfinished = 0 ∧
      ((Pool.follow plan (List.replicate n (.resolver 0)) p).run w).1.phase = .resolving ∧
      ((Pool.follow plan (List.replicate n (.resolver 0)) p).run w).1.packaging.workers
        = p.packaging.workers
  | 0, p, w, orderly, _, waits, less =>
      ⟨remaining_none orderly.resolvingCounted (Nat.le_zero.mp less), waits, rfl⟩
  | n + 1, p, w, orderly, inTurn, waits, less => by
      obtain ⟨forward, phase, workers⟩ :=
        resolver_forward plan orderly inTurn.resolver w
      have step : p.advance plan (.resolver 0) = p.resolver plan 0 := by
        rw [Pool.advance, if_neg (by simp [waits])]
      rw [turns_cons step, ← workers]
      exact resolvers_end n _ _ (step ▸ orderly_advance orderly (.resolver 0) w)
        (step ▸ inTurn_advance inTurn (.resolver 0) w) (phase.trans waits) (by omega)

variable (plan) in
/-- Enough turns of the only packager package all that is to be packaged. -/
theorem packagers_end : ∀ (n : Nat) (p : Pool) (w : World), p.Orderly → p.InTurn →
    p.phase = .packaging → p.toPackage ≤ n →
      ((Pool.follow plan (List.replicate n (.packager 0)) p).run w).1.packaging.unfinished = 0 ∧
      ((Pool.follow plan (List.replicate n (.packager 0)) p).run w).1.phase = .packaging
  | 0, p, w, orderly, _, waits, less =>
      ⟨remaining_none orderly.packagingCounted (Nat.le_zero.mp less), waits⟩
  | n + 1, p, w, orderly, inTurn, waits, less => by
      obtain ⟨forward, phase⟩ := packager_forward plan orderly inTurn.packager w
      have step : p.advance plan (.packager 0) = p.packager plan 0 := by
        rw [Pool.advance, if_neg (by simp [waits])]
      rw [turns_cons step]
      exact packagers_end n _ _ (step ▸ orderly_advance orderly (.packager 0) w)
        (step ▸ inTurn_advance inTurn (.packager 0) w) (phase.trans waits) (by omega)

variable (plan) in
theorem turns_orderly (turns : List Turn) (w : World) (orderly : p.Orderly) (inTurn : p.InTurn) :
    ((Pool.follow plan turns p).run w).1.Orderly ∧ ((Pool.follow plan turns p).run w).1.InTurn := by
  induction turns generalizing p w with
  | nil => exact ⟨orderly, inTurn⟩
  | cons turn turns ih => exact ih _ (orderly_advance orderly turn w) (inTurn_advance inTurn turn w)

theorem start_toResolve (spec : Specification) :
    (Pool.start spec 1 1).toResolve = resolvingSteps * spec.artifacts.length := by
  simp [Pool.toResolve, Pool.start, Line.start, Line.remaining, Worker.remaining, resolvingSteps]

/-- While the packager is idle, no more tasks wait for it than there are. -/
theorem idle_toPackage (orderly : p.Orderly) (idle : p.packaging.workers = [.idle]) :
    p.toPackage ≤ packagingSteps * p.run.tasks.length := by
  have held : p.packaging.held = p.packaging.waiting := by
    rw [Line.held, idle]
    exact List.append_nil _
  have once : p.packaging.waiting.Nodup := held ▸ orderly.packagingOnce
  have within : p.packaging.waiting ⊆ List.range p.run.tasks.length := by
    intro i listed
    rw [← held] at listed
    obtain ⟨stage, found, -⟩ := (orderly.toPackage i).mp listed
    obtain ⟨t, task, -⟩ := Option.map_eq_some_iff.mp found
    exact List.mem_range.mpr (List.getElem?_eq_some_iff.mp task).1
  have few : p.packaging.waiting.length ≤ p.run.tasks.length := by
    have sub := (once.subperm within).length_le
    rwa [List.length_range] at sub
  simp only [Pool.toPackage, Line.remaining, idle, Worker.remaining, packagingSteps, List.map_cons,
    List.map_nil, List.sum_cons, List.sum_nil]
  omega

theorem turns_main (waits : p.phase ≠ .returned) (w : World) :
    (Pool.follow plan [.main] p).run w = (p.main, w) := by
  show (p.advance plan .main).run w = _
  rw [Pool.advance, if_neg waits]
  rfl

theorem reached_length {q : Pool} {k m : Nat}
    (reached : Relation.ReflTransGen (Pool.Step plan) (.start plan.specification k m) q) :
    q.run.tasks.length = plan.specification.artifacts.length := by
  obtain ⟨parts, arrival, told⟩ := told_reached (fun w => within_any _) reached
  rw [← told.artifacts, told.tasks, List.length_map, List.length_map]

/-- The run goes on to wait for the packager once all is resolved. -/
theorem main_resolved (waits : p.phase = .resolving) (resolved : p.resolving.unfinished = 0) :
    p.main = { p with phase := .packaging } := by
  rw [Pool.main, waits]
  exact if_pos resolved

theorem main_packaged (waits : p.phase = .packaging) (packaged : p.packaging.unfinished = 0) :
    p.main = { p with phase := .returned } := by
  rw [Pool.main, waits]
  exact if_pos packaged

/-- When the tasks were resolved in turn, the run waits for the packager, which has enough turns. -/
theorem resolvers_pass (plan : Plan) (w : World) : ∃ p v,
    (Pool.follow plan (List.replicate (resolvingSteps * plan.specification.artifacts.length)
      (.resolver 0) ++ [.main]) (.start plan.specification 1 1)).run w = (p, v) ∧
      p.Orderly ∧ p.InTurn ∧ p.phase = .packaging ∧
      p.toPackage ≤ packagingSteps * plan.specification.artifacts.length := by
  have start := orderly_start plan.specification 1 1
  have started := inTurn_start plan.specification
  have some := Nat.le_of_eq (start_toResolve plan.specification)
  obtain ⟨resolved, waits, idle⟩ := resolvers_end plan _ _ w start started rfl some
  generalize List.replicate _ (Turn.resolver 0) = turns at resolved waits idle ⊢
  have reached := follow_reaches plan turns (.start plan.specification 1 1) w
  obtain ⟨orderly, inTurn⟩ := turns_orderly plan turns w start started
  rw [turns_append]
  rcases ran : (Pool.follow plan turns (.start plan.specification 1 1)).run w with ⟨p, v⟩
  rw [ran] at resolved waits idle reached orderly inTurn
  dsimp only at resolved waits idle reached orderly inTurn ⊢
  have few := idle_toPackage orderly idle
  rw [reached_length reached] at few
  have next := main_resolved waits resolved
  refine ⟨p.main, v, turns_main (by simp [waits]) v, orderly_main orderly, ?_, ?_, ?_⟩
  · rw [next]
    exact ⟨inTurn.resolver, inTurn.packager, inTurn.sorted⟩
  · rw [next]
  · rw [next]
    exact few

/-- When all is packaged, the run returns. -/
theorem packagers_return {n : Nat} (orderly : p.Orderly) (inTurn : p.InTurn)
    (waits : p.phase = .packaging) (few : p.toPackage ≤ n) (w : World) :
    ((Pool.follow plan (List.replicate n (.packager 0) ++ [.main]) p).run w).1.phase
      = .returned := by
  obtain ⟨packaged, waits'⟩ := packagers_end plan n p w orderly inTurn waits few
  rw [turns_append, turns_main (by simp [waits']), main_packaged waits' packaged]

/-- With one worker in each line, the turns of `inTurn` bring a pool to its end, whatever the
resolver and the files answer. -/
theorem inTurn_returns (plan : Plan) (w : World) :
    ((Pool.follow plan (inTurn plan.specification.artifacts.length)
      (.start plan.specification 1 1)).run w).1.phase = .returned := by
  obtain ⟨p, v, resolved, orderly, inTurn, waits, few⟩ := resolvers_pass plan w
  rw [MavenImport.inTurn, List.append_assoc, turns_append, resolved]
  exact packagers_return orderly inTurn waits few v

end Pools

end MavenImport
