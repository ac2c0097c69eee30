/-
# Proofs.TurnOrder -- one worker in each line keeps the order of the tasks

If each line has a single worker, the tasks that are open stand in a row: those to be packaged
come before those to be resolved, and each part is in the order of declaration (`Pool.InTurn`).
So the task that makes a step is always the first one of its kind (`Run.First`), whatever the
schedule, and declarations are kept in the order of the tasks (`Run.Ordered`).

`inTurn_follow` carries any invariant of such steps through a schedule.
-/
import MavenImport.Proofs.PoolOrder

namespace MavenImport

set_option autoImplicit false

/-! ## Lines with one worker -/

/-- The tasks of a line in the order in which they are advanced. -/
def Line.queue (l : Line) : List Nat := l.workers.filterMap Worker.task? ++ l.waiting

section OneWorker

variable {l : Line} {k i : Nat} {x : Worker}

theorem queue_held : l.queue.Perm l.held := List.perm_append_comm

theorem only_worker (single : l.workers.length = 1) (found : l.workers[k]? = some x) :
    l.workers = [x] ∧ k = 0 := by
  obtain ⟨y, alone⟩ := List.length_eq_one_iff.mp single
  rw [alone] at found ⊢
  cases k with
  | zero => exact ⟨by rw [Option.some.inj found], rfl⟩
  | succ k => cases found

theorem take_single (single : l.workers.length = 1) : (l.take k).workers.length = 1 := by
  unfold Line.take
  split
  · exact single
  · rw [List.length_set, single]

theorem take_queue (single : l.workers.length = 1) (idle : l.workers[k]? = some .idle) :
    (l.take k).queue = l.queue := by
  obtain ⟨alone, rfl⟩ := only_worker single idle
  unfold Line.queue Line.take
  cases waiting : l.waiting <;> simp [alone, waiting, Worker.task?]

theorem leave_queue (single : l.workers.length = 1) (busy : l.workers[k]? = some (.busy i)) :
    l.queue = i :: (l.leave k i).queue := by
  obtain ⟨alone, rfl⟩ := only_worker single busy
  simp [Line.queue, Line.leave, alone, Worker.task?]

theorem mark_queue (single : l.workers.length = 1) (leaving : l.workers[k]? = some (.leaving i)) :
    (l.mark k).queue = l.queue := by
  obtain ⟨alone, rfl⟩ := only_worker single leaving
  simp only [Line.queue, Line.mark, alone]
  rfl

theorem mark_single (single : l.workers.length = 1) : (l.mark k).workers.length = 1 := by
  rw [Line.mark, List.length_set, single]

theorem put_queue : (l.put i).queue = l.queue ++ [i] := by
  simp [Line.queue, Line.put]

end OneWorker

/-! ## Pools with one worker in each line -/

/-- The open tasks stand in a row, those to be packaged before those to be resolved. -/
structure Pool.InTurn (p : Pool) : Prop where
  resolver : p.resolving.workers.length = 1
  packager : p.packaging.workers.length = 1
  sorted : (p.packaging.queue ++ p.resolving.queue).Pairwise (· < ·)

/-- A task is the first one whose stage is of some kind. -/
structure Run.First (kind : Stage → Bool) (r : Run) (i : Nat) : Prop where
  own : ∃ stage, r.stage? i = some stage ∧ kind stage = true
  before : ∀ j < i, ∀ stage, r.stage? j = some stage → kind stage = false

/-- A task that makes a step is the first one to be resolved or the first one to be packaged. -/
def Run.Next (r : Run) (i : Nat) : Prop :=
  r.First Stage.isResolving i ∨ r.First Stage.isPackaging i

section Pools

variable {plan : Plan} {p : Pool}

theorem inTurn_start (spec : Specification) : (Pool.start spec 1 1).InTurn where
  resolver := rfl
  packager := rfl
  sorted := by
    show (List.range spec.artifacts.length).Pairwise (· < ·)
    exact List.pairwise_lt_range

/-- The task of a busy worker is the first one that its line holds. -/
theorem first_of_queue {r : Run} {kind : Stage → Bool} {l : Line} {i : Nat} {rest : List Nat}
    (holds : ∀ j, j ∈ l.held ↔ ∃ stage, r.stage? j = some stage ∧ kind stage = true)
    (queue : l.queue = i :: rest) (sorted : l.queue.Pairwise (· < ·)) : r.First kind i where
  own := (holds i).mp (queue_held.mem_iff.mp (queue ▸ List.mem_cons_self))
  before j less stage found := by
    cases open' : kind stage with
    | false => rfl
    | true =>
        have listed := queue_held.mem_iff.mpr ((holds j).mpr ⟨stage, found, open'⟩)
        rw [queue] at listed sorted
        rcases List.mem_cons.mp listed with rfl | later
        · exact absurd less (Nat.lt_irrefl _)
        · exact absurd ((List.pairwise_cons.mp sorted).1 j later) (Nat.lt_asymm less)

theorem passOn_inTurn (inTurn : p.InTurn) {k i : Nat}
    (busy : p.resolving.workers[k]? = some (.busy i)) (run : Run) :
    (({ p with run := run } : Pool).passOn k i).InTurn := by
  have sorted := inTurn.sorted
  rw [leave_queue inTurn.resolver busy] at sorted
  have left : (p.resolving.leave k i).workers.length = 1 := by
    simp [Line.leave, inTurn.resolver]
  unfold Pool.passOn
  split
  · split
    · exact ⟨inTurn.resolver, inTurn.packager, inTurn.sorted⟩
    · dsimp only
      split
      · -- from the front of one line to the end of the other, it stays where it stands
        refine ⟨left, inTurn.packager, ?_⟩
        rw [put_queue, List.append_assoc]
        exact sorted
      · exact ⟨left, inTurn.packager,
          sorted.sublist ((List.sublist_cons_self _ _).append_left _)⟩
  · exact ⟨inTurn.resolver, inTurn.packager, inTurn.sorted⟩

theorem release_inTurn (inTurn : p.InTurn) {k i : Nat}
    (busy : p.packaging.workers[k]? = some (.busy i)) (run : Run) :
    (({ p with run := run } : Pool).release k i).InTurn := by
  have sorted := inTurn.sorted
  rw [leave_queue inTurn.packager busy] at sorted
  unfold Pool.release
  split
  · split
    · exact ⟨inTurn.resolver, inTurn.packager, inTurn.sorted⟩
    · exact ⟨inTurn.resolver, by simp [Line.leave, inTurn.packager],
        (List.pairwise_cons.mp sorted).2⟩
  · exact ⟨inTurn.resolver, inTurn.packager, inTurn.sorted⟩

theorem inTurn_advance (inTurn : p.InTurn) (turn : Turn) (w : World) :
    ((p.advance plan turn).run w).1.InTurn := by
  unfold Pool.advance
  split
  · exact inTurn
  · cases turn with
    | resolver k =>
        dsimp only
        unfold Pool.resolver
        cases found : p.resolving.workers[k]? with
        | none => exact inTurn
        | some worker =>
            cases worker with
            | idle =>
                exact ⟨take_single inTurn.resolver, inTurn.packager,
                  (take_queue inTurn.resolver found).symm ▸ inTurn.sorted⟩
            | busy i => exact passOn_inTurn inTurn found _
            | leaving i =>
                exact ⟨mark_single inTurn.resolver, inTurn.packager,
                  (mark_queue inTurn.resolver found).symm ▸ inTurn.sorted⟩
    | packager k =>
        dsimp only
        unfold Pool.packager
        cases found : p.packaging.workers[k]? with
        | none => exact inTurn
        | some worker =>
            cases worker with
            | idle =>
                exact ⟨inTurn.resolver, take_single inTurn.packager,
                  (take_queue inTurn.packager found).symm ▸ inTurn.sorted⟩
            | busy i => exact release_inTurn inTurn found _
            | leaving i =>
                exact ⟨inTurn.resolver, mark_single inTurn.packager,
                  (mark_queue inTurn.packager found).symm ▸ inTurn.sorted⟩
    | main =>
        show p.main.InTurn
        unfold Pool.main
        split
        · split <;> exact ⟨inTurn.resolver, inTurn.packager, inTurn.sorted⟩
        · split <;> exact ⟨inTurn.resolver, inTurn.packager, inTurn.sorted⟩
        · exact inTurn

/-- In a step of a pool the first task of its kind makes a step, or nothing happens to the run. -/
theorem advance_next (orderly : p.Orderly) (inTurn : p.InTurn) (turn : Turn) (w : World) :
    (((p.advance plan turn).run w).1.run = p.run ∧ ((p.advance plan turn).run w).2 = w) ∨
      ∃ i, p.run.Next i ∧ ((p.advance plan turn).run w).1.run = ((p.run.advance plan i).run w).1 ∧
        ((p.advance plan turn).run w).2 = ((p.run.advance plan i).run w).2 := by
  obtain ⟨packaging, resolving, -⟩ := List.pairwise_append.mp inTurn.sorted
  unfold Pool.advance
  split
  · exact .inl ⟨rfl, rfl⟩
  · cases turn with
    | resolver k =>
        dsimp only
        unfold Pool.resolver
        cases found : p.resolving.workers[k]? with
        | none => exact .inl ⟨rfl, rfl⟩
        | some worker =>
            cases worker with
            | idle => exact .inl ⟨rfl, rfl⟩
            | busy i =>
                have first := first_of_queue orderly.toResolve
                  (leave_queue inTurn.resolver found) resolving
                exact .inr ⟨i, .inl first, passOn_run k i, rfl⟩
            | leaving i => exact .inl ⟨rfl, rfl⟩
    | packager k =>
        dsimp only
        unfold Pool.packager
        cases found : p.packaging.workers[k]? with
        | none => exact .inl ⟨rfl, rfl⟩
        | some worker =>
            cases worker with
            | idle => exact .inl ⟨rfl, rfl⟩
            | busy i =>
                have first := first_of_queue orderly.toPackage
                  (leave_queue inTurn.packager found) packaging
                exact .inr ⟨i, .inr first, release_run k i, rfl⟩
            | leaving i => exact .inl ⟨rfl, rfl⟩
    | main =>
        refine .inl ⟨?_, rfl⟩
        show p.main.run = p.run
        unfold Pool.main
        split
        · split <;> rfl
        · split <;> rfl
        · rfl

/-- What every step of the first task of its kind keeps lasts while a pool follows a schedule. -/
theorem inTurn_follow {I : Run → World → Prop}
    (keeps : ∀ r w i, r.Next i → I r w →
      I ((r.advance plan i).run w).1 ((r.advance plan i).run w).2) :
    ∀ (schedule : List Turn) (p : Pool) (w : World), p.Orderly → p.InTurn → I p.run w →
      I ((Pool.follow plan schedule p).run w).1.run ((Pool.follow plan schedule p).run w).2
  | [], _, _, _, _, holds => holds
  | turn :: schedule, p, w, orderly, inTurn, holds => by
      refine inTurn_follow keeps schedule ((p.advance plan turn).run w).1
        ((p.advance plan turn).run w).2 (orderly_advance orderly turn w)
        (inTurn_advance inTurn turn w) ?_
      rcases advance_next orderly inTurn turn w with ⟨same, still⟩ | ⟨i, next, run, world⟩
      · rwa [same, still]
      · rw [run, world]
        exact keeps p.run w i next holds

end Pools

/-! ## Runs in order -/

/-- The tasks up to some number are resolved, and those after it are not begun.  What is declared
comes before what is still to be packaged, and declarations stand in the order of the tasks. -/
structure Run.Ordered (r : Run) (n : Nat) : Prop where
  resolving : ∀ i stage, r.stage? i = some stage → (stage.isResolving = true ↔ n ≤ i)
  listed : ∀ i stage, r.stage? i = some stage → n < i → stage = .listed
  packaged : ∀ i stage, r.stage? i = some stage → stage.isPackaging = true →
    ∀ j stage', i < j → r.stage? j = some stage' → stage'.declaration? = none
  declared : r.progress.declared = r.tasks.filterMap fun t => t.stage.declaration?

section Order

variable {plan : Plan}

theorem ordered_start (spec : Specification) : (Run.start spec).Ordered 0 where
  resolving i stage found := by
    rw [start_stage] at found
    split at found <;> cases found
    exact ⟨fun _ => Nat.zero_le i, fun _ => rfl⟩
  listed i stage found _ := by
    rw [start_stage] at found
    split at found <;> cases found
    rfl
  packaged i stage found packaging := by
    rw [start_stage] at found
    split at found <;> cases found
    cases packaging
  declared := by
    show [] = _
    symm
    refine List.filterMap_eq_nil_iff.mpr fun t listed => ?_
    obtain ⟨e, -, rfl⟩ := List.mem_map.mp listed
    rfl

/-- What is appended to a list of views when the last of those in question gets one. -/
theorem filterMap_set {α β : Type} (f : α → Option β) {x : α} (y : α) :
    ∀ {xs : List α} {i : Nat}, xs[i]? = some x → f x = none →
      (∀ j z, i < j → xs[j]? = some z → f y = none ∨ f z = none) →
      (xs.set i y).filterMap f = xs.filterMap f ++ (f y).toList
  | z :: xs, 0, found, old, later => by
      cases found
      rw [List.set_cons_zero, List.filterMap_cons, List.filterMap_cons, old]
      cases new : f y with
      | none => simp
      | some value =>
          have rest : xs.filterMap f = [] := by
            refine List.filterMap_eq_nil_iff.mpr fun z listed => ?_
            obtain ⟨j, found⟩ := List.mem_iff_getElem?.mp listed
            have free := later (j + 1) z (Nat.succ_pos j) found
            rw [new] at free
            exact free.resolve_left (by simp)
          simp [rest]
  | z :: xs, i + 1, found, old, later => by
      have rest : (xs.set i y).filterMap f = xs.filterMap f ++ (f y).toList :=
        filterMap_set f y found old fun j z' less found' =>
          later (j + 1) z' (Nat.succ_lt_succ less) found'
      rw [List.set_cons_succ, List.filterMap_cons, List.filterMap_cons, rest]
      cases f z <;> rfl

theorem step_resolving {answers : Answers} {key : String} {config : ArtifactConfig}
    {stage stage' : Stage} {notes : List Note}
    (step : Task.Step plan answers key config stage notes stage')
    (resolving : stage.isResolving = true) : stage'.declaration? = none := by
  cases step with
  | library _ | android _ _ | file _ _ | undelivered _ _ | delivered _ _ | unusable _ _
  | inspected _ | rested => cases resolving
  | _ => rfl

/-- What is to be packaged is never to be resolved again. -/
theorem step_packaging {answers : Answers} {key : String} {config : ArtifactConfig}
    {stage stage' : Stage} {notes : List Note}
    (step : Task.Step plan answers key config stage notes stage')
    (packaging : stage.isPackaging = true) : stage'.isResolving = false := by
  have ends : ∀ resolution, (plan.finishStage resolution).isResolving = false := by
    intro resolution
    unfold Plan.finishStage
    cases plan.labels resolution <;> rfl
  cases step with
  | library _ | file _ _ | inspected _ => exact ends _
  | named _ | malformed _ | faulted _ | unresolved _ | resolved _ | rested => cases packaging
  | _ => rfl

theorem open_undeclared {stage : Stage}
    (open' : stage.isResolving = true ∨ stage.isPackaging = true) :
    stage.declaration? = none := by
  cases stage <;> first | rfl | simp [Stage.isResolving, Stage.isPackaging] at open'

/-- The first task that is to be resolved is the one after those that are. -/
theorem first_resolving {r : Run} {n i : Nat} (ordered : r.Ordered n)
    (first : r.First Stage.isResolving i) : i = n := by
  obtain ⟨stage, found, resolving⟩ := first.own
  have more := (ordered.resolving i stage found).mp resolving
  rcases Nat.lt_or_eq_of_le more with less | same
  · obtain ⟨t, task, -⟩ := Option.map_eq_some_iff.mp found
    obtain ⟨bound, -⟩ := List.getElem?_eq_some_iff.mp task
    have bound' : n < r.tasks.length := Nat.lt_trans less bound
    have there : r.stage? n = some r.tasks[n].stage := by
      rw [Run.stage?, List.getElem?_eq_getElem bound']
      rfl
    have closed := first.before n less _ there
    rw [(ordered.resolving n _ there).mpr (Nat.le_refl n)] at closed
    cases closed
  · exact same.symm

section Set

variable {r : Run} {n i : Nat} {t : Task} {stage' : Stage} {p : Progress}
  (ordered : r.Ordered n) (found : r.tasks[i]? = some t)
  (declared : p.declared = r.progress.declared ++ stage'.declaration?.toList)
include ordered found declared

/-- What is declared of an open task comes last, if nothing is declared of those after it. -/
theorem declared_set (open' : t.stage.isResolving = true ∨ t.stage.isPackaging = true)
    (free : ∀ j stage, i < j → r.stage? j = some stage →
      stage'.declaration? = none ∨ stage.declaration? = none) :
    p.declared = (r.tasks.set i { t with stage := stage' }).filterMap
      fun t => t.stage.declaration? := by
  rw [declared, ordered.declared]
  refine (filterMap_set (fun t => t.stage.declaration?) { t with stage := stage' } found
    (open_undeclared open') fun j t' less at' => ?_).symm
  exact free j t'.stage less (by rw [Run.stage?, at']; rfl)

/-- When the first task that is to be resolved comes to another stage, it is the next one to be
packaged, if it is. -/
theorem ordered_resolved (first : r.First Stage.isResolving i)
    (none : stage'.declaration? = none) :
    Run.Ordered ⟨r.tasks.set i { t with stage := stage' }, p⟩
      (if stage'.isResolving = false then n + 1 else n) := by
  have stages := stage_set found stage' p
  have own : r.stage? i = some t.stage := by rw [Run.stage?, found]; rfl
  obtain ⟨stage, found', resolving⟩ := first.own
  obtain rfl : t.stage = stage := Option.some.inj (own.symm.trans found')
  obtain rfl := first_resolving ordered first
  refine ⟨fun j stage at' => ?_, fun j stage at' less => ?_,
    fun j stage at' packaging k stage'' less at'' => ?_,
    declared_set ordered found declared (.inl resolving) fun _ _ _ _ => .inl none⟩
  · rw [stages] at at'
    split at at'
    · next here =>
        subst here
        cases at'
        cases again : stage'.isResolving <;> simp
    · next elsewhere =>
        rw [ordered.resolving j stage at']
        split <;> omega
  · rw [stages, if_neg (by split at less <;> omega)] at at'
    exact ordered.listed j stage at' (by split at less <;> omega)
  · rw [stages] at at' at''
    split at at''
    · cases at''
      exact none
    · next elsewhere =>
        split at at'
        · next here =>
            subst here
            rw [ordered.listed k stage'' at'' less]
            rfl
        · exact ordered.packaged j stage at' packaging k stage'' less at''

/-- When the first task that is to be packaged comes to another stage, the tasks that are resolved
are the same, and nothing is declared after it. -/
theorem ordered_packaged (first : r.First Stage.isPackaging i)
    (forward : stage'.isResolving = false) :
    Run.Ordered ⟨r.tasks.set i { t with stage := stage' }, p⟩ n := by
  have stages := stage_set found stage' p
  have own : r.stage? i = some t.stage := by rw [Run.stage?, found]; rfl
  obtain ⟨stage, found', packaging⟩ := first.own
  obtain rfl : t.stage = stage := Option.some.inj (own.symm.trans found')
  have before : i < n := by
    rcases Nat.lt_or_ge i n with less | more
    · exact less
    · rw [not_packaging ((ordered.resolving i _ own).mpr more)] at packaging
      cases packaging
  have later : ∀ k stage, i < k → r.stage? k = some stage → stage.declaration? = none :=
    ordered.packaged i _ own packaging
  refine ⟨fun j stage at' => ?_, fun j stage at' less => ?_,
    fun j stage at' packaging' k stage'' less at'' => ?_,
    declared_set ordered found declared (.inr packaging) fun j stage less at' =>
      .inr (later j stage less at')⟩
  · rw [stages] at at'
    split at at'
    · next here =>
        subst here
        cases at'
        simp [forward, before]
    · exact ordered.resolving j stage at'
  · rw [stages, if_neg (by omega)] at at'
    exact ordered.listed j stage at' less
  · rw [stages] at at' at''
    split at at''
    · next here =>
        -- a task before the first one is not to be packaged
        subst here
        rw [if_neg (by omega)] at at'
        rw [first.before j less stage at'] at packaging'
        cases packaging'
    · split at at'
      · next here =>
          subst here
          exact later k stage'' less at''
      · exact ordered.packaged j stage at' packaging' k stage'' less at''

/-- When the first task of its kind comes to another stage, the run stays in order. -/
theorem ordered_set (next : r.Next i)
    (undeclared : t.stage.isResolving = true → stage'.declaration? = none)
    (forward : t.stage.isPackaging = true → stage'.isResolving = false) :
    Run.Ordered ⟨r.tasks.set i { t with stage := stage' }, p⟩
      (if t.stage.isResolving = true ∧ stage'.isResolving = false then n + 1 else n) := by
  have own : r.stage? i = some t.stage := by rw [Run.stage?, found]; rfl
  rcases next with first | first
  · obtain ⟨stage, found', resolving⟩ := first.own
    obtain rfl : t.stage = stage := Option.some.inj (own.symm.trans found')
    simpa [resolving] using ordered_resolved ordered found declared first (undeclared resolving)
  · obtain ⟨stage, found', packaging⟩ := first.own
    obtain rfl : t.stage = stage := Option.some.inj (own.symm.trans found')
    rw [if_neg fun both => by rw [not_packaging both.1] at packaging; cases packaging]
    exact ordered_packaged ordered found declared first (forward packaging)

end Set

end Order

end MavenImport
