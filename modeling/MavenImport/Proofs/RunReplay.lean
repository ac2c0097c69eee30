/-
# Proofs.RunReplay -- a run that is repeated comes to the same

With one worker in each line, keys are resolved in turn.  So the models that are kept when it is a
key's turn are those that its predecessors have left, and they are found again by resolving the
keys once more (`Source.replay`), with whatever cache comes later.  `Course` says this of a run at
any time, and with it what each task has come to and what is still to come.

From this a second run, with no models kept and with the cache that the first one has left, comes
to the same notes (`course_unique`), changes no file and requests nothing that is in the cache
(`course_stays`).
-/
import MavenImport.Proofs.RunOutcome
import MavenImport.Proofs.TaskReplay

namespace MavenImport

set_option autoImplicit false

/-! ## Resolving keys in turn -/

/-- A world with the files of another time, and without models. -/
def World.restarted (w : World) (f : FileSystem) : World := { w with files := f, models := ⟨[]⟩ }

section Restarted

variable (w : World) (f : FileSystem)

@[simp] theorem restarted_files : (w.restarted f).files = f := rfl

@[simp] theorem restarted_web : (w.restarted f).web = w.web := rfl

@[simp] theorem restarted_models : (w.restarted f).models = ⟨[]⟩ := rfl

end Restarted

namespace Source

/-- Resolves what a key reads. -/
def reading (s : Source) (u : World) (key : String) : Option ResolvedArtifact × World :=
  match Coordinate.ofString? key with
  | some c => (valueOf? ((s.resolve c).perform u).1, ((s.resolve c).perform u).2)
  | none => (none, u)

/-- The world after keys were resolved in turn. -/
def replay (s : Source) (u : World) (keys : List String) : World :=
  keys.foldl (fun u key => (s.reading u key).2) u

end Source

def Plan.keys (plan : Plan) : List String := plan.specification.artifacts.map Prod.fst

/-- The world in which a key is resolved when all before it were. -/
def Plan.turnOf (plan : Plan) (s : Source) (w : World) (f : FileSystem) (n : Nat) : World :=
  s.replay (w.restarted f) (plan.keys.take n)

/-- What a key is resolved to when it is its turn. -/
def Plan.artifactAt (plan : Plan) (s : Source) (w : World) (n : Nat) (f : FileSystem) :
    Option ResolvedArtifact :=
  plan.keys[n]?.bind fun key => (s.reading (plan.turnOf s w f n) key).1

/-- Everything that a key refers to is proper. -/
def Plan.ProperFamilies (plan : Plan) (s : Source) (w : World) : Prop :=
  ∀ key ∈ plan.keys, ∀ c, Coordinate.ofString? key = some c → c.ProperFamily (s.offered w)

section Replay

variable {s : Source} {w u : World} {plan : Plan} {f : FileSystem} {n : Nat} {key : String}

theorem turnOf_succ (listed : plan.keys[n]? = some key) :
    plan.turnOf s w f (n + 1) = (s.reading (plan.turnOf s w f n) key).2 := by
  obtain ⟨less, rfl⟩ := List.getElem?_eq_some_iff.mp listed
  unfold Plan.turnOf Source.replay
  rw [List.take_succ_eq_append_getElem less, List.foldl_append]
  rfl

theorem artifactAt_eq (listed : plan.keys[n]? = some key) :
    plan.artifactAt s w n f = (s.reading (plan.turnOf s w f n) key).1 := by
  rw [Plan.artifactAt, listed]
  rfl

theorem reading_none (malformed : Coordinate.ofString? key = none) :
    s.reading u key = (none, u) := by
  rw [Source.reading, malformed]

theorem reading_some {c : Coordinate} (parsed : Coordinate.ofString? key = some c) :
    s.reading u key = (valueOf? ((s.resolve c).perform u).1, ((s.resolve c).perform u).2) := by
  rw [Source.reading, parsed]

end Replay

/-! ## The course of a run -/

/-- What a run has come to after `n` keys were resolved, and what it will have been in the files of
any later time. -/
structure Course (plan : Plan) (s : Source) (w : World) (parts : List Part) (arrival : List Note)
    (n : Nat) (r : Run) (v : World) : Prop where
  told : r.Told plan .any parts arrival
  ordered : r.Ordered n
  reached : s.Reached w v
  failures : ∀ failure, Note.unresolved failure ∈ arrival → failure.repositories = s.urls
  /-- The models are those of the replay. -/
  replayed : ∀ f, s.Later w.web v.files f → s.Reached w (plan.turnOf s w f n) ∧
    (plan.turnOf s w f n).files = f ∧ (plan.turnOf s w f n).models = v.models
  /-- A key that was resolved can be resolved again without any change. -/
  still : ∀ f, s.Later w.web v.files f → ∀ i key, i < n → plan.keys[i]? = some key →
    ∀ u, s.Reached w u → u.files = f → u.models = (plan.turnOf s w f i).models →
      s.Stays u (s.reading u key).2
  fits : ∀ f, s.Later w.web v.files f → ∀ i e, parts[i]? = some e →
    e.1.stage.Fits s w.web f e.1.key (plan.artifactAt s w i f) ∧
      blurred e.2 ++ plan.comingNotes e.1.config (s.details? f) e.1.key (plan.artifactAt s w i f)
          e.1.stage
        = plan.listedNotes e.1.config (s.details? f) e.1.key (plan.artifactAt s w i f)

section Courses

variable {plan : Plan} {s : Source} {w v : World} {parts : List Part} {arrival : List Note}
  {n i : Nat} {r : Run}

theorem reached_restarted {f : FileSystem} (later : s.Later w.web w.files f) :
    s.Reached w (w.restarted f) :=
  ⟨rfl, later, fun _ _ found => by cases found⟩

theorem reached_console (reached : s.Reached w v) (console : Console) :
    s.Reached w { v with console := console } :=
  ⟨reached.web, reached.later, reached.kept⟩

theorem course_start (reached : s.Reached w v) (fresh : v.models = ⟨[]⟩) :
    Course plan s w (plan.specification.artifacts.map fun e => ({ key := e.1, config := e.2 }, []))
      [] 0 (.start plan.specification) v where
  told := told_start plan .any
  ordered := ordered_start _
  reached := reached
  failures _ none := absurd none List.not_mem_nil
  replayed f later :=
    ⟨reached_restarted (later_trans reached.later later), rfl, fresh.symm⟩
  still _ _ i _ less := absurd less (Nat.not_lt_zero i)
  fits f _ i e found := by
    rw [List.getElem?_map, Option.map_eq_some_iff] at found
    obtain ⟨declared, -, rfl⟩ := found
    exact ⟨trivial, rfl⟩

theorem course_key {e : Part} (told : r.Told plan .any parts arrival)
    (found : parts[i]? = some e) : plan.keys[i]? = some e.1.key := by
  unfold Plan.keys
  rw [← told.artifacts, List.map_map, List.getElem?_map, found]
  rfl

theorem stage_of_part {e : Part} (told : r.Told plan .any parts arrival)
    (found : parts[i]? = some e) : r.stage? i = some e.1.stage := by
  rw [Run.stage?, told_task told, found]
  rfl

/-- The parts of a run after one task has made a step. -/
theorem part_of_set {e e' : Part} {t : Task} {notes : List Note} {j : Nat}
    (found : parts[i]? = some e) (found' : (parts.set i (t, notes))[j]? = some e') :
    (i = j ∧ e' = (t, notes)) ∨ i ≠ j ∧ parts[j]? = some e' := by
  obtain ⟨less, -⟩ := List.getElem?_eq_some_iff.mp found
  rw [List.getElem?_set] at found'
  split at found'
  · next here =>
      subst here
      exact .inl ⟨rfl, (Option.some.inj found').symm⟩
  · next elsewhere => exact .inr ⟨elsewhere, found'⟩

/-- The story of a part, after one more step of its task. -/
theorem fits_moved {stage stage' : Stage} {more notes : List Note} {key : String}
    {config : ArtifactConfig} {artifact : FileSystem → Option ResolvedArtifact} {v' : World}
    (moves : stage.Moves s w plan key config artifact v' more stage') {f : FileSystem}
    (later : s.Later w.web v'.files f)
    (before : blurred notes ++ plan.comingNotes config (s.details? f) key (artifact f) stage
      = plan.listedNotes config (s.details? f) key (artifact f)) :
    stage'.Fits s w.web f key (artifact f) ∧
      blurred (notes ++ more)
          ++ plan.comingNotes config (s.details? f) key (artifact f) stage'
        = plan.listedNotes config (s.details? f) key (artifact f) := by
  obtain ⟨fits, same⟩ := moves f later
  refine ⟨fits, ?_⟩
  rw [blurred_append, List.append_assoc, same]
  exact before

end Courses

section Steps

variable {plan : Plan} {s : Source} {w v v' : World} {parts : List Part} {arrival : List Note}
  {n i : Nat} {r : Run} {e : Part} {more : List Note} {stage' : Stage}

/-- The number of keys that are resolved after a step between two stages. -/
def turnsAfter (n : Nat) (stage stage' : Stage) : Nat :=
  if stage.isResolving = true ∧ stage'.isResolving = false then n + 1 else n

theorem turnsAfter_cases (n : Nat) (stage stage' : Stage) :
    turnsAfter n stage stage' = n ∨ turnsAfter n stage stage' = n + 1 := by
  unfold turnsAfter
  split
  · exact .inr rfl
  · exact .inl rfl

/-- Only the failure of the resolver is noted as one. -/
theorem step_unresolved {answers : Answers} {key : String} {config : ArtifactConfig}
    {stage : Stage} {failure : ResolutionFailure}
    (step : Task.Step plan answers key config stage more stage')
    (noted : Note.unresolved failure ∈ more) :
    ∃ c failure', stage = .named c ∧ answers.resolve c (.ok (.error failure')) ∧
      failure.repositories = failure'.repositories := by
  have shown := step_failures step
  have listed : failure ∈ more.filterMap Note.failure? := List.mem_filterMap.mpr ⟨_, noted, rfl⟩
  have among : failure ∈ stage'.failure?.toList := shown ▸ List.mem_append_right _ listed
  have other : ∀ resolution, (plan.finishStage resolution).failure? = none := by
    intro resolution
    unfold Plan.finishStage
    cases plan.labels resolution <;> rfl
  cases step with
  | @unresolved c failure' answer =>
      rw [Option.mem_toList, Stage.failure?] at among
      cases among
      exact ⟨c, failure', rfl, answer, rfl⟩
  | library _ | file _ _ | inspected _ =>
      rw [other] at among
      cases among
  | rested => cases noted
  | _ => cases among

/-- A step of a task continues the course, if it leads to a later world and its notes are among
those that were to come. -/
theorem course_set (course : Course plan s w parts arrival n r v) (next : r.Next i)
    (found : parts[i]? = some e)
    (step : Task.Step plan (plan.answersIn v) e.1.key e.1.config e.1.stage more stage')
    (later : s.Later w.web v.files v'.files) (reached : s.Reached w v')
    (moves : e.1.stage.Moves s w plan e.1.key e.1.config (plan.artifactAt s w i) v' more stage')
    (failures : ∀ failure, Note.unresolved failure ∈ more → failure.repositories = s.urls)
    (replayed : ∀ f, s.Later w.web v'.files f →
      s.Reached w (plan.turnOf s w f (turnsAfter n e.1.stage stage')) ∧
        (plan.turnOf s w f (turnsAfter n e.1.stage stage')).files = f ∧
        (plan.turnOf s w f (turnsAfter n e.1.stage stage')).models = v'.models)
    (still : n < turnsAfter n e.1.stage stage' → ∀ f, s.Later w.web v'.files f →
      ∀ key, plan.keys[n]? = some key → ∀ u, s.Reached w u → u.files = f →
        u.models = (plan.turnOf s w f n).models → s.Stays u (s.reading u key).2) :
    Course plan s w (parts.set i ({ e.1 with stage := stage' }, e.2 ++ more)) (arrival ++ more)
      (turnsAfter n e.1.stage stage')
      ⟨r.tasks.set i { e.1 with stage := stage' }, r.progress.noteAll more⟩ v' where
  told := told_step course.told found (step_within (within_any _) step)
  ordered := by
    have open' : e.1.stage.isResolving = true ∨ e.1.stage.isPackaging = true := by
      have own := stage_of_part course.told found
      rcases next with first | first
      all_goals
        obtain ⟨stage, found', kind⟩ := first.own
        rw [own] at found'
        rw [Option.some.inj found']
      · exact .inl kind
      · exact .inr kind
    refine ordered_set course.ordered (by rw [told_task course.told, found]; rfl) ?_ next
      (step_resolving step) (step_packaging step)
    have shown := step_declarations step
    rw [open_undeclared open'] at shown
    rw [noteAll_declared, ← shown]
    rfl
  reached := reached
  failures failure noted := by
    rcases List.mem_append.mp noted with old | new
    · exact course.failures failure old
    · exact failures failure new
  replayed := replayed
  still f after j key less listed u reachedU files models := by
    by_cases old : j < n
    · exact course.still f (later_trans later after) j key old listed u reachedU files models
    · have last : j = n ∧ n < turnsAfter n e.1.stage stage' := by
        rcases turnsAfter_cases n e.1.stage stage' with same | one <;> omega
      obtain ⟨rfl, more⟩ := last
      exact still more f after key listed u reachedU files models
  fits f after j e' found' := by
    rcases part_of_set found found' with ⟨rfl, rfl⟩ | ⟨-, found''⟩
    · exact fits_moved moves after (course.fits f (later_trans later after) i e found).2
    · exact course.fits f (later_trans later after) j e' found''

variable (source : plan.resolver = s.resolver) (straight : s.cache.Straight)
include source straight

theorem packaging_continues (course : Course plan s w parts arrival n r v) (next : r.Next i)
    (found : parts[i]? = some e) (packaging : e.1.stage.isPackaging = true)
    (step : Task.Step plan (plan.answersIn v) e.1.key e.1.config e.1.stage more stage')
    (console : Console) :
    Course plan s w (parts.set i ({ e.1 with stage := stage' }, e.2 ++ more)) (arrival ++ more)
      (turnsAfter n e.1.stage stage')
      ⟨r.tasks.set i { e.1 with stage := stage' }, r.progress.noteAll more⟩
      { e.1.stage.leaves plan v with console := console } := by
  have same : turnsAfter n e.1.stage stage' = n := by
    have notResolving : e.1.stage.isResolving = false := by
      cases resolving : e.1.stage.isResolving with
      | false => rfl
      | true => rw [not_packaging resolving] at packaging; cases packaging
    rw [turnsAfter, notResolving, if_neg (by simp)]
  obtain ⟨later, web, models, moves⟩ := packaging_step source straight course.reached packaging
    (fun f after => (course.fits f after i e found).1) step
  refine course_set course next found step later ?_ moves ?_ ?_ ?_
  · exact ⟨web.trans course.reached.web, later_trans course.reached.later later,
      by rw [show ({ e.1.stage.leaves plan v with console := console } : World).models = v.models
        from models]; exact course.reached.kept⟩
  · intro failure noted
    obtain ⟨c, -, named, -⟩ := step_unresolved step noted
    rw [named] at packaging
    cases packaging
  · intro f after
    rw [same]
    obtain ⟨reached, files, kept⟩ := course.replayed f (later_trans later after)
    exact ⟨reached, files, kept.trans models.symm⟩
  · intro less
    rw [same] at less
    exact absurd less (Nat.lt_irrefl n)

omit source straight in
theorem naming_continues (course : Course plan s w parts arrival n r v) (next : r.Next i)
    (turn : i = n) (found : parts[i]? = some e) (listed : e.1.stage = .listed)
    (step : Task.Step plan (plan.answersIn v) e.1.key e.1.config e.1.stage more stage')
    (console : Console) :
    Course plan s w (parts.set i ({ e.1 with stage := stage' }, e.2 ++ more)) (arrival ++ more)
      (turnsAfter n e.1.stage stage')
      ⟨r.tasks.set i { e.1 with stage := stage' }, r.progress.noteAll more⟩
      { v with console := console } := by
  subst turn
  have key := course_key course.told found
  have plain := reached_plain course.reached
  have moves : Stage.listed.Moves s w plan e.1.key e.1.config (plan.artifactAt s w i)
      { v with console := console } more stage' := by
    refine naming_step (fun malformed f _ => ?_) (listed ▸ step)
    rw [artifactAt_eq key, reading_none malformed]
  have malformed : i < turnsAfter i e.1.stage stage' → Coordinate.ofString? e.1.key = none := by
    intro less
    rw [listed] at step less
    cases step with
    | named _ => exact absurd less (by simp [turnsAfter, Stage.isResolving])
    | malformed refused => exact refused
  refine course_set course next found step (later_refl plain)
    (reached_console course.reached console) (listed ▸ moves) ?_ ?_ ?_
  · intro failure noted
    obtain ⟨c, -, named, -⟩ := step_unresolved step noted
    rw [listed] at named
    cases named
  · intro f after
    by_cases less : i < turnsAfter i e.1.stage stage'
    · have one : turnsAfter i e.1.stage stage' = i + 1 := by
        rcases turnsAfter_cases i e.1.stage stage' with same | one <;> omega
      rw [one, turnOf_succ key, reading_none (malformed less)]
      exact course.replayed f after
    · have same : turnsAfter i e.1.stage stage' = i := by
        rcases turnsAfter_cases i e.1.stage stage' with same | one <;> omega
      rw [same]
      exact course.replayed f after
  · intro less f _ key' key'' u _ _ _
    obtain rfl : e.1.key = key' := Option.some.inj (key.symm.trans key'')
    rw [reading_none (malformed less)]
    exact stays_refl u

theorem resolving_continues (families : plan.ProperFamilies s w)
    (course : Course plan s w parts arrival n r v) (next : r.Next i) (turn : i = n)
    (found : parts[i]? = some e) {c : Coordinate} (named : e.1.stage = .named c)
    (step : Task.Step plan (plan.answersIn v) e.1.key e.1.config e.1.stage more stage')
    (console : Console) :
    Course plan s w (parts.set i ({ e.1 with stage := stage' }, e.2 ++ more)) (arrival ++ more)
      (turnsAfter n e.1.stage stage')
      ⟨r.tasks.set i { e.1 with stage := stage' }, r.progress.noteAll more⟩
      { e.1.stage.leaves plan v with console := console } := by
  subst turn
  have key := course_key course.told found
  have parsed : Coordinate.ofString? e.1.key = some c := by
    have fits := (course.fits _ (later_refl (reached_plain course.reached)) i e found).1
    rw [named] at fits
    exact fits
  have family := families e.1.key (List.mem_of_getElem? key) c parsed
  have replays := resolve_replays straight family
  have left : e.1.stage.leaves plan v = ((s.resolve c).perform v).2 := by
    rw [named, Stage.leaves, source]
    rfl
  rw [left]
  have later := replays.later v course.reached
  have one : turnsAfter i e.1.stage stage' = i + 1 := by
    rw [named] at step ⊢
    cases step <;> rfl
  -- resolving the key in the replay, in the files of any later time, is resolving it again
  have again : ∀ f, s.Later w.web ((s.resolve c).perform v).2.files f → ∀ u, s.Reached w u →
      u.files = f → u.models = (plan.turnOf s w f i).models →
        s.Again u ((s.resolve c).perform v) ((s.resolve c).perform u) := by
    intro f after u reachedU files models
    obtain ⟨-, -, kept⟩ := course.replayed f (later_trans later after)
    exact replays.again v u course.reached reachedU (models.trans kept) (files.symm ▸ after)
  have turns : ∀ f, s.Later w.web ((s.resolve c).perform v).2.files f →
      s.Again (plan.turnOf s w f i) ((s.resolve c).perform v)
        ((s.resolve c).perform (plan.turnOf s w f i)) := by
    intro f after
    obtain ⟨reachedU, files, -⟩ := course.replayed f (later_trans later after)
    exact again f after _ reachedU files rfl
  have moves : (Stage.named c).Moves s w plan e.1.key e.1.config (plan.artifactAt s w i)
      ((s.resolve c).perform v).2 more stage' := by
    refine resolving_step source (fun a given => ?_) (fun f after => ?_) (named ▸ step)
    · rw [replays.sound v course.reached a given]
      exact family c .refl
    · rw [artifactAt_eq key, reading_some parsed]
      exact (turns f after).value
  refine course_set course next found step later
    (reached_console (replays.reached v course.reached) console) (named ▸ moves) ?_ ?_ ?_
  · intro failure noted
    obtain ⟨c', failure', named', answer, same⟩ := step_unresolved step noted
    rw [named] at named'
    cases named'
    rw [same]
    refine replays.fails v course.reached failure' ?_
    rw [← show _ = Except.ok (Except.error failure') from answer, source]
    rfl
  · intro f after
    obtain ⟨reachedU, files, -⟩ := course.replayed f (later_trans later after)
    rw [one, turnOf_succ key, reading_some parsed]
    exact ⟨replays.reached _ reachedU, (turns f after).stays.files.trans files,
      (turns f after).models⟩
  · intro _ f after key' key'' u reachedU files models
    obtain rfl : e.1.key = key' := Option.some.inj (key.symm.trans key'')
    rw [reading_some parsed]
    exact (again f after u reachedU files models).stays

/-- A step of the first task of its kind continues the course of a run. -/
theorem course_advance (families : plan.ProperFamilies s w)
    (course : Course plan s w parts arrival n r v) (next : r.Next i) :
    ∃ parts' arrival' n', Course plan s w parts' arrival' n' ((r.advance plan i).run v).1
      ((r.advance plan i).run v).2 := by
  have task := told_task course.told i
  cases found : parts[i]? with
  | none =>
      rw [found] at task
      rw [run_advance_none task]
      exact ⟨parts, arrival, n, course⟩
  | some e =>
      rw [found] at task
      obtain ⟨more, step, noted, -⟩ := advance_explained plan r.progress v e.1
      obtain ⟨console, left⟩ := advance_world plan e.1 r.progress v
      rw [run_advance_some task, noted, left]
      have own := stage_of_part course.told found
      rcases next with first | first
      all_goals
        obtain ⟨stage, found', kind⟩ := first.own
        rw [own] at found'
        rw [← Option.some.inj found'] at kind
      · have turn := first_resolving course.ordered first
        cases stage : e.1.stage with
        | listed =>
            exact ⟨_, _, _, naming_continues course (.inl first) turn found stage step console⟩
        | named c =>
            have continued := resolving_continues source straight families course (.inl first) turn
              found stage step console
            rw [stage] at continued
            exact ⟨_, _, _, continued⟩
        | _ => rw [stage] at kind; cases kind
      · exact ⟨_, _, _,
          packaging_continues source straight course (.inr first) found kind step console⟩

end Steps

/-! ## Whole runs -/

/-- The progress, except for how artifacts could not be resolved. -/
def Progress.settled (p : Progress) : Progress := { p with unresolved := [] }

/-- Progress that tells the same apart from how artifacts could not be resolved, with the same
declarations in the same order. -/
structure Progress.Resembles (p p' : Progress) : Prop where
  alike : p.settled.Alike p'.settled
  declared : p.declared = p'.declared

theorem settled_noteAll (notes : List Note) (p : Progress) :
    (p.noteAll notes).settled = p.settled.noteAll (blurred notes) := by
  induction notes generalizing p with
  | nil => rfl
  | cons n notes ih =>
      rw [Progress.noteAll_cons, ih]
      cases n <;> rfl

section Ends

variable {plan : Plan} {s : Source} {w v v' : World} {parts parts' : List Part}
  {arrival arrival' : List Note} {n n' : Nat} {r r' : Run} {f : FileSystem} {i : Nat}

theorem part_of_key {key : String} (told : r.Told plan .any parts arrival)
    (listed : plan.keys[i]? = some key) : ∃ e, parts[i]? = some e := by
  unfold Plan.keys at listed
  rw [← told.artifacts, List.map_map, List.getElem?_map, Option.map_eq_some_iff] at listed
  exact ⟨_, listed.choose_spec.1⟩

theorem part_done {e : Part} (told : r.Told plan .any parts arrival) (done : r.Done)
    (found : parts[i]? = some e) : ∃ fate, e.1.stage = .ended fate :=
  done e.1 (by rw [told.tasks]; exact List.mem_map_of_mem (List.mem_of_getElem? found))

/-- What was noted of tasks that have come to their ends follows from the files of any later
time. -/
theorem course_notes (course : Course plan s w parts arrival n r v) (done : r.Done)
    (later : s.Later w.web v.files f) {e : Part} (found : parts[i]? = some e) :
    blurred e.2
      = plan.listedNotes e.1.config (s.details? f) e.1.key (plan.artifactAt s w i f) := by
  obtain ⟨fate, ended⟩ := part_done course.told done found
  have noted := (course.fits f later i e found).2
  rwa [ended, Plan.comingNotes, List.append_nil] at noted

variable (course : Course plan s w parts arrival n r v)
  (course' : Course plan s w parts' arrival' n' r' v') (done : r.Done) (done' : r'.Done)
  (later : s.Later w.web v.files f) (later' : s.Later w.web v'.files f)
include course course' done done' later later'

/-- Two runs come to the same notes, task by task. -/
theorem parts_agree : parts.map (fun e => blurred e.2) = parts'.map fun e => blurred e.2 := by
  have artifacts := course.told.artifacts.trans course'.told.artifacts.symm
  refine List.ext_getElem? fun i => ?_
  have same := congrArg (·[i]?) artifacts
  simp only [List.getElem?_map] at same ⊢
  cases found : parts[i]? with
  | none =>
      rw [found] at same
      rw [Option.map_eq_none_iff.mp same.symm]
  | some e =>
      rw [found] at same
      obtain ⟨e', found', both⟩ := Option.map_eq_some_iff.mp same.symm
      rw [found']
      simp only [Prod.mk.injEq] at both
      obtain ⟨key, config⟩ := both
      simp only [Option.map_some, course_notes course done later found,
        course_notes course' done' later' found', key, config]

theorem notes_agree :
    blurred (parts.flatMap Prod.snd) = blurred (parts'.flatMap Prod.snd) := by
  have agree := congrArg List.flatten (parts_agree course course' done done' later later')
  unfold blurred at agree ⊢
  rw [List.filterMap_flatMap, List.filterMap_flatMap]
  simpa [List.flatMap] using agree

/-- Two runs come to the same progress, apart from how artifacts could not be resolved. -/
theorem course_unique : r.progress.Resembles r'.progress where
  alike := by
    have perm : (blurred arrival).Perm (blurred arrival') := by
      have one := course.told.arrived.filterMap Note.blurred?
      have other := course'.told.arrived.filterMap Note.blurred?
      refine one.trans ?_
      rw [show List.filterMap Note.blurred? _ = _ from
        notes_agree course course' done done' later later']
      exact other.symm
    rw [course.told.progress, course'.told.progress, settled_noteAll, settled_noteAll]
    exact alike_noteAll perm
  declared := by
    have declarations : ∀ notes, notes.filterMap Note.declaration?
        = (blurred notes).filterMap Note.declaration? := by
      intro notes
      unfold blurred
      rw [List.filterMap_filterMap]
      refine List.filterMap_congr fun note _ => ?_
      cases note <;> rfl
    have shown : ∀ {parts arrival r}, Run.Told plan .any parts arrival r →
        (r.tasks.filterMap fun t => t.stage.declaration?)
          = (blurred (parts.flatMap Prod.snd)).filterMap Note.declaration? := by
      intro parts arrival r told
      rw [← declarations]
      exact (parts_show told rfl step_declarations).symm
    rw [course.ordered.declared, course'.ordered.declared, shown course.told, shown course'.told,
      notes_agree course course' done done' later later']

end Ends

section Repeated

variable {plan : Plan} {s : Source} {w v u v' : World} {parts parts' : List Part}
  {arrival arrival' : List Note} {n n' : Nat} {r r' : Run} {i : Nat}
  (source : plan.resolver = s.resolver) (straight : s.cache.Straight)

/-- What a step of a run does to the world, apart from the console: nothing, or what resolving the
key does whose turn it is, or what downloading an artifact does that needs it. -/
inductive Course.Leaves (plan : Plan) (s : Source) (parts : List Part) (n : Nat) (v : World) :
    World → Prop
  | nothing : Leaves plan s parts n v v
  | resolved {key : String} {c : Coordinate} (listed : plan.keys[n]? = some key)
      (parsed : Coordinate.ofString? key = some c) :
      Leaves plan s parts n v ((s.resolve c).perform v).2
  | downloaded {i : Nat} {e : Part} {a : ResolvedArtifact} (found : parts[i]? = some e)
      (opening : e.1.stage = .opening a) : Leaves plan s parts n v ((s.download a).perform v).2

include source in
theorem advance_leaves (course : Course plan s w parts arrival n r v) (next : r.Next i) :
    ∃ u console, Course.Leaves plan s parts n v u ∧
      ((r.advance plan i).run v).2 = { u with console := console } := by
  have task := told_task course.told i
  cases found : parts[i]? with
  | none =>
      rw [found] at task
      rw [run_advance_none task]
      exact ⟨v, v.console, .nothing, rfl⟩
  | some e =>
      rw [found] at task
      obtain ⟨console, left⟩ := advance_world plan e.1 r.progress v
      rw [run_advance_some task, left]
      refine ⟨e.1.stage.leaves plan v, console, ?_, rfl⟩
      have own := stage_of_part course.told found
      have key := course_key course.told found
      cases stage : e.1.stage with
      | named c =>
          have refl : s.Later w.web v.files v.files := later_refl (reached_plain course.reached)
          obtain ⟨fits, -⟩ := course.fits _ refl i e found
          rw [stage] at fits own
          have turn : i = n := by
            rcases next with resolving | packaging
            · exact first_resolving course.ordered resolving
            · obtain ⟨stage', found', kind⟩ := packaging.own
              rw [own] at found'
              cases found'
              cases kind
          rw [Stage.leaves, source]
          dsimp only [Source.resolver]
          exact .resolved (turn ▸ key) fits
      | opening a =>
          rw [Stage.leaves, source]
          dsimp only [Source.resolver]
          exact .downloaded found stage
      | _ => exact .nothing

include straight

theorem leaves_later (families : plan.ProperFamilies s w)
    (course : Course plan s w parts arrival n r v) (leaves : Course.Leaves plan s parts n v u) :
    s.Later w.web v.files u.files := by
  have refl : s.Later w.web v.files v.files := later_refl (reached_plain course.reached)
  cases leaves with
  | nothing => exact refl
  | @resolved key c listed parsed =>
      have family := families key (List.mem_of_getElem? listed) c parsed
      exact (resolve_replays straight family).later v course.reached
  | @downloaded i e a found opening =>
      obtain ⟨fits, -⟩ := course.fits _ refl i e found
      rw [opening] at fits
      obtain ⟨artifact, proper, android⟩ := fits
      exact (download_ends straight course.reached proper android).later

/-- When a run has come to its end, no step of another run that comes later changes a file, or
requests what is in the cache. -/
theorem leaves_stays (first : Course plan s w parts arrival n r v) (done : r.Done)
    (course : Course plan s w parts' arrival' n' r' v') (later : s.Later w.web v.files v'.files)
    (leaves : Course.Leaves plan s parts' n' v' u) : s.Stays v' u := by
  have refl : s.Later w.web v'.files v'.files := later_refl (reached_plain course.reached)
  cases leaves with
  | nothing => exact stays_refl _
  | @resolved key c listed parsed =>
      obtain ⟨e, found⟩ := part_of_key first.told listed
      obtain ⟨fate, ended⟩ := part_done first.told done found
      have less : n' < n := by
        refine Nat.lt_of_not_le fun more => ?_
        have resolving :=
          (first.ordered.resolving n' _ (stage_of_part first.told found)).mpr more
        rw [ended] at resolving
        cases resolving
      obtain ⟨-, -, models⟩ := course.replayed _ refl
      have again := first.still _ later n' key less listed v' course.reached rfl models.symm
      rw [reading_some parsed] at again
      exact again
  | @downloaded i e a found opening =>
      obtain ⟨fits, -⟩ := course.fits _ refl i e found
      rw [opening] at fits
      obtain ⟨artifact, proper, android⟩ := fits
      obtain ⟨e₁, found₁⟩ := part_of_key first.told (course_key course.told found)
      obtain ⟨fate, ended⟩ := part_done first.told done found₁
      have settled := (first.fits _ later i e₁ found₁).1
      rw [ended] at settled
      have ends := download_ends straight course.reached proper android
      have spent : s.Spent w.web v'.files a.coordinate.aarFile := settled a artifact android
      exact ⟨ends.still spent, ends.sameWeb, ends.requests⟩

variable (families : plan.ProperFamilies s w)
include source families

/-- With one worker in each line a run takes its course, and what it finds in the files lasts. -/
theorem course_follow (reached : s.Reached w v) (fresh : v.models = ⟨[]⟩) (schedule : List Turn) :
    (∃ parts arrival n, Course plan s w parts arrival n
      ((Pool.follow plan schedule (.start plan.specification 1 1)).run v).1.run
      ((Pool.follow plan schedule (.start plan.specification 1 1)).run v).2) ∧
      s.Later w.web v.files
        ((Pool.follow plan schedule (.start plan.specification 1 1)).run v).2.files := by
  refine inTurn_follow (I := fun r v' => (∃ parts arrival n, Course plan s w parts arrival n r v') ∧
    s.Later w.web v.files v'.files) ?_ schedule _ v (orderly_start _ 1 1) (inTurn_start _)
    ⟨⟨_, _, _, course_start reached fresh⟩, later_refl (reached_plain reached)⟩
  rintro r v' i next ⟨⟨_, _, _, course⟩, later⟩
  obtain ⟨u, console, leaves, left⟩ := advance_leaves source course next
  refine ⟨course_advance source straight families course next, later_trans later ?_⟩
  rw [left]
  exact (leaves_later straight families course leaves : s.Later w.web v'.files u.files)

/-- A run that comes after one that has come to its end changes no file, and requests nothing that
is in the cache. -/
theorem course_stays (first : Course plan s w parts arrival n r v) (done : r.Done)
    (later : s.Later w.web v.files u.files) (reached : s.Reached w u) (fresh : u.models = ⟨[]⟩)
    (schedule : List Turn) :
    s.Stays u ((Pool.follow plan schedule (.start plan.specification 1 1)).run u).2 := by
  refine (inTurn_follow (I := fun r' v' => (∃ parts' arrival' n',
    Course plan s w parts' arrival' n' r' v') ∧ s.Stays u v') ?_ schedule _ u
    (orderly_start _ 1 1) (inTurn_start _) ⟨⟨_, _, _, course_start reached fresh⟩, stays_refl u⟩).2
  rintro r' v' i next ⟨⟨parts', arrival', n', course⟩, stays⟩
  obtain ⟨u', console, leaves, left⟩ := advance_leaves source course next
  have still := leaves_stays straight first done course (stays.files ▸ later) leaves
  refine ⟨course_advance source straight families course next, stays_trans stays ?_⟩
  rw [left]
  exact ⟨still.files, still.web, still.requests⟩

end Repeated

end MavenImport
