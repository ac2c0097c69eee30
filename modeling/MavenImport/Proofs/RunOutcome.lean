/-
# Proofs.RunOutcome -- what a run comes to does not depend on its schedule

A step of a task is settled by the answers to what it asks (`step_unique`), and so is its whole
way (`story_unique`).  A resolver is steady if it answers the same in every world that calls lead
to (`Resolver.Steady`).  Then two schedules that bring all tasks to their ends bring them there
with the same notes, so that the notes of the runs differ in their order alone
(`told_unique`), and no view of the progress tells them apart (`alike_told`).
-/
import MavenImport.Proofs.FilesAlike
import MavenImport.Proofs.PoolOrder

namespace MavenImport

set_option autoImplicit false

/-! ## The way of a task is settled by the answers -/

/-- There is one answer at most to each question. -/
structure Answers.Single (answers : Answers) : Prop where
  resolve : ∀ c x y, answers.resolve c x → answers.resolve c y → x = y
  download : ∀ a x y, answers.download a x → answers.download a y → x = y
  inspect : ∀ a file x y, answers.inspect a file x → answers.inspect a file y → x = y

/-- The rest of the way of a task, from a stage to its end. -/
inductive Task.Rest (plan : Plan) (answers : Answers) (key : String) (config : ArtifactConfig) :
    Stage → List Note → Fate → Prop
  | here (fate : Fate) : Rest plan answers key config (.ended fate) [] fate
  | step {stage stage' : Stage} {notes more : List Note} {fate : Fate}
      (first : Task.Step plan answers key config stage notes stage')
      (later : Rest plan answers key config stage' more fate) :
      Rest plan answers key config stage (notes ++ more) fate

theorem finishStage_ended (plan : Plan) (r : Resolution) :
    ∃ fate, plan.finishStage r = .ended fate := by
  unfold Plan.finishStage
  cases plan.labels r with
  | ok labels => exact ⟨_, rfl⟩
  | error f => exact ⟨_, rfl⟩

section Settled

variable {plan : Plan} {answers : Answers} {key : String} {config : ArtifactConfig}
  {notes notes' : List Note} {stage stage₁ stage₂ : Stage}

theorem step_unique (single : answers.Single)
    (one : Task.Step plan answers key config stage notes stage₁)
    (other : Task.Step plan answers key config stage notes' stage₂) :
    notes = notes' ∧ stage₁ = stage₂ := by
  cases one with
  | named parsed =>
      cases other with
      | named parsed' =>
          rw [parsed] at parsed'
          cases parsed'
          exact ⟨rfl, rfl⟩
      | malformed refused => rw [parsed] at refused; cases refused
  | malformed refused =>
      cases other with
      | named parsed => rw [refused] at parsed; cases parsed
      | malformed _ => exact ⟨rfl, rfl⟩
  | faulted answer =>
      cases other with
      | faulted _ => exact ⟨rfl, rfl⟩
      | unresolved answer' => cases single.resolve _ _ _ answer answer'
      | resolved answer' => cases single.resolve _ _ _ answer answer'
  | unresolved answer =>
      cases other with
      | faulted answer' => cases single.resolve _ _ _ answer answer'
      | unresolved answer' =>
          cases single.resolve _ _ _ answer answer'
          exact ⟨rfl, rfl⟩
      | resolved answer' => cases single.resolve _ _ _ answer answer'
  | resolved answer =>
      cases other with
      | faulted answer' => cases single.resolve _ _ _ answer answer'
      | unresolved answer' => cases single.resolve _ _ _ answer answer'
      | resolved answer' =>
          cases single.resolve _ _ _ answer answer'
          exact ⟨rfl, rfl⟩
  | library classes =>
      cases other with
      | library _ => exact ⟨rfl, rfl⟩
      | android noClasses _ => rw [classes] at noClasses; cases noClasses
      | file noClasses _ => rw [classes] at noClasses; cases noClasses
  | android noClasses aar =>
      cases other with
      | library classes => rw [classes] at noClasses; cases noClasses
      | android _ _ => exact ⟨rfl, rfl⟩
      | file _ noAar => exact absurd aar noAar
  | file noClasses noAar =>
      cases other with
      | library classes => rw [classes] at noClasses; cases noClasses
      | android _ aar => exact absurd aar noAar
      | file _ _ => exact ⟨rfl, rfl⟩
  | undelivered answered missing =>
      cases other with
      | undelivered _ _ => exact ⟨rfl, rfl⟩
      | delivered answered' found =>
          have none := missing _ (single.download _ _ _ answered answered')
          rw [found] at none
          cases none
  | delivered answered found =>
      cases other with
      | undelivered answered' missing =>
          have none := missing _ (single.download _ _ _ answered' answered)
          rw [found] at none
          cases none
      | delivered answered' found' =>
          cases single.download _ _ _ answered answered'
          rw [found] at found'
          cases found'
          exact ⟨rfl, rfl⟩
  | unusable answered wrong =>
      cases other with
      | unusable _ _ => exact ⟨rfl, rfl⟩
      | inspected answered' => exact absurd (single.inspect _ _ _ _ answered answered') (wrong _)
  | inspected answered =>
      cases other with
      | unusable answered' wrong =>
          exact absurd (single.inspect _ _ _ _ answered' answered) (wrong _)
      | inspected answered' =>
          cases single.inspect _ _ _ _ answered answered'
          exact ⟨rfl, rfl⟩
  | rested =>
      cases other with
      | rested => exact ⟨rfl, rfl⟩

theorem rest_ended {fate fate' : Fate} (rest : Task.Rest plan answers key config stage notes fate)
    (ended : stage = .ended fate') : notes = [] ∧ fate = fate' := by
  induction rest with
  | here fate =>
      cases ended
      exact ⟨rfl, rfl⟩
  | step first _ ih =>
      subst ended
      cases first with
      | rested => exact ih rfl

theorem rest_unique {fate fate' : Fate} (single : answers.Single)
    (one : Task.Rest plan answers key config stage notes fate)
    (other : Task.Rest plan answers key config stage notes' fate') :
    notes = notes' ∧ fate = fate' := by
  induction one generalizing notes' with
  | here fate =>
      obtain ⟨none, same⟩ := rest_ended other rfl
      exact ⟨none.symm, same.symm⟩
  | @step stage stage₁ notes more fate first later ih =>
      cases other with
      | here => exact rest_ended (.step first later) rfl
      | step first' later' =>
          obtain ⟨rfl, rfl⟩ := step_unique single first first'
          obtain ⟨same, ends⟩ := ih later'
          exact ⟨by rw [same], ends⟩

/-- A story goes on to the end that the rest of the way leads to. -/
theorem story_rest {fate : Fate} (story : Task.Story plan answers key config notes stage) :
    ∀ {more}, Task.Rest plan answers key config stage more fate →
      Task.Rest plan answers key config .listed (notes ++ more) fate := by
  induction story with
  | start => exact fun rest => rest
  | next before step ih =>
      intro more rest
      rw [List.append_assoc]
      exact ih (.step step rest)

/-- A task comes to its end in one way only. -/
theorem story_unique {fate fate' : Fate} (single : answers.Single)
    (one : Task.Story plan answers key config notes (.ended fate))
    (other : Task.Story plan answers key config notes' (.ended fate')) :
    notes = notes' ∧ fate = fate' := by
  have same := rest_unique single (story_rest one (.here fate)) (story_rest other (.here fate'))
  rwa [List.append_nil, List.append_nil] at same

/-- The file of a library is inspected after it was asked for and delivered. -/
theorem story_inspecting {a : ResolvedArtifact} {file : Path}
    (story : Task.Story plan answers key config notes (.inspecting a file)) :
    Note.asked (.download a) ∈ notes ∧
      ∃ status, answers.download a (.ok status) ∧ status.file? = some file := by
  generalize reached : Stage.inspecting a file = stage at story
  cases story with
  | start => cases reached
  | next _ step =>
      have other : ∀ r, Stage.inspecting a file ≠ plan.finishStage r := by
        intro r same
        obtain ⟨fate, ended⟩ := finishStage_ended plan r
        rw [ended] at same
        cases same
      cases step with
      | library _ => exact absurd reached (other _)
      | file _ _ => exact absurd reached (other _)
      | inspected _ => exact absurd reached (other _)
      | delivered answered found =>
          cases reached
          exact ⟨List.mem_append_right _ List.mem_cons_self, _, answered, found⟩
      | _ => cases reached

end Settled

/-! ## The answers of a run -/

/-- What is answered wherever calls lead to from a world is among some answers.  A file is
inspected in a world to which a call led that delivered it. -/
structure Answers.Cover (answers : Answers) (plan : Plan) (w : World) : Prop where
  resolve : ∀ {calls v}, plan.resolver.Leads w calls v → ∀ c,
    answers.resolve c ((plan.resolver.resolve c).perform v).1
  download : ∀ {calls v}, plan.resolver.Leads w calls v → ∀ a,
    answers.download a ((plan.resolver.download a).perform v).1
  inspect : ∀ {calls v}, plan.resolver.Leads w calls v → ∀ a file status,
    .download a ∈ calls → answers.download a (.ok status) → status.file? = some file →
      answers.inspect a file (Aar.inspect (v.files.readFile file))

section Cover

variable {plan : Plan} {answers : Answers} {w : World} (cover : answers.Cover plan w)
include cover

/-- From the world on which a run starts, all its steps are steps by the same answers. -/
theorem cover_admits {parts : List Part} {arrival : List Note} {r : Run} {v : World}
    (told : r.Told plan answers parts arrival)
    (leads : plan.resolver.Leads w (callsOf arrival) v) :
    ∀ e ∈ parts, ∀ more stage,
      Task.Step plan (plan.answersIn v) e.1.key e.1.config e.1.stage more stage →
        Task.Step plan answers e.1.key e.1.config e.1.stage more stage := by
  intro e listed more stage step
  have story := told.stories e listed
  -- what is inspected was asked for among the calls that led to this world
  have inspects : ∀ a file answer, e.1.stage = .inspecting a file →
      Aar.inspect (v.files.readFile file) = answer → answers.inspect a file answer := by
    rintro a file answer reached rfl
    rw [reached] at story
    obtain ⟨asked, status, delivered, found⟩ := story_inspecting story
    have arrived : Note.asked (.download a) ∈ arrival :=
      told.arrived.mem_iff.mpr (List.mem_flatMap.mpr ⟨e, listed, asked⟩)
    exact cover.inspect leads a file status (List.mem_filterMap.mpr ⟨_, arrived, rfl⟩) delivered
      found
  have resolves : ∀ c answer, (plan.answersIn v).resolve c answer → answers.resolve c answer := by
    rintro c _ rfl
    exact cover.resolve leads c
  have downloads : ∀ a answer, (plan.answersIn v).download a answer →
      answers.download a answer := by
    rintro a _ rfl
    exact cover.download leads a
  exact step_admitted resolves downloads inspects step

/-- A run is told by the same answers all along. -/
theorem cover_told (schedule : List Turn) (m n : Nat) :
    ∃ parts arrival,
      ((Pool.follow plan schedule (.start plan.specification m n)).run w).1.run.Told plan
          answers parts arrival ∧
        plan.resolver.Leads w (callsOf arrival)
          ((Pool.follow plan schedule (.start plan.specification m n)).run w).2 := by
  refine follow_invariant (I := fun r v => ∃ parts arrival,
    r.Told plan answers parts arrival ∧ plan.resolver.Leads w (callsOf arrival) v)
    ?_ schedule _ w ⟨_, _, told_start plan _, .start⟩
  rintro r v i ⟨parts, arrival, told, leads⟩
  obtain ⟨parts', more, told', led⟩ := told_advance told i v (cover_admits cover told leads)
  refine ⟨parts', arrival ++ more, told', ?_⟩
  rw [callsOf_append]
  exact leads_trans leads led

end Cover

/-! ## Steady resolvers -/

/-- A resolver answers what it answers in a world wherever calls lead to from there.  The files
that it delivered stay as they are, and what it does to the files does not depend on the order of
calls. -/
structure Resolver.Steady (r : Resolver) (w : World) : Prop where
  resolve : ∀ {calls v}, r.Leads w calls v → ∀ c,
    ((r.resolve c).perform v).1 = ((r.resolve c).perform w).1
  download : ∀ {calls v}, r.Leads w calls v → ∀ a,
    ((r.download a).perform v).1 = ((r.download a).perform w).1
  delivered : ∀ {calls calls' v v'}, r.Leads w calls v → r.Leads w calls' v' →
    ∀ a status file, ((r.download a).perform w).1 = .ok status → status.file? = some file →
      .download a ∈ calls → .download a ∈ calls' → v.files.readFile file = v'.files.readFile file
  files : ∀ {calls calls' v v'}, r.Leads w calls v → r.Leads w calls' v' → calls.Perm calls' →
    v.files.Alike v'.files

/-- The answers that a steady resolver gives from a world on.  A file is inspected in a world to
which a call led that delivered it. -/
def Plan.answersFrom (plan : Plan) (w : World) : Answers where
  resolve c answer := ((plan.resolver.resolve c).perform w).1 = answer
  download a answer := ((plan.resolver.download a).perform w).1 = answer
  inspect a file answer := ∃ calls v status, plan.resolver.Leads w calls v ∧ .download a ∈ calls ∧
    ((plan.resolver.download a).perform w).1 = .ok status ∧ status.file? = some file ∧
    Aar.inspect (v.files.readFile file) = answer

section Steady

variable {plan : Plan} {w : World} (steady : plan.resolver.Steady w)
include steady

theorem steady_single : (plan.answersFrom w).Single where
  resolve _ _ _ one other := one.symm.trans other
  download _ _ _ one other := one.symm.trans other
  inspect a file x y one other := by
    obtain ⟨calls, v, status, leads, asked, answered, found, rfl⟩ := one
    obtain ⟨calls', v', -, leads', asked', -, -, rfl⟩ := other
    rw [steady.delivered leads leads' a status file answered found asked asked']

theorem steady_cover : (plan.answersFrom w).Cover plan w where
  resolve leads c := (steady.resolve leads c).symm
  download leads a := (steady.download leads a).symm
  inspect leads _ _ status asked answered found :=
    ⟨_, _, status, leads, asked, answered, found, rfl⟩

/-- With a steady resolver a run is told by the same answers all along. -/
theorem steady_told (schedule : List Turn) (m n : Nat) :
    ∃ parts arrival,
      ((Pool.follow plan schedule (.start plan.specification m n)).run w).1.run.Told plan
          (plan.answersFrom w) parts arrival ∧
        plan.resolver.Leads w (callsOf arrival)
          ((Pool.follow plan schedule (.start plan.specification m n)).run w).2 :=
  cover_told (steady_cover steady) schedule m n

end Steady

/-! ## Two runs -/

/-- Ledgers are alike if they have entries under the same slugs, which hold the same versions and
the same dependants. -/
structure Ledger.Alike (l l' : Ledger) : Prop where
  slugs : ∀ slug, (l.find? slug).isSome ↔ (l'.find? slug).isSome
  versions : ∀ slug version, version ∈ l.versionsOf slug ↔ version ∈ l'.versionsOf slug
  dependants : ∀ slug owner, owner ∈ l.dependantsOf slug ↔ owner ∈ l'.dependantsOf slug

/-- Progress is alike if it differs in the order of arrival alone. -/
structure Progress.Alike (p p' : Progress) : Prop where
  failed : p.failed = p'.failed
  resolvedCount : p.resolvedCount = p'.resolvedCount
  declaredSlugs : ∀ slug, slug ∈ p.declaredSlugs ↔ slug ∈ p'.declaredSlugs
  unresolved : p.unresolved.Perm p'.unresolved
  declared : p.declared.Perm p'.declared
  ledger : p.ledger.Alike p'.ledger

theorem alike_recordThese {records records' : List (String × String × Option String)}
    (perm : records.Perm records') {l : Ledger} :
    (l.recordThese records).Alike (l.recordThese records') where
  slugs slug := by
    rw [Ledger.find?_recordThese, Ledger.find?_recordThese]
    simp only [perm.mem_iff]
  versions slug version := by
    rw [Ledger.versionsOf_recordThese, Ledger.versionsOf_recordThese]
    simp only [perm.mem_iff]
  dependants slug owner := by
    rw [Ledger.dependantsOf_recordThese, Ledger.dependantsOf_recordThese]
    simp only [perm.mem_iff]

theorem alike_noteAll {notes notes' : List Note} (perm : notes.Perm notes') :
    (({} : Progress).noteAll notes).Alike (({} : Progress).noteAll notes') where
  failed := by
    rw [noteAll_failed, noteAll_failed, perm.any_eq]
  resolvedCount := by
    rw [noteAll_resolvedCount, noteAll_resolvedCount, perm.countP_eq]
  declaredSlugs slug := by
    rw [mem_declaredSlugs, mem_declaredSlugs]
    simp only [perm.mem_iff]
  unresolved := by
    rw [noteAll_unresolved, noteAll_unresolved]
    exact (perm.filterMap _).append_left _
  declared := by
    rw [noteAll_declared, noteAll_declared]
    exact (perm.filterMap _).append_left _
  ledger := by
    rw [noteAll_ledger, noteAll_ledger]
    exact alike_recordThese (perm.filterMap _)

section Two

variable {plan : Plan} {answers : Answers}

/-- Parts that have come to their ends by the same answers are the same. -/
theorem parts_unique (single : answers.Single) :
    ∀ {parts parts' : List Part},
      parts.map (fun e => (e.1.key, e.1.config)) = parts'.map (fun e => (e.1.key, e.1.config)) →
      (∀ e ∈ parts, Task.Story plan answers e.1.key e.1.config e.2 e.1.stage ∧
        ∃ fate, e.1.stage = .ended fate) →
      (∀ e ∈ parts', Task.Story plan answers e.1.key e.1.config e.2 e.1.stage ∧
        ∃ fate, e.1.stage = .ended fate) → parts = parts'
  | [], [], _, _, _ => rfl
  | [], _ :: _, same, _, _ => by cases same
  | _ :: _, [], same, _, _ => by cases same
  | ⟨⟨key, config, stage⟩, notes⟩ :: parts, ⟨⟨key', config', stage'⟩, notes'⟩ :: parts', same,
      one, other => by
      simp only [List.map_cons, List.cons.injEq, Prod.mk.injEq] at same
      obtain ⟨⟨rfl, rfl⟩, later⟩ := same
      obtain ⟨story, fate, ended⟩ := one _ List.mem_cons_self
      obtain ⟨story', fate', ended'⟩ := other _ List.mem_cons_self
      dsimp only at story story' ended ended'
      subst ended ended'
      obtain ⟨rfl, rfl⟩ := story_unique single story story'
      rw [parts_unique single later (fun e listed => one e (List.mem_cons_of_mem _ listed))
        fun e listed => other e (List.mem_cons_of_mem _ listed)]

/-- Runs that have come to their ends by the same answers were told the same. -/
theorem told_unique (single : answers.Single) {parts parts' : List Part}
    {arrival arrival' : List Note} {r r' : Run} (told : r.Told plan answers parts arrival)
    (told' : r'.Told plan answers parts' arrival') (done : r.Done) (done' : r'.Done) :
    arrival.Perm arrival' := by
  have ends : ∀ {parts arrival r}, Run.Told plan answers parts arrival r → r.Done → ∀ e ∈ parts,
      Task.Story plan answers e.1.key e.1.config e.2 e.1.stage ∧
        ∃ fate, e.1.stage = .ended fate := by
    intro parts arrival r told done e listed
    refine ⟨told.stories e listed, done e.1 ?_⟩
    rw [told.tasks]
    exact List.mem_map_of_mem listed
  have same : parts = parts' := parts_unique single (told.artifacts.trans told'.artifacts.symm)
    (ends told done) (ends told' done')
  subst same
  exact told.arrived.trans told'.arrived.symm

theorem alike_told {parts parts' : List Part} {arrival arrival' : List Note} {r r' : Run}
    (told : r.Told plan answers parts arrival) (told' : r'.Told plan answers parts' arrival')
    (perm : arrival.Perm arrival') : r.progress.Alike r'.progress := by
  rw [told.progress, told'.progress]
  exact alike_noteAll perm

end Two

/-- Two schedules of a plan with a steady resolver, with whatever numbers of workers: if both
bring the pool to its return, the runs come to the same, and so do the files. -/
theorem pools_alike {plan : Plan} {w : World} (steady : plan.resolver.Steady w)
    (schedule schedule' : List Turn) (m n m' n' : Nat)
    (returned : ((Pool.follow plan schedule (.start plan.specification m n)).run w).1.phase
      = .returned)
    (returned' : ((Pool.follow plan schedule' (.start plan.specification m' n')).run w).1.phase
      = .returned) :
    ((Pool.follow plan schedule (.start plan.specification m n)).run w).1.run.progress.Alike
        ((Pool.follow plan schedule' (.start plan.specification m' n')).run w).1.run.progress ∧
      ((Pool.follow plan schedule (.start plan.specification m n)).run w).2.files.Alike
        ((Pool.follow plan schedule' (.start plan.specification m' n')).run w).2.files := by
  obtain ⟨parts, arrival, told, leads⟩ := steady_told steady schedule m n
  obtain ⟨parts', arrival', told', leads'⟩ := steady_told steady schedule' m' n'
  have done := ended_returned (orderly_reached (follow_reaches plan schedule _ w)) returned
  have done' := ended_returned (orderly_reached (follow_reaches plan schedule' _ w)) returned'
  have perm := told_unique (steady_single steady) told told' done done'
  exact ⟨alike_told told told' perm, steady.files leads leads' (perm.filterMap _)⟩

end MavenImport
