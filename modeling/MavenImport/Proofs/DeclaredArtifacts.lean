/-
# Proofs.DeclaredArtifacts -- whose declaration a declaration is

A resolver is faithful if what it resolves has the coordinate that it was asked for, as a source
is (`source_faithful`).  Then every declaration of a run is that of one declared artifact: it
bears the coordinate that the artifact's key reads, and it was made of the artifact's options
(`told_declaration`).  So no two declarations have one coordinate, if no two keys do
(`told_distinct`).
-/
import Mathlib.Data.List.Nodup
import MavenImport.Proofs.CoordinateLaws
import MavenImport.Proofs.RunLog

namespace MavenImport

set_option autoImplicit false

/-! ## Faithful resolvers -/

/-- What is resolved has the coordinate that was asked for. -/
def Resolver.Faithful (r : Resolver) : Prop :=
  ∀ c w a, ((r.resolve c).perform w).1 = .ok (.ok a) → a.coordinate = c

theorem source_faithful (s : Source) : s.resolver.Faithful := by
  intro c w a answered
  show a.coordinate = c
  have answer : ((s.resolve c).perform w).1 = .ok (.ok a) := answered
  unfold Source.resolve at answer
  rw [Action.perform_bind] at answer
  rcases made : (s.modelOf Source.maxNesting c).perform w with ⟨fault | failure | m, v⟩ <;>
    rw [made] at answer
  · cases answer
  · cases answer
  · cases answer
    rfl

/-- Answers in which what is resolved has the coordinate that was asked for. -/
def Answers.Faithful (answers : Answers) : Prop :=
  ∀ c a, answers.resolve c (.ok (.ok a)) → a.coordinate = c

/-- All answers that a faithful resolver may give. -/
def Answers.faithful : Answers where
  resolve c answer := ∀ a, answer = .ok (.ok a) → a.coordinate = c
  download _ _ := True
  inspect _ _ _ := True

theorem faithful_faithful : Answers.faithful.Faithful := fun _ _ answered => answered _ rfl

theorem within_faithful {plan : Plan} (faithful : plan.resolver.Faithful) (w : World) :
    (plan.answersIn w).Within .faithful where
  resolve c _ answered _ same := faithful c w _ (answered.trans same)
  download _ _ _ := trivial
  inspect _ _ _ _ := trivial

/-! ## Stages of an artifact -/

/-- The coordinate of an artifact, once it has one. -/
def Stage.coordinate? : Stage → Option Coordinate
  | named c => some c
  | resolved a | opening a | inspecting a _ => some a.coordinate
  | ended (.declared _ d) => some d.resolution.coordinate
  | _ => none

/-- A declaration is made of the options of an artifact, and all that happens at the end of its
way is noted. -/
structure Plan.Declares (plan : Plan) (config : ArtifactConfig) (path : Path) (d : Declared)
    (notes : List Note) : Prop where
  config : d.resolution.config = config
  made : ∃ labels, plan.labels d.resolution = .ok labels ∧
    plan.entry d.resolution labels = (path, d)
  noted : ∀ n ∈ plan.finishNotes d.resolution, n ∈ notes

section Stories

variable {plan : Plan} {answers : Answers} {key : String} {config : ArtifactConfig}
  {notes : List Note} {stage stage' : Stage}

theorem finishStage_coordinate {r : Resolution} {c : Coordinate}
    (here : (plan.finishStage r).coordinate? = some c) : r.coordinate = c := by
  unfold Plan.finishStage at here
  cases made : plan.labels r with
  | ok labels => rw [made] at here; exact Option.some.inj here
  | error f => rw [made] at here; cases here

theorem finishStage_declares {r : Resolution} {path : Path} {d : Declared}
    (here : plan.finishStage r = .ended (.declared path d)) :
    plan.Declares r.config path d (plan.finishNotes r) := by
  unfold Plan.finishStage at here
  cases made : plan.labels r with
  | ok labels =>
      rw [made] at here
      simp only [Stage.ended.injEq, Fate.declared.injEq] at here
      obtain ⟨rfl, rfl⟩ := here
      exact ⟨rfl, ⟨labels, made, rfl⟩, fun _ noted => noted⟩
  | error f => rw [made] at here; cases here

/-- The coordinate of an artifact stays the one that its key reads. -/
theorem step_coordinate (faithful : answers.Faithful)
    (step : Task.Step plan answers key config stage notes stage')
    (before : ∀ c, stage.coordinate? = some c → Coordinate.ofString? key = some c) :
    ∀ c, stage'.coordinate? = some c → Coordinate.ofString? key = some c := by
  intro c here
  cases step with
  | named parsed =>
      cases here
      exact parsed
  | resolved answer =>
      cases here
      exact before _ (congrArg some (faithful _ _ answer).symm)
  | library _ => exact before c (congrArg some (finishStage_coordinate here))
  | file _ _ => exact before c (congrArg some (finishStage_coordinate here))
  | inspected _ => exact before c (congrArg some (finishStage_coordinate here))
  | android _ _ => exact before c here
  | delivered _ _ => exact before c here
  | rested => exact before c here
  | _ => cases here

theorem story_coordinate (faithful : answers.Faithful)
    (story : Task.Story plan answers key config notes stage) :
    ∀ c, stage.coordinate? = some c → Coordinate.ofString? key = some c := by
  induction story with
  | start => exact fun c here => by cases here
  | next _ step ih => exact step_coordinate faithful step ih

theorem story_declares {path : Path} {d : Declared}
    (story : Task.Story plan answers key config notes stage)
    (here : stage = .ended (.declared path d)) : plan.Declares config path d notes := by
  have more : ∀ {config : ArtifactConfig} {notes notes' : List Note},
      plan.Declares config path d notes → (∀ n ∈ notes, n ∈ notes') →
        plan.Declares config path d notes' :=
    fun made among => ⟨made.config, made.made, fun n noted => among n (made.noted n noted)⟩
  induction story with
  | start => cases here
  | next _ step ih =>
      cases step with
      | library _ =>
          exact more (finishStage_declares here) fun n noted =>
            List.mem_append_right _ (List.mem_cons_of_mem _ noted)
      | file _ _ =>
          exact more (finishStage_declares here) fun n noted =>
            List.mem_append_right _ (List.mem_append_right _ noted)
      | inspected _ =>
          exact more (finishStage_declares here) fun n noted => List.mem_append_right _ noted
      | rested => exact more (ih here) fun n noted => List.mem_append_left _ noted
      | _ => cases here

end Stories

/-! ## The declarations of a run -/

section Told

variable {plan : Plan} {answers : Answers} {parts : List Part} {arrival : List Note} {r : Run}

theorem declaration_eq_some {stage : Stage} {path : Path} {d : Declared} :
    stage.declaration? = some (path, d) ↔ stage = .ended (.declared path d) := by
  rcases stage with _ | _ | _ | _ | _ | (_ | _ | _ | _) <;> simp [Stage.declaration?]

/-- A declaration that was kept is what the way of one of the artifacts led to. -/
theorem told_story (told : r.Told plan answers parts arrival) {path : Path} {d : Declared}
    (kept : (path, d) ∈ r.progress.declared) :
    ∃ e ∈ plan.specification.artifacts, ∃ notes,
      Task.Story plan answers e.1 e.2 notes (.ended (.declared path d)) ∧
        ∀ n ∈ notes, n ∈ arrival := by
  obtain ⟨t, listed, declared⟩ := List.mem_filterMap.mp ((told_declared told).mem_iff.mp kept)
  obtain ⟨notes, story, arrived⟩ := told_part told listed
  rw [declaration_eq_some.mp declared] at story
  refine ⟨(t.key, t.config), ?_, notes, story, arrived⟩
  rw [← told.artifacts]
  rw [told.tasks] at listed
  obtain ⟨e, member, rfl⟩ := List.mem_map.mp listed
  exact List.mem_map_of_mem member

/-- A declaration that was kept is that of one of the declared artifacts. -/
theorem told_declaration (told : r.Told plan answers parts arrival) (faithful : answers.Faithful)
    {path : Path} {d : Declared} (kept : (path, d) ∈ r.progress.declared) :
    ∃ e ∈ plan.specification.artifacts, Coordinate.ofString? e.1 = some d.resolution.coordinate ∧
      plan.Declares e.2 path d arrival := by
  obtain ⟨e, artifact, notes, story, arrived⟩ := told_story told kept
  have named := story_coordinate faithful story d.resolution.coordinate rfl
  have made := story_declares story rfl
  exact ⟨e, artifact, named, made.config, made.made, fun n noted => arrived n (made.noted n noted)⟩

theorem filterMap_sublist {α β : Type} {f g : α → Option β} :
    ∀ {l : List α}, (∀ x ∈ l, ∀ y, f x = some y → g x = some y) →
      (l.filterMap f).Sublist (l.filterMap g)
  | [], _ => .slnil
  | x :: l, within => by
      have rest := filterMap_sublist fun x' later => within x' (List.mem_cons_of_mem x later)
      rw [List.filterMap_cons, List.filterMap_cons]
      cases here : f x with
      | none =>
          cases g x with
          | none => exact rest
          | some y => exact rest.cons y
      | some y =>
          rw [within x List.mem_cons_self y here]
          exact rest.cons_cons y

/-- The declarations have coordinates that are read from different keys. -/
theorem told_coordinates (told : r.Told plan answers parts arrival) (faithful : answers.Faithful) :
    ∃ cs, (r.progress.declared.map fun e => e.2.resolution.coordinate).Perm cs ∧
      cs.Sublist (plan.specification.artifacts.filterMap fun e => Coordinate.ofString? e.1) := by
  refine ⟨_, (told_declared told).map fun e => e.2.resolution.coordinate, ?_⟩
  rw [List.map_filterMap, told.tasks, ← told.artifacts, List.filterMap_map, List.filterMap_map]
  refine filterMap_sublist fun e listed c here => ?_
  obtain ⟨⟨path, d⟩, declared, rfl⟩ := Option.map_eq_some_iff.mp here
  have ended := declaration_eq_some.mp declared
  exact story_coordinate faithful (told.stories e listed) _ (by rw [ended]; rfl)

/-- If the keys read different coordinates, the declarations have different ones. -/
theorem told_distinct (told : r.Told plan answers parts arrival) (faithful : answers.Faithful)
    (distinct : (plan.specification.artifacts.filterMap fun e => Coordinate.ofString? e.1).Nodup) :
    (r.progress.declared.map fun e => e.2.coordinate).Nodup := by
  obtain ⟨cs, read, among⟩ := told_coordinates told faithful
  have kept := read.nodup_iff.mpr (distinct.sublist among)
  -- coordinates that were read from keys are told apart by their texts
  have plain : ∀ c ∈ r.progress.declared.map fun e => e.2.resolution.coordinate, c.Plain := by
    intro c listed
    obtain ⟨⟨path, d⟩, member, rfl⟩ := List.mem_map.mp listed
    obtain ⟨e, -, parsed, -⟩ := told_declaration told faithful member
    exact ofString_plain parsed
  have texts : r.progress.declared.map (fun e => e.2.coordinate)
      = (r.progress.declared.map fun e => e.2.resolution.coordinate).map Coordinate.text := by
    rw [List.map_map]
    rfl
  rw [texts]
  exact kept.map_on fun c listed c' listed' same =>
    text_injective (plain c listed) (plain c' listed') same

end Told

end MavenImport
