/-
# Proofs.RequestedFiles -- which files repositories are asked for

A source asks its repositories for the file of an artifact that is not in its cache
(`Source.Requests`).  To resolve a coordinate is to ask for POMs of coordinates that it refers to,
each in a world that loading such POMs leads to, and to download an artifact is to ask for its main
file (`Source.Wants`).  An artifact that is fetched is resolved and downloaded (`Source.Seeks`).

A run resolves what its keys name, and downloads what that was resolved to (`Plan.Makes`).
Whoever's turn it is, it comes to no worlds but those that such calls lead to (`follow_comes`), so
these say which files a run may ask for (`Plan.Wants`).
-/
import MavenImport.Proofs.CacheGrowth
import MavenImport.Proofs.ModelInvariants
import MavenImport.Proofs.RunOutcome

namespace MavenImport

set_option autoImplicit false

/-! ## What a source asks for -/

namespace Source

/-- To fetch the file of an artifact is to send requests. -/
def Requests (s : Source) (w : World) (x : ArtifactFile) : Prop :=
  ((s.fetch x.path x.coordinate.isSnapshot).perform w).2.requested ≠ w.requested

/-- A call may send requests for the file of an artifact. -/
inductive Wants (s : Source) (w : World) : Call → ArtifactFile → Prop
  | pom {c d : Coordinate} {v : World} (refers : s.Refers w c d)
      (comes : s.ComesTo w (s.Refers w c) v) (requests : s.Requests v d.pomFile) :
      Wants s w (.resolve c) d.pomFile
  | main {a : ResolvedArtifact} (requests : s.Requests w a.mainFile) :
      Wants s w (.download a) a.mainFile

/-- To fetch an artifact may be to send requests for a file: to resolve it, and to download what it
is resolved to. -/
inductive Seeks (s : Source) (w : World) (spec : String) (x : ArtifactFile) : Prop
  | resolving {c : Coordinate} (parsed : Coordinate.ofString? spec = some c)
      (wants : s.Wants w (.resolve c) x) : Seeks s w spec x
  | downloading {c : Coordinate} {a : ResolvedArtifact} {v : World}
      (parsed : Coordinate.ofString? spec = some c)
      (resolved : (s.resolve c).perform w = (.ok (.ok a), v)) (wants : s.Wants v (.download a) x) :
      Seeks s w spec x

end Source

section Requests

variable {s : Source} {w : World}

theorem receive_requests (s : Source) (path : String) (delivery : Delivery) (w : World) :
    ((s.receive path delivery).perform w).2.requested = w.requested := by
  cases delivery with
  | nothing status => rfl
  | broken fault => rfl
  | content r body =>
      rw [Source.receive, Action.perform_bind, Action.perform_change]
      cases w.files.replaceFile (s.localFile path) body <;> rfl

/-- The addresses that are asked for a file that is not there are requested. -/
theorem requests_of_inquiry {x : ArtifactFile}
    (absent : w.files.pathExists (s.localFile x.path) = .ok false)
    (asked : (s.inquire w.web x.path [] (s.admitted x.coordinate.isSnapshot)).urls ≠ []) :
    s.Requests w x := by
  intro same
  rw [fetch_eq, absent] at same
  dsimp only at same
  rw [receive_requests] at same
  simp [asked] at same

end Requests

/-! ## What a run asks for -/

/-- A coordinate that a key of the specification reads. -/
def Specification.Names (spec : Specification) (c : Coordinate) : Prop :=
  ∃ e ∈ spec.artifacts, Coordinate.ofString? e.1 = some c

/-- The artifact that a stage is about. -/
def Stage.artifact? : Stage → Option ResolvedArtifact
  | resolved a | opening a | inspecting a _ => some a
  | _ => none

namespace Plan

/-- The worlds to which a run leads that resolves what its keys name, and downloads what it was
answered somewhere before. -/
inductive Comes (plan : Plan) (w : World) : World → Prop
  | start : Comes plan w w
  | resolved {v : World} {c : Coordinate} (before : Comes plan w v)
      (named : plan.specification.Names c) : Comes plan w ((plan.resolver.resolve c).perform v).2
  | downloaded {v u : World} {c : Coordinate} {a : ResolvedArtifact} (before : Comes plan w v)
      (earlier : Comes plan w u) (named : plan.specification.Names c)
      (answered : ((plan.resolver.resolve c).perform u).1 = .ok (.ok a)) :
      Comes plan w ((plan.resolver.download a).perform v).2
  | printed {v : World} (before : Comes plan w v) (console : Console) :
      Comes plan w { v with console := console }

/-- The calls of a run. -/
def Makes (plan : Plan) (w : World) : Call → Prop
  | .resolve c => plan.specification.Names c
  | .download a => ∃ c u, plan.specification.Names c ∧ plan.Comes w u ∧
      ((plan.resolver.resolve c).perform u).1 = .ok (.ok a)

/-- A run may send requests for the file of an artifact, in one of its calls. -/
def Wants (plan : Plan) (s : Source) (w : World) (x : ArtifactFile) : Prop :=
  ∃ call v, plan.Makes w call ∧ plan.Comes w v ∧ s.Wants v call x

/-- What a stage is about, the run has asked for with its own calls, or it may. -/
structure Grounds (plan : Plan) (w : World) (stage : Stage) : Prop where
  named : ∀ c, stage = .named c → plan.Makes w (.resolve c)
  artifact : ∀ a, stage.artifact? = some a → plan.Makes w (.download a)

/-- The tasks of a run are those of its keys, each at a stage that the calls of the run explain. -/
structure Keeps (plan : Plan) (w : World) (r : Run) : Prop where
  keys : ∀ t ∈ r.tasks, ∃ e ∈ plan.specification.artifacts, e.1 = t.key
  stages : ∀ t ∈ r.tasks, plan.Grounds w t.stage

end Plan

section Comes

variable {plan : Plan} {w v u : World}

/-- Calls of a run lead from a world that it comes to, to another one. -/
theorem comes_leads {calls : List Call} (comes : plan.Comes w v)
    (makes : ∀ call ∈ calls, plan.Makes w call) (leads : plan.resolver.Leads v calls u) :
    plan.Comes w u := by
  induction leads with
  | start => exact comes
  | @called calls u _ call ih =>
      have before := ih fun call listed => makes call (List.mem_append_left _ listed)
      have own : plan.Makes w call := makes call (List.mem_append_right _ List.mem_cons_self)
      cases call with
      | resolve c => exact .resolved before own
      | download a =>
          obtain ⟨c, t, named, earlier, answered⟩ := own
          exact .downloaded before earlier named answered
  | printed _ console ih => exact .printed (ih makes) console

theorem grounds_ended (plan : Plan) (w : World) (fate : Fate) : plan.Grounds w (.ended fate) :=
  ⟨fun _ same => (by cases same), fun _ about => (by cases about)⟩

/-- What a step asks for, the run does; and so it may with what the step comes to. -/
theorem step_grounds {key : String} {config : ArtifactConfig} {stage stage' : Stage}
    {notes : List Note} (comes : plan.Comes w v)
    (listed : ∃ e ∈ plan.specification.artifacts, e.1 = key)
    (step : Task.Step plan (plan.answersIn v) key config stage notes stage')
    (grounds : plan.Grounds w stage) :
    (∀ call ∈ callsOf notes, plan.Makes w call) ∧ plan.Grounds w stage' := by
  have quiet {notes : List Note} (none : callsOf notes = []) :
      ∀ call ∈ callsOf notes, plan.Makes w call := fun call asked => by
    rw [none] at asked
    cases asked
  have asks {call : Call} (own : plan.Makes w call) : ∀ call' ∈ [call], plan.Makes w call' :=
    List.forall_mem_singleton.mpr own
  have finishes (r : Resolution) : plan.Grounds w (plan.finishStage r) := by
    obtain ⟨fate, ended⟩ := finishStage_ended plan r
    exact ended ▸ grounds_ended plan w fate
  cases step with
  | @named c parsed =>
      obtain ⟨e, member, rfl⟩ := listed
      refine ⟨quiet rfl, fun c' same => ?_, fun _ about => (by cases about)⟩
      cases same
      exact ⟨e, member, parsed⟩
  | malformed _ => exact ⟨quiet rfl, grounds_ended plan w _⟩
  | faulted _ => exact ⟨asks (grounds.named _ rfl), grounds_ended plan w _⟩
  | unresolved _ => exact ⟨asks (grounds.named _ rfl), grounds_ended plan w _⟩
  | @resolved c a answered =>
      have own := grounds.named c rfl
      refine ⟨asks own, fun _ same => (by cases same), fun a' about => ?_⟩
      cases about
      exact ⟨c, v, own, comes, answered⟩
  | library _ => exact ⟨quiet (callsOf_finishNotes plan _), finishes _⟩
  | android _ _ =>
      exact ⟨quiet rfl, fun _ same => (by cases same), fun a about => grounds.artifact a about⟩
  | file _ _ =>
      refine ⟨quiet ?_, finishes _⟩
      rw [callsOf_append, callsOf_finishNotes, List.append_nil]
      exact callsOf_unknownNotes plan
  | undelivered _ _ => exact ⟨asks (grounds.artifact _ rfl), grounds_ended plan w _⟩
  | delivered _ _ =>
      exact ⟨asks (grounds.artifact _ rfl), fun _ same => (by cases same),
        fun a about => grounds.artifact a about⟩
  | unusable _ _ => exact ⟨quiet rfl, grounds_ended plan w _⟩
  | inspected _ => exact ⟨quiet (callsOf_finishNotes plan _), finishes _⟩
  | rested => exact ⟨quiet rfl, grounds⟩

/-- A step of a run leads from a world that it comes to, to another one. -/
theorem advance_keeps {r : Run} (i : Nat) (comes : plan.Comes w v) (keeps : plan.Keeps w r) :
    plan.Comes w ((r.advance plan i).run v).2 ∧ plan.Keeps w ((r.advance plan i).run v).1 := by
  cases found : r.tasks[i]? with
  | none =>
      rw [run_advance_none found]
      exact ⟨comes, keeps⟩
  | some t =>
      have member := List.mem_of_getElem? found
      obtain ⟨notes, stage, step, same, leads⟩ := run_advance_explained plan found v
      obtain ⟨makes, grounds⟩ :=
        step_grounds comes (keeps.keys t member) step (keeps.stages t member)
      rw [same]
      refine ⟨comes_leads comes makes leads, fun t' listed => ?_, fun t' listed => ?_⟩
      · rcases List.mem_or_eq_of_mem_set listed with old | rfl
        · exact keeps.keys t' old
        · exact keeps.keys t member
      · rcases List.mem_or_eq_of_mem_set listed with old | rfl
        · exact keeps.stages t' old
        · exact grounds

/-- Whoever's turn it is, a run comes to worlds that its calls lead to. -/
theorem follow_comes (plan : Plan) (schedule : List Turn) (m n : Nat) (w : World) :
    plan.Comes w ((Pool.follow plan schedule (.start plan.specification m n)).run w).2 := by
  have started : plan.Keeps w (Run.start plan.specification) :=
    { keys := fun t listed => by
        obtain ⟨e, member, rfl⟩ := List.mem_map.mp listed
        exact ⟨e, member, rfl⟩
      stages := fun t listed => by
        obtain ⟨e, member, rfl⟩ := List.mem_map.mp listed
        exact ⟨fun _ same => (by cases same), fun _ about => (by cases about)⟩ }
  exact (follow_invariant (I := fun r v => plan.Comes w v ∧ plan.Keeps w r)
    (fun _ _ i held => advance_keeps i held.1 held.2) schedule _ w ⟨.start, started⟩).1

end Comes

end MavenImport
