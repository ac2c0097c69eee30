/-
# Proofs.TaskSteps -- what a step of a task can do

What happens to an artifact is told to the progress of its run in notes, each of which changes
the progress in one way (`Progress.note`).  A step depends on the key and the options of its task
and on what the resolver, or the file of a library, answers; it does not depend on the progress.
`Task.Step` lists what a step can do under given answers, with its notes, and
`advance_explained` says that every step of a task is one of these.

Labels are made the same way whatever the ledger holds (`prepareEdges_eq`), so that the end of
the way is settled by the resolution alone: `Plan.finishNotes` and `Plan.finishStage`.
-/
import MavenImport.Generate.Task
import MavenImport.Proofs.ActionLaws

namespace MavenImport

set_option autoImplicit false

/-! ## Notes -/

/-- What a resolver is asked. -/
inductive Call
  | resolve (c : Coordinate)
  | download (a : ResolvedArtifact)
deriving DecidableEq

/-- One thing that happens to an artifact. -/
inductive Note
  | named (c : Coordinate)
  | failed
  | unresolved (f : ResolutionFailure)
  /-- It is taken up for packaging. -/
  | counted
  /-- A dependency is recorded before its label is made. -/
  | needed (slug version owner : String)
  | declared (path : Path) (d : Declared)
  | asked (call : Call)

namespace Progress

def note (p : Progress) : Note → Progress
  | .named c => p.declareSlug c
  | .failed => p.fail
  | .unresolved f => p.addUnresolved f
  | .counted => p.countResolved
  | .needed slug version owner => { p with ledger := p.ledger.record slug version (some owner) }
  | .declared path d => { p with declared := p.declared ++ [(path, d)] }
  | .asked _ => p

def noteAll (p : Progress) (notes : List Note) : Progress := notes.foldl note p

@[simp] theorem noteAll_nil (p : Progress) : p.noteAll [] = p := rfl

@[simp] theorem noteAll_cons (p : Progress) (n : Note) (notes : List Note) :
    p.noteAll (n :: notes) = (p.note n).noteAll notes := rfl

theorem noteAll_append (p : Progress) (notes more : List Note) :
    p.noteAll (notes ++ more) = (p.noteAll notes).noteAll more :=
  List.foldl_append

end Progress

/-- The calls among notes, in order. -/
def callsOf (notes : List Note) : List Call := notes.filterMap fun
  | .asked call => some call
  | _ => none

theorem callsOf_append (notes more : List Note) :
    callsOf (notes ++ more) = callsOf notes ++ callsOf more :=
  List.filterMap_append

/-! ## The end of the way -/

/-- The dependencies that are recorded while labels are made, up to the first one whose label
cannot be made. -/
def recordedAmong (workspace : String) (substitutes : Json) (group : String) :
    List Dependency → List Dependency
  | [] => []
  | d :: ds => d :: match labelFor workspace substitutes group d with
    | .ok _ => recordedAmong workspace substitutes group ds
    | .error _ => []

/-- The dependencies of an artifact that are recorded. -/
def recordedDependencies (workspace : String) (substitutes : Json) (config : ArtifactConfig)
    (a : ResolvedArtifact) : List Dependency :=
  if config.snippet.isNull ∧ config.deps = [] then
    match substitutesFor substitutes a.coordinate.group, keptDependencies config a with
    | .ok substitutes, .ok kept => recordedAmong workspace substitutes a.coordinate.group kept
    | _, _ => []
  else []

/-- The ledger with a dependency of an artifact. -/
def Ledger.need (owner : Coordinate) (l : Ledger) (d : Dependency) : Ledger :=
  l.record d.slug ((given? d.version).getD unversioned) (some owner.text)

theorem recordAll_eq (workspace : String) (substitutes : Json) (owner : Coordinate) :
    ∀ (ds : List Dependency) (ledger : Ledger),
      recordAll workspace substitutes owner ledger ds
        = ((recordAll workspace substitutes owner .empty ds).1,
          (recordedAmong workspace substitutes owner.group ds).foldl (Ledger.need owner) ledger)
  | [], _ => rfl
  | d :: ds, ledger => by
      unfold recordAll recordedAmong
      cases made : labelFor workspace substitutes owner.group d with
      | error f => rfl
      | ok label =>
          have later := recordAll_eq workspace substitutes owner ds
          simp only [later (Ledger.record _ _ _ _), List.foldl_cons]
          rfl

/-- The labels do not depend on the ledger, and the ledger takes up what is recorded. -/
theorem prepareEdges_eq (workspace : String) (substitutes : Json) (config : ArtifactConfig)
    (a : ResolvedArtifact) (ledger : Ledger) :
    prepareEdges workspace substitutes config a ledger
      = ((prepareEdges workspace substitutes config a .empty).1,
        (recordedDependencies workspace substitutes config a).foldl
          (Ledger.need a.coordinate) ledger) := by
  unfold prepareEdges recordedDependencies
  cases snippet : config.snippet.isNull with
  | false => rfl
  | true =>
      cases substituted : substitutesFor substitutes a.coordinate.group with
      | error f =>
          cases listed : config.deps <;> rfl
      | ok substitutes =>
          cases listed : config.deps with
          | cons _ _ => rfl
          | nil =>
              cases found : keptDependencies config a with
              | error f => rfl
              | ok kept =>
                  simp only [Bool.not_true, Bool.false_eq_true, if_false, List.isEmpty_nil,
                    and_self, if_true]
                  rw [recordAll_eq workspace substitutes a.coordinate kept ledger]

namespace Plan

/-- The labels of an artifact's dependencies. -/
def labels (plan : Plan) (r : Resolution) : Except Fault (List Json) :=
  (prepareEdges plan.specification.name.text plan.specification.substitutes r.config r.artifact
    .empty).1

/-- The declaration that labels make, and the file that it belongs to. -/
def entry (plan : Plan) (r : Resolution) (labels : List Json) : Path × Declared :=
  (buildFilePath plan.workspace r.coordinate.group,
    ⟨r, r.declaration labels
      (plan.specification.jetifies r.coordinate.group r.coordinate.artifact)⟩)

/-- The dependencies of an artifact that are recorded. -/
def recorded (plan : Plan) (r : Resolution) : List Dependency :=
  recordedDependencies plan.specification.name.text plan.specification.substitutes r.config
    r.artifact

/-- The note of a recorded dependency. -/
def needNote (owner : Coordinate) (d : Dependency) : Note :=
  .needed d.slug ((given? d.version).getD unversioned) owner.text

/-- What happens at the end of the way of an artifact. -/
def finishNotes (plan : Plan) (r : Resolution) : List Note :=
  (plan.recorded r).map (needNote r.coordinate) ++ match plan.labels r with
    | .ok labels => [.declared (plan.entry r labels).1 (plan.entry r labels).2]
    | .error _ => [.failed]

/-- How the way of an artifact ends. -/
def finishStage (plan : Plan) (r : Resolution) : Stage :=
  match plan.labels r with
  | .ok labels => .ended (.declared (plan.entry r labels).1 (plan.entry r labels).2)
  | .error _ => .ended .dropped

/-- What is noted of a packaging that has no form of its own. -/
def unknownNotes (plan : Plan) : List Note :=
  if plan.unknownPackaging = .fail then [.failed] else []

end Plan

theorem noteAll_needed (owner : Coordinate) :
    ∀ (ds : List Dependency) (p : Progress),
      p.noteAll (ds.map (Plan.needNote owner))
        = { p with ledger := ds.foldl (Ledger.need owner) p.ledger }
  | [], _ => rfl
  | _ :: ds, _ => noteAll_needed owner ds _

theorem declare_eq (plan : Plan) (r : Resolution) (p : Progress) :
    p.declare plan r = match plan.labels r with
      | .ok labels => (.ok (plan.entry r labels), p.noteAll (plan.finishNotes r))
      | .error f => (.error f,
          p.noteAll ((plan.recorded r).map (Plan.needNote r.coordinate))) := by
  unfold Progress.declare Plan.finishNotes
  simp only [Plan.labels, Progress.noteAll_append, noteAll_needed]
  rw [prepareEdges_eq]
  cases made : (prepareEdges plan.specification.name.text plan.specification.substitutes r.config
    r.artifact .empty).1 <;> rfl

/-! ## Steps -/

/-- Which answers there may be to what a task asks. -/
structure Answers where
  resolve : Coordinate → Except Fault (Except ResolutionFailure ResolvedArtifact) → Prop
  download : ResolvedArtifact → Except Fault FetchStatus → Prop
  /-- What the file of an Android library is found to say. -/
  inspect : ResolvedArtifact → Path → Except Fault (Except AarProblem AarDetails) → Prop

/-- The answers that a world gives. -/
def Plan.answersIn (plan : Plan) (w : World) : Answers where
  resolve c answer := ((plan.resolver.resolve c).perform w).1 = answer
  download a answer := ((plan.resolver.download a).perform w).1 = answer
  inspect _ file answer := Aar.inspect (w.files.readFile file) = answer

/-- What a task with a key and options may do in a step: the stage that it leaves, what is noted,
and the stage that it comes to. -/
inductive Task.Step (plan : Plan) (answers : Answers) (key : String) (config : ArtifactConfig) :
    Stage → List Note → Stage → Prop
  | named {c : Coordinate} (parsed : Coordinate.ofString? key = some c) :
      Step plan answers key config .listed [.named c] (.named c)
  | malformed (refused : Coordinate.ofString? key = none) :
      Step plan answers key config .listed [.failed] (.ended .lost)
  | faulted {c : Coordinate} {fault : Fault} (answer : answers.resolve c (.error fault)) :
      Step plan answers key config (.named c) [.asked (.resolve c), .failed] (.ended .lost)
  | unresolved {c : Coordinate} {f : ResolutionFailure}
      (answer : answers.resolve c (.ok (.error f))) :
      Step plan answers key config (.named c)
        [.asked (.resolve c), .unresolved { f with coordinate := c.text }]
        (.ended (.unresolved { f with coordinate := c.text }))
  | resolved {c : Coordinate} {a : ResolvedArtifact} (answer : answers.resolve c (.ok (.ok a))) :
      Step plan answers key config (.named c) [.asked (.resolve c)] (.resolved a)
  | library {a : ResolvedArtifact} (classes : isClassLibrary a.packaging = true) :
      Step plan answers key config (.resolved a)
        (.counted :: plan.finishNotes ⟨a, config, .library⟩)
        (plan.finishStage ⟨a, config, .library⟩)
  | android {a : ResolvedArtifact} (other : isClassLibrary a.packaging = false)
      (aar : a.packaging = "aar") :
      Step plan answers key config (.resolved a) [.counted] (.opening a)
  | file {a : ResolvedArtifact} (other : isClassLibrary a.packaging = false)
      (noAar : a.packaging ≠ "aar") :
      Step plan answers key config (.resolved a)
        (.counted :: plan.unknownNotes ++ plan.finishNotes ⟨a, config, .file⟩)
        (plan.finishStage ⟨a, config, .file⟩)
  | undelivered {a : ResolvedArtifact} {answer : Except Fault FetchStatus}
      (answered : answers.download a answer)
      (missing : ∀ status, answer = .ok status → status.file? = none) :
      Step plan answers key config (.opening a) [.asked (.download a), .failed] (.ended .dropped)
  | delivered {a : ResolvedArtifact} {status : FetchStatus} {file : Path}
      (answered : answers.download a (.ok status)) (found : status.file? = some file) :
      Step plan answers key config (.opening a) [.asked (.download a)] (.inspecting a file)
  | unusable {a : ResolvedArtifact} {file : Path}
      {answer : Except Fault (Except AarProblem AarDetails)}
      (answered : answers.inspect a file answer) (wrong : ∀ details, answer ≠ .ok (.ok details)) :
      Step plan answers key config (.inspecting a file) [.failed] (.ended .dropped)
  | inspected {a : ResolvedArtifact} {file : Path} {details : AarDetails}
      (answered : answers.inspect a file (.ok (.ok details))) :
      Step plan answers key config (.inspecting a file)
        (plan.finishNotes ⟨a, config, .android details.package details.libraries⟩)
        (plan.finishStage ⟨a, config, .android details.package details.libraries⟩)
  | rested {fate : Fate} : Step plan answers key config (.ended fate) [] (.ended fate)

/-- One set of answers is among others. -/
structure Answers.Within (answers others : Answers) : Prop where
  resolve : ∀ c answer, answers.resolve c answer → others.resolve c answer
  download : ∀ a answer, answers.download a answer → others.download a answer
  inspect : ∀ a file answer, answers.inspect a file answer → others.inspect a file answer

/-- A step by some answers is one by others if these have the answers that it can ask for. -/
theorem step_admitted {plan : Plan} {answers others : Answers} {key : String}
    {config : ArtifactConfig} {stage stage' : Stage} {notes : List Note}
    (resolve : ∀ c answer, answers.resolve c answer → others.resolve c answer)
    (download : ∀ a answer, answers.download a answer → others.download a answer)
    (inspect : ∀ a file answer, stage = .inspecting a file → answers.inspect a file answer →
      others.inspect a file answer)
    (step : Task.Step plan answers key config stage notes stage') :
    Task.Step plan others key config stage notes stage' := by
  cases step with
  | named parsed => exact .named parsed
  | malformed refused => exact .malformed refused
  | faulted answer => exact .faulted (resolve _ _ answer)
  | unresolved answer => exact .unresolved (resolve _ _ answer)
  | resolved answer => exact .resolved (resolve _ _ answer)
  | library classes => exact .library classes
  | android other aar => exact .android other aar
  | file other noAar => exact .file other noAar
  | undelivered answered missing => exact .undelivered (download _ _ answered) missing
  | delivered answered found => exact .delivered (download _ _ answered) found
  | unusable answered wrong => exact .unusable (inspect _ _ _ rfl answered) wrong
  | inspected answered => exact .inspected (inspect _ _ _ rfl answered)
  | rested => exact .rested

theorem step_within {plan : Plan} {answers others : Answers} {key : String}
    {config : ArtifactConfig} {stage stage' : Stage} {notes : List Note}
    (within : answers.Within others)
    (step : Task.Step plan answers key config stage notes stage') :
    Task.Step plan others key config stage notes stage' :=
  step_admitted within.resolve within.download (fun a file answer _ => within.inspect a file answer)
    step

/-- Any answers at all. -/
def Answers.any : Answers := ⟨fun _ _ => True, fun _ _ => True, fun _ _ _ => True⟩

theorem within_any (answers : Answers) : answers.Within .any :=
  ⟨fun _ _ _ => trivial, fun _ _ _ => trivial, fun _ _ _ _ => trivial⟩

/-! ## Worlds -/

/-- The world that a call leaves. -/
def Resolver.afterCall (r : Resolver) (w : World) : Call → World
  | .resolve c => ((r.resolve c).perform w).2
  | .download a => ((r.download a).perform w).2

/-- The worlds that calls and messages lead to. -/
inductive Resolver.Leads (r : Resolver) (w : World) : List Call → World → Prop
  | start : Leads r w [] w
  | called {calls : List Call} {v : World} (before : Leads r w calls v) (call : Call) :
      Leads r w (calls ++ [call]) (r.afterCall v call)
  | printed {calls : List Call} {v : World} (before : Leads r w calls v) (console : Console) :
      Leads r w calls { v with console := console }

theorem leads_trans {r : Resolver} {w v u : World} {calls more : List Call}
    (first : r.Leads w calls v) (second : r.Leads v more u) : r.Leads w (calls ++ more) u := by
  induction second with
  | start => rwa [List.append_nil]
  | called _ call ih =>
      rw [← List.append_assoc]
      exact .called ih call
  | printed _ console ih => exact .printed ih console

theorem leads_print {r : Resolver} {w v : World} {calls : List Call} (leads : r.Leads w calls v)
    (level : Level) (message : String) :
    r.Leads w calls ((Effect.print level message).run v).2 :=
  .printed leads _

/-! ## Every step is one of these -/

/-- What a step comes to: a stage and a progress, and the world that it leaves. -/
def Plan.Explains (plan : Plan) (key : String) (config : ArtifactConfig) (stage : Stage)
    (p : Progress) (w : World) (outcome : (Stage × Progress) × World) : Prop :=
  ∃ notes, Task.Step plan (plan.answersIn w) key config stage notes outcome.1.1 ∧
    outcome.1.2 = p.noteAll notes ∧ plan.resolver.Leads w (callsOf notes) outcome.2

theorem finish_run (plan : Plan) (config : ArtifactConfig) (a : ResolvedArtifact) (form : Form)
    (p : Progress) (w : World) :
    ((Task.finish plan config a form p).run w).1
        = (plan.finishStage ⟨a, config, form⟩, p.noteAll (plan.finishNotes ⟨a, config, form⟩)) ∧
      plan.resolver.Leads w [] ((Task.finish plan config a form p).run w).2 := by
  unfold Task.finish Plan.finishStage
  rw [declare_eq]
  cases made : plan.labels ⟨a, config, form⟩ with
  | ok labels => exact ⟨rfl, .start⟩
  | error f =>
      have noted : (p.noteAll (plan.finishNotes ⟨a, config, form⟩))
          = (p.noteAll
            ((plan.recorded ⟨a, config, form⟩).map (Plan.needNote a.coordinate))).fail := by
        simp only [Plan.finishNotes, made, Progress.noteAll_append]
        rfl
      rw [noted]
      exact ⟨rfl, leads_print .start _ _⟩

theorem callsOf_finishNotes (plan : Plan) (r : Resolution) : callsOf (plan.finishNotes r) = [] := by
  unfold Plan.finishNotes
  rw [callsOf_append]
  have needed : callsOf ((plan.recorded r).map (Plan.needNote r.coordinate)) = [] := by
    simp [callsOf, Plan.needNote]
  rw [needed]
  cases plan.labels r <;> rfl

theorem callsOf_unknownNotes (plan : Plan) : callsOf plan.unknownNotes = [] := by
  unfold Plan.unknownNotes
  split <;> rfl

theorem tell_run (plan : Plan) (a : ResolvedArtifact) (p : Progress) (w : World) :
    ((plan.unknownPackaging.tell a p).run w).1 = p.noteAll plan.unknownNotes ∧
      plan.resolver.Leads w [] ((plan.unknownPackaging.tell a p).run w).2 := by
  unfold Plan.unknownNotes
  cases plan.unknownPackaging with
  | warn => exact ⟨rfl, leads_print .start _ _⟩
  | fail => exact ⟨rfl, leads_print .start _ _⟩
  | ignore => exact ⟨rfl, .start⟩

theorem perform_inspectFile (file : Path) (w : World) :
    (Aar.inspectFile file).perform w = (Aar.inspect (w.files.readFile file), w) := by
  unfold Aar.inspectFile
  rw [Action.perform_get_bind, Action.perform_ofExcept]
  cases Aar.inspect (w.files.readFile file) <;> rfl

section Explained

variable (plan : Plan) (key : String) (config : ArtifactConfig) (p : Progress) (w : World)

theorem name_explained : plan.Explains key config .listed p w ((Task.name key p).run w) := by
  unfold Task.name
  cases parsed : Coordinate.ofString? key with
  | some c => exact ⟨[.named c], .named parsed, rfl, .start⟩
  | none => exact ⟨[.failed], .malformed parsed, rfl, leads_print .start _ _⟩

theorem resolve_explained (c : Coordinate) :
    plan.Explains key config (.named c) p w ((Task.resolve plan key c p).run w) := by
  have led : plan.resolver.Leads w [.resolve c] ((plan.resolver.resolve c).perform w).2 :=
    .called .start (.resolve c)
  unfold Task.resolve
  rw [Action.run_attempt_bind]
  cases answered : ((plan.resolver.resolve c).perform w).1 with
  | error fault =>
      exact ⟨[.asked (.resolve c), .failed], .faulted answered, rfl, leads_print led _ _⟩
  | ok answer =>
      cases answer with
      | error f =>
          exact ⟨[.asked (.resolve c), .unresolved { f with coordinate := c.text }],
            .unresolved answered, rfl, leads_print led _ _⟩
      | ok a =>
          exact ⟨[.asked (.resolve c)], .resolved answered, rfl, leads_print led _ _⟩

/-- The end of a step that declares an artifact after some notes. -/
theorem finish_explained (notes : List Note) {stage : Stage} {a : ResolvedArtifact}
    {form : Form} {p' : Progress} {v : World}
    (step : Task.Step plan (plan.answersIn w) key config stage
      (notes ++ plan.finishNotes ⟨a, config, form⟩) (plan.finishStage ⟨a, config, form⟩))
    (noted : p' = p.noteAll notes) (quiet : callsOf notes = [])
    (led : plan.resolver.Leads w [] v) :
    plan.Explains key config stage p w ((Task.finish plan config a form p').run v) := by
  obtain ⟨same, led'⟩ := finish_run plan config a form p' v
  refine ⟨notes ++ plan.finishNotes ⟨a, config, form⟩, ?_, ?_, ?_⟩
  · rw [same]
    exact step
  · rw [same, noted]
    exact (Progress.noteAll_append p notes _).symm
  · rw [callsOf_append, quiet, callsOf_finishNotes]
    exact leads_trans led led'

theorem package_explained (a : ResolvedArtifact) :
    plan.Explains key config (.resolved a) p w ((Task.package plan config a p).run w) := by
  unfold Task.package
  dsimp only
  split
  · next classes =>
      exact finish_explained plan key config p w [.counted] (.library classes) rfl rfl .start
  · next other =>
      have other : isClassLibrary a.packaging = false := by simpa using other
      split
      · next aar => exact ⟨[.counted], .android other aar, rfl, .start⟩
      · next noAar =>
          obtain ⟨told, led⟩ := tell_run plan a p.countResolved w
          exact finish_explained plan key config p w (.counted :: plan.unknownNotes)
            (.file other noAar) told (callsOf_unknownNotes plan) led

theorem download_explained (a : ResolvedArtifact) :
    plan.Explains key config (.opening a) p w ((Task.download plan a p).run w) := by
  have led : plan.resolver.Leads w [.download a] ((plan.resolver.download a).perform w).2 :=
    .called .start (.download a)
  unfold Task.download
  rw [Action.run_attempt_bind]
  cases answered : ((plan.resolver.download a).perform w).1 with
  | error fault =>
      refine ⟨[.asked (.download a), .failed], .undelivered answered ?_, rfl, leads_print led _ _⟩
      intro status same
      cases same
  | ok status =>
      dsimp only
      cases found : status.file? with
      | none =>
          refine ⟨[.asked (.download a), .failed], .undelivered answered ?_, rfl,
            leads_print led _ _⟩
          intro status' same
          cases same
          exact found
      | some file =>
          exact ⟨[.asked (.download a)], .delivered answered found, rfl,
            leads_print (leads_print led _ _) _ _⟩

theorem inspect_explained (a : ResolvedArtifact) (file : Path) :
    plan.Explains key config (.inspecting a file) p w
      ((Task.inspect plan config a file p).run w) := by
  unfold Task.inspect
  rw [Action.run_attempt_bind, perform_inspectFile]
  cases answered : Aar.inspect (w.files.readFile file) with
  | error fault =>
      refine ⟨[.failed], .unusable answered ?_, rfl, leads_print .start _ _⟩
      intro details same
      cases same
  | ok answer =>
      cases answer with
      | error problem =>
          refine ⟨[.failed], .unusable answered ?_, rfl, leads_print .start _ _⟩
          intro details same
          cases same
      | ok details =>
          exact finish_explained plan key config p w [] (.inspected answered) rfl rfl .start

/-- Every step of a task is one that its answers allow. -/
theorem advance_explained (t : Task) :
    plan.Explains t.key t.config t.stage p w ((t.advance plan p).run w) := by
  unfold Task.advance
  cases t.stage with
  | listed => exact name_explained plan t.key t.config p w
  | named c => exact resolve_explained plan t.key t.config p w c
  | resolved a => exact package_explained plan t.key t.config p w a
  | opening a => exact download_explained plan t.key t.config p w a
  | inspecting a file => exact inspect_explained plan t.key t.config p w a file
  | ended fate => exact ⟨[], .rested, rfl, .start⟩

end Explained

end MavenImport
