/-
# Proofs.RunCompletion -- a run that nothing stops

What goes wrong with one artifact stays with it, but four things stop a run after its artifacts
were processed: a snippet that is no text has no place in a build file, a group with a NUL in its
name has no build file, a missing artifact that is asked for in a version without an order has no
highest version, and a failure does not tell of repositories whose addresses are no texts
(`squared_stops`).  Without them, and where the system can make the workspace, nothing does.
Whatever the schedule, a run ends without a fault, it can always be continued to its end, and then
it has gone through all its phases (`generateBy_completes`).

The notes of a mild resolver are mild (`story_mild`), so that all findings can be reported; and
all files that are written are such that the system takes them or refuses them
(`Proofs.RefusedWrites`).
-/
import MavenImport.Proofs.ExclusionAdvice
import MavenImport.Proofs.ExitStatus
import MavenImport.Proofs.PoolEnds
import MavenImport.Proofs.RefusedWrites
import MavenImport.Proofs.RequestedFiles

namespace MavenImport

set_option autoImplicit false

/-! ## What does not stop a run -/

/-- Neither the group of an artifact nor what it depends on stops a run. -/
structure ResolvedArtifact.Mild (a : ResolvedArtifact) : Prop where
  group : NulFree a.coordinate.group
  /-- Versions have a place in the order. -/
  versions : ∀ d ∈ a.dependencies, ∀ version, given? d.version = some version →
    (Version.key? version).isSome = true

/-- The repositories of a failure are given by texts. -/
def ResolutionFailure.Mild (f : ResolutionFailure) : Prop :=
  ∀ url ∈ f.repositories, ∃ text, url = .str text

/-- What the resolver of a plan answers about the declared artifacts, from a world on, stops no run,
and neither do the files that it leaves. -/
structure Plan.Mild (plan : Plan) (w : World) : Prop where
  artifacts : ∀ {calls v}, plan.resolver.Leads w calls v → ∀ c a, plan.specification.Names c →
    ((plan.resolver.resolve c).perform v).1 = .ok (.ok a) → a.Mild
  failures : ∀ {calls v}, plan.resolver.Leads w calls v → ∀ c f, plan.specification.Names c →
    ((plan.resolver.resolve c).perform v).1 = .ok (.error f) → f.Mild
  files : ∀ {calls v}, plan.resolver.Leads w calls v → v.files.NulFree

/-- All answers about the declared artifacts that stop no run. -/
def Plan.mildAnswers (plan : Plan) : Answers where
  resolve c answer := plan.specification.Names c →
    (∀ a, answer = .ok (.ok a) → a.Mild) ∧ ∀ f, answer = .ok (.error f) → f.Mild
  download _ _ := True
  inspect _ _ _ := True

def Note.Mild : Note → Prop
  | needed _ version _ => (Version.key? version).isSome = true
  | unresolved f => f.Mild
  | declared path _ => path.NulFree
  | _ => True

/-- What a stage is about stops no run; a coordinate is still the one that the key reads. -/
structure Stage.Mild (key : String) (stage : Stage) : Prop where
  named : ∀ c, stage = .named c → Coordinate.ofString? key = some c
  artifact : ∀ a, stage.artifact? = some a → a.Mild

/-- Each check that found something has said so. -/
structure Plan.Reports (plan : Plan) (p : Progress) (v : World) : Prop where
  duplicates : Checks.duplicates (plan.specification.artifacts.map Prod.fst) ≠ .ok [] →
    v.Says "ERROR: Duplicate artifact entries are not permitted:"
  unresolved : p.unresolved ≠ [] → ∃ names,
    v.Says ("ERROR: Failed to resolve the following artifacts: " ++ Checks.bracketed names) ∧
      names.Perm (p.unresolved.map ResolutionFailure.coordinate)
  legacy : Checks.legacyArtifacts p.declaredSlugs plan.specification ≠ [] →
    v.Says "ERROR: Jetifier enabled but pre-androidX support artifacts specified:"
  missing : ∀ found ∈ Checks.missing p.ledger p.declaredSlugs, v.Tells found

/-- A run by a schedule has gone through all its phases when it ended. -/
structure Plan.Finishes (plan : Plan) (schedule : List Turn) (w : World) (e : Ending) (v : World) :
    Prop where
  processed : ∀ a ∈ plan.specification.artifacts,
    ∃ fate, Task.Way plan (plan.steps schedule w) ⟨a.1, a.2, .listed⟩ fate
  /-- The file of every group was to be written, and that of second names if it is wanted. -/
  attempted : ∀ path, path ∈ e.outputs.map Output.path ↔ path ∈ e.progress.declared.map Prod.fst ∨
    plan.specification.writeAliases = true ∧ path = plan.aliasPath
  files : plan.files e.progress = .ok (e.outputs.map Output.file)
  written : ∃ f, Written f e.outputs v.files
  reports : plan.Reports e.progress v
  well : e.well = true ↔ e.progress.failed = false ∧ (∀ o ∈ e.outputs, o.written = true) ∧
    plan.Quiet e.progress
  summary : v.Says (plan.summary e v.elapsed)

/-! ## Notes -/

section Notes

variable {plan : Plan} {key : String} {config : ArtifactConfig} {notes : List Note}
  {stage stage' : Stage} {a : ResolvedArtifact}

theorem replaceChar_nulFree {old new : Char} (other : new ≠ Char.ofNat 0) {s : String}
    (free : NulFree s) : NulFree (Text.replaceChar old new s) := by
  unfold NulFree Text.replaceChar
  rw [String.toList_ofList]
  intro holds
  obtain ⟨c, listed, same⟩ := List.mem_map.mp holds
  split at same
  · exact other same
  · exact free (same ▸ listed)

theorem buildFilePath_nulFree {workspace : Path} {group : String} (free : workspace.NulFree)
    (free' : NulFree group) : (buildFilePath workspace group).NulFree :=
  joinText_nulFree (joinText_nulFree free (replaceChar_nulFree (by decide) free')) (by decide)

/-- The version that a dependency is recorded with has a place in the order. -/
theorem kept_mild (mild : a.Mild) {kept : List Dependency} {d : Dependency}
    (made : keptDependencies config a = .ok kept) (listed : d ∈ kept) :
    (Version.key? ((given? d.version).getD unversioned)).isSome = true := by
  have some : (Version.key? unversioned).isSome = true := by decide
  have pair : ∀ {s : String} {d : Dependency}, Dependency.ofPair? s = .some d →
      (Version.key? ((given? d.version).getD unversioned)).isSome = true := by
    intro s d read
    unfold Dependency.ofPair? at read
    split at read <;> cases read
    exact some
  unfold keptDependencies at made
  cases added : addedDependencies config.included with
  | error fault => rw [added] at made; cases made
  | ok ds =>
      rw [added] at made
      cases made
      rcases List.mem_append.mp listed with own | other
      · obtain ⟨d', left, rfl⟩ := List.mem_map.mp own
        have resolved := (List.mem_filter.mp left).1
        unfold succeed
        cases read : (successor? d'.slug).bind Dependency.ofPair? with
        | some new =>
            obtain ⟨slug, -, read'⟩ := Option.bind_eq_some_iff.mp read
            exact pair read'
        | none =>
            show (Version.key? ((given? d'.version).getD unversioned)).isSome = true
            cases version : given? d'.version with
            | some v => exact mild.versions d' resolved v version
            | none => exact some
      · obtain ⟨entry, -, -, read⟩ := (mem_addedDependencies added).mp other
        exact pair read

variable (free : plan.workspace.NulFree)
include free

theorem finishNotes_mild (mild : a.Mild) (form : Form) :
    ∀ n ∈ plan.finishNotes ⟨a, config, form⟩, n.Mild := by
  intro n noted
  rcases List.mem_append.mp noted with needed | last
  · obtain ⟨d, listed, rfl⟩ := List.mem_map.mp needed
    obtain ⟨-, -, kept, -, made, among⟩ := recorded_kept listed
    exact kept_mild mild made among
  · cases made : plan.labels ⟨a, config, form⟩ with
    | error fault =>
        rw [made] at last
        rw [List.mem_singleton.mp last]
        trivial
    | ok labels =>
        rw [made] at last
        rw [List.mem_singleton.mp last]
        exact buildFilePath_nulFree free mild.group

variable (listed : (key, config) ∈ plan.specification.artifacts)
include listed

/-- What is noted in a step is mild, if what is answered is. -/
theorem step_mild (step : Task.Step plan plan.mildAnswers key config stage notes stage')
    (mild : stage.Mild key) : (∀ n ∈ notes, n.Mild) ∧ stage'.Mild key := by
  have ends : ∀ fate, (Stage.ended fate).Mild key := fun fate => ⟨nofun, nofun⟩
  have finishes : ∀ r : Resolution, (plan.finishStage r).Mild key := by
    intro r
    obtain ⟨fate, ended⟩ := finishStage_ended plan r
    exact ended ▸ ends fate
  have unknown : ∀ n ∈ plan.unknownNotes, n.Mild := by
    intro n noted
    unfold Plan.unknownNotes at noted
    split at noted
    · rw [List.mem_singleton.mp noted]
      trivial
    · cases noted
  cases step with
  | @named c parsed =>
      refine ⟨by simp [Note.Mild], fun c' same => ?_, nofun⟩
      cases same
      exact parsed
  | malformed _ | faulted _ | undelivered _ _ | unusable _ _ | rested =>
      exact ⟨by simp [Note.Mild], ends _⟩
  | @unresolved c f answer =>
      have worded : ({ f with coordinate := c.text } : ResolutionFailure).Mild :=
        (answer ⟨_, listed, mild.named c rfl⟩).2 f rfl
      refine ⟨?_, ends _⟩
      simpa [Note.Mild] using worded
  | @resolved c a answer =>
      have own : a.Mild := (answer ⟨_, listed, mild.named c rfl⟩).1 a rfl
      refine ⟨by simp [Note.Mild], nofun, fun a' about => ?_⟩
      cases about
      exact own
  | library _ =>
      refine ⟨fun n noted => ?_, finishes _⟩
      rcases List.mem_cons.mp noted with rfl | finished
      · trivial
      · exact finishNotes_mild free (mild.artifact _ rfl) _ n finished
  | android _ _ => exact ⟨by simp [Note.Mild], nofun, fun a about => mild.artifact a about⟩
  | file _ _ =>
      refine ⟨fun n noted => ?_, finishes _⟩
      rcases List.mem_append.mp noted with told | finished
      · rcases List.mem_cons.mp told with rfl | warned
        · trivial
        · exact unknown n warned
      · exact finishNotes_mild free (mild.artifact _ rfl) _ n finished
  | delivered _ _ => exact ⟨by simp [Note.Mild], nofun, fun a about => mild.artifact a about⟩
  | inspected _ => exact ⟨finishNotes_mild free (mild.artifact _ rfl) _, finishes _⟩

theorem story_mild (story : Task.Story plan plan.mildAnswers key config notes stage) :
    (∀ n ∈ notes, n.Mild) ∧ stage.Mild key := by
  induction story with
  | start => exact ⟨fun _ noted => absurd noted List.not_mem_nil, nofun, nofun⟩
  | next _ step ih =>
      obtain ⟨before, mild⟩ := ih
      obtain ⟨now, mild'⟩ := step_mild free listed step mild
      exact ⟨fun n noted => (List.mem_append.mp noted).elim (before n) (now n), mild'⟩

end Notes

/-! ## What mild notes make of the progress -/

section Told

variable {plan : Plan} {parts : List Part} {arrival : List Note} {r : Run}
  (told : r.Told plan plan.mildAnswers parts arrival) (free : plan.workspace.NulFree)
include told free

theorem arrival_mild : ∀ n ∈ arrival, n.Mild := by
  intro n noted
  obtain ⟨e, listed, own⟩ := List.mem_flatMap.mp (told.arrived.mem_iff.mp noted)
  have artifact : (e.1.key, e.1.config) ∈ plan.specification.artifacts := by
    rw [← told.artifacts]
    exact List.mem_map_of_mem listed
  exact (story_mild free artifact (told.stories e listed)).1 n own

theorem mild_reportable : r.progress.Reportable :=
  told_reportable told fun _ listed =>
    texts_joined (arrival_mild told free _ (told_failure told listed))

/-- What is missing is asked for in versions that have an order. -/
theorem mild_ordered : ¬ r.progress.Unordered := by
  rintro ⟨slug, version, -, undeclared, asked, none⟩
  rw [told.progress, noteAll_ledger, Ledger.versionsOf_recordThese] at asked
  rcases asked with old | ⟨⟨s, v, owner⟩, recorded, rfl, rfl⟩
  · cases old
  rcases mem_records.mp recorded with ⟨-, c, noted, same, -⟩ | ⟨owner', -, noted⟩
  · refine undeclared ?_
    rw [told.progress, mem_declaredSlugs]
    exact .inr ⟨c, noted, same⟩
  · have some : (Version.key? v).isSome = true := arrival_mild told free _ noted
    rw [none] at some
    cases some

theorem mild_paths : ∀ e ∈ r.progress.declared, e.1.NulFree := by
  intro e listed
  rw [told.progress, noteAll_declared] at listed
  obtain ⟨n, noted, shown⟩ := List.mem_filterMap.mp listed
  cases n <;> cases shown
  exact arrival_mild told free _ noted

end Told

/-! ## Concluding -/

section Conclude

variable {plan : Plan} {w v : World}

/-- A file that is to be written is written or refused. -/
theorem write_answers {path : Path} (text : String) (free : w.files.NulFree)
    (free' : path.NulFree) :
    ∃ o v, (Plan.write path text).perform w = (.ok o, v) ∧ v.files.NulFree := by
  unfold Plan.write
  rw [Action.perform_bind, Action.perform_result, Action.perform_change]
  cases made : w.files.replaceFile path text.toUTF8 with
  | ok files => exact ⟨_, _, rfl, replaceFile_nulFree free made⟩
  | error fault =>
      dsimp only
      rw [if_pos (replaceFile_refuses free free' made)]
      exact ⟨_, _, rfl, free⟩

theorem writeGroup_answers {path : Path} {declared : List Declared} (free : w.files.NulFree)
    (free' : path.NulFree) (texts : ∃ text,
      BuildFile.content declared plan.specification.rulesLabel.text = .ok text) :
    ∃ o v, (plan.writeGroup path declared).perform w = (.ok o, v) ∧ v.files.NulFree := by
  obtain ⟨text, content⟩ := texts
  obtain ⟨o, v, wrote, left⟩ := write_answers text free free'
  unfold Plan.writeGroup
  rw [content, Action.perform_bind, Action.perform_ofExcept]
  dsimp only
  rw [Action.mapError_ok]
  dsimp only
  rw [Action.perform_bind, wrote]
  dsimp only
  split
  · exact ⟨o, _, rfl, left⟩
  · exact ⟨o, _, rfl, left⟩

theorem writeGroups_answers :
    ∀ {groups : List (Path × List Declared)} {w : World}, w.files.NulFree →
      (∀ g ∈ groups, g.1.NulFree ∧ ∃ text,
        BuildFile.content g.2 plan.specification.rulesLabel.text = .ok text) →
      ∃ outputs v, (plan.writeGroups groups).perform w = (.ok outputs, v) ∧ v.files.NulFree
  | [], w, free, _ => ⟨[], w, rfl, free⟩
  | g :: groups, w, free, each => by
      obtain ⟨path, texts⟩ := each g List.mem_cons_self
      obtain ⟨o, v, wrote, left⟩ := writeGroup_answers free path texts
      obtain ⟨outputs, u, wroteOthers, left'⟩ :=
        writeGroups_answers left fun g' later => each g' (List.mem_cons_of_mem g later)
      refine ⟨o :: outputs, u, ?_, left'⟩
      unfold Plan.writeGroups
      rw [Action.perform_bind, wrote]
      dsimp only
      rw [Action.perform_bind, wroteOthers]
      rfl

theorem writeAliases_answers (declared : List Declared) (free : w.files.NulFree)
    (workspace : plan.workspace.NulFree) :
    ∃ outputs v, (plan.writeAliases declared).perform w = (.ok outputs, v) := by
  unfold Plan.writeAliases
  dsimp only
  split
  · exact ⟨_, _, rfl⟩
  · obtain ⟨o, v, wrote, -⟩ := write_answers (aliasFile plan.specification.name.text
      (declared.map fun d => d.resolution.coordinate)) free
      (joinText_nulFree workspace (by decide : NulFree buildFileName))
    rw [Action.perform_bind, wrote]
    dsimp only
    split
    · exact ⟨_, _, rfl⟩
    · exact ⟨_, _, rfl⟩

theorem duplicates_found {keys : List String}
    (readable : ∀ key ∈ keys, (Coordinate.ofString? key).isSome = true) :
    ∃ found, Checks.duplicates keys = .ok found := by
  have read : ∃ cs, Checks.coordinates keys = .ok cs := by
    induction keys with
    | nil => exact ⟨[], rfl⟩
    | cons key keys ih =>
        obtain ⟨c, parsed⟩ := Option.isSome_iff_exists.mp (readable key List.mem_cons_self)
        obtain ⟨cs, others⟩ := ih fun key' later => readable key' (List.mem_cons_of_mem key later)
        exact ⟨c :: cs, by rw [Checks.coordinates, parsed, others]; rfl⟩
  obtain ⟨cs, read⟩ := read
  exact ⟨_, by rw [Checks.duplicates, read]; rfl⟩

/-- A valid specification has readable keys. -/
theorem valid_readable (valid : plan.specification.problems = []) :
    ∀ key ∈ plan.specification.artifacts.map Prod.fst,
      (Coordinate.ofString? key).isSome = true := by
  intro key listed
  obtain ⟨e, artifact, rfl⟩ := List.mem_map.mp listed
  have right := (problems_nil.mp valid).2 e artifact
  unfold Specification.artifactProblems at right
  by_contra unread
  rw [Option.not_isSome_iff_eq_none.mp unread] at right
  simp at right

/-! ### What the checks say -/

theorem opens_says {headline : String} {rest : PUnit → Action Unit} {answer : Except Fault Unit}
    (more : ∀ x, (rest x).Extends)
    (ended : ((liftM (Effect.say headline) : Action PUnit) >>= rest).perform w = (answer, v)) :
    v.Says headline := by
  have later := more ⟨⟩ ((Effect.say headline).run w).2
  rw [Action.perform_lift_bind] at ended
  rw [ended] at later
  exact says_mono later (says_say headline w)

theorem unresolvedLines_extend (failures : List ResolutionFailure) :
    Action.Extends (failures.forM fun f => do
      let line ← Action.ofExcept .value (Checks.unresolvedLine f)
      (liftM (Effect.say line) : Action PUnit)) :=
  extends_forM (fun _ => extends_bind (extends_ofExcept _ _) fun _ => extends_say _) _

theorem additionLines_extend (found : List (String × LedgerEntry)) :
    Action.Extends (found.forM fun e => do
      let version ← Action.ofExcept .version (Version.highest e.2.versions)
      (liftM (Effect.say (Checks.additionLine e.1 version)) : Action PUnit)) :=
  extends_forM (fun _ => extends_bind (extends_ofExcept _ _) fun _ => extends_say _) _

theorem extends_report {α : Type} (found : List α) {tell : List α → Action Unit}
    (tells : ∀ found, (tell found).Extends) : (Checks.report found tell).Extends := by
  unfold Checks.report
  split
  · exact extends_pure _
  · exact extends_bind (tells found) fun _ => extends_pure _

theorem extends_reportUnresolved (failures : List ResolutionFailure) :
    (Checks.reportUnresolved failures).Extends :=
  extends_bind (extends_say _) fun _ => unresolvedLines_extend _

theorem extends_reportLegacy (found : List (String × String)) :
    (Checks.reportLegacy found).Extends :=
  extends_bind (extends_say _) fun _ => extends_sayAll _

theorem extends_reportMissing (found : List (String × LedgerEntry)) :
    (Checks.reportMissing found).Extends := by
  refine extends_bind (extends_say _) fun _ => extends_bind (extends_say _) fun _ => ?_
  refine extends_bind (extends_say _) fun _ => extends_bind (additionLines_extend _) fun _ => ?_
  exact extends_bind (extends_say _) fun _ => extends_sayAll _

/-- A check that finds something begins with its headline. -/
theorem report_says {α : Type} {found : List α} {tell : List α → Action Unit} {headline : String}
    (opens : ∀ {w v : World}, (tell found).perform w = (.ok (), v) → v.Says headline)
    {told : Bool} (ended : (Checks.report found tell).perform w = (.ok told, v))
    (some : found ≠ []) : v.Says headline := by
  unfold Checks.report at ended
  rw [if_neg (by simpa using some), Action.perform_bind_ok] at ended
  obtain ⟨_, w₁, said, ended⟩ := ended
  cases ended
  exact opens said

/-- What the checks find is said when a run is concluded. -/
theorem conclude_reports {p : Progress} {e : Ending}
    (ended : (plan.conclude p).perform w = (.ok e, v)) : plan.Reports p v := by
  have missing := conclude_tells ended
  unfold Plan.conclude at ended
  rw [Action.perform_bind_ok] at ended
  obtain ⟨outputs, w₁, -, ended⟩ := ended
  rw [say_bind, Action.perform_bind_ok] at ended
  obtain ⟨findings, w₂, checked, ended⟩ := ended
  rw [Action.perform_bind_ok] at ended
  obtain ⟨aliases, w₃, second, ended⟩ := ended
  cases ended
  unfold Checks.run at checked
  rw [Action.perform_bind_ok] at checked
  obtain ⟨duplicates, w₄, found, checked⟩ := checked
  rw [Action.perform_bind_ok] at checked
  obtain ⟨a, w₅, first, checked⟩ := checked
  rw [Action.perform_bind_ok] at checked
  obtain ⟨b, w₆, unresolved, checked⟩ := checked
  rw [Action.perform_bind_ok] at checked
  obtain ⟨c, w₇, legacy, checked⟩ := checked
  rw [Action.perform_bind_ok] at checked
  obtain ⟨d, w₈, last, checked⟩ := checked
  cases checked
  -- what one check has said stays said while the others follow
  have later := extends_writeAliases plan (p.declared.map Prod.snd) w₂
  rw [second] at later
  have later₇ := extends_report (Checks.missing p.ledger p.declaredSlugs)
    extends_reportMissing w₇
  rw [last] at later₇
  have later₆ := extends_report (Checks.legacyArtifacts p.declaredSlugs plan.specification)
    extends_reportLegacy w₆
  rw [legacy] at later₆
  have later₅ := extends_report p.unresolved extends_reportUnresolved w₅
  rw [unresolved] at later₅
  refine ⟨fun some => ?_, fun some => ?_, fun some => ?_, missing⟩
  · have same : Checks.duplicates (plan.specification.artifacts.map Prod.fst) = .ok duplicates := by
      rw [Action.perform_ofExcept] at found
      cases computed : Checks.duplicates (plan.specification.artifacts.map Prod.fst) with
      | error fault => rw [computed] at found; cases found
      | ok found' => rw [computed] at found; cases found; rfl
    refine says_mono (later₅.trans (later₆.trans (later₇.trans later))) ?_
    exact report_says (fun ended => opens_says (fun _ => extends_sayAll _) ended) first
      fun none => some (by rw [same, none])
  · have said := report_says (fun ended => opens_says (fun _ => unresolvedLines_extend _) ended)
      unresolved some
    exact ⟨_, says_mono (later₆.trans (later₇.trans later)) said,
      (List.mergeSort_perm p.unresolved _).map _⟩
  · refine says_mono (later₇.trans later) ?_
    exact report_says (fun ended => opens_says (fun _ => extends_sayAll _) ended) legacy some

section Written

variable {p : Progress} {outputs : List Output}
  (valid : plan.specification.problems = []) (reportable : p.Reportable)
  (wrote : (plan.writeGroups (sortedGroups (groupByFile p.declared))).perform w = (.ok outputs, v))
include valid reportable wrote

/-- Once the files of the groups are written, all that is found is reported. -/
theorem conclude_written (ordered : ¬ p.Unordered) (workspace : plan.workspace.NulFree)
    (free : v.files.NulFree) : ∃ e u, (plan.conclude p).perform w = (.ok e, u) := by
  unfold Plan.conclude
  rw [Action.perform_bind, wrote]
  dsimp only
  rw [say_bind, Action.perform_bind]
  generalize told : ({ v with console := _ } : World) = v'
  have kept := checks_keeps files_silent plan.specification p v'
  rcases checks_answer plan reportable v' with ⟨fault, wrong, -⟩ | ⟨-, ⟨bad, -⟩ | ⟨-, found, answer⟩⟩
  · obtain ⟨found, right⟩ := duplicates_found (valid_readable valid)
    rw [right] at wrong
    cases wrong
  · exact absurd bad ordered
  · rcases checked : (Checks.run plan.specification p.declaredSlugs p.unresolved
      p.ledger).perform v' with ⟨result, u⟩
    rw [checked] at answer kept
    cases answer
    have free' : u.files.NulFree := by
      rw [show u.files = v'.files from kept, ← told]
      exact free
    obtain ⟨aliases, u', wroteAliases⟩ :=
      writeAliases_answers (p.declared.map Prod.snd) free' workspace
    dsimp only
    rw [Action.perform_bind, wroteAliases]
    exact ⟨_, _, rfl⟩

/-- What is missing in a version without an order stops the report of what is missing. -/
theorem conclude_unordered (unordered : p.Unordered) :
    ((plan.conclude p).perform w).1 = .error (.version .noNumber) := by
  unfold Plan.conclude
  rw [Action.perform_bind, wrote]
  dsimp only
  rw [say_bind]
  generalize ({ v with console := _ } : World) = v'
  rcases checks_answer plan reportable v' with ⟨fault, wrong, -⟩ | ⟨-, ⟨-, stops⟩ | ⟨good, -⟩⟩
  · obtain ⟨found, right⟩ := duplicates_found (valid_readable valid)
    rw [right] at wrong
    cases wrong
  · rw [Action.perform_bind_fault stops]
  · exact absurd unordered good

end Written

/-- Where all that is to be written can be written or refused, and all that is found can be
reported, a run is concluded. -/
theorem conclude_answers {p : Progress} (valid : plan.specification.problems = [])
    (workspace : plan.workspace.NulFree) (reportable : p.Reportable) (ordered : ¬ p.Unordered)
    (texts : ∀ x ∈ p.declared, ∃ s, x.2.content = .str s)
    (paths : ∀ x ∈ p.declared, x.1.NulFree) (free : w.files.NulFree) :
    ∃ e v, (plan.conclude p).perform w = (.ok e, v) := by
  have groups : ∀ g ∈ sortedGroups (groupByFile p.declared), g.1.NulFree ∧ ∃ text,
      BuildFile.content g.2 plan.specification.rulesLabel.text = .ok text := by
    intro g listed
    obtain ⟨x, declared, same⟩ := sortedGroups_paths listed
    exact ⟨same ▸ paths x declared, groups_made plan texts g listed⟩
  obtain ⟨outputs, v, wrote, left⟩ := writeGroups_answers free groups
  exact conclude_written valid reportable wrote ordered workspace left

end Conclude

/-! ## Runs -/

section Runs

variable {plan : Plan} {schedule : List Turn} {w v : World}

theorem files_paths {e : Ending}
    (files : plan.files e.progress = .ok (e.outputs.map Output.file)) (path : Path) :
    path ∈ e.outputs.map Output.path ↔ path ∈ e.progress.declared.map Prod.fst ∨
      plan.specification.writeAliases = true ∧ path = plan.aliasPath := by
  obtain ⟨groups, grouped, all⟩ := files_ok files
  have paths : e.outputs.map Output.path = (e.outputs.map Output.file).map Prod.fst := by
    rw [List.map_map]
    rfl
  have sorted : path ∈ groups.map Prod.fst ↔ path ∈ e.progress.declared.map Prod.fst := by
    rw [← (groupByFile_grouped e.progress.declared).paths path, groupFiles_paths grouped]
    exact ((List.mergeSort_perm _ _).map Prod.fst).mem_iff
  rw [paths, all, List.map_append, List.mem_append, sorted]
  refine or_congr_right ?_
  unfold Plan.aliasFiles
  split
  · next wanted => simp [wanted, Plan.aliasPath]
  · next unwanted => simp [unwanted]

/-- A run that ends has gone through all its phases. -/
theorem ended_finishes {e : Ending} (valid : plan.specification.problems = [])
    (ended : (plan.generateBy schedule).perform w = (.ok (some e), v)) :
    plan.Finishes schedule w e v := by
  rw [generateBy_valid plan valid] at ended
  obtain ⟨w₀, pool, w₁, w₂, prepared, followed, returned, concluded, rfl⟩ := runBy_parts ended
  obtain ⟨progress, files, written, well⟩ := conclude_ok concluded
  have ways : ∀ a ∈ plan.specification.artifacts,
      ∃ fate, Task.Way plan (plan.steps schedule w) ⟨a.1, a.2, .listed⟩ fate := by
    rw [Plan.steps, prepared]
    exact follow_ways (by rw [followed]; exact returned)
  have said : w₂.console.printed <:+
      (w₂.console.print .always (plan.summary e w₂.elapsed) true).printed :=
    print_extends w₂.console _ _ _
  obtain ⟨duplicates, unresolved, legacy, missing⟩ := conclude_reports concluded
  rw [← progress] at files well unresolved legacy missing
  exact
    { processed := ways
      attempted := files_paths files
      files := files
      written := ⟨w₁.files, written⟩
      reports :=
        { duplicates := fun some => says_mono said (duplicates some)
          unresolved := fun some =>
            (unresolved some).imp fun _ told => ⟨says_mono said told.1, told.2⟩
          legacy := fun some => says_mono said (legacy some)
          missing := fun found listed => tells_mono said (missing found listed) }
      well := well
      summary := says_say (plan.summary e w₂.elapsed) w₂ }

theorem mild_cover (mild : plan.Mild w) : plan.mildAnswers.Cover plan w where
  resolve leads c named :=
    ⟨fun a => mild.artifacts leads c a named, fun f => mild.failures leads c f named⟩
  download _ _ := trivial
  inspect _ _ _ _ _ _ _ := trivial

variable (plan) in
/-- Where the workspace can be made, a run prepares it, and leaves the targets of links as they
were. -/
theorem prepare_creates {f : FileSystem}
    (creatable : w.files.makeDirectories plan.workspace = .ok f) :
    ∃ w₀, plan.prepare.perform w = (.ok (), w₀) ∧ (w.files.NulFree → w₀.files.NulFree) := by
  by_cases none : plan.specification.artifacts.isEmpty = true
  · have empty : plan.withWorkspace w.files = .ok w.files := if_pos none
    obtain ⟨w₀, prepared, files, -⟩ := prepare_ok empty
    exact ⟨w₀, prepared, fun free => files ▸ free⟩
  · obtain ⟨w₀, prepared, files, -⟩ := prepare_ok ((if_neg none).trans creatable)
    exact ⟨w₀, prepared, fun free => files ▸ makeParents_nulFree _ free creatable⟩

variable (schedule) in
/-- By any schedule a run ends without a fault; and it comes to its ending if its pool returns. -/
theorem runBy_answers {f : FileSystem} (valid : plan.specification.problems = [])
    (creatable : w.files.makeDirectories plan.workspace = .ok f)
    (texts : plan.specification.TextSnippets)
    (mild : plan.Mild (plan.prepare.perform w).2) :
    ∃ answer v, (plan.runBy schedule).perform w = (.ok answer, v) ∧
      (((Pool.follow plan schedule (.start plan.specification plan.workers plan.workers)).run
        (plan.prepare.perform w).2).1.phase = .returned → ∃ e, answer = some e) := by
  have workspace : plan.workspace.NulFree := makeDirectories_checked creatable
  obtain ⟨w₀, prepared, -⟩ := prepare_creates plan creatable
  rw [prepared] at mild ⊢
  obtain ⟨parts, arrival, told, leads⟩ :=
    cover_told (mild_cover mild) schedule plan.workers plan.workers
  rcases followed : (Pool.follow plan schedule
    (.start plan.specification plan.workers plan.workers)).run w₀ with ⟨pool, w₁⟩
  rw [followed] at told leads
  by_cases returned : pool.phase = .returned
  · obtain ⟨e, w₂, concluded⟩ := conclude_answers valid workspace (mild_reportable told workspace)
      (mild_ordered told workspace) (told_texts told texts) (mild_paths told workspace)
      (mild.files leads)
    exact ⟨some e, _, runBy_ends prepared followed returned concluded, fun _ => ⟨e, rfl⟩⟩
  · exact ⟨none, w₁, runBy_waits prepared followed returned, fun done => absurd done returned⟩

/-- The specification is valid, its snippets are texts, the workspace can be made, and the resolver
is mild.  Then a run by any schedule ends without a fault, and if it comes to its ending, it has
gone through all its phases.  It comes to one if the schedule is continued for long enough: with
some choice of turns, no more than 23 for each artifact and two beside them. -/
theorem generateBy_completes (plan : Plan) (schedule : List Turn) (w : World) (f : FileSystem)
    (valid : plan.specification.problems = [])
    (creatable : w.files.makeDirectories plan.workspace = .ok f)
    (texts : plan.specification.TextSnippets)
    (mild : plan.Mild (plan.prepare.perform w).2) :
    (∃ answer v, (plan.generateBy schedule).perform w = (.ok answer, v) ∧
      ∀ e, answer = some e → plan.Finishes schedule w e v) ∧
    ∃ more e v, more.length ≤ 23 * plan.specification.artifacts.length + 2 ∧
      (plan.generateBy (schedule ++ more)).perform w = (.ok (some e), v) := by
  constructor
  · obtain ⟨answer, v, ended, -⟩ := runBy_answers schedule valid creatable texts mild
    rw [← generateBy_valid plan valid] at ended
    refine ⟨answer, v, ended, fun e same => ?_⟩
    rw [same] at ended
    exact ended_finishes valid ended
  · obtain ⟨more, few, returned⟩ := schedule_returns plan schedule (plan.prepare.perform w).2
    obtain ⟨answer, v, ended, comes⟩ :=
      runBy_answers (schedule ++ more) valid creatable texts mild
    obtain ⟨e, rfl⟩ := comes returned
    exact ⟨more, e, v, few, (generateBy_valid plan valid _) ▸ ended⟩

end Runs

/-- Calls that leave the files as they are, one by one, leave them so together. -/
theorem leads_files {r : Resolver} {w v : World}
    (resolves : ∀ c w, ((r.resolve c).perform w).2.files = w.files)
    (downloads : ∀ a w, ((r.download a).perform w).2.files = w.files) {calls : List Call}
    (leads : r.Leads w calls v) : v.files = w.files := by
  induction leads with
  | start => rfl
  | called _ call ih =>
      cases call with
      | resolve c => exact (resolves c _).trans ih
      | download a => exact (downloads a _).trans ih
  | printed _ _ ih => exact ih

/-! ### Two workers, a failure and a missing artifact -/

theorem pair_free : Pair.world.files.NulFree :=
  fun l target found => absurd found (empty_plain.unlinked l target)

theorem pair_creatable : ∃ f, Pair.world.files.makeDirectories Pair.plan.workspace = .ok f := by
  have makes : (Pair.world.files.makeDirectories Pair.plan.workspace).isOk = true := by
    decide
  cases made : Pair.world.files.makeDirectories Pair.plan.workspace with
  | ok f => exact ⟨f, rfl⟩
  | error fault =>
      rw [made] at makes
      cases makes

namespace Trouble

def plan : Plan :=
  { Pair.plan with
    threads := 2
    resolver :=
      { Pair.plan.resolver with
        resolve := fun c =>
          return if c.artifact = "b" then .error (Pair.failure c)
            else .ok ⟨c, "jar", [{ group := "h", artifact := "m", version := some "1.0" }]⟩ } }

theorem named {c : Coordinate} (declared : plan.specification.Names c) : c.group = "g" := by
  obtain ⟨e, listed, parsed⟩ := declared
  have groups : ∀ e ∈ plan.specification.artifacts,
      ∀ c ∈ Coordinate.ofString? e.1, c.group = "g" := by decide
  exact groups e listed c parsed

theorem mild {w : World} (free : w.files.NulFree) : plan.Mild w where
  artifacts {_ _} _ c a declared answered := by
    have answer : Except.ok (if c.artifact = "b" then .error (Pair.failure c)
      else .ok ⟨c, "jar", [{ group := "h", artifact := "m", version := some "1.0" }]⟩)
        = (Except.ok (Except.ok a) : Except Fault (Except ResolutionFailure ResolvedArtifact)) :=
      answered
    split at answer <;> cases answer
    refine ⟨?_, fun d listed version given => ?_⟩
    · rw [named declared]
      decide
    · obtain rfl := List.mem_singleton.mp listed
      obtain rfl : "1.0" = version := Option.some.inj given
      decide
  failures {_ _} _ c f _ answered := by
    have answer : Except.ok (if c.artifact = "b" then .error (Pair.failure c)
      else .ok ⟨c, "jar", [{ group := "h", artifact := "m", version := some "1.0" }]⟩)
        = (Except.ok (Except.error f) : Except Fault (Except ResolutionFailure ResolvedArtifact)) :=
      answered
    split at answer <;> cases answer
    exact fun url listed => absurd listed List.not_mem_nil
  files leads := leads_files (fun _ _ => rfl) (fun _ _ => rfl) leads ▸ free

end Trouble

theorem trouble_completes : ∃ turns e v, turns.length ≤ 48 ∧
    (Trouble.plan.generateBy turns).perform Pair.world = (.ok (some e), v) ∧
      Trouble.plan.Finishes turns Pair.world e v := by
  obtain ⟨f, creatable⟩ := pair_creatable
  obtain ⟨w₀, prepared, free⟩ := prepare_creates Trouble.plan creatable
  have generated : ∀ e ∈ Trouble.plan.specification.artifacts, e.2.snippet.isNull = true := by
    decide
  have completes := fun turns => generateBy_completes Trouble.plan turns Pair.world f
    (by decide) creatable (fun e listed => .inl (generated e listed))
    (by rw [prepared]; exact Trouble.mild (free pair_free))
  obtain ⟨-, turns, e, v, few, ended⟩ := completes []
  rw [List.nil_append] at ended
  obtain ⟨⟨answer, v', ended', finishes⟩, -⟩ := completes turns
  rw [ended] at ended'
  cases ended'
  exact ⟨turns, e, v, few, ended, finishes e rfl⟩

/-! ### Four runs that are stopped -/

namespace Stopped

def plan (snippet : Json)
    (answer : Coordinate → Except ResolutionFailure ResolvedArtifact) : Plan where
  specification :=
    { Pair.specification with
      artifacts := [("g:a:1", { Pair.config with snippet := snippet })] }
  workspace := ⟨.here, ["w"]⟩
  resolver := { resolve := fun c => return answer c, download := Pair.plan.resolver.download }

/-- A library with a dependency that is not declared. -/
def library (version : String) (c : Coordinate) : ResolvedArtifact :=
  ⟨c, "jar", [{ group := "h", artifact := "m", version := some version }]⟩

/-- A dependency has a version of digits that stand for no number. -/
def squared : Plan := plan .null fun c => .ok (library "²" c)

/-- A snippet is a number. -/
def numbered : Plan := plan (.int 5) fun c => .ok (library "1" c)

/-- A group has a name that no directory can have. -/
def unnamable : Plan :=
  plan .null fun c => .ok (library "1" { c with group := String.ofList [Char.ofNat 0] })

/-- The address of a repository is no text. -/
def unworded : Plan :=
  plan .null fun c => .error { Pair.failure c with repositories := [.int 5] }

/-- A run is stopped, although its specification is valid and its workspace can be made. -/
def Stops (plan : Plan) : Prop :=
  (plan.specification.problems = [] ∧
    (Pair.world.files.makeDirectories plan.workspace).isOk = true) ∧
  ∃ fault, ((plan.generateBy (inTurn 1)).perform Pair.world).1 = .error fault

/-- A run of the first plan in turn. -/
def processed : Pool × World :=
  (Pool.follow squared (inTurn 1)
    (.start squared.specification squared.workers squared.workers)).run (Apart.prepared squared)

theorem run_processed : Apart.run squared = processed.1 := by
  rw [Apart.run, processed]
  rfl

theorem reportable (prepares : (squared.prepare.perform Pair.world).1.isOk = true)
    (returned : processed.1.phase = .returned)
    (none : processed.1.run.progress.unresolved.isEmpty = true) :
    processed.1.run.progress.Reportable := by
  have cover : (squared.answersUnder fun _ => True).Cover squared (Apart.prepared squared) :=
    constant_cover ⟨fun _ _ _ _ _ => rfl, fun _ _ _ _ _ => rfl,
      fun _ _ _ _ _ _ _ answered found => by cases answered; cases found⟩ trivial
  have processes := Apart.processes squared prepares (run_processed ▸ returned)
  rw [run_processed] at processes
  obtain ⟨⟨parts, arrival, told⟩, -⟩ := processes_told processes cover
  refine told_reportable told fun failure listed => ?_
  rw [List.isEmpty_iff.mp none] at listed
  cases listed

/-- What is missing is sorted before it is reported, which evaluation does not see through; so the
general law tells how the checks end. -/
theorem squared_fault :
    ((squared.generateBy (inTurn 1)).perform Pair.world).1 = .error (.version .noNumber) := by
  have valid : squared.specification.problems = [] := by decide
  have checked : (squared.prepare.perform Pair.world).1.isOk = true ∧
      processed.1.phase = .returned ∧ processed.1.run.progress.unresolved.isEmpty = true ∧
      ((squared.writeGroups (sortedGroups (groupByFile
        processed.1.run.progress.declared))).perform processed.2).1.isOk = true := by
    decide +kernel
  have asked : (processed.1.run.progress.ledger.find? "h:m").isSome = true ∧
      "h:m" ∉ processed.1.run.progress.declaredSlugs ∧
      "²" ∈ processed.1.run.progress.ledger.versionsOf "h:m" ∧ Version.key? "²" = none := by
    decide
  obtain ⟨prepares, returned, none, writes⟩ := checked
  have prepared := (Apart.processes squared prepares (run_processed ▸ returned)).prepared
  have found := reportable prepares returned none
  have followed : (Pool.follow squared (inTurn 1)
      (.start squared.specification squared.workers squared.workers)).run (Apart.prepared squared)
        = (processed.1, processed.2) := by
    rw [← processed]
  rw [generateBy_valid squared valid]
  refine runBy_fails prepared followed returned ?_
  rcases wrote : (squared.writeGroups (sortedGroups (groupByFile
    processed.1.run.progress.declared))).perform processed.2 with ⟨fault | outputs, v⟩
  · rw [wrote] at writes
    cases writes
  · exact conclude_unordered valid found wrote ⟨"h:m", "²", asked⟩

end Stopped

/-- Valid specifications, and workspaces that can be made, do not keep a run from being stopped. -/
theorem squared_stops : Stopped.Stops Stopped.squared ∧ Stopped.Stops Stopped.numbered ∧
    Stopped.Stops Stopped.unnamable ∧ Stopped.Stops Stopped.unworded := by
  have valid : ∀ plan ∈ [Stopped.squared, Stopped.numbered, Stopped.unnamable, Stopped.unworded],
      plan.specification.problems = [] ∧
      (Pair.world.files.makeDirectories plan.workspace).isOk = true := by
    decide
  have others : ∀ plan ∈ [Stopped.numbered, Stopped.unnamable, Stopped.unworded],
      ∃ fault, ((plan.generateBy (inTurn 1)).perform Pair.world).1 = .error fault := by
    decide +kernel
  exact ⟨⟨valid _ (by simp), _, Stopped.squared_fault⟩, ⟨valid _ (by simp), others _ (by simp)⟩,
    ⟨valid _ (by simp), others _ (by simp)⟩, ⟨valid _ (by simp), others _ (by simp)⟩⟩

end MavenImport
