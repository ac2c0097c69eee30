/-
# Proofs.ExclusionAdvice -- whether it helps to exclude what is missing

For everything that is missing, a run prints which of its dependants are to exclude it.  If the
advice is taken for all that was printed (`Plan.heeding`), then what is missing because an artifact
depends on it is not missing again (`advice_works`): the dependant comes to its labels on the same
way as before, whatever becomes of the other artifacts, and leaves the dependency out.

This is so only for a dependency that is printed under the name that it has in the POM.  One that
is printed under the name of its successor is not left out, since options exclude by the name
before, and what the options themselves include is not either (`successor_again`).
-/
import MavenImport.Proofs.ArtifactIsolation
import MavenImport.Proofs.MissingArtifacts

namespace MavenImport

set_option autoImplicit false

/-! ## Taking advice -/

/-- Options that exclude more. -/
def ArtifactConfig.excluding (config : ArtifactConfig) (slugs : List String) : ArtifactConfig :=
  { config with excluded := config.excluded ++ slugs.map .str }

/-- What is printed for a dependant to exclude. -/
def advisedFor (missing : List (String × LedgerEntry)) (owner : String) : List String :=
  (missing.filter fun e => e.2.dependants.contains owner).map Prod.fst

/-- A declared artifact that excludes what is printed for its coordinate. -/
def heed (missing : List (String × LedgerEntry)) (e : String × ArtifactConfig) :
    String × ArtifactConfig :=
  match Coordinate.ofString? e.1 with
  | some c => (e.1, e.2.excluding (advisedFor missing c.text))
  | none => e

/-- The same plan with all of the advice taken. -/
def Plan.heeding (plan : Plan) (missing : List (String × LedgerEntry)) : Plan :=
  { plan with
    specification :=
      { plan.specification with artifacts := plan.specification.artifacts.map (heed missing) } }

/-- The options of an artifact include a slug. -/
def ArtifactConfig.Adds (config : ArtifactConfig) (slug : String) : Prop :=
  ∃ entry dep, .str entry ∈ config.included ∧ isLabel entry = false ∧
    Dependency.ofPair? entry = some dep ∧ dep.slug = slug

/-- What is declared needs a slug, if at all, because of a dependency of that name: its options
do not include the slug, and it is not the successor of a dependency. -/
def Run.Direct (r : Run) (slug : String) : Prop :=
  ∀ t path d, t ∈ r.tasks → t.stage = .ended (.declared path d) → ¬ t.config.Adds slug ∧
    ∀ dep ∈ d.resolution.artifact.dependencies, successor? dep.slug ≠ some slug

theorem mem_advisedFor {missing : List (String × LedgerEntry)} {slug owner : String} :
    slug ∈ advisedFor missing owner ↔ ∃ e ∈ missing, owner ∈ e.2.dependants ∧ e.1 = slug := by
  simp only [advisedFor, List.mem_map, List.mem_filter, List.contains_iff_mem, and_assoc]

theorem heed_key (missing : List (String × LedgerEntry)) (e : String × ArtifactConfig) :
    (heed missing e).1 = e.1 := by
  unfold heed
  split <;> rfl

theorem heed_named {missing : List (String × LedgerEntry)} {key : String}
    {config : ArtifactConfig} {c : Coordinate} (parsed : Coordinate.ofString? key = some c) :
    heed missing (key, config) = (key, config.excluding (advisedFor missing c.text)) := by
  unfold heed
  rw [parsed]

/-! ## Dependencies that are recorded -/

section Recorded

variable {config : ArtifactConfig} {a : ResolvedArtifact}

theorem mem_recordedAmong {workspace : String} {substitutes : Json} {group : String}
    {d : Dependency} : ∀ {ds : List Dependency},
      d ∈ recordedAmong workspace substitutes group ds → d ∈ ds
  | [], listed => listed
  | d' :: ds, listed => by
      unfold recordedAmong at listed
      rcases List.mem_cons.mp listed with rfl | later
      · exact List.mem_cons_self
      · split at later
        · exact List.mem_cons_of_mem d' (mem_recordedAmong later)
        · cases later

/-- The first dependency is recorded in any case, before its label is made. -/
theorem recordedAmong_ne_nil {workspace : String} {substitutes : Json} {group : String} :
    ∀ {ds : List Dependency}, ds ≠ [] → recordedAmong workspace substitutes group ds ≠ []
  | [], given => absurd rfl given
  | d :: ds, _ => by
      unfold recordedAmong
      exact List.cons_ne_nil _ _

/-- What excludes more keeps no more. -/
theorem kept_excluding {slugs : List String} {kept : List Dependency}
    (made : keptDependencies (config.excluding slugs) a = .ok kept) :
    ∃ kept', keptDependencies config a = .ok kept' ∧ ∀ d ∈ kept, d ∈ kept' := by
  unfold keptDependencies at made ⊢
  have included : (config.excluding slugs).included = config.included := rfl
  rw [included] at made
  cases added : addedDependencies config.included with
  | error f => rw [added] at made; cases made
  | ok ds =>
      rw [added] at made
      cases made
      refine ⟨_, rfl, fun d listed => ?_⟩
      rcases List.mem_append.mp listed with own | other
      · obtain ⟨d', left, rfl⟩ := List.mem_map.mp own
        obtain ⟨resolved, kept⟩ := List.mem_filter.mp left
        obtain ⟨required, wanted, family⟩ := isKept_iff.mp kept
        refine List.mem_append_left _ (List.mem_map_of_mem (List.mem_filter.mpr ⟨resolved, ?_⟩))
        exact isKept_iff.mpr ⟨required, fun out => wanted (List.mem_append_left _ out), family⟩
      · exact List.mem_append_right _ other

/-- What is needed directly is needed without the exclusions too, and is none of them. -/
theorem needs_excluding {slugs : List String} {slug : String}
    (needs : (config.excluding slugs).Needs a slug) (own : ¬ config.Adds slug)
    (direct : ∀ dep ∈ a.dependencies, successor? dep.slug ≠ some slug) :
    config.Needs a slug ∧ slug ∉ slugs := by
  cases needs with
  | included listed pair read => exact absurd ⟨_, _, listed, pair, read, rfl⟩ own
  | @dependency d resolved required wanted family =>
      have needs : config.Needs a ((successor? d.slug).getD d.slug) :=
        .dependency resolved required (fun out => wanted (List.mem_append_left _ out)) family
      cases found : successor? d.slug with
      | some new =>
          rw [found] at direct
          exact absurd found (direct d resolved)
      | none =>
          refine ⟨by rw [found] at needs; exact needs, fun advised => ?_⟩
          exact wanted (List.mem_append_right _ (List.mem_map_of_mem advised))

/-- What is recorded is among what is kept, and only if there is neither a snippet nor a list. -/
theorem recorded_kept {plan : Plan} {r : Resolution} {d : Dependency} (listed : d ∈ plan.recorded r) :
    (r.config.snippet.isNull = true ∧ r.config.deps = []) ∧
      ∃ table kept, substitutesFor plan.specification.substitutes r.artifact.coordinate.group
        = .ok table ∧ keptDependencies r.config r.artifact = .ok kept ∧ d ∈ kept := by
  unfold Plan.recorded recordedDependencies at listed
  split at listed
  · rename_i own
    split at listed
    · rename_i table kept found made
      exact ⟨own, table, kept, found, made, mem_recordedAmong listed⟩
    · cases listed
  · cases listed

theorem recorded_ne_nil {plan : Plan} {r : Resolution} {table : Json} {kept : List Dependency}
    (own : r.config.snippet.isNull = true ∧ r.config.deps = [])
    (found : substitutesFor plan.specification.substitutes r.artifact.coordinate.group = .ok table)
    (made : keptDependencies r.config r.artifact = .ok kept) (given : kept ≠ []) :
    plan.recorded r ≠ [] := by
  unfold Plan.recorded recordedDependencies
  rw [if_pos own, found, made]
  exact recordedAmong_ne_nil given

end Recorded

/-! ## The way of an artifact under other options -/

section Way

variable {plan plan' : Plan} {answers : Answers} {key : String} {config config' : ArtifactConfig}
  {notes : List Note} {stage : Stage}

/-- Up to its end the way of an artifact does not depend on its options. -/
theorem story_before (story : Task.Story plan' answers key config' notes stage)
    (opened : ∀ fate, stage ≠ .ended fate) :
    ∃ notes, Task.Story plan answers key config notes stage := by
  have ends : ∀ r : Resolution, ¬ ∀ fate, plan'.finishStage r ≠ .ended fate := fun r opened => by
    obtain ⟨fate, ended⟩ := finishStage_ended plan' r
    exact opened fate ended
  induction story with
  | start => exact ⟨[], .start⟩
  | next _ step ih =>
      cases step with
      | named parsed =>
          obtain ⟨notes, before⟩ := ih fun _ => Stage.noConfusion
          exact ⟨notes ++ _, .next before (.named parsed)⟩
      | resolved answer =>
          obtain ⟨notes, before⟩ := ih fun _ => Stage.noConfusion
          exact ⟨notes ++ _, .next before (.resolved answer)⟩
      | android other aar =>
          obtain ⟨notes, before⟩ := ih fun _ => Stage.noConfusion
          exact ⟨notes ++ _, .next before (.android other aar)⟩
      | delivered answered found =>
          obtain ⟨notes, before⟩ := ih fun _ => Stage.noConfusion
          exact ⟨notes ++ _, .next before (.delivered answered found)⟩
      | library _ => exact absurd opened (ends _)
      | file _ _ => exact absurd opened (ends _)
      | inspected _ => exact absurd opened (ends _)
      | _ => exact absurd rfl (opened _)

/-- A need among the notes of an artifact's end is one of the dependencies it records. -/
theorem need_recorded {slug version owner : String} {r : Resolution}
    (listed : Note.needed slug version owner ∈ plan'.finishNotes r) :
    Note.needed slug version owner ∈ (plan'.recorded r).map (Plan.needNote r.coordinate) := by
  refine (List.mem_append.mp listed).resolve_right ?_
  cases plan'.labels r <;> simp

theorem need_unknown {slug version owner : String} :
    Note.needed slug version owner ∉ plan'.unknownNotes := by
  unfold Plan.unknownNotes
  split <;> simp

variable (plan config) in
/-- Where an artifact records a dependency, it comes to its labels under other options too. -/
theorem story_finish (faithful : answers.Faithful)
    (story : Task.Story plan' answers key config' notes stage) {slug version owner : String}
    (noted : Note.needed slug version owner ∈ notes) : ∃ a form notes',
      .needed slug version owner ∈
        (plan'.recorded ⟨a, config', form⟩).map (Plan.needNote a.coordinate) ∧
      Coordinate.ofString? key = some a.coordinate ∧
      Task.Story plan answers key config notes' (plan.finishStage ⟨a, config, form⟩) ∧
      ∀ m ∈ plan.finishNotes ⟨a, config, form⟩, m ∈ notes' := by
  have before : ∀ {notes : List Note} {stage : Stage},
      Task.Story plan' answers key config' notes stage → (∀ fate, stage ≠ .ended fate) →
        ∃ notes, Task.Story plan answers key config notes stage := story_before
  induction story with
  | start => cases noted
  | @next notes more before stage earlier step ih =>
      rcases List.mem_append.mp noted with old | new
      · exact ih old
      · cases step with
        | @library a classes =>
            obtain ⟨notes', way⟩ := before earlier fun _ => Stage.noConfusion
            have last := need_recorded (r := ⟨a, config', .library⟩)
              ((List.mem_cons.mp new).resolve_left Note.noConfusion)
            have way := Task.Story.next way (.library classes)
            exact ⟨a, .library, _, last, story_coordinate faithful earlier a.coordinate rfl, way,
              fun m listed => List.mem_append_right _ (List.mem_cons_of_mem _ listed)⟩
        | @file a other noAar =>
            obtain ⟨notes', way⟩ := before earlier fun _ => Stage.noConfusion
            have last : Note.needed slug version owner ∈ plan'.finishNotes ⟨a, config', .file⟩ := by
              rcases List.mem_append.mp new with told | made
              · exact absurd ((List.mem_cons.mp told).resolve_left Note.noConfusion) need_unknown
              · exact made
            have way := Task.Story.next way (.file other noAar)
            have last := need_recorded (r := ⟨a, config', .file⟩) last
            exact ⟨a, .file, _, last, story_coordinate faithful earlier a.coordinate rfl, way,
              fun m listed => List.mem_append_right _ (List.mem_append_right _ listed)⟩
        | @inspected a file details answered =>
            obtain ⟨notes', way⟩ := before earlier fun _ => Stage.noConfusion
            have last := need_recorded
              (r := ⟨a, config', .android details.package details.libraries⟩) new
            have way := Task.Story.next way (.inspected answered)
            exact ⟨a, .android details.package details.libraries, _, last,
              story_coordinate faithful earlier a.coordinate rfl, way,
              fun m listed => List.mem_append_right _ listed⟩
        | _ => simp at new

end Way

/-! ## The second run -/

section Heeding

variable {plan : Plan} {starts : World → Prop}

theorem under_faithful (faithful : plan.resolver.Faithful) :
    (plan.answersUnder starts).Faithful := by
  rintro c a ⟨w, calls, v, -, -, answered⟩
  exact faithful c v a answered

/-- A declared artifact of a run has a task in it. -/
theorem told_artifact {answers : Answers} {parts : List Part} {arrival : List Note} {r : Run}
    (told : r.Told plan answers parts arrival) {key : String} {config : ArtifactConfig}
    (artifact : (key, config) ∈ plan.specification.artifacts) :
    ∃ e ∈ parts, e.1.key = key ∧ e.1.config = config ∧ e.1 ∈ r.tasks := by
  rw [← told.artifacts] at artifact
  obtain ⟨e, listed, same⟩ := List.mem_map.mp artifact
  refine ⟨e, listed, congrArg Prod.fst same, congrArg Prod.snd same, ?_⟩
  rw [told.tasks]
  exact List.mem_map_of_mem listed

/-- Where an artifact with an end is rendered if it needs anything, and by the same answers another
way records something, both ways come to the same declaration. -/
theorem rendered_again {answers : Answers} {key : String} {config : ArtifactConfig}
    {notes notes' : List Note} {r : Resolution} {fate : Fate} (single : answers.Single)
    (story : Task.Story plan answers key config notes (.ended fate))
    (rendered : ∀ note ∈ notes, note.IsNeed → (Stage.ended fate).declaration?.isSome = true)
    (other : Task.Story plan answers key config notes' (plan.finishStage r))
    (finished : ∀ m ∈ plan.finishNotes r, m ∈ notes') (needs : plan.recorded r ≠ []) :
    ∃ path d, fate = .declared path d ∧ d.resolution = r := by
  obtain ⟨fate', ended⟩ := finishStage_ended plan r
  rw [ended] at other
  obtain ⟨same, way⟩ := story_unique single story other
  obtain ⟨d, listed⟩ := List.exists_mem_of_ne_nil _ needs
  have noted : Plan.needNote r.coordinate d ∈ plan.finishNotes r :=
    List.mem_append_left _ (List.mem_map_of_mem listed)
  have told := rendered _ (same ▸ finished _ noted) ⟨_, _, _, rfl⟩
  unfold Plan.finishStage at ended
  cases made : plan.labels r with
  | ok labels =>
      rw [made] at ended
      refine ⟨(plan.entry r labels).1, (plan.entry r labels).2, ?_, rfl⟩
      exact way.trans (Stage.ended.inj ended).symm
  | error fault =>
      rw [made] at ended
      rw [way, ← Stage.ended.inj ended] at told
      cases told

end Heeding

/-- If nothing was raised in a run and all of its advice is taken, then what was printed because
some artifact depends on it, under that name, is not missing from the next run. -/
theorem advice_works (plan : Plan) (schedule schedule' : List Turn) (w w' w₀ w₀' : World)
    (r r' : Run) (faithful : plan.resolver.Faithful)
    (constant : plan.resolver.Constant fun u => u = w₀ ∨ u = w₀')
    (processes : plan.Processes schedule w w₀ r)
    (calm : (Pool.start plan.specification plan.workers plan.workers).Calm plan schedule w₀)
    (processes' : (plan.heeding r.missing).Processes schedule' w' w₀' r')
    (e : String × LedgerEntry) (printed : e ∈ r.missing) (direct : r.Direct e.1) :
    e.1 ∉ r'.missing.map Prod.fst := by
  intro again
  obtain ⟨e', printed', same⟩ := List.mem_map.mp again
  have cover := constant_cover constant (.inl rfl : w₀ = w₀ ∨ w₀ = w₀')
  have cover' : (plan.answersUnder fun u => u = w₀ ∨ u = w₀').Cover (plan.heeding r.missing) w₀' := by
    have cover := constant_cover constant (.inr rfl : w₀' = w₀ ∨ w₀' = w₀')
    exact ⟨cover.resolve, cover.download, cover.inspect⟩
  -- what the two runs are told
  obtain ⟨parts, arrival, told, rendered⟩ := calm_told cover schedule plan.workers plan.workers calm
  rw [processes.run] at told
  have done := (processes_told processes cover).2
  have exactly := told_missing told done rendered
  obtain ⟨⟨parts', arrival', told'⟩, -⟩ := processes_told processes' cover'
  -- the artifact that records the slug in the second run, and its task in the first one
  obtain ⟨version, owner, noted⟩ := missing_noted told' printed'
  obtain ⟨⟨t', notes'⟩, listed', own'⟩ := List.mem_flatMap.mp (told'.arrived.mem_iff.mp noted)
  have artifact' : (t'.key, t'.config) ∈ (plan.heeding r.missing).specification.artifacts := by
    rw [← told'.artifacts]
    exact List.mem_map_of_mem listed'
  obtain ⟨⟨key, config⟩, artifact, heeded⟩ := List.mem_map.mp artifact'
  obtain ⟨⟨t, notes⟩, listed, rfl, rfl, member⟩ := told_artifact told artifact
  have key' : t'.key = t.key := (congrArg Prod.fst heeded).symm.trans (heed_key _ _)
  have story' := told'.stories _ listed'
  obtain ⟨a, form, notes₁, recorded, parsed, story, finished⟩ :=
    story_finish plan t.config (under_faithful faithful) story' own'
  rw [key'] at parsed story
  have config' : t'.config = t.config.excluding (advisedFor r.missing a.coordinate.text) :=
    (congrArg Prod.snd heeded).symm.trans (congrArg Prod.snd (heed_named parsed))
  obtain ⟨dep, needed, note⟩ := List.mem_map.mp recorded
  obtain ⟨slug, -, name⟩ := Note.needed.inj note
  rw [config'] at needed
  obtain ⟨⟨snippet, deps⟩, table, kept, substitutes, made, left⟩ := recorded_kept needed
  -- the first run keeps the dependency too, so the artifact is rendered in it
  obtain ⟨kept', made', all⟩ := kept_excluding made
  have records : plan.recorded ⟨a, t.config, form⟩ ≠ [] :=
    recorded_ne_nil ⟨snippet, deps⟩ substitutes made' (List.ne_nil_of_mem (all dep left))
  obtain ⟨fate, ended⟩ := done t member
  have way := told.stories _ listed
  have shown := rendered _ listed
  dsimp only at way shown
  rw [ended] at way shown
  obtain ⟨path, d, declared, rendering⟩ :=
    rendered_again (constant_single constant) way shown story finished records
  rw [declared] at ended
  obtain ⟨own, successors⟩ := direct t path d member ended
  rw [rendering] at successors
  -- it needs the slug in both runs, and was advised to exclude it
  have again : (t.config.excluding (advisedFor r.missing a.coordinate.text)).Needs a e.1 :=
    (kept_needs made e.1).mp ⟨dep, left, slug.trans same⟩
  obtain ⟨needs, unadvised⟩ := needs_excluding again own successors
  refine unadvised (mem_advisedFor.mpr ⟨e, printed, ?_, rfl⟩)
  refine (exactly.dependants e printed a.coordinate.text).mpr ⟨a, ?_, rfl⟩
  exact ⟨t, path, d, member, ended, by rw [rendering], snippet, deps, needs⟩

/-! ### An artifact with a dependency that has a successor, one that has none, and a pair -/

namespace Advice

def config : ArtifactConfig := { Pair.config with included := [.str "i:c"] }

def plan : Plan :=
  { Gap.plan with
    specification := { Gap.specification with artifacts := [("a:a:1", config)] }
    resolver :=
      { Gap.plan.resolver with
        resolve := fun c =>
          return .ok ⟨c, "jar", [{ group := "com.android.support", artifact := "design" },
            { group := "h", artifact := "d" }]⟩ } }

/-- What a run is found to miss, if the ledger has the slugs in order. -/
def missing (r : Run) : List (String × LedgerEntry) :=
  r.progress.ledger.entries.filter fun e => !r.progress.declaredSlugs.contains e.1

def Ordered (r : Run) : Prop :=
  r.progress.ledger.entries.Pairwise fun a b => decide (a.1 ≤ b.1) = true

instance (r : Run) : Decidable (Ordered r) := inferInstanceAs (Decidable (List.Pairwise _ _))

theorem missing_ordered {r : Run} (ordered : Ordered r) : r.missing = missing r :=
  congrArg (List.filter _) (List.mergeSort_of_pairwise ordered)

def heeding : Plan := plan.heeding (missing (Apart.run plan).run)

theorem constant (starts : World → Prop) : plan.resolver.Constant starts where
  resolve _ _ _ _ _ := rfl
  download _ _ _ _ _ := rfl
  delivered _ _ _ _ _ _ _ answered found := by
    cases answered
    cases found

def isPair : Json → Bool
  | .str s => s = "i:c"
  | _ => false

theorem direct {r : Run} {slug : String} (other : slug ≠ "i:c")
    (checked : ∀ t ∈ r.tasks, t.config.included.all isPair ∧
      ∀ e ∈ t.stage.declaration?, ∀ dep ∈ e.2.resolution.artifact.dependencies,
        successor? dep.slug ≠ some slug) : r.Direct slug := by
  intro t path d listed ended
  obtain ⟨only, apart⟩ := checked t listed
  refine ⟨?_, apart (path, d) (declaration_eq_some.mpr ended)⟩
  rintro ⟨entry, dep, included, -, read, rfl⟩
  have pair : entry = "i:c" := of_decide_eq_true (List.all_eq_true.mp only _ included)
  rw [pair] at read
  cases read
  exact other (by decide)

end Advice

theorem dependency_excluded :
    "h:d" ∈ (Apart.run Advice.plan).run.missing.map Prod.fst ∧
      "h:d" ∉ (Apart.run Advice.heeding).run.missing.map Prod.fst := by
  have checked : (Advice.Ordered (Apart.run Advice.plan).run ∧
        "h:d" ∈ (Advice.missing (Apart.run Advice.plan).run).map Prod.fst) ∧
      ((Advice.plan.prepare.perform Pair.world).1.isOk = true ∧
        (Apart.run Advice.plan).phase = .returned) ∧
      ((Advice.heeding.prepare.perform Pair.world).1.isOk = true ∧
        (Apart.run Advice.heeding).phase = .returned) ∧
      (Pool.start Advice.plan.specification Advice.plan.workers Advice.plan.workers).Calm
        Advice.plan (inTurn 1) (Apart.prepared Advice.plan) := by
    decide +kernel
  obtain ⟨⟨ordered, printed⟩, ⟨prepares, returned⟩, ⟨prepares', returned'⟩, calm⟩ := checked
  have same := Advice.missing_ordered ordered
  rw [← same] at printed
  obtain ⟨e, listed, slug⟩ := List.mem_map.mp printed
  have direct : (Apart.run Advice.plan).run.Direct "h:d" :=
    Advice.direct (by decide) (by decide +kernel)
  have faithful : Advice.plan.resolver.Faithful := fun c v a answered => by
    cases answered
    rfl
  have processes' := Apart.processes Advice.heeding prepares' returned'
  rw [← slug] at direct
  rw [Advice.heeding, ← same] at processes'
  rw [Advice.heeding, ← same]
  have excluded := advice_works Advice.plan _ _ Pair.world Pair.world _ _ _ _ faithful
    (Advice.constant _) (Apart.processes Advice.plan prepares returned) calm processes' e listed
    direct
  rw [slug] at excluded
  exact ⟨printed, excluded⟩

/-- The successor is missing again, and so is what the options include. -/
theorem successor_again :
    (Advice.plan.specification.problems.isEmpty ∧
        ∀ starts, Advice.plan.resolver.Constant starts) ∧
      ∀ slug ∈ ["com.google.android.material:material", "i:c"],
        slug ∈ (Apart.run Advice.plan).run.missing.map Prod.fst ∧
          slug ∈ (Apart.run Advice.heeding).run.missing.map Prod.fst := by
  have checked : Advice.plan.specification.problems.isEmpty ∧
      (Advice.Ordered (Apart.run Advice.plan).run ∧
        Advice.Ordered (Apart.run Advice.heeding).run) ∧
      ∀ slug ∈ ["com.google.android.material:material", "i:c"],
        slug ∈ (Advice.missing (Apart.run Advice.plan).run).map Prod.fst ∧
          slug ∈ (Advice.missing (Apart.run Advice.heeding).run).map Prod.fst := by
    decide +kernel
  obtain ⟨valid, ⟨ordered, ordered'⟩, both⟩ := checked
  rw [← Advice.missing_ordered ordered, ← Advice.missing_ordered ordered'] at both
  exact ⟨⟨valid, Advice.constant⟩, both⟩

end MavenImport
