/-
# Proofs.ArtifactIsolation -- an artifact is declared as if it were alone

The artifacts of a run share a progress, and those of a group share a file.  Still the text that
declares an artifact is not touched by what else is declared, or by what becomes of it:
`artifact_isolated` compares a run with one that declares a single one of its artifacts, under
the same options (`Plan.only`).  What a step of a task can do does not depend on the artifacts of
the plan (`step_alone`), so the way of an artifact is settled by the answers that it gets, and
these are the same if they depend on nothing but what is asked (`Resolver.Constant`).
-/
import MavenImport.Proofs.BuildFileOrder
import MavenImport.Proofs.DeclarationText
import MavenImport.Proofs.ReferentialClosure
import MavenImport.Proofs.RunOutcome

namespace MavenImport

set_option autoImplicit false

/-! ## Runs of all artifacts and of one -/

/-- The same plan for one artifact. -/
def Plan.only (plan : Plan) (key : String) (config : ArtifactConfig) : Plan :=
  { plan with specification := { plan.specification with artifacts := [(key, config)] } }

/-- Wherever calls lead to from some worlds, what a resolver answers depends only on what it is
asked, and a file that it delivered holds the same. -/
structure Resolver.Constant (r : Resolver) (starts : World → Prop) : Prop where
  resolve : ∀ {w w' calls calls' v v'}, starts w → starts w' → r.Leads w calls v →
    r.Leads w' calls' v' → ∀ c, ((r.resolve c).perform v).1 = ((r.resolve c).perform v').1
  download : ∀ {w w' calls calls' v v'}, starts w → starts w' → r.Leads w calls v →
    r.Leads w' calls' v' → ∀ a, ((r.download a).perform v).1 = ((r.download a).perform v').1
  delivered : ∀ {w w' calls calls' v v'}, starts w → starts w' → r.Leads w calls v →
    r.Leads w' calls' v' → ∀ a status file, ((r.download a).perform v).1 = .ok status →
      status.file? = some file → .download a ∈ calls → .download a ∈ calls' →
        v.files.readFile file = v'.files.readFile file

/-- Snippets are texts. -/
def Specification.TextSnippets (spec : Specification) : Prop :=
  ∀ e ∈ spec.artifacts, e.2.snippet.isNull = true ∨ ∃ s, e.2.snippet = .str s

/-- A run makes the workspace and processes its artifacts to their ends. -/
structure Plan.Processes (plan : Plan) (schedule : List Turn) (w w₀ : World) (r : Run) : Prop where
  prepared : plan.prepare.perform w = (.ok (), w₀)
  run : ((Pool.follow plan schedule (.start plan.specification plan.workers plan.workers)).run
    w₀).1.run = r
  returned : ((Pool.follow plan schedule (.start plan.specification plan.workers
    plan.workers)).run w₀).1.phase = .returned

/-- The content of a build file with the texts of its declarations. -/
def BuildFile.ofTexts (android : Bool) (rulesLabel : String) (texts : List String) : String :=
  endLine (header ++ (if android then androidLoad else "") ++ importLoad rulesLabel
    ++ Text.joinWith "\n" texts)

/-- What a run has come to makes one build file at a path, with a given text; and a run that ends
has it among its outputs. -/
structure Plan.Writes (plan : Plan) (schedule : List Turn) (w : World) (p : Progress) (path : Path)
    (text : String) : Prop where
  file : ∃ files, plan.groupFiles (sortedGroups (groupByFile p.declared)) = .ok files ∧
    ∀ text', (path, text') ∈ files ↔ text' = text
  output : ∀ e v, (plan.generateBy schedule).perform w = (.ok (some e), v) →
    (path, text) ∈ e.outputs.map Output.file

/-! ## The way of an artifact -/

section Alone

variable {plan : Plan} {key : String} {config : ArtifactConfig} {answers : Answers}

/-- What a step can do does not depend on the artifacts of the plan. -/
theorem step_alone {key' : String} {config' : ArtifactConfig} {stage stage' : Stage}
    {notes : List Note}
    (step : Task.Step (plan.only key config) answers key' config' stage notes stage') :
    Task.Step plan answers key' config' stage notes stage' := by
  cases step with
  | named parsed => exact .named parsed
  | malformed refused => exact .malformed refused
  | faulted answer => exact .faulted answer
  | unresolved answer => exact .unresolved answer
  | resolved answer => exact .resolved answer
  | library classes => exact .library classes
  | android other aar => exact .android other aar
  | file other noAar => exact .file other noAar
  | undelivered answered missing => exact .undelivered answered missing
  | delivered answered found => exact .delivered answered found
  | unusable answered wrong => exact .unusable answered wrong
  | inspected answered => exact .inspected answered
  | rested => exact .rested

theorem story_alone {key' : String} {config' : ArtifactConfig} {stage : Stage}
    {notes : List Note}
    (story : Task.Story (plan.only key config) answers key' config' notes stage) :
    Task.Story plan answers key' config' notes stage := by
  induction story with
  | start => exact .start
  | next _ step ih => exact .next ih (step_alone step)

/-- The answers that a resolver gives wherever calls lead to from some worlds. -/
def Plan.answersUnder (plan : Plan) (starts : World → Prop) : Answers where
  resolve c answer := ∃ w calls v, starts w ∧ plan.resolver.Leads w calls v ∧
    ((plan.resolver.resolve c).perform v).1 = answer
  download a answer := ∃ w calls v, starts w ∧ plan.resolver.Leads w calls v ∧
    ((plan.resolver.download a).perform v).1 = answer
  inspect a file answer := ∃ w calls v status, starts w ∧ plan.resolver.Leads w calls v ∧
    .download a ∈ calls ∧ ((plan.resolver.download a).perform v).1 = .ok status ∧
    status.file? = some file ∧ Aar.inspect (v.files.readFile file) = answer

variable {starts : World → Prop} (constant : plan.resolver.Constant starts)
include constant

theorem constant_single : (plan.answersUnder starts).Single where
  resolve := by
    rintro c _ _ ⟨w, calls, v, started, leads, rfl⟩ ⟨w', calls', v', started', leads', rfl⟩
    exact constant.resolve started started' leads leads' c
  download := by
    rintro a _ _ ⟨w, calls, v, started, leads, rfl⟩ ⟨w', calls', v', started', leads', rfl⟩
    exact constant.download started started' leads leads' a
  inspect := by
    rintro a file _ _ ⟨w, calls, v, status, started, leads, asked, answered, found, rfl⟩
      ⟨w', calls', v', -, started', leads', asked', -, -, rfl⟩
    rw [constant.delivered started started' leads leads' a status file answered found asked asked']

theorem constant_cover {w : World} (started : starts w) :
    (plan.answersUnder starts).Cover plan w where
  resolve leads _ := ⟨w, _, _, started, leads, rfl⟩
  download leads _ := ⟨w, _, _, started, leads, rfl⟩
  inspect leads a file status asked answered found := by
    obtain ⟨w', calls', v', started', leads', same⟩ := answered
    exact ⟨w, _, _, status, started, leads, asked,
      (constant.download started started' leads leads' a).trans same, found, rfl⟩

end Alone

section Runs

variable {plan : Plan} {schedule : List Turn} {w w₀ : World} {r : Run}

theorem processes_told {answers : Answers} (processes : plan.Processes schedule w w₀ r)
    (cover : answers.Cover plan w₀) :
    (∃ parts arrival, r.Told plan answers parts arrival) ∧ r.Done := by
  obtain ⟨parts, arrival, told, -⟩ := cover_told cover schedule plan.workers plan.workers
  have done := ended_returned (orderly_reached (follow_reaches plan schedule _ w₀))
    processes.returned
  rw [processes.run] at told done
  exact ⟨⟨parts, arrival, told⟩, done⟩

/-- Alone, an artifact comes to the end that it comes to among others. -/
theorem alone_declared {answers : Answers} {key : String} {config : ArtifactConfig}
    {path : Path} {d : Declared} {r' : Run} {parts parts' : List Part}
    {arrival arrival' : List Note} (single : answers.Single)
    (told : r.Told plan answers parts arrival)
    (told' : r'.Told (plan.only key config) answers parts' arrival') (done' : r'.Done)
    (packaged : (⟨key, config, .ended (.declared path d)⟩ : Task) ∈ r.tasks) :
    r'.progress.declared = [(path, d)] := by
  obtain ⟨notes, story, -⟩ := told_part told packaged
  have artifacts : parts'.map (fun e => (e.1.key, e.1.config)) = [(key, config)] :=
    told'.artifacts
  obtain ⟨⟨⟨key', config', stage'⟩, notes'⟩, rfl⟩ : ∃ e, parts' = [e] := by
    have length := congrArg List.length artifacts
    rw [List.length_map] at length
    exact List.length_eq_one_iff.mp length
  simp only [List.map_cons, List.map_nil, List.cons.injEq, Prod.mk.injEq, and_true] at artifacts
  obtain ⟨rfl, rfl⟩ := artifacts
  have tasks : r'.tasks = [⟨key', config', stage'⟩] := told'.tasks
  obtain ⟨fate, ended⟩ := done' ⟨key', config', stage'⟩ (by rw [tasks]; exact List.mem_cons_self)
  dsimp only at ended
  subst ended
  have story' := story_alone (told'.stories _ List.mem_cons_self)
  obtain ⟨-, rfl⟩ := story_unique single story story'
  have declared := told_declared told'
  rw [tasks] at declared
  exact List.perm_singleton.mp declared

end Runs

/-! ## Files -/

section Files

variable {plan : Plan}

/-- A file has a declaration among the others, each separated from the next one. -/
theorem content_texts {ds : List Declared} (isText : ∀ d ∈ ds, ∃ s, d.content = .str s)
    (rulesLabel : String) {d : Declared} (listed : d ∈ ds) {s : String}
    (content : d.content = .str s) : ∃ android before after,
      BuildFile.content ds rulesLabel
        = .ok (BuildFile.ofTexts android rulesLabel (before ++ s :: after)) ∧
      (before ++ s :: after).length = ds.length := by
  have sorted : ∀ d', d' ∈ BuildFile.ordered ds ↔ d' ∈ ds := fun d' =>
    (List.mergeSort_perm ds _).mem_iff
  obtain ⟨front, back, split⟩ := List.append_of_mem ((sorted d).mpr listed)
  have texts : ∀ part : List Declared, (∀ d' ∈ part, d' ∈ BuildFile.ordered ds) →
      ∃ texts : List String, part.map Declared.content = texts.map .str := by
    intro part among
    apply eq_map_str
    intro v listed
    obtain ⟨d', member, rfl⟩ := List.mem_map.mp listed
    exact isText d' ((sorted d').mp (among d' member))
  obtain ⟨before, first⟩ := texts front fun d' member => split ▸ List.mem_append_left _ member
  obtain ⟨after, last⟩ := texts back fun d' member =>
    split ▸ List.mem_append_right _ (List.mem_cons_of_mem d member)
  have all : (BuildFile.ordered ds).map Declared.content = (before ++ s :: after).map .str := by
    rw [split, List.map_append, List.map_cons, first, content, last, List.map_append, List.map_cons]
  refine ⟨(BuildFile.ordered ds).any fun d => d.resolution.form.isAndroid, before, after, ?_, ?_⟩
  · unfold BuildFile.content
    dsimp only
    rw [all, joinTexts_str]
    rfl
  · have length := congrArg List.length all
    rw [List.length_map, List.length_map] at length
    exact length.symm.trans (List.mergeSort_perm ds _).length_eq

/-- Groups that have a content each make a file each. -/
theorem groupFiles_ok :
    ∀ {groups : List (Path × List Declared)},
      (∀ g ∈ groups, ∃ text,
        BuildFile.content g.2 plan.specification.rulesLabel.text = .ok text) →
      ∃ files, plan.groupFiles groups = .ok files ∧ ∀ file, file ∈ files ↔
        ∃ g ∈ groups, g.1 = file.1 ∧
          BuildFile.content g.2 plan.specification.rulesLabel.text = .ok file.2
  | [], _ => ⟨[], rfl, by simp⟩
  | g :: groups, made => by
      obtain ⟨text, content⟩ := made g List.mem_cons_self
      obtain ⟨files, grouped, each⟩ := groupFiles_ok fun g' later =>
        made g' (List.mem_cons_of_mem g later)
      unfold Plan.groupFiles at grouped ⊢
      refine ⟨(g.1, text) :: files, ?_, fun file => ?_⟩
      · rw [List.mapM_cons, content, grouped]
        rfl
      · rw [List.mem_cons, each, List.exists_mem_cons_iff, content]
        constructor
        · rintro (rfl | later)
          · exact .inl ⟨rfl, rfl⟩
          · exact .inr later
        · rintro (⟨path, same⟩ | later)
          · exact .inl (Prod.ext path.symm (Except.ok.inj same).symm)
          · exact .inr later

/-- The files of groups are those with the contents of the groups. -/
theorem groupFiles_iff {groups : List (Path × List Declared)} {files : List (Path × String)}
    (grouped : plan.groupFiles groups = .ok files) (file : Path × String) :
    file ∈ files ↔ ∃ g ∈ groups, g.1 = file.1 ∧
      BuildFile.content g.2 plan.specification.rulesLabel.text = .ok file.2 := by
  have made : ∀ g ∈ groups, ∃ text,
      BuildFile.content g.2 plan.specification.rulesLabel.text = .ok text := fun g listed =>
    (groupFiles_mem grouped g listed).imp fun _ made => made.1
  obtain ⟨files', grouped', each⟩ := groupFiles_ok made
  rw [grouped] at grouped'
  cases grouped'
  exact each file

/-- The declaration of an artifact is generated, or its snippet. -/
theorem declares_text {config : ArtifactConfig} {path : Path} {d : Declared} {notes : List Note}
    (declares : plan.Declares config path d notes)
    (isText : config.snippet.isNull = true ∨ ∃ s, config.snippet = .str s) :
    ∃ s, d.content = .str s := by
  obtain ⟨labels, -, entry⟩ := declares.made
  have content : (plan.entry d.resolution labels).2.content = d.content :=
    congrArg (fun e => e.2.content) entry
  rw [← declares.config] at isText
  rw [← content]
  show ∃ s, Resolution.declaration _ labels _ = .str s
  unfold Resolution.declaration
  rcases isText with null | ⟨s, snippet⟩
  · exact ⟨_, if_pos null⟩
  · refine ⟨s, ?_⟩
    rw [if_neg (by rw [snippet]; simp [Json.isNull]), snippet]

theorem told_texts {answers : Answers} {parts : List Part} {arrival : List Note} {r : Run}
    (told : r.Told plan answers parts arrival) (texts : plan.specification.TextSnippets) :
    ∀ e ∈ r.progress.declared, ∃ s, e.2.content = .str s := by
  rintro ⟨path, d⟩ kept
  obtain ⟨e, artifact, notes, story, -⟩ := told_story told kept
  exact declares_text (story_declares story rfl) (texts e artifact)

theorem texts_at {p : Progress} (texts : ∀ e ∈ p.declared, ∃ s, e.2.content = .str s)
    (path : Path) : ∀ d ∈ declaredAt path p.declared, ∃ s, d.content = .str s := by
  intro d listed
  obtain ⟨e, member, rfl⟩ := List.mem_map.mp listed
  exact texts e (List.mem_filter.mp member).1

variable (plan) in
/-- If all declarations are texts, every group has a content. -/
theorem groups_made {p : Progress} (texts : ∀ e ∈ p.declared, ∃ s, e.2.content = .str s) :
    ∀ g ∈ sortedGroups (groupByFile p.declared), ∃ text,
      BuildFile.content g.2 plan.specification.rulesLabel.text = .ok text := by
  intro g among
  have grouped := groupByFile_grouped p.declared
  have known : g ∈ groupByFile p.declared := (List.mergeSort_perm _ _).mem_iff.mp among
  obtain ⟨⟨path, d⟩, member, same⟩ :=
    List.mem_map.mp ((grouped.paths g.1).mp (List.mem_map_of_mem known))
  have own : d ∈ declaredAt g.1 p.declared :=
    List.mem_map.mpr ⟨(path, d), List.mem_filter.mpr ⟨member, by simpa using same⟩, rfl⟩
  obtain ⟨s, content⟩ := texts_at texts g.1 d own
  obtain ⟨android, before, after, whole, -⟩ := content_texts (texts_at texts g.1)
    plan.specification.rulesLabel.text own content
  exact ⟨_, by rw [grouped.members g known, whole]⟩

variable (plan) in
/-- If all declarations are texts, each of them stands in the file of its path. -/
theorem declared_written {p : Progress} {path : Path} {d : Declared} {s : String}
    (texts : ∀ e ∈ p.declared, ∃ s, e.2.content = .str s) (kept : (path, d) ∈ p.declared)
    (content : d.content = .str s) :
    ∃ files android before after,
      plan.groupFiles (sortedGroups (groupByFile p.declared)) = .ok files ∧
      (∀ text, (path, text) ∈ files ↔
        text = BuildFile.ofTexts android plan.specification.rulesLabel.text
          (before ++ s :: after)) ∧
      (before ++ s :: after).length = (declaredAt path p.declared).length := by
  have grouped := groupByFile_grouped p.declared
  have sorted : ∀ g, g ∈ sortedGroups (groupByFile p.declared) ↔ g ∈ groupByFile p.declared :=
    fun g => (List.mergeSort_perm _ _).mem_iff
  have listed : d ∈ declaredAt path p.declared :=
    List.mem_map.mpr ⟨(path, d), List.mem_filter.mpr ⟨kept, by simp⟩, rfl⟩
  obtain ⟨files, same, each⟩ := groupFiles_ok (groups_made plan texts)
  obtain ⟨android, before, after, whole, length⟩ := content_texts (texts_at texts path)
    plan.specification.rulesLabel.text listed content
  refine ⟨files, android, before, after, same, fun text => ?_, length⟩
  rw [each]
  constructor
  · rintro ⟨g, among, rfl, text'⟩
    rw [grouped.members g ((sorted g).mp among), whole] at text'
    exact (Except.ok.inj text').symm
  · rintro rfl
    obtain ⟨g, known, rfl⟩ := List.mem_map.mp
      ((grouped.paths path).mpr (List.mem_map.mpr ⟨(path, d), kept, rfl⟩))
    exact ⟨g, (sorted g).mpr known, rfl, by rw [grouped.members g known, whole]⟩

theorem writes_file {schedule : List Turn} {w w₀ : World} {r : Run} {path : Path} {text : String}
    {files : List (Path × String)} (valid : plan.specification.problems = [])
    (processes : plan.Processes schedule w w₀ r)
    (grouped : plan.groupFiles (sortedGroups (groupByFile r.progress.declared)) = .ok files)
    (alone : ∀ text', (path, text') ∈ files ↔ text' = text) :
    plan.Writes schedule w r.progress path text where
  file := ⟨files, grouped, alone⟩
  output e v ended := by
    rw [generateBy_valid plan valid] at ended
    obtain ⟨w₀', pool, w₁, prepared, followed, -, concluded⟩ := runBy_ok ended
    obtain rfl : w₀ = w₀' := (Prod.mk.inj (processes.prepared.symm.trans prepared)).2
    have same : pool.run = r := by rw [← processes.run, followed]
    obtain ⟨files', grouped', all⟩ := files_ok concluded.files
    rw [same, grouped] at grouped'
    cases grouped'
    rw [all]
    exact List.mem_append_left _ ((alone text).mpr rfl)

end Files

theorem problems_nil {s : Specification} :
    s.problems = [] ↔ (s.name.truth = true ∧ s.globProblems = []) ∧
      ∀ e ∈ s.artifacts, Specification.artifactProblems e.1 e.2 = [] := by
  unfold Specification.problems
  rw [List.append_eq_nil_iff, List.append_eq_nil_iff, List.flatMap_eq_nil_iff, List.map_eq_nil_iff]
  simp

theorem only_valid {plan : Plan} {key : String} {config : ArtifactConfig}
    (valid : plan.specification.problems = [])
    (artifact : (key, config) ∈ plan.specification.artifacts) :
    (plan.only key config).specification.problems = [] := by
  obtain ⟨others, own⟩ := problems_nil.mp valid
  refine problems_nil.mpr ⟨others, fun e listed => ?_⟩
  rw [List.mem_singleton.mp listed]
  exact own _ artifact

/-- An artifact that is packaged is declared by the same text whether or not other artifacts are
declared, whatever becomes of these. -/
theorem artifact_isolated (plan : Plan) (key : String) (config : ArtifactConfig)
    (schedule schedule' : List Turn) (w w' w₀ w₀' : World) (r r' : Run) (path : Path)
    (d : Declared) (valid : plan.specification.problems = [])
    (snippets : plan.specification.TextSnippets)
    (constant : plan.resolver.Constant fun u => u = w₀ ∨ u = w₀')
    (processes : plan.Processes schedule w w₀ r)
    (processes' : (plan.only key config).Processes schedule' w' w₀' r')
    (packaged : ⟨key, config, .ended (.declared path d)⟩ ∈ r.tasks) :
    r'.progress.declared = [(path, d)] ∧
      ∃ s before after android android', d.content = .str s ∧
        plan.Writes schedule w r.progress path
          (BuildFile.ofTexts android plan.specification.rulesLabel.text
            (before ++ s :: after)) ∧
        (plan.only key config).Writes schedule' w' r'.progress path
          (BuildFile.ofTexts android' plan.specification.rulesLabel.text [s]) := by
  obtain ⟨⟨parts, arrival, told⟩, -⟩ :=
    processes_told processes (constant_cover constant (.inl rfl))
  have cover' : (plan.answersUnder fun u => u = w₀ ∨ u = w₀').Cover (plan.only key config) w₀' := by
    have cover := constant_cover constant (.inr rfl : w₀' = w₀ ∨ w₀' = w₀')
    exact ⟨cover.resolve, cover.download, cover.inspect⟩
  obtain ⟨⟨parts', arrival', told'⟩, done'⟩ := processes_told processes' cover'
  have declared' := alone_declared (constant_single constant) told told' done' packaged
  have kept : (path, d) ∈ r.progress.declared :=
    (told_declared told).mem_iff.mpr (List.mem_filterMap.mpr ⟨_, packaged, rfl⟩)
  have texts := told_texts told snippets
  obtain ⟨s, content⟩ := texts _ kept
  obtain ⟨files, android, before, after, grouped, alone, -⟩ :=
    declared_written plan texts kept content
  have texts' : ∀ e ∈ r'.progress.declared, ∃ s, e.2.content = .str s := by
    intro e listed
    rw [declared'] at listed
    obtain rfl := List.mem_singleton.mp listed
    exact ⟨s, content⟩
  obtain ⟨files', android', before', after', grouped', alone', length⟩ :=
    declared_written (plan.only key config) texts'
      (declared' ▸ List.mem_cons_self) content
  have only : before' = [] ∧ after' = [] := by
    rw [declared', List.length_append, List.length_cons] at length
    have single : (declaredAt path [(path, d)]).length = 1 := by simp [declaredAt]
    exact ⟨List.length_eq_zero_iff.mp (by omega), List.length_eq_zero_iff.mp (by omega)⟩
  obtain ⟨rfl, rfl⟩ := only
  have artifact : (key, config) ∈ plan.specification.artifacts := by
    rw [← told.artifacts]
    rw [told.tasks] at packaged
    obtain ⟨e, member, same⟩ := List.mem_map.mp packaged
    exact List.mem_map.mpr ⟨e, member, by rw [same]⟩
  exact ⟨declared', s, before, after, android, android', content,
    writes_file valid processes grouped alone,
    writes_file (only_valid valid artifact) processes' grouped' alone'⟩

/-! ### One artifact among a file of two and one that is not found -/

namespace Apart

def plan : Plan :=
  { Pair.plan with
    specification :=
      { Pair.specification with
        artifacts := [("g:a:1", Pair.config), ("g:b:1", Pair.config), ("g:c:1", Pair.config)] } }

def alone : Plan := plan.only "g:a:1" Pair.config

/-- A run of a plan in turn, from an empty workspace. -/
def prepared (plan : Plan) : World := (plan.prepare.perform Pair.world).2

def run (plan : Plan) : Pool :=
  ((Pool.follow plan (inTurn plan.specification.artifacts.length)
    (.start plan.specification plan.workers plan.workers)).run (prepared plan)).1

/-- How an artifact is declared. -/
def declaration? (plan : Plan) (key : String) : Option (Path × Declared) :=
  ((run plan).run.tasks.find? fun t => t.key = key).bind fun t => t.stage.declaration?

theorem processes (p : Plan) (prepares : (p.prepare.perform Pair.world).1.isOk = true)
    (returned : (run p).phase = .returned) :
    p.Processes (inTurn p.specification.artifacts.length) Pair.world (prepared p) (run p).run where
  prepared := by
    rcases made : p.prepare.perform Pair.world with ⟨fault | ⟨⟩, w⟩
    · rw [made] at prepares
      cases prepares
    · rw [prepared, made]
  run := by rw [← run]
  returned := by rw [← run, returned]

theorem constant (starts : World → Prop) : plan.resolver.Constant starts where
  resolve _ _ _ _ _ := rfl
  download _ _ _ _ _ := rfl
  delivered _ _ _ _ _ _ _ answered found := by
    cases answered
    cases found

theorem configured (prepares : (plan.prepare.perform Pair.world).1.isOk = true)
    (returned : (run plan).phase = .returned) {t : Task} (listed : t ∈ (run plan).run.tasks) :
    t.config = Pair.config := by
  obtain ⟨⟨parts, arrival, told⟩, -⟩ := processes_told (processes plan prepares returned)
    (constant_cover (constant fun _ => True) trivial)
  rw [told.tasks] at listed
  obtain ⟨e, member, rfl⟩ := List.mem_map.mp listed
  have artifact : (e.1.key, e.1.config) ∈ plan.specification.artifacts := by
    rw [← told.artifacts]
    exact List.mem_map_of_mem member
  have same : ∀ a ∈ plan.specification.artifacts, a.2 = Pair.config := by simp [plan]
  exact same _ artifact

end Apart

theorem apart_isolated : ∃ path d,
    ⟨"g:a:1", Pair.config, .ended (.declared path d)⟩ ∈ (Apart.run Apart.plan).run.tasks ∧
      (Apart.run Apart.alone).run.progress.declared = [(path, d)] := by
  have checked : (Apart.declaration? Apart.plan "g:a:1").isSome = true ∧
      (Apart.plan.prepare.perform Pair.world).1.isOk = true ∧
      (Apart.run Apart.plan).phase = .returned ∧
      (Apart.alone.prepare.perform Pair.world).1.isOk = true ∧
      (Apart.run Apart.alone).phase = .returned := by
    decide +kernel
  obtain ⟨some, prepares, returned, prepares', returned'⟩ := checked
  obtain ⟨⟨path, d⟩, found⟩ := Option.isSome_iff_exists.mp some
  obtain ⟨⟨key, config, stage⟩, first, declared⟩ := Option.bind_eq_some_iff.mp found
  obtain rfl : key = "g:a:1" := by simpa using List.find?_some first
  have packaged := List.mem_of_find?_eq_some first
  obtain rfl : config = Pair.config := Apart.configured prepares returned packaged
  dsimp only at declared
  rw [declaration_eq_some] at declared
  subst declared
  have generated : ∀ e ∈ Apart.plan.specification.artifacts, e.2.snippet.isNull = true := by
    decide
  have snippets : Apart.plan.specification.TextSnippets := fun e listed =>
    .inl (generated e listed)
  exact ⟨path, d, packaged, (artifact_isolated Apart.plan "g:a:1" Pair.config _ _ _ _ _ _ _ _ path d
    (by decide) snippets (Apart.constant _)
    (Apart.processes Apart.plan prepares returned)
    (Apart.processes Apart.alone prepares' returned') packaged).1⟩

end MavenImport
