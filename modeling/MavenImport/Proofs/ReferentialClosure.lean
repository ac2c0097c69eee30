/-
# Proofs.ReferentialClosure -- no label leads nowhere

If all is well at the end of a run, then every label that was made for a dependency names a
target that the run declared in a file that it wrote (`Plan.Closed`).  For a dependency that is
kept is recorded, what is recorded is declared since nothing is missing, what is declared has a
declaration since nothing failed, and its declaration stands in the file of its group under the
name of its target.  The second names lead to targets of the run as well.
-/
import MavenImport.Proofs.BuildFileOrder
import MavenImport.Proofs.DeclarationText
import MavenImport.Proofs.DeclaredArtifacts
import MavenImport.Proofs.LabelReading
import MavenImport.Proofs.PoolOrder
import MavenImport.Proofs.RunFiles

namespace MavenImport

set_option autoImplicit false

/-! ## What it means -/

/-- A declaration lists a label among those that its artifact depends on. -/
def Declared.Emits (d : Declared) (label : String) : Prop :=
  ∃ s, d.content = .str s ∧ ∃ field ∈ edgeFields, ∃ labels, label ∈ labels ∧
    Occurs (labelList field labels) s

/-- No substitute changes the label of a dependency. -/
def Plan.Unchanged (plan : Plan) (owner : Coordinate) (d : Dependency) : Prop :=
  ∀ table v, substitutesFor plan.specification.substitutes owner.group = .ok table →
    table.field? (targetLabel plan.specification.name.text d.group d.artifact) = .ok (some v) →
      v = .str (targetLabel plan.specification.name.text d.group d.artifact)

/-- A target of a package is that of a declaration in the file of the package.  A snippet may
declare it in its own way; otherwise there is a rule with its name. -/
structure Plan.Provides (plan : Plan) (e : Ending) (package target : String) (d : Declared) :
    Prop where
  declared : (plan.packageFile package, d) ∈ e.progress.declared
  written : ∃ text s, (⟨plan.packageFile package, text, true⟩ : Output) ∈ e.outputs ∧
    d.content = .str s ∧ Occurs (trimmed s) text
  rule : d.resolution.config.snippet.isNull = true → ∃ s, d.content = .str s ∧
    ∃ kind ∈ ruleKinds, Occurs (ruleOpening kind target) s

/-- Every label in the files that a run wrote leads to a target of the run. -/
structure Plan.Closed (plan : Plan) (e : Ending) (files : FileSystem) : Prop where
  written : ∃ before, Written before e.outputs files
  /-- A dependency that is kept has its label in the declaration, and it names the target of an
  artifact with the slug of the dependency. -/
  dependencies : ∀ path owner, (path, owner) ∈ e.progress.declared →
    owner.resolution.config.snippet.isNull = true → owner.resolution.config.deps = [] →
    ∃ kept, keptDependencies owner.resolution.config owner.resolution.artifact = .ok kept ∧
      ∀ d ∈ kept, plan.Unchanged owner.resolution.coordinate d →
        ∃ label package target provider, owner.Emits label ∧
          readLabel? plan.specification.name.text
            (groupPath owner.resolution.coordinate.group) label = some (package, target) ∧
          provider.resolution.coordinate.slug = d.slug ∧ plan.Provides e package target provider
  /-- Every line of the file of second names gives one to a target. -/
  aliases : plan.specification.writeAliases = true →
    ∃ lines, (⟨plan.workspace.joinText buildFileName,
        aliasPreamble ++ Text.joinWith "\n" lines ++ "\n", true⟩ : Output) ∈ e.outputs ∧
      ∀ line ∈ lines, ∃ name label comment package target provider,
        line = "alias(name = \"" ++ name ++ "\", actual = \"" ++ label ++ "\") # " ++ comment ∧
        readLabel? plan.specification.name.text "" label = some (package, target) ∧
        plan.Provides e package target provider

/-! ## Labels -/

theorem recordAll_labels {workspace : String} {substitutes : Json} {owner : Coordinate} :
    ∀ {ds : List Dependency} {ledger : Ledger} {labels : List Json},
      (recordAll workspace substitutes owner ledger ds).1 = .ok labels →
        recordedAmong workspace substitutes owner.group ds = ds ∧
          ∀ d ∈ ds, ∃ label ∈ labels, labelFor workspace substitutes owner.group d = .ok label
  | [], _, _, _ => ⟨rfl, fun _ listed => absurd listed List.not_mem_nil⟩
  | d :: ds, ledger, labels, made => by
      unfold recordAll at made
      unfold recordedAmong
      dsimp only at made
      cases first : labelFor workspace substitutes owner.group d with
      | error f => rw [first] at made; cases made
      | ok label =>
          rw [first] at made
          dsimp only at made ⊢
          cases rest : (recordAll workspace substitutes owner (ledger.record d.slug
              ((given? d.version).getD unversioned) (some owner.text)) ds).1 with
          | error f => rw [rest] at made; cases made
          | ok others =>
              rw [rest] at made
              cases made
              obtain ⟨all, each⟩ := recordAll_labels rest
              refine ⟨by rw [all], fun d' listed => ?_⟩
              rcases List.mem_cons.mp listed with rfl | later
              · exact ⟨label, List.mem_cons_self, first⟩
              · obtain ⟨label', member, same⟩ := each d' later
                exact ⟨label', List.mem_cons_of_mem _ member, same⟩

theorem sameEntry_str {v : Json} {s : String} (same : Json.sameEntry v (.str s) = true) :
    v = .str s := by
  cases v <;> simp_all [Json.sameEntry, Json.number?]

/-- A text is not lost with the repetitions. -/
theorem mem_distinctFrom {s : String} :
    ∀ {vs seen : List Json}, .str s ∈ vs → .str s ∈ seen ∨ .str s ∈ Json.distinctFrom seen vs
  | v :: vs, seen, listed => by
      unfold Json.distinctFrom
      by_cases known : seen.any (Json.sameEntry · v) = true
      · rw [if_pos known]
        rcases List.mem_cons.mp listed with rfl | later
        · obtain ⟨v', member, same⟩ := List.any_eq_true.mp known
          exact .inl (sameEntry_str same ▸ member)
        · exact mem_distinctFrom later
      · rw [if_neg known]
        rcases List.mem_cons.mp listed with rfl | later
        · exact .inr List.mem_cons_self
        · have split : .str s ∈ v :: seen ∨ .str s ∈ Json.distinctFrom (v :: seen) vs :=
            mem_distinctFrom later
          rcases split with before | after
          · rcases List.mem_cons.mp before with rfl | earlier
            · exact .inr List.mem_cons_self
            · exact .inl earlier
          · exact .inr (List.mem_cons_of_mem v after)

theorem mem_distinctScalars {s : String} {vs distinct : List Json}
    (made : Json.distinctScalars vs = .ok distinct) (listed : .str s ∈ vs) :
    .str s ∈ distinct := by
  unfold Json.distinctScalars at made
  split at made
  · cases made
  · cases made
    exact (mem_distinctFrom listed).resolve_left List.not_mem_nil

section Edges

variable {plan : Plan} {r : Resolution} {labels : List Json}

/-- The labels of an artifact without a snippet or a list are those of the dependencies that it
keeps, all of which are recorded. -/
theorem labels_kept (snippet : r.config.snippet.isNull = true) (listed : r.config.deps = [])
    (made : plan.labels r = .ok labels) :
    ∃ table kept, substitutesFor plan.specification.substitutes r.coordinate.group = .ok table ∧
      keptDependencies r.config r.artifact = .ok kept ∧ plan.recorded r = kept ∧
      ∀ d ∈ kept, ∃ label, labelFor plan.specification.name.text table r.coordinate.group d
        = .ok label ∧ ∀ s, label = .str s → .str s ∈ labels := by
  unfold Plan.labels prepareEdges at made
  unfold Plan.recorded recordedDependencies
  rw [if_pos ⟨snippet, listed⟩]
  rw [snippet, listed] at made
  simp only [Bool.not_true, Bool.false_eq_true, if_false, List.isEmpty_nil] at made
  have group : r.artifact.coordinate.group = r.coordinate.group := rfl
  cases substituted : substitutesFor plan.specification.substitutes r.artifact.coordinate.group with
  | error f => rw [substituted] at made; cases made
  | ok table =>
      cases found : keptDependencies r.config r.artifact with
      | error f => rw [substituted, found] at made; cases made
      | ok kept =>
          rw [substituted, found] at made
          dsimp only at made ⊢
          cases all : (recordAll plan.specification.name.text table r.artifact.coordinate .empty
              kept).1 with
          | error f => rw [all] at made; cases made
          | ok ls =>
              rw [all] at made
              dsimp only at made
              obtain ⟨recorded, each⟩ := recordAll_labels all
              refine ⟨table, kept, substituted, rfl, recorded, fun d member => ?_⟩
              obtain ⟨label, among, same⟩ := each d member
              refine ⟨label, same, fun s text => ?_⟩
              cases distinct : Json.distinctScalars
                  (ls ++ r.config.included.filter ArtifactConfig.isLabelEntry) with
              | error f => rw [distinct] at made; cases made
              | ok ds =>
                  rw [distinct] at made
                  cases made
                  exact mem_distinctScalars distinct (List.mem_append_left _ (text ▸ among))

/-- Without a snippet, the declaration of an artifact is the generated one. -/
theorem entry_content {path : Path} {d : Declared} (snippet : r.config.snippet.isNull = true)
    (entry : plan.entry r labels = (path, d)) :
    d.content = .str (r.generated (labels.map Json.text)
      (plan.specification.jetifies r.coordinate.group r.coordinate.artifact)) := by
  obtain rfl : (plan.entry r labels).2 = d := congrArg Prod.snd entry
  exact if_pos snippet

/-- The labels of an artifact stand in its declaration. -/
theorem entry_emits {path : Path} {d : Declared} (snippet : r.config.snippet.isNull = true)
    (entry : plan.entry r labels = (path, d)) {s : String} (listed : .str s ∈ labels) :
    d.Emits s := by
  obtain ⟨-, field, known, occurs⟩ := generated_holds r (labels.map Json.text)
    (plan.specification.jetifies r.coordinate.group r.coordinate.artifact)
  exact ⟨_, entry_content snippet entry, field, known, labels.map Json.text,
    List.mem_map.mpr ⟨.str s, listed, rfl⟩, occurs⟩

end Edges

/-! ## Files -/

section Files

variable {plan : Plan} {p : Progress} {f g : FileSystem} {e : Ending}

/-- The first group makes the first file. -/
theorem groupFiles_cons {g : Path × List Declared} {groups : List (Path × List Declared)}
    {files : List (Path × String)} (made : plan.groupFiles (g :: groups) = .ok files) :
    ∃ text others, BuildFile.content g.2 plan.specification.rulesLabel.text = .ok text ∧
      plan.groupFiles groups = .ok others ∧ files = (g.1, text) :: others := by
  unfold Plan.groupFiles at made ⊢
  rw [List.mapM_cons] at made
  cases content : BuildFile.content g.2 plan.specification.rulesLabel.text with
  | error f => rw [content] at made; cases made
  | ok text =>
      rw [content] at made
      cases rest : groups.mapM fun g =>
          (BuildFile.content g.2 plan.specification.rulesLabel.text).map fun text => (g.1, text) with
      | error f => rw [rest] at made; cases made
      | ok others =>
          rw [rest] at made
          cases made
          exact ⟨text, others, rfl, rfl, rfl⟩

theorem groupFiles_mem :
    ∀ {groups : List (Path × List Declared)} {files : List (Path × String)},
      plan.groupFiles groups = .ok files → ∀ group ∈ groups, ∃ text,
        BuildFile.content group.2 plan.specification.rulesLabel.text = .ok text ∧
          (group.1, text) ∈ files
  | first :: groups, files, made, group, listed => by
      obtain ⟨text, others, content, rest, rfl⟩ := groupFiles_cons made
      rcases List.mem_cons.mp listed with rfl | member
      · exact ⟨text, content, List.mem_cons_self⟩
      · obtain ⟨text', content', among⟩ := groupFiles_mem rest group member
        exact ⟨text', content', List.mem_cons_of_mem _ among⟩

theorem groupFiles_paths :
    ∀ {groups : List (Path × List Declared)} {files : List (Path × String)},
      plan.groupFiles groups = .ok files → files.map Prod.fst = groups.map Prod.fst
  | [], files, made => by
      cases made
      rfl
  | g :: groups, files, made => by
      obtain ⟨text, others, -, rest, rfl⟩ := groupFiles_cons made
      rw [List.map_cons, List.map_cons, groupFiles_paths rest]

theorem files_ok {files : List (Path × String)} (made : plan.files p = .ok files) :
    ∃ groups, plan.groupFiles (sortedGroups (groupByFile p.declared)) = .ok groups ∧
      files = groups ++ plan.aliasFiles p.declared := by
  unfold Plan.files at made
  cases grouped : plan.groupFiles (sortedGroups (groupByFile p.declared)) with
  | error f => rw [grouped] at made; cases made
  | ok groups =>
      rw [grouped] at made
      exact ⟨groups, rfl, (Except.ok.inj made).symm⟩

/-- If all is well, then every file was written. -/
theorem well_written (concluded : plan.Concluded p f e g) (well : e.well = true)
    {path : Path} {text : String} (listed : (path, text) ∈ e.outputs.map Output.file) :
    (⟨path, text, true⟩ : Output) ∈ e.outputs := by
  obtain ⟨⟨path', text', written⟩, member, same⟩ := List.mem_map.mp listed
  cases same
  have done := (concluded.well.mp well).2.1 _ member
  dsimp only at done
  rwa [done] at member

/-- Every declaration stands in the file that it belongs to. -/
theorem well_declared (concluded : plan.Concluded p f e g) (well : e.well = true)
    {path : Path} {d : Declared} (declared : (path, d) ∈ p.declared) :
    ∃ text s, (⟨path, text, true⟩ : Output) ∈ e.outputs ∧ d.content = .str s ∧
      Occurs (trimmed s) text := by
  have grouped := groupByFile_grouped p.declared
  obtain ⟨group, known, rfl⟩ :=
    List.mem_map.mp ((grouped.paths path).mpr (List.mem_map_of_mem declared))
  have member : d ∈ group.2 := by
    rw [grouped.members group known]
    exact List.mem_map.mpr ⟨_, List.mem_filter.mpr ⟨declared, by simp⟩, rfl⟩
  obtain ⟨groups, made, same⟩ := files_ok concluded.files
  have sorted : group ∈ sortedGroups (groupByFile p.declared) :=
    (List.mergeSort_perm _ _).mem_iff.mpr known
  obtain ⟨text, content, among⟩ := groupFiles_mem made group sorted
  obtain ⟨s, isText, occurs⟩ := content_occurs content d member
  refine ⟨text, s, well_written concluded well ?_, isText, occurs⟩
  rw [same]
  exact List.mem_append_left _ among

end Files

/-! ## Runs that end well -/

section Runs

variable {plan : Plan} {answers : Answers} {parts : List Part} {arrival : List Note} {r : Run}
  {f g : FileSystem} {e : Ending}

/-- If nothing failed, every artifact was declared. -/
theorem done_declared (told : r.Told plan answers parts arrival) (done : r.Done)
    (well : r.progress.failed = false) {e : Part} (listed : e ∈ parts) :
    ∃ path d, e.1.stage = .ended (.declared path d) ∧ (path, d) ∈ r.progress.declared := by
  have task : e.1 ∈ r.tasks := by
    rw [told.tasks]
    exact List.mem_map_of_mem listed
  have unfailed : e.1.stage.isFailed = false := by
    cases failed : e.1.stage.isFailed with
    | false => rfl
    | true => rw [told_failed told task failed] at well; cases well
  obtain ⟨fate, ended⟩ := done e.1 task
  cases fate with
  | declared path d =>
      refine ⟨path, d, ended, (told_declared told).mem_iff.mpr ?_⟩
      exact List.mem_filterMap.mpr ⟨e.1, task, by rw [ended]; rfl⟩
  | _ => rw [ended] at unfailed; cases unfailed

/-- If nothing failed and nothing is missing, every dependency that was recorded is that on a
declared artifact. -/
theorem needed_declared (told : r.Told plan answers parts arrival) (faithful : answers.Faithful)
    (done : r.Done) (well : r.progress.failed = false)
    (missing : Checks.missing r.progress.ledger r.progress.declaredSlugs = [])
    {slug version owner : String} (needed : Note.needed slug version owner ∈ arrival) :
    ∃ path d, (path, d) ∈ r.progress.declared ∧ d.resolution.coordinate.slug = slug := by
  have known : (r.progress.ledger.find? slug).isSome := by
    rw [told.progress, noteAll_ledger, Ledger.find?_recordThese]
    exact .inr ⟨(slug, version, some owner), List.mem_filterMap.mpr ⟨_, needed, rfl⟩, rfl⟩
  have declared := missing_nil.mp missing slug known
  rw [told.progress, mem_declaredSlugs] at declared
  obtain ⟨c, named, same⟩ := declared.resolve_left (by simp)
  obtain ⟨e, listed, own⟩ := List.mem_flatMap.mp (told.arrived.mem_iff.mp named)
  have story := told.stories e listed
  have parsed := story_named_key story own
  obtain ⟨path, d, ended, kept⟩ := done_declared told done well listed
  have parsed' := story_coordinate faithful story d.resolution.coordinate (by rw [ended]; rfl)
  rw [parsed] at parsed'
  cases parsed'
  exact ⟨path, d, kept, same⟩

section Provided

variable (told : r.Told plan answers parts arrival) (faithful : answers.Faithful)
  (groups : plan.specification.ProperGroups) (concluded : plan.Concluded r.progress f e g)
  (well : e.well = true)
include told faithful groups concluded well

/-- A declared artifact provides its target in the package of its group. -/
theorem declared_provides {path : Path} {d : Declared}
    (declared : (path, d) ∈ r.progress.declared) :
    plan.Provides e (groupPath d.resolution.coordinate.group)
      (targetName d.resolution.coordinate.artifact) d := by
  obtain ⟨a, listed, parsed, declares⟩ := told_declaration told faithful declared
  obtain ⟨labels, made, entry⟩ := declares.made
  have file : path = plan.packageFile (groupPath d.resolution.coordinate.group) := by
    rw [← buildFilePath_eq (groups a listed _ parsed)]
    exact (congrArg Prod.fst entry).symm
  subst file
  exact
    { declared := by rwa [concluded.progress]
      written := well_declared concluded well declared
      rule := fun snippet => ⟨_, entry_content snippet entry, (generated_holds _ _ _).1⟩ }

/-- The label of a dependency that was recorded names the target of a declared artifact. -/
theorem dependency_provided (done : r.Done) {table label : Json} {ownerGroup version owner : String}
    {d : Dependency} (needed : Note.needed d.slug version owner ∈ arrival)
    (unchanged : ∀ v, table.field? (targetLabel plan.specification.name.text d.group d.artifact)
      = .ok (some v) → v = .str (targetLabel plan.specification.name.text d.group d.artifact))
    (made : labelFor plan.specification.name.text table ownerGroup d = .ok label) :
    ∃ s package target provider, label = .str s ∧
      readLabel? plan.specification.name.text (groupPath ownerGroup) s = some (package, target) ∧
      provider.resolution.coordinate.slug = d.slug ∧ plan.Provides e package target provider := by
  obtain ⟨unfailed, -, quiet⟩ := concluded.well.mp well
  obtain ⟨path, provider, kept, slug⟩ :=
    needed_declared told faithful done unfailed quiet.missing needed
  obtain ⟨a, -, parsed, -⟩ := told_declaration told faithful kept
  have plain := ofString_plain parsed
  obtain ⟨group, artifact⟩ := slug_injective plain slug
  obtain ⟨s, text, reads⟩ := labelFor_reads (group ▸ plain.1) unchanged made
  refine ⟨s, _, _, provider, text, reads, slug, ?_⟩
  rw [← group, ← artifact]
  exact declared_provides told faithful groups concluded well kept

/-- The labels of the dependencies that a declared artifact keeps are among those of its
declaration, and they name targets of declared artifacts. -/
theorem dependencies_provided (done : r.Done) {path : Path} {owner : Declared}
    (declared : (path, owner) ∈ r.progress.declared)
    (snippet : owner.resolution.config.snippet.isNull = true)
    (noList : owner.resolution.config.deps = []) :
    ∃ kept, keptDependencies owner.resolution.config owner.resolution.artifact = .ok kept ∧
      ∀ d ∈ kept, plan.Unchanged owner.resolution.coordinate d →
        ∃ label package target provider, owner.Emits label ∧
          readLabel? plan.specification.name.text
            (groupPath owner.resolution.coordinate.group) label = some (package, target) ∧
          provider.resolution.coordinate.slug = d.slug ∧
          plan.Provides e package target provider := by
  obtain ⟨a, -, -, declares⟩ := told_declaration told faithful declared
  obtain ⟨labels, made, entry⟩ := declares.made
  obtain ⟨table, kept, substituted, found, recorded, each⟩ := labels_kept snippet noList made
  refine ⟨kept, found, fun d member unchanged => ?_⟩
  obtain ⟨label, labelled, emitted⟩ := each d member
  have needed : Plan.needNote owner.resolution.coordinate d ∈ arrival := by
    refine declares.noted _ (List.mem_append_left _ ?_)
    rw [recorded]
    exact List.mem_map_of_mem member
  obtain ⟨s, package, target, provider, rfl, reads, slug, provides⟩ :=
    dependency_provided told faithful groups concluded well done needed
      (fun v found => unchanged table v substituted found) labelled
  exact ⟨s, package, target, provider, entry_emits snippet entry (emitted s rfl), reads, slug,
    provides⟩

/-- The second name of a declared artifact leads to its target. -/
theorem aliasLine_provided {path : Path} {d : Declared}
    (declared : (path, d) ∈ r.progress.declared) :
    ∃ name label comment package target provider,
      aliasLine plan.specification.name.text d.resolution.coordinate
        = "alias(name = \"" ++ name ++ "\", actual = \"" ++ label ++ "\") # " ++ comment ∧
      readLabel? plan.specification.name.text "" label = some (package, target) ∧
      plan.Provides e package target provider := by
  obtain ⟨a, -, parsed, -⟩ := told_declaration told faithful declared
  have plain := groupPath_plain (ofString_plain parsed).1
  exact ⟨_, _, _, _, _, d, rfl, read_target plain,
    declared_provides told faithful groups concluded well declared⟩

theorem aliases_provided (wanted : plan.specification.writeAliases = true) :
    ∃ lines, (⟨plan.workspace.joinText buildFileName,
        aliasPreamble ++ Text.joinWith "\n" lines ++ "\n", true⟩ : Output) ∈ e.outputs ∧
      ∀ line ∈ lines, ∃ name label comment package target provider,
        line = "alias(name = \"" ++ name ++ "\", actual = \"" ++ label ++ "\") # " ++ comment ∧
        readLabel? plan.specification.name.text "" label = some (package, target) ∧
        plan.Provides e package target provider := by
  obtain ⟨files, -, all⟩ := files_ok concluded.files
  let coordinates := r.progress.declared.map fun e => e.2.resolution.coordinate
  refine ⟨(coordinates.mergeSort fun a b => a.text ≤ b.text).map
    (aliasLine plan.specification.name.text), well_written concluded well ?_, ?_⟩
  · rw [all, Plan.aliasFiles, if_pos wanted]
    exact List.mem_append_right _ (List.mem_singleton.mpr rfl)
  · intro line listed
    obtain ⟨c, sorted, rfl⟩ := List.mem_map.mp listed
    obtain ⟨⟨path, d⟩, declared, rfl⟩ :=
      List.mem_map.mp ((List.mergeSort_perm _ _).mem_iff.mp sorted)
    exact aliasLine_provided told faithful groups concluded well declared

end Provided

end Runs

/-- A run that ends well leaves no label that leads nowhere, whatever the resolver answers and
whoever's turn it was, if the groups of the declared artifacts are proper. -/
theorem well_closed (plan : Plan) (schedule : List Turn) (w v : World) (e : Ending)
    (valid : plan.specification.problems = []) (groups : plan.specification.ProperGroups)
    (faithful : plan.resolver.Faithful)
    (ended : (plan.generateBy schedule).perform w = (.ok (some e), v)) (well : e.well = true) :
    plan.Closed e v.files := by
  rw [generateBy_valid plan valid] at ended
  obtain ⟨w₀, pool, w₁, -, followed, returned, concluded⟩ := runBy_ok ended
  have reached := follow_reaches plan schedule
    (.start plan.specification plan.workers plan.workers) w₀
  rw [followed] at reached
  obtain ⟨parts, arrival, told⟩ := told_reached (within_faithful faithful) reached
  have done : pool.run.Done := ended_returned (orderly_reached reached) returned
  exact
    { written := ⟨_, concluded.written⟩
      dependencies := by
        intro path owner declared snippet noList
        rw [concluded.progress] at declared
        exact dependencies_provided told faithful_faithful groups concluded well done declared
          snippet noList
      aliases := aliases_provided told faithful_faithful groups concluded well }

/-! ### An artifact that needs itself -/

namespace Ring

def specification : Specification :=
  ⟨.str "maven", [("g.h:a:1", Pair.config)], .obj [], false, [], [], [], .str "rules", false, true⟩

def resolver : Resolver where
  resolve c := return .ok ⟨c, "jar", [{ group := "g.h", artifact := "a" }]⟩
  download _ := return { outcome := .notFound }

def plan : Plan where
  specification := specification
  workspace := ⟨.here, ["w"]⟩
  resolver := resolver

end Ring

theorem ring_closed :
    ∃ e v, Ring.plan.left? (inTurn 1) Pair.world = some (e, v) ∧ e.well = true ∧
      Ring.plan.Closed e v.files := by
  obtain ⟨e, v, ended, left⟩ := left_ended Ring.plan (inTurn 1) Pair.world
    (by decide +kernel)
  have well : e.well = true := by
    have found : (Ring.plan.left? (inTurn 1) Pair.world).map (fun x => x.1.well) = some true := by
      decide +kernel
    rw [left] at found
    exact Option.some.inj found
  have groups : Ring.specification.ProperGroups := by
    intro a listed c parsed
    obtain rfl := List.mem_singleton.mp listed
    have key : Coordinate.ofString? "g.h:a:1" = some ⟨"g.h", "a", "1"⟩ := by decide +kernel
    obtain rfl := Option.some.inj (parsed.symm.trans key)
    decide +kernel
  have faithful : Ring.resolver.Faithful := by
    intro c w a answered
    cases answered
    rfl
  exact ⟨e, v, left, well,
    well_closed Ring.plan (inTurn 1) Pair.world v e (by decide +kernel) groups faithful ended well⟩

end MavenImport
