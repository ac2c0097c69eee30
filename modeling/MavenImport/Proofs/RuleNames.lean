/-
# Proofs.RuleNames -- when two rules have one name

Names of rules are made of the ids of artifacts, where points and dashes become underscores, and
of what is added for the classes and the bundled libraries of an Android library.  Different
artifacts may come to the same name, and nothing in a run looks for that: it asks for different
slugs only (`twins_clash`).

Still there are few ways to it.  Two artifacts share the name of a rule exactly if they have the
same target, or if one is an Android library and the target of the other one is made of its own as
the names of its further rules are (`Resolution.Clashes`, `shares_iff`).  So the names in a build
file are different unless two artifacts of the file clash, or libraries that are bundled with one
are named alike; and the second names are different unless two artifacts have one label for what
is fetched (`well_named`).
-/
import MavenImport.Proofs.RuleText
import MavenImport.Proofs.RunCompletion

namespace MavenImport

set_option autoImplicit false

/-! ## What it means -/

/-- The name that an artifact gets at the root. -/
def Coordinate.secondName (c : Coordinate) : String := underscored (c.group ++ "_" ++ c.artifact)

/-- An artifact is an Android library, and the target of another one is made of its target in a way
in which the names of its further rules are. -/
inductive Resolution.Reaches (r r' : Resolution) : Prop
  | classes (android : r.form.isAndroid = true) (named : r'.target = r.target ++ "_classes")
  /-- Besides, the library's rule has the name of a rule of the other artifact. -/
  | bundled {l : String} (bundles : l ∈ r.form.libraries)
      (begins : (r.target ++ "_libs").toList <+: r'.target.toList)
      (named : r.target ++ "_libs_" ++ bundledName l ∈ r'.ruleNames)

/-- Artifacts have the same target, or the target of one is made of that of the other one. -/
def Resolution.Clashes (r r' : Resolution) : Prop :=
  r.target = r'.target ∨ r.Reaches r' ∨ r'.Reaches r

/-- A file spells out the rules of the artifacts that are declared in it, and these rules have
different names unless artifacts clash or libraries that are bundled with one are named alike. -/
def Plan.GroupNamed (plan : Plan) (p : Progress) (o : Output) : Prop :=
  ∃ (ds : List Declared) (rules : List Rule) (android : Bool) (body : String),
    ds.Perm (declaredAt o.path p.declared) ∧
    o.text = BuildFile.front android plan.specification.rulesLabel.text ++ body ∧
    Spells (ds.flatMap fun d => d.resolution.comments) body rules ∧
    rules.map Rule.name = (ds.flatMap fun d => d.resolution.ruleNames) ∧
    ((rules.map Rule.name).Nodup ↔
      (∀ d ∈ ds, (d.resolution.form.libraries.map bundledName).Nodup) ∧
        ds.Pairwise fun d d' => ¬ d.resolution.Clashes d'.resolution)

/-- The file at the root has a second name for each artifact, and these are different unless
artifacts have one label for what is fetched. -/
def Plan.RootNamed (plan : Plan) (p : Progress) (o : Output) : Prop :=
  plan.specification.writeAliases = true ∧ o.path = plan.aliasPath ∧
  ∃ cs : List Coordinate, cs.Perm (p.declared.map fun x => x.2.resolution.coordinate) ∧
    o.text = aliasPreamble ++ Text.joinWith "\n" (cs.map fun c =>
      "alias(name = \"" ++ c.secondName ++ "\", actual = \""
        ++ targetLabel plan.specification.name.text c.group c.artifact ++ "\") # " ++ c.text)
      ++ "\n" ∧
    ((cs.map Coordinate.secondName).Nodup ↔
      (p.declared.map fun x => x.2.resolution.fetched).Nodup)

/-- What rules, labels and slugs a run that is well has made, and which of them may be alike. -/
structure Plan.Named (plan : Plan) (e : Ending) : Prop where
  files : ∀ o ∈ e.outputs, o.written = true ∧
    (plan.GroupNamed e.progress o ∨ plan.RootNamed e.progress o)
  fetched : ∀ x ∈ e.progress.declared, ∀ y ∈ e.progress.declared,
    (x.2.resolution.fetched = y.2.resolution.fetched ↔
      x.2.resolution.coordinate.secondName = y.2.resolution.coordinate.secondName) ∧
    (x.2.resolution.coordinate.group = y.2.resolution.coordinate.group →
      (x.2.resolution.fetched = y.2.resolution.fetched ↔
        x.2.resolution.target = y.2.resolution.target))
  slugs : plan.resolver.Faithful →
    (e.progress.declared.map fun x => x.2.resolution.coordinate.slug).Nodup

/-! ## Names of the rules of an artifact -/

section Names

variable {r r' : Resolution} {n : String}

/-- What is added to the target of an artifact in the name of a rule. -/
inductive Resolution.Adds (r : Resolution) : List Char → Prop
  | nothing : r.Adds []
  | classes (android : r.form.isAndroid = true) : r.Adds ('_' :: "classes".toList)
  | bundled {l : String} (bundles : l ∈ r.form.libraries) :
      r.Adds ('_' :: ("libs".toList ++ '_' :: (bundledName l).toList))

theorem mem_ruleNames : n ∈ r.ruleNames ↔ ∃ s, r.Adds s ∧ n.toList = r.target.toList ++ s := by
  have text : ∀ s, n.toList = r.target.toList ++ s ↔ n = r.target ++ String.ofList s := by
    intro s
    rw [← String.toList_inj, String.toList_append, String.toList_ofList]
  have names : n ∈ r.ruleNames ↔ n = r.target ∨
      (r.form.isAndroid = true ∧ n = r.target ++ "_classes") ∨
      ∃ l ∈ r.form.libraries, n = r.target ++ "_libs_" ++ bundledName l := by
    unfold Resolution.ruleNames
    cases r.form <;> simp [Form.isAndroid, Form.libraries, eq_comm, or_left_comm]
  have library : ∀ l,
      r.target ++ String.ofList ('_' :: ("libs".toList ++ '_' :: (bundledName l).toList))
      = r.target ++ "_libs_" ++ bundledName l := by
    intro l
    apply String.toList_injective
    simp
  rw [names]
  constructor
  · rintro (rfl | ⟨android, rfl⟩ | ⟨l, bundles, rfl⟩)
    · exact ⟨[], .nothing, by simp⟩
    · exact ⟨_, .classes android, by simp⟩
    · exact ⟨_, .bundled bundles, by simp⟩
  · rintro ⟨s, adds, same⟩
    rw [text] at same
    cases adds with
    | nothing => exact .inl (by simpa using same)
    | classes android => exact .inr (.inl ⟨android, same⟩)
    | @bundled l bundles => exact .inr (.inr ⟨l, bundles, by rw [same, library]⟩)

theorem adds_underscore {s : List Char} (adds : r.Adds s) : s = [] ∨ ∃ rest, s = '_' :: rest := by
  cases adds with
  | nothing => exact .inl rfl
  | classes _ => exact .inr ⟨_, rfl⟩
  | bundled _ => exact .inr ⟨_, rfl⟩

/-- What begins with an underscore and a word is not cut within the word, if what is behind the cut
begins with an underscore as well. -/
theorem cut_underscore {x s v word : List Char} (plain : '_' ∉ word) (some : x ≠ [])
    (later : s = [] ∨ ∃ rest, s = '_' :: rest) (same : '_' :: (word ++ v) = x ++ s) :
    ∃ y, x = '_' :: (word ++ y) ∧ v = y ++ s := by
  cases x with
  | nil => exact absurd rfl some
  | cons c x =>
      obtain ⟨rfl, rest⟩ := List.cons.inj same
      rcases List.append_eq_append_iff.mp rest with ⟨y, rfl, tail⟩ | ⟨cut, rfl, tail⟩
      · exact ⟨y, rfl, tail⟩
      · rcases later with rfl | ⟨rest, rfl⟩
        · obtain ⟨rfl, rfl⟩ := List.append_eq_nil_iff.mp tail.symm
          exact ⟨[], by simp, rfl⟩
        · cases cut with
          | nil => exact ⟨[], by simp, by simpa using tail.symm⟩
          | cons c cut =>
              obtain ⟨rfl, -⟩ := List.cons.inj tail
              exact absurd (List.mem_append_right _ List.mem_cons_self) plain

/-- If a name of one artifact is one of another with a longer target, the target is reached. -/
theorem reaches_of_adds {x s s' : List Char} (adds : r.Adds s) (adds' : r'.Adds s')
    (longer : r'.target.toList = r.target.toList ++ x) (some : x ≠ []) (same : s = x ++ s') :
    r.Reaches r' := by
  have later := adds_underscore adds'
  cases adds with
  | nothing => exact absurd (List.append_eq_nil_iff.mp same.symm).1 some
  | classes android =>
      rw [← List.append_nil "classes".toList] at same
      obtain ⟨y, rfl, ends⟩ := cut_underscore (by decide) some later same
      obtain ⟨rfl, -⟩ := List.append_eq_nil_iff.mp ends.symm
      refine .classes android (String.toList_injective ?_)
      rw [longer, String.toList_append]
      rfl
  | @bundled l bundles =>
      have named : r.target ++ "_libs_" ++ bundledName l ∈ r'.ruleNames :=
        mem_ruleNames.mpr ⟨s', adds', by rw [longer, List.append_assoc, ← same]; simp⟩
      obtain ⟨y, rfl, -⟩ := cut_underscore (by decide) some later same
      refine .bundled bundles ⟨y, ?_⟩ named
      rw [longer, String.toList_append, List.append_assoc]
      rfl

theorem reaches_shares (reaches : r.Reaches r') : ∃ n, n ∈ r.ruleNames ∧ n ∈ r'.ruleNames := by
  cases reaches with
  | classes android named =>
      exact ⟨r'.target, mem_ruleNames.mpr ⟨_, .classes android, by rw [named]; simp⟩,
        target_named r'⟩
  | @bundled l bundles begins named =>
      exact ⟨_, mem_ruleNames.mpr ⟨_, .bundled bundles, by simp⟩, named⟩

/-- Two artifacts have rules of one name exactly if they clash. -/
theorem shares_iff : (∃ n, n ∈ r.ruleNames ∧ n ∈ r'.ruleNames) ↔ r.Clashes r' := by
  constructor
  · rintro ⟨n, named, named'⟩
    obtain ⟨s, adds, one⟩ := mem_ruleNames.mp named
    obtain ⟨s', adds', other⟩ := mem_ruleNames.mp named'
    rcases List.append_eq_append_iff.mp (one.symm.trans other) with
      ⟨x, longer, same⟩ | ⟨x, longer, same⟩
    · by_cases none : x = []
      · rw [none, List.append_nil] at longer
        exact .inl (String.toList_injective longer.symm)
      · exact .inr (.inl (reaches_of_adds adds adds' longer none same))
    · by_cases none : x = []
      · rw [none, List.append_nil] at longer
        exact .inl (String.toList_injective longer)
      · exact .inr (.inr (reaches_of_adds adds' adds longer none same))
  · rintro (same | reaches | reaches)
    · refine ⟨r.target, target_named r, ?_⟩
      rw [same]
      exact target_named r'
    · exact reaches_shares reaches
    · obtain ⟨n, named, named'⟩ := reaches_shares reaches
      exact ⟨n, named', named⟩

/-- The rules of an artifact have different names if the libraries bundled with it have. -/
theorem ruleNames_nodup (r : Resolution) :
    r.ruleNames.Nodup ↔ (r.form.libraries.map bundledName).Nodup := by
  cases form : r.form with
  | android package libraries =>
      have names : r.ruleNames = (r.target ++ "_classes") :: r.target ::
          (libraries.map bundledName).map fun l => r.target ++ "_libs_" ++ l := by
        unfold Resolution.ruleNames
        rw [form, List.map_map]
        rfl
      have other : r.target ++ "_classes" ≠ r.target := by
        intro same
        simpa using congrArg String.toList same
      have apart : ∀ l, r.target ++ "_libs_" ++ l ≠ r.target ++ "_classes" ∧
          r.target ++ "_libs_" ++ l ≠ r.target := by
        intro l
        constructor <;> intro same <;> simpa [String.append_assoc] using congrArg String.toList same
      have injective : Function.Injective fun l => r.target ++ "_libs_" ++ l :=
        fun _ _ same => (String.append_right_inj _).mp same
      rw [names, List.nodup_cons, List.nodup_cons, List.nodup_map_iff injective]
      simp [Form.libraries, apart, other]
  | library => simp [Resolution.ruleNames, form, Form.libraries]
  | file => simp [Resolution.ruleNames, form, Form.libraries]

/-- The rules of artifacts have different names unless artifacts clash or the libraries that are
bundled with one are named alike. -/
theorem names_nodup (ds : List Declared) :
    (ds.flatMap fun d => d.resolution.ruleNames).Nodup ↔
      (∀ d ∈ ds, (d.resolution.form.libraries.map bundledName).Nodup) ∧
        ds.Pairwise fun d d' => ¬ d.resolution.Clashes d'.resolution := by
  rw [List.nodup_flatMap]
  refine and_congr (forall₂_congr fun d _ => ruleNames_nodup d.resolution)
    (List.Pairwise.iff fun d d' => ?_)
  rw [← shares_iff, not_exists]
  exact forall_congr' fun n => not_and.symm

end Names

/-! ## Labels and second names -/

section Labels

variable {c c' : Coordinate}

theorem underscored_append (s t : String) : underscored (s ++ t) = underscored s ++ underscored t := by
  simp [underscored, Text.replaceChar]

theorem secondName_eq (c : Coordinate) :
    c.secondName = underscored c.group ++ "_" ++ underscored c.artifact := by
  rw [Coordinate.secondName, underscored_append, underscored_append]
  rfl

theorem fetchPackage_eq (c : Coordinate) :
    fetchPackage c.group c.artifact = "@" ++ c.secondName ++ ("//" ++ downloadPackage) := by
  rw [secondName_eq, fetchPackage]
  simp only [String.append_assoc]

/-- What is fetched has one label exactly if the second names are the same. -/
theorem fetchPackage_iff : fetchPackage c.group c.artifact = fetchPackage c'.group c'.artifact ↔
    c.secondName = c'.secondName := by
  rw [fetchPackage_eq, fetchPackage_eq, String.append_left_inj, String.append_right_inj]

/-- Within a group these are the same exactly if the targets are. -/
theorem secondName_iff (same : c.group = c'.group) :
    c.secondName = c'.secondName ↔ targetName c.artifact = targetName c'.artifact := by
  rw [secondName_eq, secondName_eq, same, String.append_right_inj]
  rfl

end Labels

/-! ## Slugs -/

section Slugs

theorem coordinates_ok :
    ∀ {keys : List String} {cs : List Coordinate}, Checks.coordinates keys = .ok cs →
      cs = keys.filterMap Coordinate.ofString?
  | [], _, read => by
      cases read
      rfl
  | key :: keys, cs, read => by
      unfold Checks.coordinates at read
      split at read
      · cases read
      · next c parsed =>
          cases others : Checks.coordinates keys with
          | error fault =>
              rw [others] at read
              cases read
          | ok cs' =>
              rw [others] at read
              cases read
              rw [List.filterMap_cons, parsed, coordinates_ok others]

/-- The versions of a slug are those of the coordinates with it. -/
theorem versionsBySlug_find (cs : List Coordinate) (slug : String) :
    ((Checks.versionsBySlug cs).find? slug).getD [] =
      (cs.filter fun c => c.slug = slug).map Coordinate.version := by
  induction cs using List.reverseRecOn with
  | nil => rfl
  | append_singleton cs c ih =>
      have step : Checks.versionsBySlug (cs ++ [c]) = (Checks.versionsBySlug cs).put c.slug
          (((Checks.versionsBySlug cs).find? c.slug).getD [] ++ [c.version]) := by
        unfold Checks.versionsBySlug
        rw [List.foldl_append]
        rfl
      rw [step, Table.find?_put, List.filter_append, List.map_append]
      by_cases same : c.slug = slug
      · subst same
        simp [ih]
      · simp [same, ih]

/-- If no slug has two versions, no two declared coordinates have one slug. -/
theorem slugs_nodup {keys : List String} (none : Checks.duplicates keys = .ok []) :
    ((keys.filterMap Coordinate.ofString?).map Coordinate.slug).Nodup := by
  unfold Checks.duplicates at none
  cases read : Checks.coordinates keys with
  | error fault =>
      rw [read] at none
      cases none
  | ok cs =>
      rw [read] at none
      have single := List.filter_eq_nil_iff.mp (Except.ok.inj none)
      rw [← coordinates_ok read, List.nodup_iff_count_le_one]
      intro slug
      have versions := congrArg List.length (versionsBySlug_find cs slug)
      have count : List.count slug (cs.map Coordinate.slug)
          = ((cs.filter fun c => c.slug = slug).map Coordinate.version).length := by
        rw [List.length_map, List.count, List.countP_map, List.countP_eq_length_filter]
        rfl
      rw [count, ← versions]
      cases found : (Checks.versionsBySlug cs).find? slug with
      | none => exact Nat.zero_le 1
      | some vs =>
          have listed : (slug, vs) ∈ sortedByKey (Checks.versionsBySlug cs).entries :=
            (List.mergeSort_perm _ _).mem_iff.mpr (Table.findEntry_mem found)
          simpa using single _ listed

end Slugs

/-! ## Runs -/

section Runs

variable {plan : Plan} {p : Progress} {o : Output}

theorem told_generated {answers : Answers} {parts : List Part} {arrival : List Note} {r : Run}
    (told : r.Told plan answers parts arrival)
    (generated : ∀ a ∈ plan.specification.artifacts, a.2.snippet.isNull = true) :
    ∀ e ∈ r.progress.declared, e.2.Generated := by
  rintro ⟨path, d⟩ kept
  obtain ⟨a, artifact, notes, story, -⟩ := told_story told kept
  have declares := story_declares story rfl
  obtain ⟨labels, -, entry⟩ := declares.made
  have snippet : d.resolution.config.snippet.isNull = true := by
    rw [declares.config]
    exact generated a artifact
  exact ⟨_, _, entry_content snippet entry⟩

theorem group_named (generated : ∀ e ∈ p.declared, e.2.Generated) {groups : List (Path × String)}
    (grouped : plan.groupFiles (sortedGroups (groupByFile p.declared)) = .ok groups)
    (among : o.file ∈ groups) : plan.GroupNamed p o := by
  obtain ⟨g, listed, path, content⟩ := (groupFiles_iff grouped o.file).mp among
  have all := groupByFile_grouped p.declared
  have known : g ∈ groupByFile p.declared := (List.mergeSort_perm _ _).mem_iff.mp listed
  have members : g.2 = declaredAt o.path p.declared := by
    rw [all.members g known, path]
    rfl
  obtain ⟨e, declared, same⟩ :=
    List.mem_map.mp ((all.paths g.1).mp (List.mem_map_of_mem known))
  have own : e.2 ∈ declaredAt o.path p.declared :=
    List.mem_map_of_mem (List.mem_filter.mpr ⟨declared, decide_eq_true (same.trans path)⟩)
  rw [members] at content
  obtain ⟨android, body, rules, text, spells, names⟩ := content_spells (List.ne_nil_of_mem own)
    (fun d at_path => by
      obtain ⟨e, kept, rfl⟩ := List.mem_map.mp at_path
      exact generated e (List.mem_filter.mp kept).1) content
  exact ⟨BuildFile.ordered (declaredAt o.path p.declared), rules, android, body,
    List.mergeSort_perm _ _, text, spells, names, names ▸ names_nodup _⟩

theorem root_named (among : o.file ∈ plan.aliasFiles p.declared) : plan.RootNamed p o := by
  unfold Plan.aliasFiles at among
  split at among
  · next wanted =>
      obtain ⟨path, text⟩ := Prod.mk.inj (List.mem_singleton.mp among)
      have perm := List.mergeSort_perm (p.declared.map fun e => e.2.resolution.coordinate)
        fun a b => a.text ≤ b.text
      refine ⟨wanted, path, _, perm, text, ?_⟩
      rw [(perm.map Coordinate.secondName).nodup_iff, List.map_map]
      unfold List.Nodup
      rw [List.pairwise_map, List.pairwise_map]
      exact List.Pairwise.iff fun x y => not_congr fetchPackage_iff.symm
  · cases among

section Ended

variable {schedule : List Turn} {w v : World} {e : Ending}
  (valid : plan.specification.problems = [])
  (ended : (plan.generateBy schedule).perform w = (.ok (some e), v))
include valid ended

/-- What a run was told by the end of it, if it was told no more than some answers allow. -/
theorem ended_told {answers : Answers} (within : ∀ w, (plan.answersIn w).Within answers) :
    ∃ (r : Run) (parts : List Part) (arrival : List Note),
      r.Told plan answers parts arrival ∧ e.progress = r.progress := by
  rw [generateBy_valid plan valid] at ended
  obtain ⟨w₀, pool, w₁, -, followed, -, concluded⟩ := runBy_ok ended
  have reached := follow_reaches plan schedule
    (.start plan.specification plan.workers plan.workers) w₀
  rw [followed] at reached
  obtain ⟨parts, arrival, told⟩ := told_reached within reached
  exact ⟨pool.run, parts, arrival, told, concluded.progress⟩

/-- Every file of a run without snippets is that of a group or that at the root. -/
theorem ended_named
    (generated : ∀ a ∈ plan.specification.artifacts, a.2.snippet.isNull = true) :
    ∀ o ∈ e.outputs, plan.GroupNamed e.progress o ∨ plan.RootNamed e.progress o := by
  obtain ⟨r, parts, arrival, told, progress⟩ := ended_told valid ended fun w => within_any _
  have made := told_generated told generated
  rw [← progress] at made
  rw [generateBy_valid plan valid] at ended
  obtain ⟨w₀, pool, w₁, -, -, -, concluded⟩ := runBy_ok ended
  obtain ⟨groups, grouped, all⟩ := files_ok concluded.files
  rw [← concluded.progress] at grouped all
  intro o listed
  have among : o.file ∈ groups ++ plan.aliasFiles e.progress.declared :=
    all ▸ List.mem_map_of_mem listed
  exact (List.mem_append.mp among).imp (group_named made grouped) root_named

/-- If no slug has two versions, no two artifacts of a run have one slug. -/
theorem ended_slugs (faithful : plan.resolver.Faithful)
    (none : Checks.duplicates (plan.specification.artifacts.map Prod.fst) = .ok []) :
    (e.progress.declared.map fun x => x.2.resolution.coordinate.slug).Nodup := by
  obtain ⟨r, parts, arrival, told, progress⟩ :=
    ended_told valid ended (within_faithful faithful)
  obtain ⟨cs, read, among⟩ := told_coordinates told faithful_faithful
  have distinct := slugs_nodup none
  rw [List.filterMap_map] at distinct
  have slugs := (read.map Coordinate.slug).nodup_iff.mpr
    (distinct.sublist (among.map Coordinate.slug))
  rw [List.map_map] at slugs
  rw [progress]
  exact slugs

end Ended

end Runs

/-- In a run that is well every file was written, and what its rules and labels are called is alike
in no other ways than these: rules of one build file have different names unless two artifacts clash
or libraries that are bundled with one are named alike; and artifacts have different labels for what
is fetched, and different second names, unless their groups and ids are alike with underscores for
points and dashes. -/
theorem well_named (plan : Plan) (schedule : List Turn) (w v : World) (e : Ending)
    (valid : plan.specification.problems = [])
    (generated : ∀ a ∈ plan.specification.artifacts, a.2.snippet.isNull = true)
    (ended : (plan.generateBy schedule).perform w = (.ok (some e), v)) (well : e.well = true) :
    plan.Named e := by
  obtain ⟨w₀, pool, w₁, -, -, -, concluded⟩ := runBy_ok (generateBy_valid plan valid _ ▸ ended)
  obtain ⟨-, written, quiet⟩ := concluded.well.mp well
  exact
    { files := fun o listed => ⟨written o listed, ended_named valid ended generated o listed⟩
      fetched := fun x _ y _ => ⟨fetchPackage_iff, fun same =>
        fetchPackage_iff.trans (secondName_iff same)⟩
      slugs := fun faithful => ended_slugs valid ended faithful quiet.duplicates }

/-! ### Two artifacts with different slugs and one target -/

/-- Whether a file can be written does not depend on its content. -/
theorem replaceFile_any {f g : FileSystem} {path : Path} {bytes : ByteArray}
    (written : f.replaceFile path bytes = .ok g) (other : ByteArray) :
    ∃ g', f.replaceFile path other = .ok g' := by
  unfold FileSystem.replaceFile at written ⊢
  simp only [bind, Except.bind] at written ⊢
  split at written
  · cases written
  · split at written
    · cases written
    · next short =>
        rw [if_neg short]
        split at written
        · cases written
        · split at written
          · cases written
          · exact ⟨_, rfl⟩

/-- A file alone is written if it could be written empty. -/
theorem written_single {f g : FileSystem} {o : Output}
    (writable : (f.replaceFile o.path ByteArray.empty).isOk = true) (written : Written f [o] g) :
    o.written = true := by
  cases written with
  | written made later => rfl
  | @refused _ _ path text _ fault refusal later =>
      cases empty : f.replaceFile path ByteArray.empty with
      | error fault' =>
          dsimp only at writable
          rw [empty] at writable
          cases writable
      | ok g' =>
          obtain ⟨g'', taken⟩ := replaceFile_any empty text.toUTF8
          rw [taken] at refusal
          cases refusal

namespace Twins

def plan : Plan :=
  { Pair.plan with
    specification :=
      { Pair.specification with
        artifacts := [("g:a-b:1", Pair.config), ("g:a.b:1", Pair.config)] }
    resolver := { Pair.plan.resolver with resolve := fun c => return .ok ⟨c, "jar", []⟩ } }

def path : Path := ⟨.here, ["w", "g", "BUILD.bazel"]⟩

/-- A run of the plan in turn. -/
def processed : Pool × World :=
  (Pool.follow plan (inTurn 2)
    (.start plan.specification plan.workers plan.workers)).run (Apart.prepared plan)

theorem valid : plan.specification.problems = [] := by decide +kernel

theorem generated : ∀ a ∈ plan.specification.artifacts, a.2.snippet.isNull = true := by decide

theorem mild {w : World} (free : w.files.NulFree) : plan.Mild w where
  artifacts {_ _} _ c a declared answered := by
    cases answered
    obtain ⟨e, listed, parsed⟩ := declared
    have groups : ∀ e ∈ plan.specification.artifacts,
        ∀ c ∈ Coordinate.ofString? e.1, NulFree c.group := by decide +kernel
    exact ⟨groups e listed c parsed, fun d listed => absurd listed List.not_mem_nil⟩
  failures {_ _} _ c f _ answered := by cases answered
  files leads := leads_files (fun _ _ => rfl) (fun _ _ => rfl) leads ▸ free

theorem quiet : plan.Quiet processed.1.run.progress where
  duplicates := by
    have read : (Checks.coordinates (plan.specification.artifacts.map Prod.fst)).toOption
        = some [⟨"g", "a-b", "1"⟩, ⟨"g", "a.b", "1"⟩] := by
      decide +kernel
    have entries : (Checks.versionsBySlug [⟨"g", "a-b", "1"⟩, ⟨"g", "a.b", "1"⟩]).entries
        = [("g:a-b", ["1"]), ("g:a.b", ["1"])] := by
      decide +kernel
    unfold Checks.duplicates
    cases found : Checks.coordinates (plan.specification.artifacts.map Prod.fst) with
    | error fault =>
        rw [found] at read
        cases read
    | ok cs =>
        rw [found] at read
        cases read
        show Except.ok ((sortedByKey (Checks.versionsBySlug _).entries).filter _) = _
        rw [entries, sortedByKey, List.mergeSort_of_pairwise (by decide)]
        rfl
  unresolved := by
    have none : processed.1.run.progress.unresolved.isEmpty = true := by decide +kernel
    exact List.isEmpty_iff.mp none
  legacy := legacy_nil.mpr (.inl rfl)
  missing := by
    have keys : ∀ slug ∈ processed.1.run.progress.ledger.entries.map Prod.fst,
        slug ∈ processed.1.run.progress.declaredSlugs := by
      decide +kernel
    exact missing_nil.mpr fun slug known => keys slug ((findEntry_isSome slug _).mp known)

/-- What has come of the two artifacts is concluded. -/
theorem concludes : ∃ e v, (plan.generateBy (inTurn 2)).perform Pair.world = (.ok (some e), v) ∧
    plan.Concluded processed.1.run.progress processed.2.files e v.files := by
  have returned : processed.1.phase = .returned := by decide +kernel
  have run : (Pool.follow plan (inTurn 2) (.start plan.specification plan.workers
      plan.workers)).run (plan.prepare.perform Pair.world).2 = processed := by
    rw [processed, Apart.prepared]
  obtain ⟨f, creatable⟩ := pair_creatable
  obtain ⟨w₀, prepared, free⟩ := prepare_creates plan creatable
  obtain ⟨answer, v, ended, comes⟩ := runBy_answers (inTurn 2) valid creatable
    (fun a listed => .inl (generated a listed)) (by rw [prepared]; exact mild (free pair_free))
  rw [run] at comes
  obtain ⟨e, rfl⟩ := comes returned
  obtain ⟨w₁, pool, w₂, prepared', followed, -, concluded⟩ := runBy_ok ended
  rw [prepared'] at run
  rw [run] at followed
  rw [show pool = processed.1 by rw [followed], show w₂ = processed.2 by rw [followed]] at concluded
  exact ⟨e, v, (generateBy_valid plan valid _) ▸ ended, concluded⟩

/-- There is one file, and it can be written. -/
theorem writes {e : Ending} {g : FileSystem}
    (concluded : plan.Concluded processed.1.run.progress processed.2.files e g) :
    ∃ o, e.outputs = [o] ∧ o.path = path ∧ o.written = true := by
  have checked : (groupByFile processed.1.run.progress.declared).map Prod.fst = [path] ∧
      (processed.2.files.replaceFile path ByteArray.empty).isOk = true := by
    decide +kernel
  obtain ⟨paths, writable⟩ := checked
  obtain ⟨groups, grouped, all⟩ := files_ok concluded.files
  have single : e.outputs.map Output.path = [path] := by
    have sorted := (List.mergeSort_perm (groupByFile processed.1.run.progress.declared)
      fun a b => a.1.ble b.1).map Prod.fst
    rw [paths, ← sortedGroups, ← groupFiles_paths grouped] at sorted
    have files : e.outputs.map Output.path = (e.outputs.map Output.file).map Prod.fst := by
      rw [List.map_map]
      rfl
    rw [files, all, List.map_append, List.perm_singleton.mp sorted]
    rfl
  obtain ⟨o, outputs, here⟩ : ∃ o, e.outputs = [o] ∧ o.path = path := by
    rcases same : e.outputs with _ | ⟨o, _ | ⟨o', os⟩⟩ <;> rw [same] at single
    · cases single
    · exact ⟨o, rfl, List.singleton_inj.mp single⟩
    · simp at single
  exact ⟨o, outputs, here, written_single (here ▸ writable) (outputs ▸ concluded.written)⟩

theorem ended : ∃ e v o, (plan.generateBy (inTurn 2)).perform Pair.world = (.ok (some e), v) ∧
    e.well = true ∧ e.progress = processed.1.run.progress ∧ o ∈ e.outputs ∧ o.path = path := by
  have unfailed : processed.1.run.progress.failed = false := by decide +kernel
  obtain ⟨e, v, ended, concluded⟩ := concludes
  obtain ⟨o, outputs, here, written⟩ := writes concluded
  refine ⟨e, v, o, ended, concluded.well.mpr ⟨unfailed, ?_, quiet⟩, concluded.progress,
    outputs ▸ List.mem_cons_self, here⟩
  rw [outputs]
  exact fun o' listed => List.mem_singleton.mp listed ▸ written

end Twins

theorem twins_named : ∃ e v,
    (Twins.plan.generateBy (inTurn 2)).perform Pair.world = (.ok (some e), v) ∧
      e.well = true ∧ Twins.plan.Named e := by
  obtain ⟨e, v, -, ended, well, -⟩ := Twins.ended
  exact ⟨e, v, ended, well,
    well_named Twins.plan (inTurn 2) Pair.world v e Twins.valid Twins.generated ended well⟩

/-- The run is well, and its build file has two rules of one name; what is fetched for its artifacts
has one label, although they have different slugs. -/
theorem twins_clash : Twins.plan.specification.problems = [] ∧
    (∀ a ∈ Twins.plan.specification.artifacts, a.2.snippet.isNull = true) ∧
    ∃ e v, (Twins.plan.generateBy (inTurn 2)).perform Pair.world = (.ok (some e), v) ∧
      e.well = true ∧
      (∃ o ∈ e.outputs, ∃ comments android body rules,
        o.text = BuildFile.front android "rules" ++ body ∧ Spells comments body rules ∧
        rules.map Rule.name = ["a_b", "a_b"]) ∧
      ∃ x ∈ e.progress.declared, ∃ y ∈ e.progress.declared,
        x.2.resolution.coordinate.slug ≠ y.2.resolution.coordinate.slug ∧
        x.2.resolution.fetched = y.2.resolution.fetched := by
  obtain ⟨e, v, o, ended, well, progress, listed, here⟩ := Twins.ended
  have checked : ((declaredAt Twins.path Twins.processed.1.run.progress.declared).map
        fun d => d.resolution.ruleNames) = [["a_b"], ["a_b"]] ∧
      ∃ x ∈ Twins.processed.1.run.progress.declared,
        ∃ y ∈ Twins.processed.1.run.progress.declared,
          x.2.resolution.coordinate.slug ≠ y.2.resolution.coordinate.slug ∧
          x.2.resolution.fetched = y.2.resolution.fetched := by
    decide +kernel
  obtain ⟨twice, apart⟩ := checked
  refine ⟨Twins.valid, Twins.generated, e, v, ended, well, ⟨o, listed, ?_⟩, progress ▸ apart⟩
  rcases ended_named Twins.valid ended Twins.generated o listed with
    ⟨ds, rules, android, body, perm, text, spells, names, -⟩ | ⟨wanted, -⟩
  · refine ⟨_, android, body, rules, text, spells, ?_⟩
    have same : (ds.map fun d => d.resolution.ruleNames).Perm (List.replicate 2 ["a_b"]) := by
      have all := perm.map fun d => d.resolution.ruleNames
      rwa [progress, here, twice] at all
    rw [names, List.flatMap_def, List.perm_replicate.mp same]
    rfl
  · exact absurd wanted (by decide)

end MavenImport
