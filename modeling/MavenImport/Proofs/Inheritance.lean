/-
# Proofs.Inheritance -- what the nearest POM of a chain says counts

A POM names its parent, which may name its own, and so on (`Source.Lineage`).  The model at the
end of such a chain has, for each property, each dependency and each managed dependency, what the
nearest POM says that says anything about it (`NearestWins`), however many models are imported on
the way.  This is shown by induction on the chain: one POM merges into what it starts from
(`merged_property`, `merged_dependency`, `merged_managed`), and the chain above it has the same
form.

Which chain belongs to a resolved artifact follows from the models that a source keeps: each of
them comes from a chain whose POMs the source gave (`Source.Traced`).  Models are kept under the
texts of coordinates, so that a parent is found by its text.
-/
import MavenImport.Proofs.ModelInvariants
import MavenImport.Proofs.TableLaws

namespace MavenImport

set_option autoImplicit false

/-! ## Chains of parents -/

/-- One POM of a chain, the coordinate that it was asked for under, and its model. -/
structure Generation where
  coordinate : Coordinate
  pom : Pom
  model : Model

namespace Generation

/-- A dependency with its references replaced by the properties of the generation's model. -/
def read (g : Generation) (d : Dependency) : Dependency where
  group := g.model.properties.resolve d.group
  artifact := g.model.properties.resolve d.artifact
  version := d.version.map g.model.properties.resolve
  scope := d.scope.map g.model.properties.resolve
  kind := d.kind.map g.model.properties.resolve
  classifier := d.classifier.map g.model.properties.resolve
  optional := d.optional

/-- The dependencies that the POM itself declares. -/
def declared (g : Generation) : List Dependency := g.pom.dependencies.map g.read

/-- The dependencies that the POM itself manages, without those that stand for other POMs. -/
def manages (g : Generation) : List Dependency :=
  (g.pom.managed.map g.read).filter fun d => !d.isImport

/-- The model is what the POM comes to from a draft, whatever models are imported. -/
def MergedFrom (g : Generation) (start : Draft) : Prop :=
  ∃ draft, (start.defineAll g.pom g.coordinate).Manages (fun _ _ => True) g.pom.managed draft ∧
    g.model = (draft.depend g.pom).finish g.pom g.coordinate

end Generation

/-- The last dependency with a slug. -/
def lastOf (slug : String) (ds : List Dependency) : Option Dependency :=
  ds.reverse.find? fun d => d.slug = slug

/-- A dependency with what it leaves open taken from the managed one, if there is one; without a
scope in either it is needed to compile. -/
def Dependency.filledFrom (d : Dependency) (managed : Option Dependency) : Dependency :=
  { d with
    version := (given? d.version).or (managed.bind Dependency.version)
    scope := some (((given? d.scope).or (given? (managed.bind Dependency.scope))).getD "compile") }

/-- The names of properties that a model sets by itself, for its parent and for its POM. -/
def standingNames : List String :=
  ["project.parent.version", "project.parent.groupId", "project.groupId", "project.artifactId",
   "project.version", "project.packaging", "groupId", "artifactId", "version"]

/-- The model at the near end of a chain, read off the POMs of the chain. -/
structure NearestWins (g : Generation) (older : List Generation) : Prop where
  /-- A property has the value of the nearest POM that defines it. -/
  property : ∀ key, key ∉ standingNames → g.model.properties.find? key
    = (g :: older).findSome? fun g => g.pom.properties.find? key
  /-- The slugs are those that are declared anywhere, in the order in which they first come when
  the chain is read from its far end. -/
  slugs : g.model.dependencies.map Dependency.slug
    = ((g :: older).reverse.flatMap fun g => g.declared.map Dependency.slug).eraseDups
  /-- The dependency of a slug is the last one that the nearest POM with any declares. -/
  dependency : ∀ slug, g.model.dependencies.find? (fun d => d.slug = slug)
    = (g :: older).findSome? fun g => lastOf slug g.declared
  /-- The managed dependency of a slug is the last one that the nearest POM with any manages,
  whatever is imported. -/
  managed : ∀ slug d, ((g :: older).findSome? fun g => lastOf slug g.manages) = some d →
    g.model.managed.find? (fun d => d.slug = slug) = some d
  /-- No slug is repeated. -/
  once : (g.model.dependencies.map Dependency.slug).Nodup
  managedOnce : (g.model.managed.map Dependency.slug).Nodup

/-! ## Dependencies under their slugs -/

section Slugs

theorem findEntry_slugs (slug : String) (ds : List Dependency) :
    Table.findEntry slug (ds.map fun d => (d.slug, d)) = ds.find? fun d => d.slug = slug := by
  induction ds with
  | nil => rfl
  | cons d ds ih =>
      by_cases same : d.slug = slug
      · simp [Table.findEntry, same]
      · simp [Table.findEntry, same, ih]

theorem lastOf_cons (slug : String) (d : Dependency) (ds : List Dependency) :
    lastOf slug (d :: ds)
      = (lastOf slug ds).or (if d.slug = slug then some d else none) := by
  simp only [lastOf, List.reverse_cons, List.find?_append]
  by_cases same : d.slug = slug
  · simp [same]
  · simp [same]

/-- What is written last under a slug counts. -/
theorem putAll_lastOf (t : Dependencies) (ds : List Dependency) (slug : String) :
    (t.putAll (ds.map fun d => (d.slug, d))).find? slug = (lastOf slug ds).or (t.find? slug) := by
  rw [find?_putAll, ← List.map_reverse, findEntry_slugs]
  rfl

/-- Without repeated slugs the last dependency of a slug is the only one. -/
theorem lastOf_of_nodup {ds : List Dependency} (once : (ds.map Dependency.slug).Nodup)
    (slug : String) : lastOf slug ds = ds.find? fun d => d.slug = slug := by
  have once' : ((ds.map fun d => (d.slug, d)).map Prod.fst).Nodup := by
    rw [List.map_map]
    exact once
  rw [lastOf, ← findEntry_slugs, ← findEntry_slugs, List.map_reverse, findEntry_reverse once']

/-- Every dependency is under its own slug, and no slug is repeated. -/
structure Dependencies.Slugged (t : Dependencies) : Prop where
  once : t.keys.Nodup
  own : ∀ e ∈ t.entries, e.1 = e.2.slug

theorem slugged_empty : Dependencies.Slugged ⟨[]⟩ where
  once := List.nodup_nil
  own e listed := by cases listed

theorem slugged_put {t : Dependencies} (slugged : t.Slugged) (d : Dependency) :
    Dependencies.Slugged (t.put d.slug d) where
  once := keys_put_nodup slugged.once d.slug d
  own e listed := by
    rcases Table.mem_of_mem_putEntry listed with rfl | old
    · rfl
    · exact slugged.own e old

theorem slugged_putAll {t : Dependencies} (slugged : t.Slugged) (ds : List Dependency) :
    Dependencies.Slugged (t.putAll (ds.map fun d => (d.slug, d))) := by
  induction ds generalizing t with
  | nil => exact slugged
  | cons d ds ih => exact ih (slugged_put slugged d)

theorem slugged_putNew {t : Dependencies} (slugged : t.Slugged) (d : Dependency) :
    Dependencies.Slugged (t.putNew d.slug d) := by
  unfold Table.putNew
  split
  · exact slugged
  · exact slugged_put slugged d

theorem slugged_slugs {t : Dependencies} (slugged : t.Slugged) :
    t.values.map Dependency.slug = t.keys := by
  rw [Table.values, Table.keys, List.map_map]
  apply List.map_congr_left
  intro e listed
  exact (slugged.own e listed).symm

theorem slugged_find? {t : Dependencies} (slugged : t.Slugged) (slug : String) :
    t.values.find? (fun d => d.slug = slug) = t.find? slug := by
  have same : t.values.map (fun d => (d.slug, d)) = t.entries := by
    rw [Table.values, List.map_map]
    refine (List.map_congr_left fun e listed => ?_).trans (List.map_id t.entries)
    exact Prod.ext (slugged.own e listed).symm rfl
  rw [← findEntry_slugs, same, Table.find?]

end Slugs

/-! ## One POM -/

section Merging

variable {R : Coordinate → Model → Prop} {start draft draft' : Draft} {g : Generation}

/-- Managed dependencies leave the rest of a draft as it is. -/
theorem manages_frame {ds : List Dependency} (manages : draft.Manages R ds draft') :
    draft'.properties = draft.properties ∧ draft'.dependencies = draft.dependencies := by
  induction manages with
  | done draft => exact ⟨rfl, rfl⟩
  | takes _ _ ih => exact ih
  | passes _ _ _ ih => exact ih
  | imports _ _ _ ih => exact ih

theorem putNew_find? (t : Dependencies) (d : Dependency) (slug : String) :
    (t.putNew d.slug d).find? slug
      = (t.find? slug).or (if d.slug = slug then some d else none) := by
  unfold Table.putNew Table.contains
  split
  · next old =>
      obtain ⟨e, found⟩ := Option.isSome_iff_exists.mp old
      split
      · next same => rw [← same, found, Option.some_or]
      · rw [Option.or_none]
  · next new =>
      rw [Table.find?_put]
      split
      · next same => rw [← same, Option.not_isSome_iff_eq_none.mp new, Option.none_or]
      · rw [Option.or_none]

/-- An imported model adds what is not managed yet. -/
theorem importAll_find? (draft : Draft) (m : Model) (slug : String) :
    (draft.importAll m).managed.find? slug
      = (draft.managed.find? slug).or (m.managed.find? fun d => d.slug = slug) := by
  have all : ∀ (ds : List Dependency) (t : Dependencies),
      (ds.foldl (fun table d => table.putNew d.slug d) t).find? slug
        = (t.find? slug).or (ds.find? fun d => d.slug = slug) := by
    intro ds
    induction ds with
    | nil => exact fun t => Option.or_none.symm
    | cons d ds ih =>
        intro t
        rw [List.foldl_cons, ih, putNew_find?, Option.or_assoc, List.find?_cons]
        by_cases same : d.slug = slug <;> simp [same]
  exact all m.managed draft.managed

theorem slugged_importAll (slugged : draft.managed.Slugged) (m : Model) :
    (draft.importAll m).managed.Slugged := by
  have all : ∀ (ds : List Dependency) (t : Dependencies), t.Slugged →
      Dependencies.Slugged (ds.foldl (fun table d => table.putNew d.slug d) t) := by
    intro ds
    induction ds with
    | nil => exact fun t slugged => slugged
    | cons e ds ih => exact fun t slugged => ih _ (slugged_putNew slugged e)
  exact all m.managed draft.managed slugged

theorem manages_slugged {ds : List Dependency} (manages : draft.Manages R ds draft')
    (slugged : draft.managed.Slugged) : draft'.managed.Slugged := by
  induction manages with
  | done draft => exact slugged
  | takes _ _ ih => exact ih (slugged_put slugged _)
  | passes _ _ _ ih => exact ih slugged
  | imports _ _ _ ih => exact ih (slugged_importAll slugged _)

/-- The last own managed dependency of a slug counts, else the one that was there before, and else
that of the first import. -/
theorem manages_brings {ds : List Dependency} (manages : draft.Manages R ds draft') :
    ∃ imports : List (Coordinate × Model),
      imports.map Prod.fst = ds.filterMap draft.imported? ∧ (∀ i ∈ imports, R i.1 i.2) ∧
      ∀ slug, draft'.managed.find? slug
        = (lastOf slug ((ds.map draft.interpolate).filter fun d => !d.isImport)).or
            ((draft.managed.find? slug).or
              (imports.findSome? fun i => i.2.managed.find? fun d => d.slug = slug)) := by
  induction manages with
  | done draft => exact ⟨[], rfl, by simp, fun slug => by simp [lastOf]⟩
  | @takes draft draft' d ds own _ ih =>
      obtain ⟨imports, listed, merged, found⟩ := ih
      have passed : draft.imported? d = none := by simp [Draft.imported?, own]
      refine ⟨imports, by rw [List.filterMap_cons_none passed, listed]; rfl, merged, fun slug => ?_⟩
      rw [found, List.map_cons, List.filter_cons_of_pos (by simp [own]), lastOf_cons, Option.or_assoc]
      congr 1
      show ((draft.managed.put _ _).find? slug).or _ = _
      rw [Table.find?_put]
      split <;> simp
  | @passes draft draft' d ds isImport unversioned _ ih =>
      obtain ⟨imports, listed, merged, found⟩ := ih
      refine ⟨imports, by rw [List.filterMap_cons_none unversioned, listed], merged, fun slug => ?_⟩
      rw [found, List.map_cons, List.filter_cons_of_neg (by simp [isImport])]
  | @imports draft draft' d ds c m named meets _ ih =>
      obtain ⟨imports, listed, merged, found⟩ := ih
      refine ⟨(c, m) :: imports, ?_, ?_, fun slug => ?_⟩
      · rw [List.filterMap_cons_some named, List.map_cons, listed]
        rfl
      · exact List.forall_mem_cons.mpr ⟨meets, merged⟩
      · rw [found, List.map_cons,
          List.filter_cons_of_neg (by simp [isImport_of_imported named]), importAll_find?,
          Option.or_assoc, List.findSome?_cons]
        congr 2
        cases m.managed.find? fun d => d.slug = slug <;> rfl

/-- The properties of a model, from those that it starts with. -/
theorem merged_properties (merged : g.MergedFrom start) :
    g.model.properties = (start.defineAll g.pom g.coordinate).properties := by
  obtain ⟨draft, manages, made⟩ := merged
  rw [made]
  exact (manages_frame manages).1

theorem interpolate_eq_read (same : draft.properties = g.model.properties) :
    draft.interpolate = g.read := by
  funext d
  simp only [Draft.interpolate, Generation.read, same]

theorem merged_property (merged : g.MergedFrom start) (tidy : g.pom.properties.keys.Nodup)
    {key : String} (apart : key ∉ standingNames) :
    g.model.properties.find? key
      = (g.pom.properties.find? key).or (start.properties.find? key) := by
  simp only [standingNames, List.mem_cons, List.not_mem_nil, or_false, not_or] at apart
  obtain ⟨-, -, group, artifact, version, packaging, group', artifact', version'⟩ := apart
  rw [merged_properties merged]
  show ((start.properties.putAll g.pom.properties.entries).putAll _).find? key = _
  rw [find?_putAll, find?_putAll, findEntry_reverse tidy]
  simp [Table.findEntry, Ne.symm group, Ne.symm artifact, Ne.symm version, Ne.symm packaging,
    Ne.symm group', Ne.symm artifact', Ne.symm version', Table.find?]

/-- The dependencies of a model, as the values of a table. -/
theorem merged_dependencies (merged : g.MergedFrom start) :
    g.model.dependencies
      = (start.dependencies.putAll (g.declared.map fun d => (d.slug, d))).values := by
  have properties := merged_properties merged
  obtain ⟨draft, manages, made⟩ := merged
  obtain ⟨same, kept⟩ := manages_frame manages
  have reads : draft.interpolate = g.read := interpolate_eq_read (same.trans properties.symm)
  rw [made]
  show (draft.dependencies.putAll ((g.pom.dependencies.map draft.interpolate).map _)).values = _
  rw [kept, reads]
  rfl

theorem merged_dependency (merged : g.MergedFrom start) (slugged : start.dependencies.Slugged)
    (slug : String) : g.model.dependencies.find? (fun d => d.slug = slug)
      = (lastOf slug g.declared).or (start.dependencies.find? slug) := by
  rw [merged_dependencies merged, slugged_find? (slugged_putAll slugged g.declared), putAll_lastOf]

theorem merged_slugs (merged : g.MergedFrom start) (slugged : start.dependencies.Slugged) :
    g.model.dependencies.map Dependency.slug
      = (start.dependencies.keys ++ g.declared.map Dependency.slug).eraseDups := by
  rw [merged_dependencies merged, slugged_slugs (slugged_putAll slugged g.declared),
    keys_putAll slugged.once, List.map_map]
  rfl

theorem merged_managed (merged : g.MergedFrom start) (slugged : start.managed.Slugged)
    {slug : String} {d : Dependency}
    (said : (lastOf slug g.manages).or (start.managed.find? slug) = some d) :
    g.model.managed.find? (fun d => d.slug = slug) = some d := by
  have properties := merged_properties merged
  obtain ⟨draft, manages, made⟩ := merged
  have reads : (start.defineAll g.pom g.coordinate).interpolate = g.read :=
    interpolate_eq_read properties.symm
  have slugged' : draft.managed.Slugged := manages_slugged manages slugged
  rw [made]
  show draft.managed.values.find? _ = some d
  obtain ⟨imports, -, -, found⟩ := manages_brings manages
  rw [slugged_find? slugged', found, ← Option.or_assoc, reads]
  exact Option.or_eq_some_iff.mpr (.inl said)

theorem merged_managed_once (merged : g.MergedFrom start) (slugged : start.managed.Slugged) :
    (g.model.managed.map Dependency.slug).Nodup := by
  obtain ⟨draft, manages, made⟩ := merged
  have slugged' : draft.managed.Slugged := manages_slugged manages slugged
  rw [made]
  show (draft.managed.values.map Dependency.slug).Nodup
  rw [slugged_slugs slugged']
  exact slugged'.once

/-- What a child starts from has the dependencies of its parent under their slugs. -/
theorem ofList_of_nodup {ds : List Dependency} (once : (ds.map Dependency.slug).Nodup) :
    (Dependencies.ofList ds).Slugged ∧ (Dependencies.ofList ds).keys = ds.map Dependency.slug ∧
      ∀ slug, (Dependencies.ofList ds).find? slug = ds.find? fun d => d.slug = slug := by
  refine ⟨slugged_putAll slugged_empty ds, ?_, fun slug => ?_⟩
  · rw [Dependencies.ofList, keys_ofList, List.map_map]
    exact eraseDups_of_nodup once
  · rw [← lastOf_of_nodup once slug]
    show (Table.putAll _ _).find? slug = _
    rw [putAll_lastOf]
    exact Option.or_none

end Merging

/-! ## The whole chain -/

namespace Source

variable {s : Source} {w : World}

/-- A chain of POMs that the source gave, from the nearest to one that names no parent.  Each POM
names the next one by its text, and starts from its model. -/
inductive Lineage (s : Source) (w : World) : Generation → List Generation → Prop
  | root {g : Generation} (given : s.Gives w g.coordinate g.pom) (orphan : g.pom.parent? = none)
      (merged : g.MergedFrom .empty) : Lineage s w g []
  | child {g elder : Generation} {parent : Coordinate} {older : List Generation}
      (given : s.Gives w g.coordinate g.pom) (named : g.pom.parent? = some parent)
      (same : parent.text = elder.coordinate.text) (merged : g.MergedFrom (.inherit elder.model))
      (above : Lineage s w elder older) : Lineage s w g (elder :: older)

/-- The properties of a POM that was read have each name once. -/
theorem gives_tidy {c : Coordinate} {pom : Pom} (given : s.Gives w c pom) :
    pom.properties.keys.Nodup := by
  obtain ⟨v, -, loaded⟩ := given
  rcases run : (s.loadPom c).perform v with ⟨answer, u⟩
  rw [run] at loaded
  cases loaded_eq_some.mp loaded
  obtain ⟨status, v', -, rest⟩ := Action.perform_bind_ok.mp run
  split at rest
  · cases rest
  · obtain ⟨bytes, _, -, parsed⟩ := Action.perform_bind_ok.mp rest
    split at parsed
    · next read =>
        cases parsed
        rw [Pom.ofBytes] at read
        cases tree : Xml.Element.ofBytes bytes with
        | error fault => rw [tree] at read; cases read
        | ok e =>
            rw [tree] at read
            cases read
            show (Pom.propertyTable e).keys.Nodup
            unfold Pom.propertyTable
            split
            · exact keys_putAll_nodup (t := ⟨[]⟩) List.nodup_nil _
            · exact List.nodup_nil
    · cases parsed
    · cases parsed

/-- A POM without a parent says everything itself. -/
theorem nearest_root {g : Generation} (given : s.Gives w g.coordinate g.pom)
    (merged : g.MergedFrom .empty) : NearestWins g [] where
  property key apart := by
    rw [merged_property merged (gives_tidy given) apart]
    simp [Draft.empty, Table.find?, Table.findEntry]
  slugs := by
    rw [merged_slugs merged slugged_empty]
    simp [Draft.empty, Table.keys]
  dependency slug := by
    rw [merged_dependency merged slugged_empty]
    simp [Draft.empty, Table.find?, Table.findEntry]
  managed slug d said := by
    apply merged_managed merged slugged_empty
    simpa [Draft.empty, Table.find?, Table.findEntry] using said
  once := by
    rw [merged_slugs merged slugged_empty]
    exact eraseDups_nodup _
  managedOnce := merged_managed_once merged slugged_empty

/-- What a POM does not say is what its parent's model has, which is what the chain above says. -/
theorem nearest_child {g elder : Generation} {older : List Generation}
    (given : s.Gives w g.coordinate g.pom) (merged : g.MergedFrom (.inherit elder.model))
    (above : NearestWins elder older) : NearestWins g (elder :: older) := by
  obtain ⟨slugged, keys, found⟩ := ofList_of_nodup above.once
  obtain ⟨sluggedManaged, -, foundManaged⟩ := ofList_of_nodup above.managedOnce
  constructor
  case property =>
    intro key apart
    have inherited : (Draft.inherit elder.model).properties.find? key
        = elder.model.properties.find? key := by
      simp only [standingNames, List.mem_cons, not_or] at apart
      obtain ⟨version, group, -⟩ := apart
      simp [Draft.inherit, Table.find?_put, Ne.symm version, Ne.symm group]
    rw [merged_property merged (gives_tidy given) apart, inherited, above.property key apart,
      @List.findSome?_cons _ _ g]
    cases g.pom.properties.find? key <;> rfl
  case slugs =>
    rw [merged_slugs merged slugged]
    show ((Dependencies.ofList elder.model.dependencies).keys ++ _).eraseDups = _
    rw [keys, above.slugs, eraseDups_append_left]
    simp
  case dependency =>
    intro slug
    rw [merged_dependency merged slugged]
    show (lastOf slug g.declared).or ((Dependencies.ofList elder.model.dependencies).find? slug) = _
    rw [found, above.dependency slug,
      @List.findSome?_cons _ _ g]
    cases lastOf slug g.declared <;> rfl
  case managed =>
    intro slug d said
    apply merged_managed merged sluggedManaged
    show (lastOf slug g.manages).or ((Dependencies.ofList elder.model.managed).find? slug) = _
    rw [foundManaged]
    rw [List.findSome?_cons] at said
    cases own : lastOf slug g.manages with
    | some e =>
        rw [own] at said
        exact said
    | none =>
        rw [own] at said
        exact above.managed slug d said
  case once =>
    rw [merged_slugs merged slugged]
    exact eraseDups_nodup _
  case managedOnce => exact merged_managed_once merged sluggedManaged

theorem lineage_nearest {g : Generation} {older : List Generation} (lineage : s.Lineage w g older) :
    NearestWins g older := by
  induction lineage with
  | root given _ merged => exact nearest_root given merged
  | child given _ _ merged _ ih => exact nearest_child given merged ih

/-- The elders of a chain are chains themselves. -/
theorem lineage_suffixes {g : Generation} {older : List Generation} (lineage : s.Lineage w g older) :
    ∀ younger elder above, g :: older = younger ++ elder :: above → NearestWins elder above := by
  induction lineage with
  | root given orphan merged =>
      intro younger elder above same
      cases younger with
      | nil =>
          cases same
          exact nearest_root given merged
      | cons _ younger => simp at same
  | child given named link merged lineage ih =>
      intro younger elder above same
      cases younger with
      | nil =>
          cases same
          exact nearest_child given merged (lineage_nearest lineage)
      | cons _ younger => exact ih younger elder above (List.cons.inj same).2

/-! ## Every model has a chain -/

/-- The model is the one at the near end of a chain that begins at the coordinate. -/
def Descends (s : Source) (w : World) (c : Coordinate) (m : Model) : Prop :=
  ∃ g older, s.Lineage w g older ∧ g.coordinate.text = c.text ∧ g.model = m

/-- Every model kept is that of a chain from the text that it is kept under. -/
def Traced (s : Source) (w : World) : World → Prop :=
  s.Remembers w (fun _ => True)
    fun key m => ∃ g older, s.Lineage w g older ∧ g.coordinate.text = key ∧ g.model = m

/-- A POM that merges with the models of chains adds one generation. -/
theorem descends_of_merge {c : Coordinate} {pom : Pom} {m : Model} (given : s.Gives w c pom)
    (into : pom.MergesInto (s.Descends w) c m) : s.Descends w c m := by
  obtain ⟨start, draft, starts, manages, made⟩ := into
  have merged : Generation.MergedFrom ⟨c, pom, m⟩ start :=
    ⟨draft, manages_mono (fun _ _ _ => trivial) manages, made⟩
  cases starts with
  | alone orphan => exact ⟨⟨c, pom, m⟩, [], .root given orphan merged, rfl, rfl⟩
  | inherits named descends =>
      obtain ⟨elder, older, above, same, rfl⟩ := descends
      exact ⟨⟨c, pom, m⟩, elder :: older, .child given named same.symm merged above, rfl, rfl⟩

theorem traced_carries (s : Source) (w : World) :
    s.Carries (s.Traced w) .any (s.givenTerms w (fun _ => True) (s.Descends w)) :=
  all_carries (fun _ _ => Iff.rfl) fun _ _ _ => descends_of_merge

theorem resolve_descends (fresh : w.models = ⟨[]⟩) (calls : List Coordinate) {c : Coordinate}
    {a : ResolvedArtifact}
    (answered : ((s.resolve c).perform (s.after w calls)).1 = .ok (.ok a)) :
    ∃ m, s.Descends w c m ∧ a = m.resolved c := by
  have carries := traced_carries s w
  have traced := after_carries carries (fun _ => trivial) calls (remembers_start fresh)
  exact (resolve_carries carries trivial).sound _ traced a answered

/-! ## What is resolved -/

/-- The dependencies needed at run time, with each filled from the managed one of its slug. -/
theorem buildDependencies_eq {m : Model} (once : (m.managed.map Dependency.slug).Nodup) :
    m.buildDependencies
      = (m.dependencies.map fun d => d.filledFrom (m.managed.find? fun e => e.slug = d.slug)).filter
          fun d => d.scope = some "compile" ∨ d.scope = some "runtime" := by
  have filled : m.complete = fun d => d.filledFrom (m.managed.find? fun e => e.slug = d.slug) := by
    funext d
    obtain ⟨-, -, found⟩ := ofList_of_nodup once
    simp only [Model.complete, Dependency.filledFrom, found]
  rw [Model.buildDependencies, filled]
  apply List.filter_congr
  intro d listed
  obtain ⟨e, -, rfl⟩ := List.mem_map.mp listed
  simp [Dependency.filledFrom, Model.isBuildScope]

/-- After any calls, whatever they came to, an artifact that is resolved has a chain of parents
from its coordinate on, and in its model the nearest POM of the chain wins; so it does in the
model of each of its parents.  The dependencies of the artifact are those of the model, filled
from the managed ones, as far as they are needed to compile or to run. -/
theorem resolve_nearest (fresh : w.models = ⟨[]⟩) (calls : List Coordinate) (c : Coordinate)
    (a : ResolvedArtifact)
    (answered : ((s.resolve c).perform (s.after w calls)).1 = .ok (.ok a)) :
    ∃ g older, s.Lineage w g older ∧ g.coordinate.text = c.text ∧
      (∀ younger elder above, g :: older = younger ++ elder :: above → NearestWins elder above) ∧
      a = ⟨c, g.model.packaging,
        (g.model.dependencies.map fun d =>
          d.filledFrom (g.model.managed.find? fun e => e.slug = d.slug)).filter
            fun d => d.scope = some "compile" ∨ d.scope = some "runtime"⟩ := by
  obtain ⟨m, ⟨g, older, lineage, same, rfl⟩, rfl⟩ := resolve_descends fresh calls answered
  refine ⟨g, older, lineage, same, lineage_suffixes lineage, ?_⟩
  rw [← buildDependencies_eq (lineage_nearest lineage).managedOnce]
  rfl

end Source

/-- The child is resolved after a call for its parent, and has the dependency that its parent
declares. -/
theorem family_nearest :
    (Family.world.models = ⟨[]⟩ ∧
      ((Family.source.resolve Family.child).perform
        (Family.source.after Family.world [Family.parent])).1
        = .ok (.ok ⟨Family.child, "jar",
            [{ group := "h", artifact := "", scope := some "compile" }]⟩)) ∧
    ∃ g older, Family.source.Lineage Family.world g older ∧ g.coordinate.text = "g:a:1" ∧
      (∀ younger elder above, g :: older = younger ++ elder :: above → NearestWins elder above) ∧
      (⟨Family.child, "jar", [{ group := "h", artifact := "", scope := some "compile" }]⟩ :
        ResolvedArtifact) = ⟨Family.child, g.model.packaging,
        (g.model.dependencies.map fun d =>
          d.filledFrom (g.model.managed.find? fun e => e.slug = d.slug)).filter
            fun d => d.scope = some "compile" ∨ d.scope = some "runtime"⟩ := by
  have serves : Family.source.Serves Family.world Family.store :=
    Source.serves_of_silent Family.silent
  have sound := Source.sound_after serves Family.plain [Family.parent] Family.world
    (by decide) (Source.remembers_start rfl)
  obtain ⟨m, within, same⟩ := Family.merges_child
  have answered := (Source.resolve_meets serves Family.plain (c := Family.child)
    (by decide)).complete _ sound _ ⟨m, within, rfl⟩
  rw [same] at answered
  exact ⟨⟨rfl, answered⟩, Source.resolve_nearest rfl [Family.parent] Family.child _ answered⟩

end MavenImport
