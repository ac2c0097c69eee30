/-
# Proofs.BuildDependencies -- which declared dependencies an artifact keeps

A POM may declare several dependencies on one artifact, for files of different types or with
different classifiers.  Only the slug is looked at when they are merged, so that the last one of a
slug counts, and what it says of the scope decides for all of them.  A dependency that is needed to
compile or to run, and that is not declared again, is therefore one of the resolved artifact exactly
if nothing that comes after it in the POM has its slug (`Source.resolve_retains`).
-/
import MavenImport.Proofs.KeptModels
import MavenImport.Proofs.PlainDocuments

namespace MavenImport

set_option autoImplicit false

namespace Dependency

/-- Two dependencies are on the same file of an artifact, in whatever versions. -/
structure SameFile (d e : Dependency) : Prop where
  group : d.group = e.group
  artifact : d.artifact = e.artifact
  type : d.type = e.type
  classifier : d.classifier = e.classifier

/-- The dependency is needed to compile or to run. -/
def InBuild (d : Dependency) : Prop := d.scope = some "compile" ∨ d.scope = some "runtime"

instance (d : Dependency) : Decidable d.InBuild := by
  unfold InBuild
  infer_instance

variable {d e : Dependency} {managed : Option Dependency}

theorem sameFile_slug (same : d.SameFile e) : d.slug = e.slug := by
  simp only [slug, same.group, same.artifact]

/-- What is filled in says nothing of the file. -/
theorem filledFrom_sameFile : (d.filledFrom managed).SameFile e ↔ d.SameFile e :=
  ⟨fun ⟨group, artifact, type, classifier⟩ => ⟨group, artifact, type, classifier⟩,
    fun ⟨group, artifact, type, classifier⟩ => ⟨group, artifact, type, classifier⟩⟩

end Dependency

/-! ## The last dependency of a slug -/

section Last

variable {slug : String} {before after ds : List Dependency} {d e : Dependency}

theorem lastOf_append :
    lastOf slug (before ++ after) = (lastOf slug after).or (lastOf slug before) := by
  simp only [lastOf, List.reverse_append, List.find?_append]

theorem lastOf_eq_none : lastOf slug ds = none ↔ ∀ e ∈ ds, e.slug ≠ slug := by
  simp [lastOf]

theorem lastOf_eq_some (last : lastOf slug ds = some e) : e ∈ ds ∧ e.slug = slug :=
  ⟨List.mem_reverse.mp (List.mem_of_find?_eq_some last), by
    simpa using List.find?_some last⟩

/-- The last dependency of a slug from some place on. -/
theorem lastOf_from (same : ds = before ++ d :: after) :
    lastOf d.slug ds = some ((lastOf d.slug after).getD d) := by
  rw [same, lastOf_append, lastOf_cons, if_pos rfl]
  cases lastOf d.slug after <;> rfl

end Last

/-! ## The dependencies of a model -/

namespace Generation

variable {g : Generation} {older : List Generation} {before after : List Dependency}
  {d : Dependency}

/-- A dependency of the model, with what it leaves open taken from the managed one. -/
def filled (g : Generation) (d : Dependency) : Dependency :=
  d.filledFrom (g.model.managed.find? fun e => e.slug = d.slug)

/-- The one dependency of a declared slug is the last one from any declaration of it on. -/
theorem dependency_declared (nearest : NearestWins g older)
    (declared : g.declared = before ++ d :: after) :
    g.model.dependencies.find? (fun e => e.slug = d.slug)
      = some ((lastOf d.slug after).getD d) := by
  rw [nearest.dependency, List.findSome?_cons, lastOf_from declared]

/-- A model has one dependency of a slug. -/
theorem mem_dependencies (nearest : NearestWins g older) {e : Dependency} :
    e ∈ g.model.dependencies
      ↔ g.model.dependencies.find? (fun d => d.slug = e.slug) = some e := by
  have once : ((g.model.dependencies.map fun d => (d.slug, d)).map Prod.fst).Nodup := by
    rw [List.map_map]
    exact nearest.once
  rw [← findEntry_slugs, ← mem_entries_iff once, List.mem_map]
  constructor
  · exact fun listed => ⟨e, listed, rfl⟩
  · rintro ⟨d, listed, same⟩
    obtain ⟨-, rfl⟩ := Prod.mk.inj same
    exact listed

/-- A dependency that is needed, and that is not declared again, is one of those of the model exactly
if no later one has its slug. -/
theorem retains_iff (nearest : NearestWins g older) (declared : g.declared = before ++ d :: after)
    (needed : (g.filled d).InBuild) (single : ∀ e ∈ after, ¬ e.SameFile d) :
    (∃ e ∈ (g.model.dependencies.map g.filled).filter fun d => d.InBuild, e.SameFile d)
      ↔ ∀ e ∈ after, e.slug ≠ d.slug := by
  have found := dependency_declared nearest declared
  constructor
  · rintro ⟨e, listed, same⟩
    obtain ⟨e, among, rfl⟩ := List.mem_map.mp (List.mem_of_mem_filter listed)
    have same : e.SameFile d := Dependency.filledFrom_sameFile.mp same
    rw [mem_dependencies nearest, Dependency.sameFile_slug same, found] at among
    cases last : lastOf d.slug after with
    | none => exact lastOf_eq_none.mp last
    | some later =>
        rw [last] at among
        cases among
        exact absurd same (single _ (lastOf_eq_some last).1)
  · intro unshadowed
    rw [lastOf_eq_none.mpr unshadowed] at found
    refine ⟨g.filled d, ?_, Dependency.filledFrom_sameFile.mpr ⟨rfl, rfl, rfl, rfl⟩⟩
    exact List.mem_filter.mpr
      ⟨List.mem_map_of_mem ((mem_dependencies nearest).mpr found), by simpa using needed⟩

end Generation

/-- A dependency that the POM of a resolved artifact declares, that is needed to compile or to run
and that is not declared again for the same file, is one of the artifact exactly if no later
dependency of the POM has its slug. -/
theorem Source.resolve_retains {s : Source} {w : World} (fresh : w.models = ⟨[]⟩)
    (calls : List Coordinate) (c : Coordinate) (a : ResolvedArtifact)
    (answered : ((s.resolve c).perform (s.after w calls)).1 = .ok (.ok a)) :
    ∃ g older, s.Lineage w g older ∧ g.coordinate.text = c.text ∧
      ∀ before d after, g.declared = before ++ d :: after → (g.filled d).InBuild →
        (∀ e ∈ after, ¬ e.SameFile d) →
        ((∃ e ∈ a.dependencies, e.SameFile d) ↔ ∀ e ∈ after, e.slug ≠ d.slug) := by
  obtain ⟨m, ⟨g, older, lineage, same, rfl⟩, rfl⟩ := resolve_descends fresh calls answered
  have nearest := lineage_nearest lineage
  refine ⟨g, older, lineage, same, fun before d after declared needed single => ?_⟩
  rw [← Generation.retains_iff nearest declared needed single]
  show (∃ e ∈ g.model.buildDependencies, _) ↔ _
  rw [buildDependencies_eq nearest.managedOnce]
  rfl

/-! ### A library and its tests -/

namespace Overridden

def pomText : String :=
  "<project><dependencies><dependency><groupId>h</groupId><artifactId>x</artifactId>"
    ++ "<version>1</version></dependency><dependency><groupId>h</groupId>"
    ++ "<artifactId>x</artifactId><version>1</version><type>test-jar</type><scope>test</scope>"
    ++ "</dependency></dependencies></project>"

def artifact : Coordinate := ⟨"g", "a", "1"⟩

def files : FileSystem where
  entries := ⟨[([], .directory), (["g"], .directory), (["g", "a"], .directory),
    (["g", "a", "1"], .directory), (["g", "a", "1", "a-1.pom"], .file 0)]⟩
  contents := ⟨[(0, pomText.toUTF8)]⟩
  fresh := 1
  here := []
  numbered := by decide

def world : World := ⟨files, ⟨[]⟩, [], ⟨0, []⟩, ⟨[]⟩, "0"⟩

def source : Source := .ofRepositories (.ofString "/") []

def library : Dependency := { group := "h", artifact := "x", version := some "1" }

def tests : Dependency := { library with kind := some "test-jar", scope := some "test" }

def pom : Pom := ⟨"", "", none, "jar", ⟨none, none, none⟩, ⟨[]⟩, [library, tests], []⟩

/-- The POM and the model that it comes to. -/
def generation : Generation where
  coordinate := artifact
  pom := pom
  model := ((Draft.empty.defineAll pom artifact).depend pom).finish pom artifact

theorem loads : (source.loadPom artifact).perform world = (.ok (.ok pom), world) := by
  have parsed : Pom.ofBytes pomText.toUTF8 = .ok pom :=
    Pom.ofBytes_plain (ofList_pieces (ofList_pieces (ofList_pieces rfl rfl) rfl) rfl)
      (by decide +kernel) (by decide +kernel) (by decide +kernel)
  have found : (files.status (source.localFile (artifactPath artifact "pom" none))).toOption
      = some (.file 0) := by decide
  exact Source.loadPom_from_file (v := world) found parsed

theorem answered : ((source.resolve artifact).perform (source.after world [])).1
    = .ok (.ok ⟨artifact, "jar", []⟩) := by
  have into : pom.MergesInto (Source.KeptIn world) artifact generation.model :=
    ⟨_, _, .alone rfl, .done _, rfl⟩
  have same : generation.model.resolved artifact = ⟨artifact, "jar", []⟩ := by decide
  have given := Source.resolve_from_kept (v := world) rfl loads into
  rw [same] at given
  exact congrArg Prod.fst given

theorem lineage : source.Lineage world generation [] :=
  .root (Source.gives_of_loaded loads) rfl ⟨_, .done _, rfl⟩

end Overridden

/-- The artifact is resolved, and has the dependencies of a chain of parents. -/
theorem overridden_retains :
    (Overridden.world.models = ⟨[]⟩ ∧
      ((Overridden.source.resolve Overridden.artifact).perform
        (Overridden.source.after Overridden.world [])).1
        = .ok (.ok ⟨Overridden.artifact, "jar", []⟩)) ∧
    ∃ g older, Overridden.source.Lineage Overridden.world g older ∧ g.coordinate.text = "g:a:1" ∧
      ∀ before d after, g.declared = before ++ d :: after → (g.filled d).InBuild →
        (∀ e ∈ after, ¬ e.SameFile d) →
        ((∃ e ∈ ([] : List Dependency), e.SameFile d) ↔ ∀ e ∈ after, e.slug ≠ d.slug) :=
  ⟨⟨rfl, Overridden.answered⟩, Source.resolve_retains rfl [] Overridden.artifact _
    Overridden.answered⟩

/-- The library is needed to compile, only its tests are declared after it, for a file of another
type, and the artifact has no dependency. -/
theorem library_dropped :
    Overridden.source.Lineage Overridden.world Overridden.generation [] ∧
    ((Overridden.source.resolve Overridden.artifact).perform
      (Overridden.source.after Overridden.world [])).1
      = .ok (.ok ⟨Overridden.artifact, "jar", []⟩) ∧
    Overridden.generation.declared = [Overridden.library, Overridden.tests] ∧
    (Overridden.generation.filled Overridden.library).InBuild ∧
    Overridden.tests.type ≠ Overridden.library.type := by
  refine ⟨Overridden.lineage, Overridden.answered, ?_, ?_, ?_⟩
  · decide
  · decide
  · decide

end MavenImport
