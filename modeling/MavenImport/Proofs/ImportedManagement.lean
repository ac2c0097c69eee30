/-
# Proofs.ImportedManagement -- which import a managed dependency comes from

A POM may import the managed dependencies of other models.  They give way to whatever is there
already, and what is there already when a POM's own imports are taken up is what it inherits.  So
along a chain of parents the managed dependency of a slug that no POM of the chain manages itself
comes from the first import that has it in the *farthest* POM of the chain (`EldestImports`), and
not, as for everything else that a chain says, from the nearest one.  The two agree where only one
POM of the chain imports the slug (`Source.model_imports`).

A chain is written here with the models that each of its POMs imports (`Importer`).  These are
models that the POMs of a source merge into, with parents and imports of their own
(`Source.Effective`).
-/
import MavenImport.Proofs.KeptModels
import MavenImport.Proofs.PlainDocuments

namespace MavenImport

set_option autoImplicit false

/-! ## Imports of a POM -/

/-- The coordinates that a POM imports, in order. -/
def Generation.imported (g : Generation) : List Coordinate :=
  g.pom.managed.filterMap (Draft.imported? ⟨g.model.properties, ⟨[]⟩, ⟨[]⟩⟩)

/-- One POM of a chain with the models that it imports, in order. -/
structure Importer extends Generation where
  imports : List (Coordinate × Model)

/-- The managed dependency of a slug that the first import with any has. -/
def Importer.brings (g : Importer) (slug : String) : Option Dependency :=
  g.imports.findSome? fun i => i.2.managed.find? fun d => d.slug = slug

/-- The managed dependencies at the near end of a chain: the last one that the nearest POM with any
manages itself, or else the one that the farthest POM with any imports first. -/
def EldestImports (g : Importer) (older : List Importer) : Prop :=
  ∀ slug, g.model.managed.find? (fun d => d.slug = slug)
    = ((g :: older).findSome? fun h => lastOf slug h.manages).or
        ((g :: older).reverse.findSome? fun h => h.brings slug)

/-! ## One POM -/

section Merging

variable {R : Coordinate → Model → Prop} {start draft : Draft}

/-- What a POM manages in the end comes from itself, from what it starts with, or from the models
that it imports. -/
theorem merged_imports {g : Generation}
    (manages : (start.defineAll g.pom g.coordinate).Manages R g.pom.managed draft)
    (made : g.model = (draft.depend g.pom).finish g.pom g.coordinate)
    (slugged : start.managed.Slugged) :
    ∃ imports : List (Coordinate × Model), imports.map Prod.fst = g.imported ∧
      (∀ i ∈ imports, R i.1 i.2) ∧
      ∀ slug, g.model.managed.find? (fun d => d.slug = slug)
        = (lastOf slug g.manages).or ((start.managed.find? slug).or
            (imports.findSome? fun i => i.2.managed.find? fun d => d.slug = slug)) := by
  have merged : g.MergedFrom start := ⟨draft, manages_mono (fun _ _ _ => trivial) manages, made⟩
  have same : (start.defineAll g.pom g.coordinate).properties = g.model.properties :=
    (merged_properties merged).symm
  have reads : (start.defineAll g.pom g.coordinate).interpolate = g.read := interpolate_eq_read same
  have names : (start.defineAll g.pom g.coordinate).imported?
      = Draft.imported? ⟨g.model.properties, ⟨[]⟩, ⟨[]⟩⟩ := by
    funext d
    simp only [Draft.imported?, reads]
    rfl
  obtain ⟨imports, listed, allowed, found⟩ := manages_brings manages
  rw [names] at listed
  refine ⟨imports, listed, allowed, fun slug => ?_⟩
  have values : g.model.managed = draft.managed.values := by rw [made]; rfl
  rw [values, slugged_find? (manages_slugged manages slugged), found, reads]
  rfl

end Merging

/-! ## The whole chain -/

namespace Source

variable {s : Source} {w : World}

/-- A coordinate has a model: some POM that the source gave under its text merges into it, with
models that the parent and the imports of the POM have. -/
inductive Effective (s : Source) (w : World) : Coordinate → Model → Prop
  | root {c d : Coordinate} {pom : Pom} {draft : Draft} (given : s.Gives w d pom)
      (same : d.text = c.text) (orphan : pom.parent? = none)
      (manages : (Draft.empty.defineAll pom d).Manages (Effective s w) pom.managed draft) :
      Effective s w c ((draft.depend pom).finish pom d)
  | child {c d parent : Coordinate} {pom : Pom} {m : Model} {draft : Draft}
      (given : s.Gives w d pom) (same : d.text = c.text) (named : pom.parent? = some parent)
      (above : Effective s w parent m)
      (manages : ((Draft.inherit m).defineAll pom d).Manages (Effective s w) pom.managed draft) :
      Effective s w c ((draft.depend pom).finish pom d)

/-- The models that a POM imports are those of the coordinates that it lists. -/
def Imports (s : Source) (w : World) (g : Importer) : Prop :=
  g.imports.map Prod.fst = g.imported ∧ ∀ i ∈ g.imports, s.Effective w i.1 i.2

/-- A chain of POMs that the source gave, with the models that they import. -/
structure Succession (s : Source) (w : World) (g : Importer) (older : List Importer) : Prop where
  lineage : s.Lineage w g.toGeneration (older.map Importer.toGeneration)
  imports : ∀ h ∈ g :: older, s.Imports w h
  eldest : EldestImports g older

/-- A coordinate has the model, which is the one at the near end of a chain that begins there. -/
def Succeeds (s : Source) (w : World) (c : Coordinate) (m : Model) : Prop :=
  s.Effective w c m ∧ ∃ g older, s.Succession w g older ∧ g.coordinate.text = c.text ∧ g.model = m

theorem succeeds_text {c d : Coordinate} {m : Model} (same : c.text = d.text)
    (succeeds : s.Succeeds w c m) : s.Succeeds w d m := by
  obtain ⟨effective, g, older, succession, text, made⟩ := succeeds
  refine ⟨?_, g, older, succession, text.trans same, made⟩
  cases effective with
  | root given text orphan manages => exact .root given (text.trans same) orphan manages
  | child given text named above manages =>
      exact .child given (text.trans same) named above manages

theorem succession_root {g : Importer} (given : s.Gives w g.coordinate g.pom)
    (orphan : g.pom.parent? = none) (imports : s.Imports w g)
    (merged : g.toGeneration.MergedFrom .empty)
    (found : ∀ slug, g.model.managed.find? (fun d => d.slug = slug)
      = (lastOf slug g.manages).or ((Draft.empty.managed.find? slug).or (g.brings slug))) :
    s.Succession w g [] where
  lineage := .root given orphan merged
  imports := List.forall_mem_singleton.mpr imports
  eldest slug := by
    rw [found]
    simp [Draft.empty, Table.find?, Table.findEntry]

theorem succession_child {g elder : Importer} {older : List Importer} {parent : Coordinate}
    (given : s.Gives w g.coordinate g.pom) (named : g.pom.parent? = some parent)
    (text : parent.text = elder.coordinate.text) (imports : s.Imports w g)
    (merged : g.toGeneration.MergedFrom (.inherit elder.model))
    (found : ∀ slug, g.model.managed.find? (fun d => d.slug = slug)
      = (lastOf slug g.manages).or
          (((Draft.inherit elder.model).managed.find? slug).or (g.brings slug)))
    (above : s.Succession w elder older) : s.Succession w g (elder :: older) where
  lineage := .child given named text merged above.lineage
  imports := List.forall_mem_cons.mpr ⟨imports, above.imports⟩
  eldest slug := by
    have once := (lineage_nearest above.lineage).managedOnce
    have inherited : (Draft.inherit elder.model).managed.find? slug
        = elder.model.managed.find? fun d => d.slug = slug := (ofList_of_nodup once).2.2 slug
    rw [found, inherited, above.eldest slug, @List.reverse_cons _ g, List.findSome?_append,
      @List.findSome?_cons _ _ g]
    cases lastOf slug g.manages <;> simp [Option.or_assoc]

/-- A POM that merges with the models of chains adds one generation. -/
theorem succeeds_of_merge {c : Coordinate} {pom : Pom} {m : Model} (given : s.Gives w c pom)
    (into : pom.MergesInto (s.Succeeds w) c m) : s.Succeeds w c m := by
  obtain ⟨start, draft, starts, manages, rfl⟩ := into
  have effective := manages_mono (fun _ _ succeeds => succeeds.1) manages
  have slugged : start.managed.Slugged := by
    cases starts with
    | alone orphan => exact slugged_empty
    | inherits named succeeds => exact slugged_putAll slugged_empty _
  let g : Generation := ⟨c, pom, (draft.depend pom).finish pom c⟩
  have merged : g.MergedFrom start := ⟨draft, manages_mono (fun _ _ _ => trivial) manages, rfl⟩
  obtain ⟨imports, listed, models, found⟩ := merged_imports (g := g) effective rfl slugged
  cases starts with
  | alone orphan =>
      exact ⟨.root given rfl orphan effective, ⟨g, imports⟩, [],
        succession_root given orphan ⟨listed, models⟩ merged found, rfl, rfl⟩
  | inherits named succeeds =>
      obtain ⟨above, elder, older, succession, text, rfl⟩ := succeeds
      exact ⟨.child given rfl named above effective, ⟨g, imports⟩, elder :: older,
        succession_child given named text.symm ⟨listed, models⟩ merged found succession, rfl, rfl⟩

/-! ## Every model has a chain -/

theorem succeeds_carries (s : Source) (w : World) :
    s.Carries
      (s.Remembers w (fun _ => True) fun key m => ∃ c : Coordinate, c.text = key ∧ s.Succeeds w c m)
      .any (s.givenTerms w (fun _ => True) (s.Succeeds w)) :=
  all_carries (fun c _ => ⟨fun ⟨_, same, succeeds⟩ => succeeds_text same succeeds,
    fun succeeds => ⟨c, rfl, succeeds⟩⟩) fun _ _ _ => succeeds_of_merge

/-- Every model that is put together after any calls has a chain. -/
theorem modelOf_succeeds (fresh : w.models = ⟨[]⟩) (calls : List Coordinate) {n : Nat}
    {c : Coordinate} {m : Model}
    (answered : ((s.modelOf n c).perform (s.after w calls)).1 = .ok (.ok m)) :
    s.Succeeds w c m := by
  have carries := succeeds_carries s w
  exact (modelOf_carries carries n trivial).sound _
    (after_carries carries (fun _ => trivial) calls (remembers_start fresh)) m answered

end Source

/-! ## The nearest import and the farthest one -/

/-- A slug that no POM of a chain manages itself. -/
def Unmanaged (slug : String) (chain : List Importer) : Prop :=
  ∀ g ∈ chain, ∀ d ∈ g.manages, d.slug ≠ slug

section Eldest

variable {g : Importer} {older : List Importer} {slug : String}

/-- The managed dependency of a slug that is only imported is that of the farthest POM. -/
theorem eldest_find? (eldest : EldestImports g older) (unmanaged : Unmanaged slug (g :: older)) :
    g.model.managed.find? (fun d => d.slug = slug)
      = (g :: older).reverse.findSome? fun h => h.brings slug := by
  have none : ((g :: older).findSome? fun h => lastOf slug h.manages) = none := by
    rw [List.findSome?_eq_none_iff]
    intro h listed
    rw [lastOf, List.find?_eq_none]
    intro d managed
    simpa using unmanaged h listed d (List.mem_reverse.mp managed)
  rw [eldest slug, none, Option.none_or]

theorem findSome?_reverse {α β : Type} {f : α → Option β} :
    ∀ {xs : List α}, xs.countP (fun x => (f x).isSome) ≤ 1 →
      xs.reverse.findSome? f = xs.findSome? f
  | [], _ => rfl
  | x :: xs, once => by
      rw [List.reverse_cons, List.findSome?_append, List.findSome?_cons]
      cases found : f x with
      | none =>
          rw [List.countP_cons_of_neg (by simp [found])] at once
          simp [findSome?_reverse once, found]
      | some y =>
          rw [List.countP_cons_of_pos (by simp [found])] at once
          have others : xs.reverse.findSome? f = none := by
            rw [List.findSome?_eq_none_iff]
            intro z listed
            have zero : xs.countP (fun x => (f x).isSome) = 0 := by omega
            simpa using List.countP_eq_zero.mp zero z (List.mem_reverse.mp listed)
          simp [others, found]

end Eldest

/-- Every model that is put together, after any calls and at any depth, belongs to a chain of POMs,
with the models that these import.  The managed dependency of a slug that no POM of the chain
manages itself is the first one that the farthest POM with any imports.  That is the nearest POM
with any if no other one imports the slug. -/
theorem Source.model_imports {s : Source} {w : World} (fresh : w.models = ⟨[]⟩)
    (calls : List Coordinate) (n : Nat) (c : Coordinate) (m : Model)
    (answered : ((s.modelOf n c).perform (s.after w calls)).1 = .ok (.ok m)) :
    ∃ (g : Importer) (older : List Importer),
      s.Lineage w g.toGeneration (older.map Importer.toGeneration) ∧
      (∀ h ∈ g :: older, s.Imports w h) ∧ g.coordinate.text = c.text ∧ g.model = m ∧
      ∀ slug, Unmanaged slug (g :: older) →
        m.managed.find? (fun d => d.slug = slug)
          = ((g :: older).reverse.findSome? fun h => h.brings slug) ∧
        ((g :: older).countP (fun h => (h.brings slug).isSome) ≤ 1 →
          m.managed.find? (fun d => d.slug = slug)
            = (g :: older).findSome? fun h => h.brings slug) := by
  obtain ⟨-, g, older, succession, text, rfl⟩ := Source.modelOf_succeeds fresh calls answered
  refine ⟨g, older, succession.lineage, succession.imports, text, rfl, fun slug unmanaged => ?_⟩
  have eldest := eldest_find? succession.eldest unmanaged
  exact ⟨eldest, fun once => eldest.trans (findSome?_reverse once)⟩

/-! ### A parent and a child that import two versions -/

namespace Offers

def bomText : String :=
  "<project><groupId>g</groupId><dependencyManagement><dependencies><dependency>"
    ++ "<groupId>h</groupId><artifactId>x</artifactId><version>$\x7bversion\x7d</version>"
    ++ "</dependency></dependencies></dependencyManagement></project>"

def importText (version : String) : String :=
  "<dependencyManagement><dependencies><dependency><groupId>g</groupId>"
    ++ "<artifactId>bom</artifactId><version>" ++ version ++ "</version><type>pom</type>"
    ++ "<scope>import</scope></dependency></dependencies></dependencyManagement></project>"

def parentText : String := "<project><groupId>g</groupId>" ++ importText "1"

def childText : String :=
  "<project><parent><groupId>g</groupId><artifactId>p</artifactId><version>1</version></parent>"
    ++ importText "2"

def bom (version : String) : Coordinate := ⟨"g", "bom", version⟩

def parent : Coordinate := ⟨"g", "p", "1"⟩

def child : Coordinate := ⟨"g", "a", "1"⟩

/-- Files with the POMs in their places; both versions of the import have the same one. -/
def files : FileSystem where
  entries := ⟨[([], .directory), (["g"], .directory), (["g", "bom"], .directory),
    (["g", "bom", "1"], .directory), (["g", "bom", "1", "bom-1.pom"], .file 0),
    (["g", "bom", "2"], .directory), (["g", "bom", "2", "bom-2.pom"], .file 0),
    (["g", "p"], .directory), (["g", "p", "1"], .directory),
    (["g", "p", "1", "p-1.pom"], .file 1), (["g", "a"], .directory),
    (["g", "a", "1"], .directory), (["g", "a", "1", "a-1.pom"], .file 2)]⟩
  contents := ⟨[(0, bomText.toUTF8), (1, parentText.toUTF8), (2, childText.toUTF8)]⟩
  fresh := 3
  here := []
  numbered := by decide

/-- The files with nothing behind them, where some models are kept. -/
def world (models : Table String Model) : World := ⟨files, ⟨[]⟩, [], ⟨0, []⟩, models, "0"⟩

def source : Source := .ofRepositories (.ofString "/") []

def offered : Dependency :=
  { group := "h", artifact := "x", version := some "$\x7bversion\x7d" }

def bomPom : Pom := ⟨"g", "", none, "jar", ⟨none, none, none⟩, ⟨[]⟩, [], [offered]⟩

/-- The managed dependency that stands for a version of the import. -/
def imports (version : String) : Dependency :=
  { group := "g", artifact := "bom", version := some version, kind := some "pom",
    scope := some "import" }

def parentPom : Pom := ⟨"g", "", none, "jar", ⟨none, none, none⟩, ⟨[]⟩, [], [imports "1"]⟩

def childPom : Pom :=
  ⟨"g", "", some "1", "jar", ⟨some "g", some "p", some "1"⟩, ⟨[]⟩, [], [imports "2"]⟩

def bomModel (version : String) : Model :=
  let start := Draft.empty.defineAll bomPom (bom version)
  ((start.manage (start.interpolate offered)).depend bomPom).finish bomPom (bom version)

/-- The parent with what it imports. -/
def elder : Importer where
  coordinate := parent
  pom := parentPom
  model := (((Draft.empty.defineAll parentPom parent).importAll (bomModel "1")).depend
    parentPom).finish parentPom parent
  imports := [(bom "1", bomModel "1")]

/-- The child with what it imports. -/
def younger : Importer where
  coordinate := child
  pom := childPom
  model := ((((Draft.inherit elder.model).defineAll childPom child).importAll
    (bomModel "2")).depend childPom).finish childPom child
  imports := [(bom "2", bomModel "2")]

/-- The imports and the parent are resolved before the child. -/
def calls : List Coordinate := [bom "1", bom "2", parent]

section Loads

variable (models : Table String Model)

theorem loads_bom {version : String} (listed : version = "1" ∨ version = "2") :
    (source.loadPom (bom version)).perform (world models) = (.ok (.ok bomPom), world models) := by
  have parsed : Pom.ofBytes bomText.toUTF8 = .ok bomPom :=
    Pom.ofBytes_plain (ofList_pieces (ofList_pieces rfl rfl) rfl) (by decide)
      (by decide) (by decide +kernel)
  have found : ∀ version ∈ ["1", "2"],
      (files.status (source.localFile (artifactPath (bom version) "pom" none))).toOption
        = some (.file 0) := by decide
  exact Source.loadPom_from_file (v := world models) (found version (by simpa using listed)) parsed

theorem loads_parent :
    (source.loadPom parent).perform (world models) = (.ok (.ok parentPom), world models) := by
  have parsed : Pom.ofBytes parentText.toUTF8 = .ok parentPom :=
    Pom.ofBytes_plain (ofList_pieces rfl (ofList_pieces (ofList_pieces (ofList_pieces
      (ofList_pieces rfl rfl) rfl) rfl) rfl)) (by decide +kernel) (by decide +kernel)
      (by decide +kernel)
  have found : (files.status (source.localFile (artifactPath parent "pom" none))).toOption
      = some (.file 1) := by decide
  exact Source.loadPom_from_file (v := world models) found parsed

theorem loads_child :
    (source.loadPom child).perform (world models) = (.ok (.ok childPom), world models) := by
  have parsed : Pom.ofBytes childText.toUTF8 = .ok childPom :=
    Pom.ofBytes_plain (ofList_pieces rfl (ofList_pieces (ofList_pieces (ofList_pieces
      (ofList_pieces rfl rfl) rfl) rfl) rfl)) (by decide +kernel) (by decide +kernel)
      (by decide +kernel)
  have found : (files.status (source.localFile (artifactPath child "pom" none))).toOption
      = some (.file 2) := by decide
  exact Source.loadPom_from_file (v := world models) found parsed

end Loads

theorem merges_bom {R : Coordinate → Model → Prop} (version : String) :
    bomPom.MergesInto R (bom version) (bomModel version) :=
  ⟨_, _, .alone rfl, .takes rfl (.done _), rfl⟩

theorem merges_parent {R : Coordinate → Model → Prop} (merged : R (bom "1") (bomModel "1")) :
    parentPom.MergesInto R parent elder.model :=
  ⟨_, _, .alone rfl, .imports (by decide) merged (.done _), rfl⟩

theorem merges_child {R : Coordinate → Model → Prop} (above : R parent elder.model)
    (merged : R (bom "2") (bomModel "2")) : childPom.MergesInto R child younger.model :=
  ⟨_, _, .inherits rfl above, .imports (by decide) merged (.done _), rfl⟩

/-- The models that are kept after the first call, the second one and the third one. -/
def firstKept : Table String Model := Table.put ⟨[]⟩ (bom "1").text (bomModel "1")

def secondKept : Table String Model := firstKept.put (bom "2").text (bomModel "2")

def kept : Table String Model := secondKept.put parent.text elder.model

theorem first_kept : Source.KeptIn (world secondKept) (bom "1") (bomModel "1") := by
  show secondKept.find? (bom "1").text = _
  rw [secondKept, Table.find?_put, if_neg (by decide), firstKept, Table.find?_put, if_pos rfl]

theorem second_kept : Source.KeptIn (world kept) (bom "2") (bomModel "2") := by
  show kept.find? (bom "2").text = _
  rw [kept, Table.find?_put, if_neg (by decide), secondKept, Table.find?_put, if_pos rfl]

theorem parent_kept : Source.KeptIn (world kept) parent elder.model := by
  show kept.find? parent.text = _
  rw [kept, Table.find?_put, if_pos rfl]

theorem second_missing : firstKept.find? (bom "2").text = none := by
  rw [firstKept, Table.find?_put, if_neg (by decide)]
  rfl

theorem parent_missing : secondKept.find? parent.text = none := by
  rw [secondKept, Table.find?_put, if_neg (by decide), firstKept, Table.find?_put,
    if_neg (by decide)]
  rfl

theorem child_missing : kept.find? child.text = none := by
  rw [kept, Table.find?_put, if_neg (by decide), secondKept, Table.find?_put,
    if_neg (by decide), firstKept, Table.find?_put, if_neg (by decide)]
  rfl

theorem first_call : ((source.resolve (bom "1")).perform (world ⟨[]⟩)).2 = world firstKept := by
  rw [Source.resolve_from_kept rfl (loads_bom _ (.inl rfl)) (merges_bom "1")]
  rfl

theorem second_call : ((source.resolve (bom "2")).perform (world firstKept)).2
    = world secondKept := by
  rw [Source.resolve_from_kept (v := world firstKept) second_missing (loads_bom _ (.inr rfl))
    (merges_bom "2")]
  rfl

theorem third_call : ((source.resolve parent).perform (world secondKept)).2 = world kept := by
  rw [Source.resolve_from_kept (v := world secondKept) parent_missing (loads_parent _)
    (merges_parent first_kept)]
  rfl

theorem after_calls : source.after (world ⟨[]⟩) calls = world kept := by
  rw [calls, Source.after, first_call, Source.after, second_call, Source.after, third_call,
    Source.after]

theorem answered : ((source.modelOf 1 child).perform (source.after (world ⟨[]⟩) calls)).1
    = .ok (.ok younger.model) := by
  rw [after_calls, Source.modelOf_from_kept (v := world kept) child_missing (loads_child kept)
    (merges_child parent_kept second_kept) 0]

theorem effective_bom {version : String} (listed : version = "1" ∨ version = "2") :
    source.Effective (world ⟨[]⟩) (bom version) (bomModel version) :=
  .root (Source.gives_of_loaded (loads_bom _ listed)) rfl rfl (.takes rfl (.done _))

theorem lineage :
    source.Lineage (world ⟨[]⟩) younger.toGeneration [elder.toGeneration] :=
  .child (Source.gives_of_loaded (loads_child _)) rfl rfl
    ⟨_, .imports (show _ = some (bom "2") by decide) trivial (.done _), rfl⟩
    (.root (Source.gives_of_loaded (loads_parent _)) rfl
      ⟨_, .imports (show _ = some (bom "1") by decide) trivial (.done _), rfl⟩)

theorem imports_all : ∀ h ∈ [younger, elder], source.Imports (world ⟨[]⟩) h := by
  have one : ∀ {version : String}, version = "1" ∨ version = "2" →
      ∀ i ∈ [(bom version, bomModel version)], source.Effective (world ⟨[]⟩) i.1 i.2 :=
    fun listed => List.forall_mem_singleton.mpr (effective_bom listed)
  refine List.forall_mem_cons.mpr ⟨⟨?_, one (.inr rfl)⟩,
    List.forall_mem_singleton.mpr ⟨?_, one (.inl rfl)⟩⟩
  · decide
  · decide

/-- The managed dependency of the slug in a version. -/
def managed (version : String) : Dependency :=
  { group := "h", artifact := "x", version := some version }

end Offers

/-- The child has a model after the calls, and it has a chain. -/
theorem child_imports :
    ((Offers.world ⟨[]⟩).models = ⟨[]⟩ ∧
      ((Offers.source.modelOf 1 Offers.child).perform
        (Offers.source.after (Offers.world ⟨[]⟩) Offers.calls)).1
        = .ok (.ok Offers.younger.model)) ∧
    ∃ (g : Importer) (older : List Importer),
      Offers.source.Lineage (Offers.world ⟨[]⟩) g.toGeneration
        (older.map Importer.toGeneration) ∧
      (∀ h ∈ g :: older, Offers.source.Imports (Offers.world ⟨[]⟩) h) ∧
      g.coordinate.text = "g:a:1" ∧ g.model = Offers.younger.model ∧
      ∀ slug, Unmanaged slug (g :: older) →
        Offers.younger.model.managed.find? (fun d => d.slug = slug)
          = ((g :: older).reverse.findSome? fun h => h.brings slug) ∧
        ((g :: older).countP (fun h => (h.brings slug).isSome) ≤ 1 →
          Offers.younger.model.managed.find? (fun d => d.slug = slug)
            = (g :: older).findSome? fun h => h.brings slug) :=
  ⟨⟨rfl, Offers.answered⟩, Source.model_imports rfl Offers.calls 1 Offers.child _ Offers.answered⟩

/-- The child imports the second version of a dependency that no POM of the chain manages itself,
and its model has the first one, which its parent imports. -/
theorem nearest_import_passed_over :
    Offers.source.Lineage (Offers.world ⟨[]⟩) Offers.younger.toGeneration
      [Offers.elder.toGeneration] ∧
    (∀ h ∈ [Offers.younger, Offers.elder], Offers.source.Imports (Offers.world ⟨[]⟩) h) ∧
    ((Offers.source.modelOf 1 Offers.child).perform
      (Offers.source.after (Offers.world ⟨[]⟩) Offers.calls)).1
      = .ok (.ok Offers.younger.model) ∧
    Unmanaged "h:x" [Offers.younger, Offers.elder] ∧
    Offers.younger.brings "h:x" = some (Offers.managed "2") ∧
    Offers.younger.model.managed.find? (fun d => d.slug = "h:x") = some (Offers.managed "1") := by
  refine ⟨Offers.lineage, Offers.imports_all, Offers.answered, ?_, ?_, ?_⟩
  · have none : ∀ h ∈ [Offers.younger, Offers.elder], h.manages = [] :=
      List.forall_mem_cons.mpr ⟨by decide, List.forall_mem_singleton.mpr (by decide)⟩
    intro h listed d among
    rw [none h listed] at among
    cases among
  · decide
  · decide

end MavenImport
