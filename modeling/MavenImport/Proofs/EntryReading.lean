/-
# Proofs.EntryReading -- entries of options as they are checked and as they are used

An entry that names an artifact is admitted if its first two parts are not blank, whatever comes
after them (`namedPair?`).  Where entries are used they are read in two other ways.  An excluded one
must be the slug of a dependency as it stands, and the parts of one that is listed or added are
taken with the blanks around them.  So an entry does what it was admitted for if nothing comes after
its two parts, or if there are no blanks around them (`entries_agree`); others are admitted and then
passed over (`longer_exclusion_ignored`).
-/
import MavenImport.Proofs.EdgeAccounts

namespace MavenImport

set_option autoImplicit false

/-- The group and the artifact that an entry is admitted for: its first two parts, without the blanks
around them. -/
def namedPair? (s : String) : Option (String × String) := match Text.splitAt ':' s with
  | g :: n :: _ => some (Text.trim g, Text.trim n)
  | _ => none

/-- The first two parts of an entry have no blanks around them. -/
def IsTrimmed (s : String) : Prop :=
  ∃ g n rest, Text.splitAt ':' s = g :: n :: rest ∧ Text.trim g = g ∧ Text.trim n = n

/-- An artifact without its dependencies on another one. -/
def ResolvedArtifact.without (a : ResolvedArtifact) (group artifact : String) :
    ResolvedArtifact :=
  { a with dependencies :=
      a.dependencies.filter fun d => !(d.group = group && d.artifact = artifact) }

/-! ## Options without problems -/

section Valid

variable {config : ArtifactConfig} {key : String}

theorem valid_sources (valid : config.problems key = []) : config.sources.count true ≤ 1 := by
  simp only [ArtifactConfig.problems, List.append_eq_nil_iff] at valid
  obtain ⟨⟨⟨⟨-, once⟩, -⟩, -⟩, -⟩ := valid
  by_contra more
  simp [show 1 < config.sources.count true by omega] at once

theorem valid_entries (valid : config.problems key = []) :
    ArtifactConfig.entryProblems key "deps" true config.deps = [] ∧
      ArtifactConfig.entryProblems key "include" true config.included = [] := by
  simp only [ArtifactConfig.problems, List.append_eq_nil_iff] at valid
  obtain ⟨⟨⟨-, deps⟩, included⟩, -⟩ := valid
  exact ⟨deps, included⟩

/-- A list of dependencies comes alone. -/
theorem valid_listed (valid : config.problems key = []) (listed : config.deps ≠ []) :
    config.snippet.isNull = true := by
  have once := valid_sources valid
  have given : config.deps.isEmpty = false := by simpa using listed
  cases snippet : config.snippet.isNull with
  | true => rfl
  | false => simp [ArtifactConfig.sources, snippet, given] at once

/-- So do dependencies that are added. -/
theorem valid_included (valid : config.problems key = []) (added : config.included ≠ []) :
    config.snippet.isNull = true ∧ config.deps = [] := by
  have once := valid_sources valid
  have given : config.included.isEmpty = false := by simpa using added
  cases snippet : config.snippet.isNull with
  | false => simp [ArtifactConfig.sources, snippet, given, List.count_eq_zero] at once
  | true =>
      cases listed : config.deps with
      | nil => exact ⟨rfl, rfl⟩
      | cons v vs => simp [ArtifactConfig.sources, snippet, given, listed] at once

end Valid

/-! ## Excluded entries -/

section Excluded

variable {config : ArtifactConfig} {a : ResolvedArtifact} {group artifact : String}

/-- Dependencies whose slug is excluded are not kept. -/
theorem keptDependencies_without
    (excluded : .str (slugOf group artifact) ∈ config.excluded) :
    keptDependencies config a = keptDependencies config (a.without group artifact) := by
  have same : a.dependencies.filter (isKept config a.packaging)
      = (a.without group artifact).dependencies.filter (isKept config a.packaging) := by
    show _ = (a.dependencies.filter _).filter _
    rw [List.filter_filter]
    apply List.filter_congr
    intro d _
    cases kept : isKept config a.packaging d with
    | false => rfl
    | true =>
        have wanted := (isKept_iff.mp kept).2.1
        have other : d.group = group → d.artifact ≠ artifact := by
          rintro rfl rfl
          exact wanted excluded
        simpa [← imp_iff_not_or] using other
  rw [keptDependencies, keptDependencies, same]
  rfl

theorem prepareEdges_without {workspace : String} {substitutes : Json} (ledger : Ledger)
    (excluded : .str (slugOf group artifact) ∈ config.excluded) :
    prepareEdges workspace substitutes config a ledger
      = prepareEdges workspace substitutes config (a.without group artifact) ledger := by
  rw [prepareEdges, prepareEdges, keptDependencies_without excluded]
  rfl

end Excluded

/-! ## Listed and added entries -/

section Listed

variable {workspace owner : String} {table : Json}

/-- A pair without blanks around its parts is read as it was admitted. -/
theorem ofPair_named {s g n : String} (named : namedPair? s = some (g, n)) (trimmed : IsTrimmed s) :
    ∃ d, Dependency.ofPair? s = some d ∧ g = d.group ∧ n = d.artifact := by
  obtain ⟨g', n', rest, cut, group, artifact⟩ := trimmed
  rw [namedPair?, cut] at named
  cases named
  exact ⟨_, by rw [Dependency.ofPair?, cut], group, artifact⟩

/-- A label looks at nothing of a dependency but its names. -/
theorem labelFor_names_only {d e : Dependency} (group : d.group = e.group)
    (artifact : d.artifact = e.artifact) :
    labelFor workspace table owner d = labelFor workspace table owner e := by
  simp only [labelFor, group, artifact]

theorem listedLabel_pair {s l : String} {d : Dependency} (pair : isLabel s = false)
    (read : Dependency.ofPair? s = some d)
    (label : labelFor workspace table owner d = .ok (.str l)) :
    listedLabel workspace table owner (.str s) = .ok (.str l) := by
  simp [listedLabel, entryText, pair, pairDependency, read, label, bind, Except.bind,
    Except.mapError, pure, Except.pure, Json.isScalar]

/-- An admitted entry has a label. -/
theorem listedLabel_admitted
    (texts : ∀ d, ∃ s, labelFor workspace table owner d = .ok (.str s)) {v : Json}
    (admits : (ArtifactConfig.isPairEntry v || ArtifactConfig.isLabelEntry v) = true) :
    ∃ l, listedLabel workspace table owner v = .ok (.str l) := by
  obtain ⟨s, rfl, label | ⟨label, d, read⟩⟩ := admitted_entry admits
  · exact ⟨s, by simp [listedLabel, entryText, label, bind, Except.bind, pure, Except.pure,
      Json.isScalar]⟩
  · obtain ⟨l, made⟩ := texts d
    exact ⟨l, listedLabel_pair label read made⟩

theorem mapM_texts {f : Json → Except Fault Json} :
    ∀ {vs : List Json}, (∀ v ∈ vs, ∃ l, f v = .ok (.str l)) →
      ∃ labels, vs.mapM f = .ok labels ∧ ∀ v ∈ vs, ∀ label, f v = .ok label → label ∈ labels
  | [], _ => ⟨[], rfl, fun v listed => absurd listed List.not_mem_nil⟩
  | v :: vs, texts => by
      obtain ⟨⟨l, first⟩, rest⟩ := List.forall_mem_cons.mp texts
      obtain ⟨labels, made, each⟩ := mapM_texts rest
      refine ⟨.str l :: labels, by rw [List.mapM_cons, first, made]; rfl, ?_⟩
      refine List.forall_mem_cons.mpr ⟨fun label same => ?_, fun w later label same => ?_⟩
      · rw [first] at same
        cases same
        exact List.mem_cons_self
      · exact List.mem_cons_of_mem _ (each w later label same)

/-- A list gives the labels of its entries. -/
theorem prepareEdges_listed {substitutes : Json} {config : ArtifactConfig} {a : ResolvedArtifact}
    (found : substitutesFor substitutes a.coordinate.group = .ok table)
    (snippet : config.snippet.isNull = true) (listed : config.deps ≠ []) (ledger : Ledger) :
    prepareEdges workspace substitutes config a ledger
      = ((config.deps.mapM (listedLabel workspace table a.coordinate.group)).map Json.distinct,
          ledger) := by
  have given : config.deps.isEmpty = false := by simpa using listed
  rw [prepareEdges, snippet, found, given]
  rfl

variable {substitutes : Json} {config : ArtifactConfig} {key : String} {a : ResolvedArtifact}
  (found : substitutesFor substitutes a.coordinate.group = .ok table)
  (valid : config.problems key = [])
include found valid

/-- The label of a listed entry is one of those of the artifact. -/
theorem listed_labelled
    (texts : ∀ d, ∃ s, labelFor workspace table a.coordinate.group d = .ok (.str s)) {s l : String}
    (listed : .str s ∈ config.deps)
    (given : listedLabel workspace table a.coordinate.group (.str s) = .ok (.str l))
    (ledger : Ledger) : ∃ labels,
      (prepareEdges workspace substitutes config a ledger).1 = .ok labels ∧ .str l ∈ labels := by
  have some := List.ne_nil_of_mem listed
  have admitted := entryProblems_eq_nil.mp (valid_entries valid).1
  obtain ⟨labels, made, each⟩ :=
    mapM_texts fun v among => listedLabel_admitted texts (by simpa using admitted v among)
  refine ⟨Json.distinct labels, ?_,
    (mem_distinctFrom (each _ listed _ given)).resolve_left List.not_mem_nil⟩
  rw [prepareEdges_listed found (valid_listed valid some) some, made]
  rfl

/-- So is that of an entry that is added. -/
theorem included_labelled {label : Dependency → String}
    (labelled : ∀ d, labelFor workspace table a.coordinate.group d = .ok (.str (label d)))
    {s : String} {d : Dependency} (added : .str s ∈ config.included) (pair : isLabel s = false)
    (read : Dependency.ofPair? s = some d) (ledger : Ledger) : ∃ labels,
      (prepareEdges workspace substitutes config a ledger).1 = .ok labels ∧
        .str (label d) ∈ labels := by
  obtain ⟨snippet, unlisted⟩ := valid_included valid (List.ne_nil_of_mem added)
  have edges :=
    prepareEdges_unlisted (valid_entries valid).2 found labelled snippet unlisted ledger
  have taken : includedPair? (.str s) = some d := by
    simp [includedPair?, Json.str?, pair, read]
  have edge : d ∈ config.edges a :=
    List.mem_append_right _ (List.mem_filterMap.mpr ⟨_, added, taken⟩)
  refine ⟨_, congrArg Prod.fst edges, List.mem_map_of_mem ?_⟩
  rw [List.mem_eraseDups]
  exact List.mem_append_left _ (List.mem_map_of_mem edge)

end Listed

/-- An entry of options without problems does what it was admitted for.  An excluded one that is the
slug of its pair takes the dependencies on that artifact away.  One that is listed or added, without
blanks around its parts, gives the label of that artifact. -/
theorem entries_agree (workspace : String) {substitutes : Json} {config : ArtifactConfig}
    {key : String} (tables : IsSubstitution substitutes) (valid : config.problems key = [])
    (a : ResolvedArtifact) (ledger : Ledger) {s g n : String} (pair : isPair s = true)
    (named : namedPair? s = some (g, n)) :
    (.str s ∈ config.excluded → s = slugOf g n →
      (∀ d : Dependency, d.group = g → d.artifact = n → ¬ d.Survives config a.packaging) ∧
      prepareEdges workspace substitutes config a ledger
        = prepareEdges workspace substitutes config (a.without g n) ledger) ∧
    (.str s ∈ config.deps ∨ .str s ∈ config.included → IsTrimmed s →
      ∃ (table : Json) (l : String) (labels : List Json),
        substitutesFor substitutes a.coordinate.group = .ok table ∧
        labelFor workspace table a.coordinate.group { group := g, artifact := n }
          = .ok (.str l) ∧
        listedLabel workspace table a.coordinate.group (.str s) = .ok (.str l) ∧
        (prepareEdges workspace substitutes config a ledger).1 = .ok labels ∧
        .str l ∈ labels) := by
  constructor
  · rintro excluded rfl
    refine ⟨?_, prepareEdges_without ledger excluded⟩
    rintro d rfl rfl survives
    exact survives.wanted excluded
  · intro entry trimmed
    have unlabelled : isLabel s = false := by
      simp only [isPair, Bool.and_eq_true, Bool.not_eq_true'] at pair
      exact pair.1
    obtain ⟨d, read, group, artifact⟩ := ofPair_named named trimmed
    obtain ⟨table, found, texts⟩ := substitutesFor_table tables a.coordinate.group
    choose label labelled using texts workspace a.coordinate.group
    have given := listedLabel_pair unlabelled read (labelled d)
    have same : labelFor workspace table a.coordinate.group { group := g, artifact := n }
        = .ok (.str (label d)) := (labelFor_names_only group artifact).trans (labelled d)
    obtain ⟨labels, made, among⟩ : ∃ labels,
        (prepareEdges workspace substitutes config a ledger).1 = .ok labels ∧
          .str (label d) ∈ labels := by
      rcases entry with listed | added
      · exact listed_labelled found valid (texts workspace a.coordinate.group) listed given ledger
      · exact included_labelled found valid labelled added unlabelled read ledger
    exact ⟨table, label d, labels, found, same, given, made, among⟩

namespace Spelled

def artifact : ResolvedArtifact :=
  ⟨⟨"g", "a", "1"⟩, "jar", [{ group := "h", artifact := "x", version := some "1" }]⟩

/-- Options with one excluded entry, and one that is added with a version behind it. -/
def excluding (entry : String) : ArtifactConfig :=
  ⟨.null, true, .null, false, [], [.str entry], [.str "h:y:2"]⟩

def listing (entry : String) : ArtifactConfig :=
  ⟨.null, true, .null, false, [.str entry], [], []⟩

theorem tables : IsSubstitution (.obj []) :=
  ⟨[], rfl, fun _ listed => absurd listed List.not_mem_nil⟩

theorem valid : (excluding "h:x").problems "g:a:1" = [] := by decide

/-- The labels of the artifact that are texts. -/
def labels (config : ArtifactConfig) : List String :=
  match (prepareEdges "maven" (.obj []) config artifact .empty).1 with
  | .ok labels => labels.filterMap Json.str?
  | .error _ => []

end Spelled

/-- The entries of options that exclude one artifact and add another, with a version behind it. -/
theorem spelled_agree :
    (IsSubstitution (.obj []) ∧ (Spelled.excluding "h:x").problems "g:a:1" = [] ∧
      isPair "h:x" = true ∧ namedPair? "h:x" = some ("h", "x") ∧ isPair "h:y:2" = true ∧
      namedPair? "h:y:2" = some ("h", "y")) ∧
    prepareEdges "maven" (.obj []) (Spelled.excluding "h:x") Spelled.artifact .empty
      = prepareEdges "maven" (.obj []) (Spelled.excluding "h:x")
          (Spelled.artifact.without "h" "x") .empty ∧
    ∃ (table : Json) (l : String) (labels : List Json),
      substitutesFor (.obj []) "g" = .ok table ∧
      labelFor "maven" table "g" { group := "h", artifact := "y" } = .ok (.str l) ∧
      listedLabel "maven" table "g" (.str "h:y:2") = .ok (.str l) ∧
      (prepareEdges "maven" (.obj []) (Spelled.excluding "h:x") Spelled.artifact .empty).1
        = .ok labels ∧ .str l ∈ labels := by
  have trimmed : IsTrimmed "h:y:2" :=
    ⟨"h", "y", ["2"], by decide, by decide, by decide⟩
  have excluded : namedPair? "h:x" = some ("h", "x") := by decide
  have added : namedPair? "h:y:2" = some ("h", "y") := by decide
  have pair : isPair "h:x" = true := by decide
  have pair' : isPair "h:y:2" = true := by decide
  exact ⟨⟨Spelled.tables, Spelled.valid, pair, excluded, pair', added⟩,
    ((entries_agree "maven" Spelled.tables Spelled.valid Spelled.artifact .empty pair excluded).1
      List.mem_cons_self (by decide)).2,
    (entries_agree "maven" Spelled.tables Spelled.valid Spelled.artifact .empty pair' added).2
      (.inr List.mem_cons_self) trimmed⟩

/-- An excluded entry with a version behind it is admitted, and the dependency is still declared.  A
listed one with blanks is admitted for an artifact, and has the label of another one. -/
theorem longer_exclusion_ignored :
    ((Spelled.excluding "h:x:1").problems "g:a:1" = [] ∧ isPair "h:x:1" = true ∧
      namedPair? "h:x:1" = some ("h", "x") ∧
      Spelled.labels (Spelled.excluding "h:x:1") = ["@maven//h:x", "@maven//h:y"]) ∧
    (Spelled.listing "h : x").problems "g:a:1" = [] ∧ isPair "h : x" = true ∧
      namedPair? "h : x" = some ("h", "x") ∧
      Spelled.labels (Spelled.listing "h : x") = ["@maven//h : x"] := by
  decide

end MavenImport
