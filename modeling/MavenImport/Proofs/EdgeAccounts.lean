/-
# Proofs.EdgeAccounts -- the labels of an artifact against the records of its edges

The edges of an artifact without a snippet and without a list of its own are the dependencies that
survive its options, and the pairs that these add (`ArtifactConfig.edges`).  For each of them there
is one record in the ledger and one label, so that what is declared and what is checked later do not
drift apart (`prepareEdges_accounts`).  An artifact with a snippet or a list leaves the ledger as it
is.
-/
import MavenImport.Proofs.LabelTargets
import MavenImport.Proofs.MissingArtifacts

namespace MavenImport

set_option autoImplicit false

/-! ## The edges of an artifact -/

/-- A dependency that the options of an artifact of some packaging leave in its declaration. -/
structure Dependency.Survives (config : ArtifactConfig) (packaging : String) (d : Dependency) :
    Prop where
  required : d.optional = false
  wanted : .str d.slug ∉ config.excluded
  family : isLibrary packaging = isLibrary d.type

theorem isKept_iff_survives {config : ArtifactConfig} {packaging : String} {d : Dependency} :
    isKept config packaging d = true ↔ d.Survives config packaging :=
  isKept_iff.trans ⟨fun ⟨required, wanted, family⟩ => ⟨required, wanted, family⟩,
    fun ⟨required, wanted, family⟩ => ⟨required, wanted, family⟩⟩

instance (config : ArtifactConfig) (packaging : String) (d : Dependency) :
    Decidable (d.Survives config packaging) :=
  decidable_of_iff _ isKept_iff_survives

/-- The dependency that an added entry stands for, unless it is a label. -/
def includedPair? (v : Json) : Option Dependency :=
  v.str?.bind fun s => if isLabel s then none else Dependency.ofPair? s

/-- The label that an added entry is. -/
def includedLabel? (v : Json) : Option String := v.str?.filter isLabel

/-- A dependency on what a slug names, in no particular version. -/
def Dependency.ofSlug (slug : String) : Dependency :=
  { group := (Text.splitAt ':' slug).headD "", artifact := (Text.splitAt ':' slug).tail.headD ""
    version := some unversioned, scope := some "compile" }

/-- What an artifact depends on: the dependencies that survive, each of them replaced by its
successor if there is one, and then the pairs that are added. -/
def ArtifactConfig.edges (config : ArtifactConfig) (a : ResolvedArtifact) : List Dependency :=
  (a.dependencies.filter fun d => d.Survives config a.packaging).map
      (fun d => (successor? d.slug).elim d Dependency.ofSlug)
    ++ config.included.filterMap includedPair?

/-- The record of an edge: the slug, the version if there is one, and who depends on it. -/
def recordOf (owner : Coordinate) (d : Dependency) : String × String × Option String :=
  (d.slug, (given? d.version).getD unversioned, some owner.text)

/-- A table of texts for each of some groups. -/
def IsSubstitution (substitutes : Json) : Prop :=
  ∃ groups, substitutes = .obj groups ∧ ∀ g ∈ groups, ∃ fields, g.2 = .obj fields ∧
    ∀ f ∈ fields, ∃ s, f.2 = .str s

/-- The labels of an artifact and the ledger after them, against the labels of single dependencies
and the ledger before. -/
structure Accounts (config : ArtifactConfig) (a : ResolvedArtifact) (label : Dependency → String)
    (before : Ledger) (labels : List String) (after : Ledger) : Prop where
  /-- There is one record for each edge, and nothing else is recorded. -/
  recorded : after = before.recordThese ((config.edges a).map (recordOf a.coordinate))
  versions : ∀ slug version, version ∈ after.versionsOf slug ↔ version ∈ before.versionsOf slug ∨
    ∃ d ∈ config.edges a, d.slug = slug ∧ (given? d.version).getD unversioned = version
  dependants : ∀ slug owner, owner ∈ after.dependantsOf slug ↔ owner ∈ before.dependantsOf slug ∨
    ∃ d ∈ config.edges a, d.slug = slug ∧ a.coordinate.text = owner
  others : ∀ slug, (∀ d ∈ config.edges a, d.slug ≠ slug) → after.find? slug = before.find? slug
  /-- The labels are those of the edges and those that are added, in order of first occurrence. -/
  ordered : labels
    = ((config.edges a).map label ++ config.included.filterMap includedLabel?).eraseDups
  once : labels.Nodup
  listed : ∀ s, s ∈ labels ↔
    (∃ d ∈ config.edges a, label d = s) ∨ .str s ∈ config.included ∧ isLabel s = true

/-! ## Labels -/

section Labels

variable {workspace ownerGroup : String} {fields : List (String × Json)}

/-- With a table of texts the label of a dependency is a text. -/
theorem labelFor_text (texts : ∀ f ∈ fields, ∃ s, f.2 = .str s) (d : Dependency) :
    ∃ s, labelFor workspace (.obj fields) ownerGroup d = .ok (.str s) := by
  obtain ⟨s, found⟩ : ∃ s, (Json.findField (targetLabel workspace d.group d.artifact) fields).getD
      (.str (targetLabel workspace d.group d.artifact)) = .str s := by
    cases found : fields.find? fun f => f.1 = targetLabel workspace d.group d.artifact with
    | none =>
        refine ⟨targetLabel workspace d.group d.artifact, ?_⟩
        simp [Json.findField, found]
    | some f =>
        obtain ⟨s, text⟩ := texts f (List.mem_of_find?_eq_some found)
        exact ⟨s, by simp [Json.findField, found, text]⟩
  by_cases same : ownerGroup = d.group
  · exact ⟨_, labelFor_own same found⟩
  · rcases labelFor_other same found with label | ⟨-, -, label⟩
    · exact ⟨_, label⟩
    · exact ⟨_, label⟩

/-- With the substitutions for a group all labels are texts. -/
theorem substitutesFor_table {substitutes : Json} (tables : IsSubstitution substitutes)
    (group : String) : ∃ table, substitutesFor substitutes group = .ok table ∧
      ∀ workspace ownerGroup d, ∃ s, labelFor workspace table ownerGroup d = .ok (.str s) := by
  obtain ⟨groups, rfl, texts⟩ := tables
  simp only [substitutesFor, Json.field?, Json.findField, Except.map]
  cases found : groups.find? fun g => g.1 = group with
  | none =>
      exact ⟨.obj [], rfl, fun _ _ => labelFor_text fun f listed => absurd listed List.not_mem_nil⟩
  | some g =>
      obtain ⟨fields, same, each⟩ := texts g (List.mem_of_find?_eq_some found)
      exact ⟨.obj fields, by simp [same], fun _ _ => labelFor_text each⟩

end Labels

/-! ## Added entries -/

section Entries

variable {key option : String} {labels : Bool} {entries : List Json}

theorem entryProblems_eq_nil : ArtifactConfig.entryProblems key option labels entries = [] ↔
    ∀ v ∈ entries, (ArtifactConfig.isPairEntry v || (labels && ArtifactConfig.isLabelEntry v))
      = true := by
  simp only [ArtifactConfig.entryProblems, List.map_eq_nil_iff, List.filter_eq_nil_iff,
    Bool.not_eq_true', Bool.not_eq_false]

/-- An entry without a problem is a text, and a label or a pair. -/
theorem admitted_entry {v : Json}
    (admits : (ArtifactConfig.isPairEntry v || ArtifactConfig.isLabelEntry v) = true) :
    ∃ s, v = .str s ∧ (isLabel s = true ∨ isLabel s = false ∧
      ∃ d, Dependency.ofPair? s = some d) := by
  cases v with
  | str s =>
      refine ⟨s, rfl, ?_⟩
      cases label : isLabel s with
      | true => exact .inl rfl
      | false =>
          have pair : isPair s = true := by
            simpa [ArtifactConfig.isPairEntry, ArtifactConfig.isLabelEntry, Json.str?, label]
              using admits
          cases cut : Text.splitAt ':' s with
          | nil => simp [isPair, cut] at pair
          | cons g parts =>
              cases parts with
              | nil => simp [isPair, cut] at pair
              | cons a rest => exact .inr ⟨rfl, _, by rw [Dependency.ofPair?, cut]⟩
  | _ => simp [ArtifactConfig.isPairEntry, ArtifactConfig.isLabelEntry, Json.str?] at admits

theorem addedDependencies_admitted
    (admitted : ∀ v ∈ entries, (ArtifactConfig.isPairEntry v || ArtifactConfig.isLabelEntry v)
      = true) : addedDependencies entries = .ok (entries.filterMap includedPair?) := by
  induction entries with
  | nil => rfl
  | cons v vs ih =>
      obtain ⟨first, rest⟩ := List.forall_mem_cons.mp admitted
      obtain ⟨s, rfl, label | ⟨label, d, read⟩⟩ := admitted_entry first
      · have passed : includedPair? (.str s) = none := by simp [includedPair?, Json.str?, label]
        rw [List.filterMap_cons_none passed, ← ih rest]
        simp [addedDependencies, entryText, label, bind, Except.bind]
      · have taken : includedPair? (.str s) = some d := by
          simp [includedPair?, Json.str?, label, read]
        rw [List.filterMap_cons_some taken]
        simp [addedDependencies, entryText, label, pairDependency, read, ih rest, bind,
          Except.bind, pure, Except.pure]

theorem filter_isLabelEntry (entries : List Json) :
    entries.filter ArtifactConfig.isLabelEntry = (entries.filterMap includedLabel?).map .str := by
  induction entries with
  | nil => rfl
  | cons v vs ih =>
      cases label : includedLabel? v with
      | none =>
          have other : ArtifactConfig.isLabelEntry v = false := by
            cases v <;> simp_all [includedLabel?, ArtifactConfig.isLabelEntry, Json.str?]
          rw [List.filterMap_cons_none label, List.filter_cons_of_neg (by simp [other]), ih]
      | some s =>
          obtain ⟨text, isLabel⟩ := Option.filter_eq_some_iff.mp label
          obtain rfl : v = .str s := by cases v <;> simp_all [Json.str?]
          have here : ArtifactConfig.isLabelEntry (.str s) = true := by
            simpa [ArtifactConfig.isLabelEntry, Json.str?] using isLabel
          rw [List.filterMap_cons_some label, List.filter_cons_of_pos here, ih, List.map_cons]

theorem mem_includedLabels {s : String} :
    s ∈ entries.filterMap includedLabel? ↔ .str s ∈ entries ∧ isLabel s = true := by
  rw [List.mem_filterMap]
  constructor
  · rintro ⟨v, listed, label⟩
    obtain ⟨text, isLabel⟩ := Option.filter_eq_some_iff.mp label
    obtain rfl : v = .str s := by cases v <;> simp_all [Json.str?]
    exact ⟨listed, isLabel⟩
  · rintro ⟨listed, label⟩
    exact ⟨.str s, listed, by simp [includedLabel?, Json.str?, label]⟩

end Entries

/-! ## Repetitions -/

/-- Of equal texts the first is left. -/
theorem distinctFrom_texts (ss seen : List String) :
    Json.distinctFrom (seen.map .str) (ss.map .str)
      = ((ss.filter (· ∉ seen)).eraseDups).map .str := by
  induction ss generalizing seen with
  | nil => rfl
  | cons s ss ih =>
      have known : (seen.map Json.str).any (Json.sameEntry · (.str s)) = decide (s ∈ seen) := by
        rw [Bool.eq_iff_iff, List.any_eq_true, decide_eq_true_iff]
        constructor
        · rintro ⟨v, listed, same⟩
          rw [sameEntry_str same] at listed
          obtain ⟨s', among, equal⟩ := List.mem_map.mp listed
          cases equal
          exact among
        · exact fun listed => ⟨_, List.mem_map_of_mem listed, sameEntry_text s⟩
      rw [List.map_cons, Json.distinctFrom, known]
      by_cases old : s ∈ seen
      · rw [if_pos (by simpa using old), ih, List.filter_cons_of_neg (by simpa using old)]
      · have both : (ss.filter (· ∉ seen)).filter (fun t => !t == s)
            = ss.filter (· ∉ s :: seen) := by
          rw [List.filter_filter]
          apply List.filter_congr
          intro t _
          by_cases same : t = s <;> simp [same]
        rw [if_neg (by simpa using old), List.filter_cons_of_pos (by simpa using old),
          List.eraseDups_cons, both, List.map_cons]
        congr 1
        exact ih (s :: seen)

theorem distinctScalars_texts (ss : List String) :
    Json.distinctScalars (ss.map .str) = .ok (ss.eraseDups.map .str) := by
  have scalars : (ss.map Json.str).find? (fun v => !v.isScalar) = none := by
    rw [List.find?_eq_none]
    intro v listed
    obtain ⟨s, -, rfl⟩ := List.mem_map.mp listed
    simp [Json.isScalar]
  have all := distinctFrom_texts ss []
  rw [Json.distinctScalars, scalars]
  simpa [Json.distinct] using all

/-! ## The ledger -/

section Records

variable {config : ArtifactConfig} {a : ResolvedArtifact} {label : Dependency → String}

theorem find?_recordThese_other {records : List (String × String × Option String)} {slug : String}
    (apart : ∀ e ∈ records, e.1 ≠ slug) (l : Ledger) :
    (l.recordThese records).find? slug = l.find? slug := by
  induction records generalizing l with
  | nil => rfl
  | cons e records ih =>
      obtain ⟨first, rest⟩ := List.forall_mem_cons.mp apart
      rw [Ledger.recordThese, List.foldl_cons]
      refine (ih rest _).trans ?_
      rw [Ledger.find?_record, if_neg first]

/-- Where all labels are texts every dependency is recorded. -/
theorem recordAll_texts {workspace : String} {substitutes : Json} {owner : Coordinate}
    (texts : ∀ d, labelFor workspace substitutes owner.group d = .ok (.str (label d))) :
    ∀ (ds : List Dependency) (l : Ledger), recordAll workspace substitutes owner l ds
      = (.ok ((ds.map label).map .str), l.recordThese (ds.map (recordOf owner)))
  | [], _ => rfl
  | d :: ds, l => by
      rw [recordAll]
      dsimp only
      rw [texts d, recordAll_texts texts ds]
      rfl

/-- What is recorded is seen in the ledger, and the labels are the distinct ones. -/
theorem accounts_of_edges (config : ArtifactConfig) (a : ResolvedArtifact)
    (label : Dependency → String) (before : Ledger) :
    Accounts config a label before
      ((config.edges a).map label ++ config.included.filterMap includedLabel?).eraseDups
      (before.recordThese ((config.edges a).map (recordOf a.coordinate))) where
  recorded := rfl
  versions slug version := by
    rw [Ledger.versionsOf_recordThese]
    simp [recordOf]
  dependants slug owner := by
    rw [Ledger.dependantsOf_recordThese]
    simp [recordOf]
  others slug apart := by
    apply find?_recordThese_other
    intro e listed
    obtain ⟨d, among, rfl⟩ := List.mem_map.mp listed
    exact apart d among
  ordered := rfl
  once := eraseDups_nodup _
  listed s := by
    rw [List.mem_eraseDups, List.mem_append, List.mem_map, mem_includedLabels]

end Records

/-- A dependency is replaced by its successor. -/
theorem succeed_successor (d : Dependency) :
    succeed d = (successor? d.slug).elim d Dependency.ofSlug := by
  unfold succeed
  cases found : successor? d.slug with
  | none => rfl
  | some new =>
      obtain ⟨d', read, -⟩ := successor_pair found
      rw [Option.bind_some, read, Option.getD_some, Option.elim_some]
      unfold Dependency.ofPair? at read
      split at read
      · next parts =>
          cases read
          rw [Dependency.ofSlug, parts]
          rfl
      · cases read

/-- The dependencies that are kept are the edges, if all entries that are added are admitted. -/
theorem keptDependencies_edges {config : ArtifactConfig} {key : String}
    (valid : ArtifactConfig.entryProblems key "include" true config.included = [])
    (a : ResolvedArtifact) : keptDependencies config a = .ok (config.edges a) := by
  have admitted : ∀ v ∈ config.included,
      (ArtifactConfig.isPairEntry v || ArtifactConfig.isLabelEntry v) = true := by
    simpa using entryProblems_eq_nil.mp valid
  have survivors : a.dependencies.filter (isKept config a.packaging)
      = a.dependencies.filter fun d => d.Survives config a.packaging := by
    apply List.filter_congr
    intro d _
    rw [Bool.eq_iff_iff, isKept_iff_survives, decide_eq_true_iff]
  rw [keptDependencies, addedDependencies_admitted admitted, survivors, ArtifactConfig.edges,
    ← funext succeed_successor]
  rfl

/-- An artifact with neither a snippet nor a list has the labels of its edges and those that are
added, and its edges are recorded. -/
theorem prepareEdges_unlisted {workspace : String} {substitutes table : Json}
    {config : ArtifactConfig} {key : String} {a : ResolvedArtifact} {label : Dependency → String}
    (valid : ArtifactConfig.entryProblems key "include" true config.included = [])
    (found : substitutesFor substitutes a.coordinate.group = .ok table)
    (labelled : ∀ d, labelFor workspace table a.coordinate.group d = .ok (.str (label d)))
    (snippet : config.snippet.isNull = true) (unlisted : config.deps = []) (ledger : Ledger) :
    prepareEdges workspace substitutes config a ledger
      = (.ok (((config.edges a).map label
            ++ config.included.filterMap includedLabel?).eraseDups.map .str),
          ledger.recordThese ((config.edges a).map (recordOf a.coordinate))) := by
  rw [prepareEdges, snippet, found, unlisted]
  simp only [Bool.not_true, Bool.false_eq_true, if_false, List.isEmpty_nil]
  rw [keptDependencies_edges valid a]
  dsimp only
  rw [recordAll_texts labelled, filter_isLabelEntry]
  dsimp only
  rw [← List.map_append, distinctScalars_texts]
  rfl

/-- An artifact with neither a snippet nor a list, whose added entries are admitted and whose
substitutes are texts, has labels, and they and the ledger account for its edges, whatever the
ledger was.  With a snippet or a list the ledger stays as it was. -/
theorem prepareEdges_accounts (workspace : String) {substitutes : Json} {config : ArtifactConfig}
    {key : String} (tables : IsSubstitution substitutes)
    (valid : ArtifactConfig.entryProblems key "include" true config.included = [])
    (a : ResolvedArtifact) (ledger : Ledger) :
    (config.snippet.isNull = true → config.deps = [] →
      ∃ (table : Json) (label : Dependency → String) (labels : List String) (after : Ledger),
        substitutesFor substitutes a.coordinate.group = .ok table ∧
        (∀ d, labelFor workspace table a.coordinate.group d = .ok (.str (label d))) ∧
        prepareEdges workspace substitutes config a ledger = (.ok (labels.map .str), after) ∧
        Accounts config a label ledger labels after) ∧
    (config.snippet.isNull = false ∨ config.deps ≠ [] →
      (prepareEdges workspace substitutes config a ledger).2 = ledger) := by
  obtain ⟨table, found, texts⟩ := substitutesFor_table tables a.coordinate.group
  constructor
  · intro snippet unlisted
    choose label labelled using texts workspace a.coordinate.group
    exact ⟨table, label, _, _, found, labelled,
      prepareEdges_unlisted valid found labelled snippet unlisted ledger,
      accounts_of_edges config a label ledger⟩
  · rintro (snippet | listed)
    · rw [prepareEdges, snippet]
      rfl
    · have some : config.deps.isEmpty = false := by simpa using listed
      rw [prepareEdges, found, some]
      split <;> rfl

namespace Mixed

/-- A pair and a label are added. -/
def config : ArtifactConfig :=
  ⟨.null, true, .null, false, [], [], [.str "h:y", .str "//third:z"]⟩

def artifact : ResolvedArtifact :=
  ⟨⟨"g", "a", "1"⟩, "jar", [{ group := "h", artifact := "x", version := some "1" }]⟩

/-- A substitute for the dependency. -/
def substitutes : Json := .obj [("g", .obj [("@maven//h:x", .str "//third:x")])]

theorem tables : IsSubstitution substitutes :=
  ⟨_, rfl, List.forall_mem_singleton.mpr ⟨_, rfl, List.forall_mem_singleton.mpr ⟨_, rfl⟩⟩⟩

theorem valid :
    ArtifactConfig.entryProblems "g:a:1" "include" true config.included = [] := by
  decide

end Mixed

/-- The edges of an artifact with a dependency and a pair that is added, beside a label. -/
theorem mixed_accounts :
    (IsSubstitution Mixed.substitutes ∧
      ArtifactConfig.entryProblems "g:a:1" "include" true Mixed.config.included = []) ∧
    ∃ (table : Json) (label : Dependency → String) (labels : List String) (after : Ledger),
      substitutesFor Mixed.substitutes "g" = .ok table ∧
      (∀ d, labelFor "maven" table "g" d = .ok (.str (label d))) ∧
      prepareEdges "maven" Mixed.substitutes Mixed.config Mixed.artifact .empty
        = (.ok (labels.map .str), after) ∧
      Accounts Mixed.config Mixed.artifact label .empty labels after :=
  ⟨⟨Mixed.tables, Mixed.valid⟩,
    (prepareEdges_accounts "maven" Mixed.tables Mixed.valid Mixed.artifact .empty).1 rfl rfl⟩

end MavenImport
