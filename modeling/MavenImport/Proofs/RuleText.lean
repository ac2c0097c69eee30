/-
# Proofs.RuleText -- the rules that a text spells out

The declaration of an artifact is a template with places to fill in.  Here it is taken apart into
the rules that it consists of (`Resolution.rules`): each has a kind, a name and the values of
further fields, and its text stands after line feeds and at most a comment
(`generated_spells`).  So a build file spells out the rules of its declarations, in their order
(`content_spells`), and nothing else.
-/
import MavenImport.Proofs.ArtifactIsolation

namespace MavenImport

set_option autoImplicit false

/-! ## Rules -/

/-- A rule: its kind, its name, and its other fields with their values. -/
structure Rule where
  kind : String
  name : String
  fields : List (String × String)
deriving Repr, DecidableEq

namespace Rule

def quoted (s : String) : String := "\"" ++ s ++ "\""

/-- A list of labels as a value. -/
def labels (ls : List String) : String := "[" ++ labelLines ls ++ "]"

/-- A field that is there if it holds. -/
def marked (field : String) (holds : Bool) : List (String × String) :=
  if holds then [(field, "True")] else []

def line (field : String × String) : String := "\n    " ++ field.1 ++ " = " ++ field.2 ++ ","

def text (r : Rule) : String :=
  r.kind ++ "(" ++ String.join ((("name", quoted r.name) :: r.fields).map line) ++ "\n)"

end Rule

open Rule (quoted marked)

namespace Form

/-- The libraries that are bundled with an artifact. -/
def libraries : Form → List String
  | .android _ libraries => libraries
  | _ => []

end Form

/-- What tells a bundled library in the name of its rule: its file name, without `.jar`. -/
def bundledName (library : String) : String :=
  String.ofList (Text.removeAll ".jar".toList 0 (Places.fileName library).toList)

namespace Resolution

def target (r : Resolution) : String := targetName r.coordinate.artifact

/-- The label of the package of its fetched files. -/
def fetched (r : Resolution) : String := fetchPackage r.coordinate.group r.coordinate.artifact

/-- The rule for the classes of an Android library. -/
def classesRule (r : Resolution) (labels : List String) (jetify : Bool) : Rule where
  kind := "raw_jvm_import"
  name := r.target ++ "_classes"
  fields := ("jar", quoted r.fetched) :: marked "jetify" jetify ++ [("deps", Rule.labels labels)]

/-- The rule for a library that is bundled with it. -/
def bundledRule (r : Resolution) (jetify : Bool) (library : String) : Rule where
  kind := "raw_jvm_import"
  name := r.target ++ "_libs_" ++ bundledName library
  fields := ("jar", quoted (r.fetched ++ ":libs/" ++ Places.fileName library))
    :: marked "jetify" jetify

/-- What an Android library exports: its classes and the libraries bundled with it. -/
def exported (r : Resolution) (libraries : List String) : String :=
  "[\":" ++ r.target ++ "_classes\"] + "
    ++ Rule.labels (libraries.map fun l => ":" ++ (r.target ++ "_libs_" ++ bundledName l))

def androidRule (r : Resolution) (package : String) (libraries labels : List String) : Rule where
  kind := "android_library"
  name := r.target
  fields :=
    [("manifest", quoted (r.fetched ++ ":AndroidManifest.xml")),
      ("custom_package", quoted package), ("visibility", visibility),
      ("resource_files", "[" ++ quoted (r.fetched ++ ":resources") ++ "]"),
      ("assets", "[" ++ quoted (r.fetched ++ ":assets") ++ "]"), ("assets_dir", quoted "assets"),
      ("deps", r.exported libraries ++ " + " ++ Rule.labels labels)]
    ++ marked "testonly" r.config.testonly ++ [("exports", r.exported libraries)]

def libraryRule (r : Resolution) (labels : List String) (jetify : Bool) : Rule where
  kind := "raw_jvm_import"
  name := r.target
  fields := [("jar", quoted r.fetched), ("visibility", visibility)] ++ marked "jetify" jetify
    ++ ("deps", Rule.labels labels) :: marked "testonly" r.config.testonly

def fileRule (r : Resolution) (labels : List String) : Rule where
  kind := "filegroup"
  name := r.target
  fields := [("srcs", "[" ++ quoted r.fetched ++ "]"), ("visibility", visibility),
    ("data", Rule.labels labels)] ++ marked "testonly" r.config.testonly

/-- The rules that declare an artifact, in order. -/
def rules (r : Resolution) (labels : List String) (jetify : Bool) : List Rule := match r.form with
  | .library => [r.libraryRule labels jetify]
  | .android package libraries => r.classesRule labels jetify ::
      r.androidRule package libraries labels :: libraries.map (r.bundledRule jetify)
  | .file => [r.fileRule labels]

/-- The comments before them. -/
def comments (r : Resolution) : List String :=
  ["# " ++ r.coordinate.text ++ "\n", "# " ++ r.coordinate.text ++ " raw classes\n",
    "# " ++ r.coordinate.text ++ " library target\n"]

/-- The names of the rules, which depend on neither labels nor jetification. -/
def ruleNames (r : Resolution) : List String := match r.form with
  | .android _ libraries => (r.target ++ "_classes") :: r.target ::
      libraries.map fun l => r.target ++ "_libs_" ++ bundledName l
  | _ => [r.target]

end Resolution

/-- A declaration that was generated, for some labels. -/
def Declared.Generated (d : Declared) : Prop :=
  ∃ labels jetify, d.content = .str (d.resolution.generated labels jetify)

def lineFeeds (n : Nat) : String := String.ofList (List.replicate n '\n')

/-- A text spells out rules one after the other, each after line feeds and at most a comment. -/
inductive Spells (comments : List String) : String → List Rule → Prop
  | feeds (n : Nat) : Spells comments (lineFeeds n) []
  | rule {n : Nat} {comment : String} {rule : Rule} {text : String} {rules : List Rule}
      (among : comment = "" ∨ comment ∈ comments) (known : rule.kind ∈ ruleKinds)
      (later : Spells comments text rules) :
      Spells comments (lineFeeds n ++ comment ++ rule.text ++ text) (rule :: rules)

/-! ## Templates -/

section Templates

variable (r : Resolution) (labels : List String) (jetify : Bool)

theorem rules_names : (r.rules labels jetify).map Rule.name = r.ruleNames := by
  unfold Resolution.rules Resolution.ruleNames
  cases r.form with
  | library => rfl
  | android package libraries =>
      rw [List.map_cons, List.map_cons, List.map_map]
      rfl
  | file => rfl

theorem jetify_text :
    (r.places labels jetify).jetify = String.join ((marked "jetify" jetify).map Rule.line) := by
  cases jetify <;> rfl

theorem testonly_text : (r.places labels jetify).testonly
    = String.join ((marked "testonly" r.config.testonly).map Rule.line) := by
  unfold Resolution.places
  cases r.config.testonly <;> rfl

-- The templates and the rules are compared character by character: where one is cut into literals
-- says nothing about where the other is.

theorem library_text : (r.places labels jetify).library
    = "\n" ++ ("# " ++ r.coordinate.text ++ "\n") ++ (r.libraryRule labels jetify).text
      ++ "\n" := by
  apply String.toList_injective
  unfold Places.library Resolution.libraryRule Rule.text
  rw [jetify_text, testonly_text]
  simp only [Resolution.places, Resolution.target, Resolution.fetched, Rule.line, Rule.labels,
    quoted, String.join_cons, String.join_append, List.map_append, List.map_cons, List.cons_append,
    List.nil_append, List.append_assoc, String.toList_append, String.reduceToList]

theorem file_text : (r.places labels jetify).file
    = "\n" ++ ("# " ++ r.coordinate.text ++ "\n") ++ (r.fileRule labels).text ++ "\n" := by
  apply String.toList_injective
  unfold Places.file Resolution.fileRule Rule.text
  rw [testonly_text]
  simp only [Resolution.places, Resolution.target, Resolution.fetched, Rule.line, Rule.labels,
    quoted, String.join_cons, List.map_cons, List.cons_append, List.nil_append, List.append_assoc,
    String.toList_append, String.reduceToList]

theorem bundled_text (library : String) : (r.places labels jetify).bundledImport library
    = "\n" ++ (r.bundledRule jetify library).text := by
  apply String.toList_injective
  unfold Places.bundledImport Resolution.bundledRule Rule.text
  rw [jetify_text]
  simp only [Resolution.places, Resolution.target, Resolution.fetched, Places.bundledTarget,
    bundledName, Rule.line, quoted, String.join_cons, List.map_cons, List.cons_append,
    List.nil_append, List.append_assoc, String.toList_append, String.reduceToList]

set_option maxRecDepth 4000 in
theorem android_text (package : String) (libraries : List String) :
    (r.places labels jetify).android package libraries
      = "\n" ++ ("# " ++ r.coordinate.text ++ " raw classes\n")
        ++ (r.classesRule labels jetify).text
        ++ ("\n\n" ++ ("# " ++ r.coordinate.text ++ " library target\n")
        ++ (r.androidRule package libraries labels).text
        ++ ("\n" ++ Text.joinWith "\n" (libraries.map (r.places labels jetify).bundledImport)
        ++ "\n")) := by
  have bundled : (r.places labels jetify).bundledLines libraries
      = labelLines (libraries.map fun l => ":" ++ (r.target ++ "_libs_" ++ bundledName l)) := rfl
  apply String.toList_injective
  unfold Places.android Resolution.androidRule Resolution.classesRule Rule.text
  dsimp only
  rw [jetify_text, testonly_text, bundled]
  simp only [Resolution.places, Resolution.target, Resolution.fetched, Resolution.exported,
    Rule.line, Rule.labels, quoted, String.join_cons, String.join_append, String.join_nil,
    List.map_append, List.map_cons, List.map_nil, List.cons_append, List.nil_append,
    List.append_assoc, String.toList_append, String.reduceToList]

end Templates

/-! ## Spelling -/

section Spelling

variable {comments more : List String} {text text' : String} {rules rules' : List Rule}

theorem lineFeeds_append (m n : Nat) : lineFeeds m ++ lineFeeds n = lineFeeds (m + n) := by
  unfold lineFeeds
  rw [← String.ofList_append, List.replicate_append_replicate]

theorem spells_mono (within : ∀ c ∈ comments, c ∈ more) (spells : Spells comments text rules) :
    Spells more text rules := by
  induction spells with
  | feeds n => exact .feeds n
  | rule among known _ ih => exact .rule (among.imp_right (within _)) known ih

/-- Line feeds before a text do not matter. -/
theorem spells_feeds (n : Nat) (spells : Spells comments text rules) :
    Spells comments (lineFeeds n ++ text) rules := by
  cases spells with
  | feeds m =>
      rw [lineFeeds_append]
      exact .feeds _
  | rule among known later =>
      rw [← String.append_assoc, ← String.append_assoc, ← String.append_assoc, lineFeeds_append]
      exact .rule among known later

theorem spells_append (spells : Spells comments text rules)
    (spells' : Spells comments text' rules') : Spells comments (text ++ text') (rules ++ rules') := by
  induction spells with
  | feeds n => exact spells_feeds n spells'
  | rule among known _ ih =>
      rw [String.append_assoc, List.cons_append]
      exact .rule among known ih

/-- Texts on lines of their own. -/
theorem spells_lines (spells : Spells comments text rules)
    (spells' : Spells comments text' rules') :
    Spells comments (text ++ "\n" ++ text') (rules ++ rules') := by
  rw [String.append_assoc]
  exact spells_append spells (spells_feeds 1 spells')

/-- A rule alone, after a line feed. -/
theorem spells_rule {rule : Rule} (known : rule.kind ∈ ruleKinds) :
    Spells comments ("\n" ++ rule.text) [rule] := by
  have alone : Spells comments (lineFeeds 1 ++ "" ++ rule.text ++ lineFeeds 0) [rule] :=
    .rule (.inl rfl) known (.feeds 0)
  rwa [String.append_empty, show lineFeeds 0 = "" from rfl, String.append_empty] at alone

/-- Only the line feeds behind a rule are trimmed. -/
theorem rule_trimmed (rule : Rule) (front : String) (n : Nat) :
    trimmed (front ++ rule.text ++ lineFeeds n) = front ++ rule.text := by
  obtain ⟨before, closed⟩ : ∃ before, rule.text = before ++ ")" := by
    unfold Rule.text
    rw [show "\n)" = "\n" ++ ")" from rfl, ← String.append_assoc]
    exact ⟨_, rfl⟩
  have feeds : Text.trimEnd '\n' (lineFeeds n).toList = [] := by
    simp [Text.trimEnd, lineFeeds]
  apply String.toList_injective
  rw [trimmed, String.toList_ofList, String.toList_append, trimEnd_append, feeds, closed]
  simp [Text.trimEnd]

/-- The line feeds at the end of a text go, and its rules stay. -/
theorem spells_trimmed (spells : Spells comments text rules) (some : rules ≠ []) (front : String) :
    ∃ text', trimmed (front ++ text) = front ++ text' ∧ Spells comments text' rules := by
  induction spells generalizing front with
  | feeds n => exact absurd rfl some
  | @rule n comment rule text rules among known later ih =>
      have split : ∀ rest, front ++ (lineFeeds n ++ comment ++ rule.text ++ rest)
          = front ++ (lineFeeds n ++ comment ++ rule.text) ++ rest :=
        fun rest => (String.append_assoc ..).symm
      cases later with
      | feeds m =>
          refine ⟨lineFeeds n ++ comment ++ rule.text ++ lineFeeds 0, ?_,
            .rule among known (.feeds 0)⟩
          rw [split, split, ← String.append_assoc, rule_trimmed]
          exact String.append_empty.symm
      | rule among' known' later' =>
          obtain ⟨text', same, spells⟩ :=
            ih (by simp) (front ++ (lineFeeds n ++ comment ++ rule.text))
          exact ⟨lineFeeds n ++ comment ++ rule.text ++ text', by rw [split, split, same],
            .rule among known spells⟩

end Spelling

/-! ## Declarations -/

section Declarations

variable (r : Resolution) (labels : List String) (jetify : Bool)

theorem import_known : "raw_jvm_import" ∈ ruleKinds := by decide

theorem bundled_spells (comments : List String) :
    ∀ libraries : List String, Spells comments
      (Text.joinWith "\n" (libraries.map (r.places labels jetify).bundledImport))
      (libraries.map (r.bundledRule jetify))
  | [] => .feeds 0
  | [l] => by
      rw [List.map_singleton, List.map_singleton, Text.joinWith, bundled_text]
      exact spells_rule import_known
  | l :: l' :: ls => by
      have later := bundled_spells comments (l' :: ls)
      rw [List.map_cons] at later
      rw [List.map_cons, List.map_cons, Text.joinWith, bundled_text]
      exact spells_lines (spells_rule import_known) later

/-- A generated declaration spells out its rules. -/
theorem generated_spells :
    Spells r.comments (r.generated labels jetify) (r.rules labels jetify) := by
  unfold Resolution.generated Resolution.rules
  cases r.form with
  | library =>
      dsimp only
      rw [library_text]
      exact .rule (n := 1) (.inr List.mem_cons_self) import_known (.feeds 1)
  | android package libraries =>
      dsimp only
      rw [android_text]
      have known : "android_library" ∈ ruleKinds := by decide
      refine .rule (n := 1) (.inr (by simp [Resolution.comments])) import_known
        (.rule (n := 2) (.inr (by simp [Resolution.comments])) known ?_)
      rw [String.append_assoc]
      have all := spells_feeds 1
        (spells_append (bundled_spells r labels jetify r.comments libraries) (.feeds 1))
      rwa [List.append_nil] at all
  | file =>
      dsimp only
      rw [file_text]
      have known : "filegroup" ∈ ruleKinds := by decide
      exact .rule (n := 1) (.inr List.mem_cons_self) known (.feeds 1)

end Declarations

/-! ## Files -/

/-- Generated declarations, one after the other, spell out their rules. -/
theorem declarations_spell :
    ∀ {ds : List Declared}, (∀ d ∈ ds, d.Generated) →
      ∃ texts rules, ds.map Declared.content = texts.map .str ∧
        Spells (ds.flatMap fun d => d.resolution.comments) (Text.joinWith "\n" texts) rules ∧
        rules.map Rule.name = ds.flatMap fun d => d.resolution.ruleNames
  | [], _ => ⟨[], [], rfl, .feeds 0, rfl⟩
  | [d], generated => by
      obtain ⟨labels, jetify, content⟩ := generated d List.mem_cons_self
      refine ⟨[_], d.resolution.rules labels jetify, by rw [List.map_singleton, content]; rfl,
        ?_, ?_⟩
      · rw [List.flatMap_singleton]
        exact generated_spells d.resolution labels jetify
      · rw [List.flatMap_singleton]
        exact rules_names d.resolution labels jetify
  | d :: d' :: ds, generated => by
      obtain ⟨labels, jetify, content⟩ := generated d List.mem_cons_self
      obtain ⟨texts, rules, contents, spells, names⟩ :=
        declarations_spell fun d'' later => generated d'' (List.mem_cons_of_mem d later)
      refine ⟨_ :: texts, d.resolution.rules labels jetify ++ rules,
        by rw [List.map_cons, content, contents]; rfl, ?_, ?_⟩
      · rw [List.flatMap_cons]
        cases texts with
        | nil => cases contents
        | cons text texts =>
            exact spells_lines
              (spells_mono (fun _ => List.mem_append_left _)
                (generated_spells d.resolution labels jetify))
              (spells_mono (fun _ => List.mem_append_right _) spells)
      · rw [List.map_append, rules_names, names]
        rfl

/-- What stands before the declarations of a build file. -/
def BuildFile.front (android : Bool) (rulesLabel : String) : String :=
  header ++ (if android then androidLoad else "") ++ importLoad rulesLabel

theorem target_named (r : Resolution) : r.target ∈ r.ruleNames := by
  unfold Resolution.ruleNames
  split
  · exact List.mem_cons_of_mem _ List.mem_cons_self
  · exact List.mem_cons_self

/-- A build file of generated declarations spells out their rules, in the order of coordinates. -/
theorem content_spells {ds : List Declared} {rulesLabel text : String} (some : ds ≠ [])
    (generated : ∀ d ∈ ds, d.Generated) (made : BuildFile.content ds rulesLabel = .ok text) :
    ∃ android body rules, text = BuildFile.front android rulesLabel ++ body ∧
      Spells ((BuildFile.ordered ds).flatMap fun d => d.resolution.comments) body rules ∧
      rules.map Rule.name = (BuildFile.ordered ds).flatMap fun d => d.resolution.ruleNames := by
  have sorted : ∀ d, d ∈ BuildFile.ordered ds ↔ d ∈ ds := fun d =>
    (List.mergeSort_perm ds _).mem_iff
  have generated' : ∀ d ∈ BuildFile.ordered ds, d.Generated :=
    fun d listed => generated d ((sorted d).mp listed)
  obtain ⟨texts, rules, contents, spells, names⟩ := declarations_spell generated'
  have ruled : rules ≠ [] := by
    obtain ⟨d, listed⟩ := List.exists_mem_of_ne_nil ds some
    have named : d.resolution.target ∈ rules.map Rule.name := by
      rw [names]
      exact List.mem_flatMap.mpr ⟨d, (sorted d).mpr listed, target_named d.resolution⟩
    rintro rfl
    exact absurd named List.not_mem_nil
  let android := (BuildFile.ordered ds).any fun d => d.resolution.form.isAndroid
  obtain ⟨body, same, spells'⟩ :=
    spells_trimmed spells ruled (BuildFile.front android rulesLabel)
  unfold BuildFile.content at made
  dsimp only at made
  rw [contents, joinTexts_str] at made
  have whole : text = trimmed (BuildFile.front android rulesLabel ++ Text.joinWith "\n" texts)
      ++ "\n" := by
    rw [← endLine_eq]
    exact (Except.ok.inj made).symm
  refine ⟨android, body ++ lineFeeds 1, rules, by rw [whole, same, String.append_assoc]; rfl,
    ?_, names⟩
  have all := spells_append spells' (.feeds 1)
  rwa [List.append_nil] at all

end MavenImport
