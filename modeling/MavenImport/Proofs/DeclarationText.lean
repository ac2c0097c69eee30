/-
# Proofs.DeclarationText -- what stands in the text of a declaration

Whatever form an artifact has, its generated declaration holds a rule under the name of its
target and lists the labels that it was made of (`generated_holds`).  The file of a group holds
each of its declarations (`content_occurs`), but for line feeds at the end.
-/
import MavenImport.Bazel.BuildFile

namespace MavenImport

set_option autoImplicit false

/-! ## Parts of texts -/

/-- A text stands somewhere in another one. -/
def Occurs (part whole : String) : Prop := ∃ before after, whole = before ++ part ++ after

section Occurs

variable {part whole : String}

theorem occurs_self (s : String) : Occurs s s := ⟨"", "", by simp⟩

theorem occurs_append_left (occurs : Occurs part whole) (more : String) :
    Occurs part (whole ++ more) := by
  obtain ⟨before, after, rfl⟩ := occurs
  exact ⟨before, after ++ more, by simp only [String.append_assoc]⟩

theorem occurs_append_right (occurs : Occurs part whole) (more : String) :
    Occurs part (more ++ whole) := by
  obtain ⟨before, after, rfl⟩ := occurs
  exact ⟨more ++ before, after, by simp only [String.append_assoc]⟩

theorem occurs_joinWith (separator : String) :
    ∀ {texts : List String}, part ∈ texts → Occurs part (Text.joinWith separator texts)
  | [s], listed => by
      obtain rfl := List.mem_singleton.mp listed
      exact occurs_self _
  | s :: t :: texts, listed => by
      unfold Text.joinWith
      rcases List.mem_cons.mp listed with rfl | later
      · exact occurs_append_left (occurs_append_left (occurs_self part) _) _
      · exact occurs_append_right (occurs_joinWith separator later) _

end Occurs

/-! ## Line feeds at the end -/

/-- A text without the line feeds at its end. -/
def trimmed (s : String) : String := String.ofList (Text.trimEnd '\n' s.toList)

theorem endLine_eq (s : String) : BuildFile.endLine s = trimmed s ++ "\n" := by
  unfold BuildFile.endLine trimmed
  rw [String.ofList_append]

theorem trimEnd_initial (c : Char) (cs : List Char) : Text.trimEnd c cs <+: cs := by
  have suffix := List.dropWhile_suffix (l := cs.reverse) (· == c)
  have reversed := List.reverse_prefix.mpr suffix
  rwa [List.reverse_reverse] at reversed

theorem trimEnd_append (c : Char) (cs ds : List Char) :
    Text.trimEnd c (cs ++ ds)
      = if (Text.trimEnd c ds).isEmpty then Text.trimEnd c cs else cs ++ Text.trimEnd c ds := by
  unfold Text.trimEnd
  rw [List.reverse_append, List.dropWhile_append, List.isEmpty_reverse]
  split
  · rfl
  · rw [List.reverse_append, List.reverse_reverse]

theorem trimEnd_infix {c : Char} {part whole : List Char} (within : part <:+: whole) :
    Text.trimEnd c part <:+: Text.trimEnd c whole := by
  obtain ⟨before, after, rfl⟩ := within
  rw [trimEnd_append]
  split
  · rw [trimEnd_append]
    split
    · next none =>
        rw [List.isEmpty_iff.mp none]
        exact List.nil_infix
    · exact (List.suffix_append before _).isInfix
  · exact ((trimEnd_initial c part).isInfix.trans (List.suffix_append before part).isInfix).trans
      (List.prefix_append _ _).isInfix

/-- Trimming the whole takes no more from a part than trimming the part. -/
theorem occurs_trimmed {part whole : String} (occurs : Occurs part whole) :
    Occurs (trimmed part) (trimmed whole) := by
  obtain ⟨before, after, rfl⟩ := occurs
  obtain ⟨before', after', same⟩ : Text.trimEnd '\n' part.toList
      <:+: Text.trimEnd '\n' (before ++ part ++ after).toList := by
    refine trimEnd_infix ?_
    rw [String.toList_append, String.toList_append]
    exact List.infix_append _ _ _
  refine ⟨String.ofList before', String.ofList after', ?_⟩
  unfold trimmed
  rw [← same, String.ofList_append, String.ofList_append]

/-! ## Rules -/

/-- The kinds of rules that stand for an artifact. -/
def ruleKinds : List String := ["raw_jvm_import", "android_library", "filegroup"]

/-- The beginning of a rule of some kind with a name. -/
def ruleOpening (kind target : String) : String := kind ++ "(\n    name = \"" ++ target ++ "\","

/-- The fields of a rule that list what an artifact depends on. -/
def edgeFields : List String := ["deps", "data"]

/-- A list of labels as the value of a field. -/
def labelList (field : String) (labels : List String) : String :=
  field ++ " = [" ++ labelLines labels ++ "]"

/-- What stands between two fixed texts, together with an end of the first and a beginning of the
second one. -/
theorem occurs_hole {start mid stop opening closing : String} (front before after : String)
    (opens : opening = before ++ start) (closes : closing = stop ++ after) :
    Occurs (start ++ mid ++ stop) (front ++ opening ++ mid ++ closing) :=
  ⟨front ++ before, after, by rw [opens, closes]; simp only [String.append_assoc]⟩

section Rules

variable (p : Places)

theorem library_rule : Occurs (ruleOpening "raw_jvm_import" p.target) p.library := by
  unfold Places.library ruleOpening
  repeat
    first
    | with_reducible refine occurs_hole _ "\n" "\n    jar = \"" ?_ ?_ <;> decide
    | with_reducible refine occurs_append_left ?_ _

theorem file_rule : Occurs (ruleOpening "filegroup" p.target) p.file := by
  unfold Places.file ruleOpening
  repeat
    first
    | with_reducible refine occurs_hole _ "\n" "\n    srcs = [\"" ?_ ?_ <;> decide
    | with_reducible refine occurs_append_left ?_ _

theorem android_rule (package : String) (libraries : List String) :
    Occurs (ruleOpening "android_library" p.target) (p.android package libraries) := by
  unfold Places.android ruleOpening
  dsimp only
  repeat
    first
    | with_reducible refine occurs_hole _ " library target\n" "\n    manifest = \"" ?_ ?_ <;> decide
    | with_reducible refine occurs_append_left ?_ _

theorem library_deps : Occurs ("deps" ++ " = [" ++ p.deps ++ "]") p.library := by
  unfold Places.library
  repeat
    first
    | with_reducible refine occurs_hole _ "\n    " "," ?_ ?_ <;> decide
    | with_reducible refine occurs_append_left ?_ _

theorem file_deps : Occurs ("data" ++ " = [" ++ p.deps ++ "]") p.file := by
  unfold Places.file
  repeat
    first
    | with_reducible refine occurs_hole _ ",\n    " "," ?_ ?_ <;> decide
    | with_reducible refine occurs_append_left ?_ _

theorem android_deps (package : String) (libraries : List String) :
    Occurs ("deps" ++ " = [" ++ p.deps ++ "]") (p.android package libraries) := by
  unfold Places.android
  dsimp only
  repeat
    first
    | with_reducible refine occurs_hole _ "\n    " ",\n)\n\n# " ?_ ?_ <;> decide
    | with_reducible refine occurs_append_left ?_ _

end Rules

/-- A generated declaration holds a rule with the name of the target, and the list of its
labels. -/
theorem generated_holds (r : Resolution) (labels : List String) (jetify : Bool) :
    (∃ kind ∈ ruleKinds,
        Occurs (ruleOpening kind (targetName r.coordinate.artifact)) (r.generated labels jetify)) ∧
      ∃ field ∈ edgeFields, Occurs (labelList field labels) (r.generated labels jetify) := by
  unfold Resolution.generated
  cases r.form with
  | library =>
      exact ⟨⟨"raw_jvm_import", by decide, library_rule (r.places labels jetify)⟩,
        "deps", by decide, library_deps (r.places labels jetify)⟩
  | android package libraries =>
      exact ⟨⟨"android_library", by decide,
          android_rule (r.places labels jetify) package libraries⟩,
        "deps", by decide, android_deps (r.places labels jetify) package libraries⟩
  | file =>
      exact ⟨⟨"filegroup", by decide, file_rule (r.places labels jetify)⟩,
        "data", by decide, file_deps (r.places labels jetify)⟩

/-! ## Texts that are joined -/

theorem joinTexts_str (separator : String) (texts : List String) :
    Json.joinTexts separator (texts.map .str) = .ok (Text.joinWith separator texts) := by
  have all : ((List.range (texts.map Json.str).length).zip (texts.map Json.str)).find?
      (fun e => e.2.str?.isNone) = none := by
    rw [List.find?_eq_none]
    rintro ⟨i, v⟩ listed
    obtain ⟨s, -, rfl⟩ := List.mem_map.mp (List.of_mem_zip listed).2
    exact Bool.false_ne_true
  have read : ∀ ts : List String, (ts.map Json.str).filterMap Json.str? = ts := by
    intro ts
    rw [List.filterMap_map]
    exact List.filterMap_some
  unfold Json.joinTexts
  rw [all]
  dsimp only
  rw [read]

theorem eq_map_str {values : List Json} (texts : ∀ v ∈ values, ∃ text, v = .str text) :
    ∃ strings : List String, values = strings.map .str := by
  induction values with
  | nil => exact ⟨[], rfl⟩
  | cons v values ih =>
      obtain ⟨text, rfl⟩ := texts v List.mem_cons_self
      obtain ⟨more, rfl⟩ := ih fun v later => texts v (List.mem_cons_of_mem _ later)
      exact ⟨text :: more, rfl⟩

theorem texts_joined {separator : String} {values : List Json}
    (texts : ∀ v ∈ values, ∃ text, v = .str text) :
    ∃ text, Json.joinTexts separator values = .ok text := by
  obtain ⟨strings, rfl⟩ := eq_map_str texts
  exact ⟨_, joinTexts_str separator strings⟩

theorem joinTexts_ok {separator text : String} {vs : List Json}
    (joined : Json.joinTexts separator vs = .ok text) :
    ∀ v ∈ vs, ∃ s, v = .str s ∧ Occurs s text := by
  intro v listed
  unfold Json.joinTexts at joined
  split at joined
  · cases joined
  · next none =>
      cases joined
      obtain ⟨i, less, rfl⟩ := List.mem_iff_getElem.mp listed
      have listed' : (i, vs[i]) ∈ (List.range vs.length).zip vs :=
        List.mem_iff_getElem.mpr ⟨i, by simpa using less, by simp⟩
      have isText := List.find?_eq_none.mp none _ listed'
      cases value : vs[i] with
      | str s =>
          refine ⟨s, rfl, occurs_joinWith separator ?_⟩
          exact List.mem_filterMap.mpr ⟨vs[i], List.getElem_mem less, by rw [value]; rfl⟩
      | _ => simp [value, Json.str?] at isText

/-! ## Files -/

/-- The file of a group holds each of its declarations. -/
theorem content_occurs {declared : List Declared} {rulesLabel text : String}
    (made : BuildFile.content declared rulesLabel = .ok text) :
    ∀ d ∈ declared, ∃ s, d.content = .str s ∧ Occurs (trimmed s) text := by
  intro d listed
  unfold BuildFile.content at made
  dsimp only at made
  cases joined : Json.joinTexts "\n" ((BuildFile.ordered declared).map Declared.content) with
  | error f => rw [joined] at made; cases made
  | ok body =>
      rw [joined] at made
      have member : d ∈ BuildFile.ordered declared :=
        (List.mergeSort_perm declared _).mem_iff.mpr listed
      obtain ⟨s, content, occurs⟩ := joinTexts_ok joined d.content (List.mem_map_of_mem member)
      refine ⟨s, content, ?_⟩
      obtain rfl := Except.ok.inj made
      rw [endLine_eq]
      exact occurs_append_left (occurs_trimmed (occurs_append_right occurs _)) _

end MavenImport
