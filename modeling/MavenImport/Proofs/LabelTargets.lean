/-
# Proofs.LabelTargets -- the target that a label stands for

A label is fully qualified, or it stands for a target of the package that it is read in
(`readTarget?`).  The label of a dependency is made from the fully qualified one, or from what a
table has in its place (`standIn`), and may be shortened.  It names the same target in all cases
but one: a substitute for a dependency of the owner's group loses the text of the group's package
wherever it begins with it, and so also where its package only begins alike
(`sub_package_mislabelled`).  The label is right exactly if what is left begins with the colon
(`labelFor_names`).
-/
import Mathlib.Tactic.ByContra
import MavenImport.Proofs.LabelReading

namespace MavenImport

set_option autoImplicit false

/-! ## Reading -/

/-- A target of a package in a repository. -/
structure Target where
  repository : String
  package : String
  name : String
deriving Repr, DecidableEq

/-- The target that is meant by what follows the repository in a label.  Without a colon it is the
one named like the last segment of the package. -/
def Target.within (repository : String) (rest : List Char) : Target :=
  match Text.cut? ':' rest with
  | some (package, name) => ⟨repository, String.ofList package, String.ofList name⟩
  | none => ⟨repository, String.ofList rest, lastSegment (String.ofList rest)⟩

/-- The target that a label means in a package of a repository. -/
def readTarget? (repository package label : String) : Option Target :=
  match label.toList with
  | ':' :: name => some ⟨repository, package, String.ofList name⟩
  | '@' :: rest => match Text.cut? '/' rest with
    | some (other, '/' :: rest) => some (.within (String.ofList other) rest)
    | _ => none
  | _ => none

/-- A label with a repository; two slashes stand only behind that. -/
def IsQualified (label : String) : Prop :=
  ∃ repository rest : String, '/' ∉ repository.toList ∧ ¬ ['/', '/'] <:+: rest.toList ∧
    label = "@" ++ repository ++ "//" ++ rest

/-- The label that a table has in place of another one, which is that one itself if it has none. -/
def standIn (fields : List (String × Json)) (label : String) : String :=
  ((Json.findField label fields).bind Json.str?).getD label

section Reading

variable {repository package : String}

theorem read_own (name : String) :
    readTarget? repository package (":" ++ name) = some ⟨repository, package, name⟩ := by
  simp [readTarget?]

theorem read_qualified {other : String} (rest : String) (plain : '/' ∉ other.toList) :
    readTarget? repository package ("@" ++ other ++ "//" ++ rest)
      = some (.within other rest.toList) := by
  have cut := Text.cut?_append ('/' :: rest.toList) plain
  simp [readTarget?, cut]

theorem within_target {p : String} (name : String) (plain : ':' ∉ p.toList) :
    Target.within repository (p.toList ++ ':' :: name.toList) = ⟨repository, p, name⟩ := by
  simp [Target.within, Text.cut?_append name.toList plain]

theorem within_package {p : String} (plain : ':' ∉ p.toList) :
    Target.within repository p.toList = ⟨repository, p, lastSegment p⟩ := by
  simp [Target.within, Text.cut?_none plain]

/-- What neither begins with a colon nor holds two slashes is no label. -/
theorem read_remainder {rest : String} (colon : rest.toList.head? ≠ some ':')
    (slashes : ¬ ['/', '/'] <:+: rest.toList) : readTarget? repository package rest = none := by
  simp only [readTarget?]
  split
  · next name shape => simp [shape] at colon
  · next others shape =>
      split
      · next other after found =>
          obtain ⟨before, same⟩ : ∃ before, others = before ++ '/' :: '/' :: after :=
            ⟨other, Text.cut?_eq_some found⟩
          exact absurd ⟨'@' :: before, after, by simp [shape, same]⟩ slashes
      · rfl
  · rfl

end Reading

/-! ## Writing -/

section Writing

variable {workspace ownerGroup : String} {fields : List (String × Json)} {d : Dependency}

/-- A table of fully qualified labels has a text for every label. -/
theorem standIn_found
    (qualified : ∀ f ∈ fields, ∃ s, f.2 = .str s ∧ IsQualified s) (label : String) :
    (Json.findField label fields).getD (.str label) = .str (standIn fields label) ∧
      (standIn fields label = label ∨ IsQualified (standIn fields label)) := by
  cases found : fields.find? fun f => f.1 = label with
  | none => simp [standIn, Json.findField, found]
  | some f =>
      obtain ⟨s, value, isQualified⟩ := qualified f (List.mem_of_find?_eq_some found)
      simp [standIn, Json.findField, found, value, Json.str?, isQualified]

/-- Within the group a label loses the package that it begins with. -/
theorem labelFor_own (same : ownerGroup = d.group) {s : String}
    (found : (Json.findField (targetLabel workspace d.group d.artifact) fields).getD
      (.str (targetLabel workspace d.group d.artifact)) = .str s) :
    labelFor workspace (.obj fields) ownerGroup d
      = .ok (.str (match Text.afterStart? (packageLabel workspace d.group).toList s.toList with
          | some rest => String.ofList rest
          | none => s)) := by
  simp only [labelFor, Json.field?, bind, Except.bind, found, if_pos same]
  cases Text.afterStart? (packageLabel workspace d.group).toList s.toList <;> rfl

/-- In another group a label stays as it is, or the target is left out. -/
theorem labelFor_other (other : ownerGroup ≠ d.group) {s : String}
    (found : (Json.findField (targetLabel workspace d.group d.artifact) fields).getD
      (.str (targetLabel workspace d.group d.artifact)) = .str s) :
    labelFor workspace (.obj fields) ownerGroup d = .ok (.str s) ∨
      s = targetLabel workspace d.group d.artifact ∧
      lastSegment (groupPath d.group) = targetName d.artifact ∧
      labelFor workspace (.obj fields) ownerGroup d = .ok (.str (packageLabel workspace d.group)) := by
  have entries : Json.sameEntry (.str s) (.str (targetLabel workspace d.group d.artifact))
      = (s == targetLabel workspace d.group d.artifact) := by
    simp [Json.sameEntry, Json.number?]
  simp only [labelFor, Json.field?, bind, Except.bind, found, if_neg other, entries,
    lastSegment_packageLabel]
  by_cases changed : s = targetLabel workspace d.group d.artifact
  · by_cases leaf : lastSegment (groupPath d.group) = targetName d.artifact
    · right
      simp [changed, leaf, pure, Except.pure]
    · left
      simp [changed, leaf, pure, Except.pure]
  · left
    simp [changed, pure, Except.pure]

end Writing

/-! ## What a label names -/

section Names

variable {repository package workspace group : String}

theorem read_packageLabel (workspaces : '/' ∉ workspace.toList) (groups : ':' ∉ group.toList) :
    readTarget? repository package (packageLabel workspace group)
      = some ⟨workspace, groupPath group, lastSegment (groupPath group)⟩ := by
  rw [packageLabel, read_qualified (groupPath group) workspaces,
    within_package (groupPath_plain groups)]

/-- The package of a group with a target behind it. -/
theorem read_packaged (workspaces : '/' ∉ workspace.toList) (groups : ':' ∉ group.toList)
    (name : String) :
    readTarget? repository package (packageLabel workspace group ++ ":" ++ name)
      = some ⟨workspace, groupPath group, name⟩ := by
  have whole : packageLabel workspace group ++ ":" ++ name
      = "@" ++ workspace ++ "//" ++ (groupPath group ++ ":" ++ name) := by
    simp [packageLabel, String.append_assoc]
  rw [whole, read_qualified _ workspaces]
  simpa using within_target name (groupPath_plain groups)

/-- What is left of a qualified label after a package of its repository has no two slashes. -/
theorem remainder_slashes {s : String} {rest : List Char} (workspaces : '/' ∉ workspace.toList)
    (qualified : IsQualified s)
    (begins : s.toList = (packageLabel workspace group).toList ++ rest) :
    ¬ ['/', '/'] <:+: rest := by
  obtain ⟨other, after, plain, once, rfl⟩ := qualified
  have lists : other.toList ++ '/' :: ('/' :: after.toList)
      = workspace.toList ++ '/' :: ('/' :: ((groupPath group).toList ++ rest)) := by
    simpa [packageLabel] using begins
  obtain ⟨-, behind⟩ := Text.append_separator_inj plain workspaces lists
  rw [List.cons.injEq] at behind
  intro twice
  apply once
  rw [behind.2]
  exact twice.trans (List.suffix_append _ _).isInfix

/-- A label from which the package was taken names its target exactly if the target is what is
left of it. -/
theorem shortened_names {artifact s rest : String} {t : Target}
    (workspaces : '/' ∉ workspace.toList) (groups : ':' ∉ group.toList)
    (origin : s = targetLabel workspace group artifact ∨ IsQualified s)
    (whole : s = packageLabel workspace group ++ rest)
    (reads : readTarget? workspace (groupPath group) s = some t) :
    readTarget? workspace (groupPath group) rest = some t ↔ rest.toList.head? = some ':' := by
  constructor
  · intro shortened
    by_contra colon
    have qualified : IsQualified s := by
      refine origin.resolve_left fun isLabel => colon ?_
      have behind : ":" ++ targetName artifact = rest := by
        rw [isLabel, targetLabel, String.append_assoc, String.append_right_inj] at whole
        exact whole
      simp [← behind]
    have begins : s.toList = (packageLabel workspace group).toList ++ rest.toList := by
      simp [whole]
    have slashes := remainder_slashes workspaces qualified begins
    rw [read_remainder colon slashes] at shortened
    cases shortened
  · intro colon
    obtain ⟨name, rfl⟩ : ∃ name, rest = ":" ++ name := by
      obtain ⟨tail, cut⟩ := List.head?_eq_some_iff.mp colon
      exact ⟨String.ofList tail, String.toList_injective (by simp [cut])⟩
    rw [whole, ← String.append_assoc, read_packaged workspaces groups] at reads
    rw [read_own, ← reads]

end Names

/-- The label of a dependency names the target that the table gives for it, or its own target,
exactly if nothing but a target is left of a label that loses the package of the group. -/
theorem labelFor_names {workspace ownerGroup : String} {fields : List (String × Json)}
    {d : Dependency} (repository : '/' ∉ workspace.toList) (plain : ':' ∉ d.group.toList)
    (qualified : ∀ f ∈ fields, ∃ s, f.2 = .str s ∧ IsQualified s) :
    ∃ l t, labelFor workspace (.obj fields) ownerGroup d = .ok (.str l) ∧
      readTarget? workspace (groupPath ownerGroup)
        (standIn fields (targetLabel workspace d.group d.artifact)) = some t ∧
      (readTarget? workspace (groupPath ownerGroup) l = some t ↔
        (ownerGroup = d.group → ∀ rest,
          standIn fields (targetLabel workspace d.group d.artifact)
            = packageLabel workspace d.group ++ rest → rest.toList.head? = some ':')) := by
  obtain ⟨found, origin⟩ :=
    standIn_found qualified (targetLabel workspace d.group d.artifact)
  generalize standIn fields (targetLabel workspace d.group d.artifact) = s at found origin ⊢
  have own : readTarget? workspace (groupPath ownerGroup)
      (targetLabel workspace d.group d.artifact)
        = some ⟨workspace, groupPath d.group, targetName d.artifact⟩ :=
    read_packaged repository plain (targetName d.artifact)
  obtain ⟨t, reads⟩ : ∃ t, readTarget? workspace (groupPath ownerGroup) s = some t := by
    rcases origin with rfl | ⟨other, rest, plain', -, rfl⟩
    · exact ⟨_, own⟩
    · exact ⟨_, read_qualified rest plain'⟩
  by_cases same : ownerGroup = d.group
  · have label := labelFor_own same found
    cases begins : Text.afterStart? (packageLabel workspace d.group).toList s.toList with
    | none =>
        rw [begins] at label
        refine ⟨s, t, label, reads, ?_⟩
        simp only [reads, true_iff]
        intro _ rest whole
        have start := (Text.afterStart?_eq_some_iff (packageLabel workspace d.group).toList s.toList
          rest.toList).mpr (by simp [whole])
        rw [start] at begins
        cases begins
    | some rest =>
        rw [begins] at label
        have whole : s = packageLabel workspace d.group ++ String.ofList rest :=
          String.toList_injective (by simp [(Text.afterStart?_eq_some_iff _ _ _).mp begins])
        refine ⟨String.ofList rest, t, label, reads, ?_⟩
        rw [same] at reads ⊢
        rw [shortened_names repository plain origin whole reads]
        constructor
        · intro colon _ rest' whole'
          rw [whole, String.append_right_inj] at whole'
          rwa [← whole']
        · intro always
          exact always rfl _ whole
  · -- in another group the condition says nothing, and the label is right
    have unbound : ∀ P : Prop, (ownerGroup = d.group → P) ↔ True :=
      fun P => iff_true_intro fun equal => absurd equal same
    simp only [unbound, iff_true]
    rcases labelFor_other same found with label | ⟨rfl, leaf, label⟩
    · exact ⟨s, t, label, reads, reads⟩
    · refine ⟨_, t, label, reads, ?_⟩
      rw [read_packageLabel repository plain, leaf, ← reads]
      exact own.symm

/-- A substitute in the group's own package is named by its target alone. -/
theorem renamed_names : ∃ l t,
    labelFor "maven" (.obj [("@maven//g:b", .str "@maven//g:c")]) "g"
      { group := "g", artifact := "b" } = .ok (.str l) ∧
    readTarget? "maven" "g" "@maven//g:c" = some t ∧ readTarget? "maven" "g" l = some t := by
  have qualified : ∀ f ∈ [("@maven//g:b", Json.str "@maven//g:c")],
      ∃ s, f.2 = .str s ∧ IsQualified s := by
    intro f listed
    rw [List.mem_singleton] at listed
    subst listed
    exact ⟨_, rfl, "maven", "g:c", by decide, by decide, rfl⟩
  obtain ⟨l, t, label, reads, names⟩ :=
    @labelFor_names "maven" "g" _ { group := "g", artifact := "b" } (by decide) (by decide) qualified
  refine ⟨l, t, label, reads, names.mpr fun _ rest whole => ?_⟩
  have left : ":c" = rest := by
    have parts : "@maven//g" ++ ":c" = "@maven//g" ++ rest := whole
    rwa [String.append_right_inj] at parts
  rw [← left]
  decide

/-- A substitute in a package below that of the group is cut in the middle of its package. -/
theorem sub_package_mislabelled :
    labelFor "maven" (.obj [("@maven//g:b", .str "@maven//g/sub:t")]) "g"
      { group := "g", artifact := "b" } = .ok (.str "/sub:t") ∧
    IsQualified "@maven//g/sub:t" ∧
    readTarget? "maven" "g" "@maven//g/sub:t" = some ⟨"maven", "g/sub", "t"⟩ ∧
    readTarget? "maven" "g" "/sub:t" = none := by
  have found : (Json.findField (targetLabel "maven" "g" "b")
      [("@maven//g:b", .str "@maven//g/sub:t")]).getD (.str (targetLabel "maven" "g" "b"))
      = .str "@maven//g/sub:t" := by rfl
  have begins : Text.afterStart? (packageLabel "maven" "g").toList "@maven//g/sub:t".toList
      = some "/sub:t".toList := by decide
  have label := @labelFor_own "maven" "g" _ { group := "g", artifact := "b" } rfl _ found
  rw [begins] at label
  refine ⟨label, ⟨"maven", "g/sub:t", by decide, by decide +kernel, rfl⟩, ?_, ?_⟩
  · decide
  · decide

end MavenImport
