/-
# Proofs.LabelReading -- what a label names

A label names a package and a target in it (`readLabel?`).  The label that is made for a
dependency names the package of its group and the target of its artifact, whichever of the three
forms it has (`labelFor_reads`), unless a substitute changed it.

The package of a group is a directory below the workspace if the group is a proper one
(`buildFilePath_eq`).
-/
import MavenImport.Generate.Task
import MavenImport.Proofs.CoordinateLaws

namespace MavenImport

set_option autoImplicit false

/-! ## Reading -/

/-- The package and the target that a label names, for a reader in a package of a workspace.  A
package without a target stands for the target named like its last segment. -/
def readLabel? (workspace package label : String) : Option (String × String) :=
  match Text.afterStart? [':'] label.toList with
  | some target => some (package, String.ofList target)
  | none =>
    (Text.afterStart? ("@" ++ workspace ++ "//").toList label.toList).map fun rest =>
      match Text.cut? ':' rest with
      | some (package, target) => (String.ofList package, String.ofList target)
      | none => (String.ofList rest, lastSegment (String.ofList rest))

section Reading

variable {workspace package p t : String}

theorem read_local : readLabel? workspace package (":" ++ t) = some (package, t) := by
  have start : Text.afterStart? [':'] (":" ++ t).toList = some t.toList :=
    (Text.afterStart?_eq_some_iff _ _ _).mpr (by simp)
  rw [readLabel?, start]
  simp

/-- A label that begins with the workspace is read from there on. -/
theorem read_external (rest : List Char) {label : String}
    (shape : label.toList = '@' :: (workspace.toList ++ '/' :: '/' :: rest)) :
    readLabel? workspace package label = some (match Text.cut? ':' rest with
      | some (package, target) => (String.ofList package, String.ofList target)
      | none => (String.ofList rest, lastSegment (String.ofList rest))) := by
  have noColon : Text.afterStart? [':'] label.toList = none := by
    rw [shape]
    rfl
  have start : Text.afterStart? ("@" ++ workspace ++ "//").toList label.toList = some rest :=
    (Text.afterStart?_eq_some_iff _ _ _).mpr (by simp [shape])
  rw [readLabel?, noColon, start]
  rfl

theorem read_package (plain : ':' ∉ p.toList) :
    readLabel? workspace package ("@" ++ workspace ++ "//" ++ p) = some (p, lastSegment p) := by
  rw [read_external p.toList (by simp), Text.cut?_none plain]
  simp

example : readLabel? "maven" "g" "@maven//javax/inject" = some ("javax/inject", "inject") := by
  decide

theorem read_target (plain : ':' ∉ p.toList) :
    readLabel? workspace package ("@" ++ workspace ++ "//" ++ p ++ ":" ++ t) = some (p, t) := by
  rw [read_external (p.toList ++ ':' :: t.toList) (by simp), Text.cut?_append _ plain]
  simp

end Reading

/-! ## Writing -/

/-- The last segment of a package does not depend on the workspace. -/
theorem lastSegment_packageLabel (workspace group : String) :
    lastSegment (packageLabel workspace group) = lastSegment (groupPath group) := by
  have text : (packageLabel workspace group).toList
      = ('@' :: workspace.toList ++ ['/']) ++ '/' :: (groupPath group).toList := by
    simp [packageLabel]
  have pieces : Text.splitAt '/' (packageLabel workspace group)
      = (Text.pieces (· == '/') ('@' :: workspace.toList ++ ['/'])).map String.ofList
        ++ Text.splitAt '/' (groupPath group) := by
    unfold Text.splitAt
    rw [text, Text.pieces_append_separator _ (by rfl), List.map_append]
  have some : Text.splitAt '/' (groupPath group) ≠ [] := by
    unfold Text.splitAt
    rw [ne_eq, List.map_eq_nil_iff]
    exact Text.pieces_ne_nil _ _
  unfold lastSegment
  rw [pieces, List.getLast?_append, List.getLast?_eq_some_getLast some]
  rfl

theorem groupPath_plain {group : String} (plain : ':' ∉ group.toList) :
    ':' ∉ (groupPath group).toList := by
  unfold groupPath Text.replaceChar
  rw [String.toList_ofList, List.mem_map]
  rintro ⟨c, held, same⟩
  split at same
  · cases same
  · exact plain (same ▸ held)

theorem sameEntry_text (s : String) : Json.sameEntry (.str s) (.str s) = true := by
  simp [Json.sameEntry, Json.number?]

/-- The label of a dependency for which there is no substitute. -/
theorem labelFor_unchanged {workspace ownerGroup : String} {substitutes : Json} {d : Dependency}
    {substitute : Option Json}
    (found : substitutes.field? (targetLabel workspace d.group d.artifact) = .ok substitute)
    (unchanged : ∀ v, substitute = some v → v = .str (targetLabel workspace d.group d.artifact)) :
    labelFor workspace substitutes ownerGroup d
      = .ok (.str (if ownerGroup = d.group then ":" ++ targetName d.artifact
          else if lastSegment (groupPath d.group) = targetName d.artifact then
            packageLabel workspace d.group
          else targetLabel workspace d.group d.artifact)) := by
  have same : substitute.getD (.str (targetLabel workspace d.group d.artifact))
      = .str (targetLabel workspace d.group d.artifact) := by
    cases substitute with
    | none => rfl
    | some v => exact unchanged v rfl
  have rest : Text.afterStart? (packageLabel workspace d.group).toList
      (targetLabel workspace d.group d.artifact).toList
        = some (":" ++ targetName d.artifact).toList := by
    refine (Text.afterStart?_eq_some_iff _ _ _).mpr ?_
    simp [targetLabel]
  unfold labelFor
  dsimp only
  rw [found]
  simp only [bind, Except.bind, same, sameEntry_text, Bool.not_true, Bool.false_eq_true, if_false,
    lastSegment_packageLabel]
  split
  · rw [rest]
    simp [pure, Except.pure]
  · split <;> rfl

/-- The label of a dependency names the package of its group and the target of its artifact. -/
theorem labelFor_reads {workspace ownerGroup : String} {substitutes label : Json} {d : Dependency}
    (plain : ':' ∉ d.group.toList)
    (unchanged : ∀ v, substitutes.field? (targetLabel workspace d.group d.artifact) = .ok (some v) →
      v = .str (targetLabel workspace d.group d.artifact))
    (made : labelFor workspace substitutes ownerGroup d = .ok label) :
    ∃ l, label = .str l ∧ readLabel? workspace (groupPath ownerGroup) l
      = some (groupPath d.group, targetName d.artifact) := by
  cases found : substitutes.field? (targetLabel workspace d.group d.artifact) with
  | error f =>
      unfold labelFor at made
      dsimp only at made
      rw [found] at made
      cases made
  | ok substitute =>
      rw [labelFor_unchanged found fun v same => unchanged v (same ▸ found)] at made
      refine ⟨_, (Except.ok.inj made).symm, ?_⟩
      have plain := groupPath_plain plain
      split
      · next own => rw [read_local, own]
      · split
        · next collapsed =>
            rw [packageLabel, read_package plain, collapsed]
        · exact read_target plain

/-! ## The file of a package -/

/-- The segments of a group between its points are not empty and hold no slash. -/
def ProperGroup (group : String) : Prop :=
  ∀ segment ∈ Text.splitAt '.' group, segment ≠ "" ∧ '/' ∉ segment.toList

instance (group : String) : Decidable (ProperGroup group) :=
  inferInstanceAs (Decidable (∀ segment ∈ Text.splitAt '.' group, _))

/-- The groups of all declared artifacts are proper. -/
def Specification.ProperGroups (spec : Specification) : Prop :=
  ∀ a ∈ spec.artifacts, ∀ c, Coordinate.ofString? a.1 = some c → ProperGroup c.group

/-- The build file of a package, in the directory that the segments of the package lead to. -/
def Plan.packageFile (plan : Plan) (package : String) : Path :=
  ⟨plan.workspace.anchor, plan.workspace.names ++ Text.splitAt '/' package ++ [buildFileName]⟩

theorem splitAt_groupPath {group : String} (proper : ProperGroup group) :
    Text.splitAt '/' (groupPath group) = Text.splitAt '.' group := by
  refine Text.splitAt_replaceChar fun held => ?_
  obtain ⟨p, listed, within⟩ := Text.mem_pieces_of_mem (· == '.') held (by rfl)
  have none := (proper (String.ofList p) (List.mem_map_of_mem listed)).2
  rw [String.toList_ofList] at none
  exact none within

/-- The package of a proper group is a relative path, with the segments of the group. -/
theorem ofString_groupPath {group : String} (proper : ProperGroup group) :
    Path.ofString (groupPath group) = ⟨.here, Text.splitAt '/' (groupPath group)⟩ := by
  have segments : ∀ s ∈ Text.splitAt '/' (groupPath group), s ≠ "" ∧ s ≠ "." := by
    intro s listed
    rw [splitAt_groupPath proper] at listed
    refine ⟨(proper s listed).1, fun same => ?_⟩
    have point := Text.not_mem_of_mem_splitAt listed
    rw [same] at point
    exact point (by decide)
  have names : Path.namesOf (groupPath group) = Text.splitAt '/' (groupPath group) := by
    refine List.filter_eq_self.mpr fun s listed => ?_
    simpa using segments s listed
  have relative : ∀ rest, (groupPath group).toList ≠ '/' :: rest := by
    intro rest text
    have first : "" ∈ Text.splitAt '/' (groupPath group) := by
      unfold Text.splitAt
      rw [text]
      exact List.mem_cons_self
    exact (segments "" first).1 rfl
  unfold Path.ofString
  rw [names]
  dsimp only
  split
  · next text => exact absurd text (relative _)
  · next text => exact absurd text (relative _)
  · next text => exact absurd text (relative _)
  · rfl

theorem joinText_buildFile (p : Path) :
    p.joinText buildFileName = ⟨p.anchor, p.names ++ [buildFileName]⟩ := by
  have file : Path.ofString buildFileName = ⟨.here, [buildFileName]⟩ := by decide
  rw [Path.joinText, file, Path.join_here]

theorem buildFilePath_eq {plan : Plan} {group : String} (proper : ProperGroup group) :
    buildFilePath plan.workspace group = plan.packageFile (groupPath group) := by
  rw [buildFilePath, joinText_buildFile, Path.joinText, ofString_groupPath proper, Path.join_here]
  rfl

end MavenImport
