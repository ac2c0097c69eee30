/-
# Proofs.SpecificationVerdict -- what is said of the file of a specification

The file of a specification may hold anything.  Loading it comes to one of two ends: there is no
specification and one reason for it, which is of a kind that is told (`Fault.OfSpecification`), or
there is a specification of everything that the file declares (`Specification.Declares`) together
with all that is wrong with it.

A list of problems is only as good as what its absence means.  Options without problems are sound
(`ArtifactConfig.Sound`): they say how the file is checked, their ways to give dependencies do not
compete, and each entry is of a form that is understood where it is used.  This is exactly what the
checks test (`problems_eq_nil`), and with readable keys it makes a specification sound
(`specification_judged`).
-/
import MavenImport.Proofs.ArtifactIsolation
import MavenImport.Proofs.ConfigReading
import MavenImport.Proofs.EdgeAccounts
import Mathlib.Logic.Basic

namespace MavenImport

set_option autoImplicit false

/-! ## Sound options -/

/-- A text that names a group and an artifact. -/
inductive IsPairEntry : Json → Prop
  | pair {s : String} (pair : isPair s = true) : IsPairEntry (.str s)

/-- A label, or a text that names an artifact and gives a dependency. -/
inductive IsDependencyEntry : Json → Prop
  | label {s : String} (label : isLabel s = true) : IsDependencyEntry (.str s)
  | pair {s : String} {d : Dependency} (pair : isPair s = true)
      (read : Dependency.ofPair? s = some d) : IsDependencyEntry (.str s)

/-- Options that later stages can rely on. -/
structure ArtifactConfig.Sound (c : ArtifactConfig) : Prop where
  /-- There is a digest, or the artifact is marked as insecure, and not both. -/
  checked : Xor (c.sha256 ≠ .null) (c.insecure = true)
  /-- A declaration of its own comes without anything else. -/
  ownText : c.snippet ≠ .null →
    c.testonly = false ∧ c.deps = [] ∧ c.included = [] ∧ c.excluded = []
  /-- So does a list of all dependencies. -/
  listed : c.deps ≠ [] → c.snippet = .null ∧ c.included = [] ∧ c.excluded = []
  deps : ∀ v ∈ c.deps, IsDependencyEntry v
  included : ∀ v ∈ c.included, IsDependencyEntry v
  excluded : ∀ v ∈ c.excluded, IsPairEntry v

theorem isNull_iff {v : Json} : v.isNull = true ↔ v = .null := by
  cases v <;> simp [Json.isNull]

theorem pairEntry_iff {v : Json} : ArtifactConfig.isPairEntry v = true ↔ IsPairEntry v := by
  constructor
  · intro admitted
    cases v with
    | str s => exact .pair admitted
    | _ => cases admitted
  · rintro ⟨pair⟩
    exact pair

theorem dependencyEntry_iff {v : Json} :
    (ArtifactConfig.isPairEntry v || ArtifactConfig.isLabelEntry v) = true
      ↔ IsDependencyEntry v := by
  constructor
  · intro admitted
    obtain ⟨s, rfl, label | ⟨label, d, read⟩⟩ := admitted_entry admitted
    · exact .label label
    · refine .pair ?_ read
      simpa [ArtifactConfig.isPairEntry, ArtifactConfig.isLabelEntry, Json.str?, label]
        using admitted
  · rintro (label | ⟨pair, -⟩)
    · exact Bool.or_eq_true_iff.mpr (.inr label)
    · exact Bool.or_eq_true_iff.mpr (.inl pair)

/-- At most one of three things holds: each of the first two excludes the others. -/
theorem count_le_one {x y z : Bool} : [x, y, z].count true ≤ 1 ↔
    (x = true → y = false ∧ z = false) ∧ (y = true → x = false ∧ z = false) := by
  revert x y z
  decide

section Options

variable {c : ArtifactConfig}

/-- An artifact has a digest, or the mark that it needs none. -/
theorem checked_iff : (c.insecure == !c.sha256.isNull) = false
    ↔ Xor (c.sha256 ≠ .null) (c.insecure = true) := by
  rw [Ne, ← isNull_iff]
  cases c.insecure <;> cases c.sha256.isNull <;> simp [Xor]

theorem sources_iff : c.sources.count true ≤ 1 ↔
    (c.snippet ≠ .null → c.deps = [] ∧ c.included = [] ∧ c.excluded = []) ∧
      (c.deps ≠ [] → c.snippet = .null ∧ c.included = [] ∧ c.excluded = []) := by
  rw [ArtifactConfig.sources, count_le_one, Ne, ← isNull_iff]
  simp

/-- The checks find nothing exactly in sound options. -/
theorem problems_eq_nil {key : String} : c.problems key = [] ↔ c.Sound := by
  have parts : c.problems key = [] ↔
      (c.insecure == !c.sha256.isNull) = false ∧
      (c.testonly && !c.snippet.isNull) = false ∧
      c.sources.count true ≤ 1 ∧
      (∀ v ∈ c.deps, IsDependencyEntry v) ∧
      (∀ v ∈ c.included, IsDependencyEntry v) ∧
      (∀ v ∈ c.excluded, IsPairEntry v) := by
    simp only [ArtifactConfig.problems, List.append_eq_nil_iff, entryProblems_eq_nil,
      Bool.true_and, Bool.false_and, Bool.or_false, pairEntry_iff, dependencyEntry_iff, and_assoc]
    simp
  rw [parts, checked_iff, sources_iff]
  constructor
  · rintro ⟨checked, tested, ⟨ownText, listed⟩, deps, included, excluded⟩
    refine ⟨checked, fun given => ⟨?_, ownText given⟩, listed, deps, included, excluded⟩
    rw [Ne, ← isNull_iff] at given
    simpa [given] using tested
  · intro sound
    refine ⟨sound.checked, ?_, ⟨fun given => (sound.ownText given).2, sound.listed⟩, sound.deps,
      sound.included, sound.excluded⟩
    cases given : c.snippet.isNull with
    | true => simp
    | false =>
        have own := sound.ownText fun absent => by
          rw [isNull_iff.mpr absent] at given
          cases given
        simp [own.1]

end Options

/-! ## Sound specifications -/

/-- A key of three parts between colons, none of them blank. -/
def IsCoordinateText (key : String) : Prop :=
  ∃ g a v, Text.splitAt ':' key = [g, a, v] ∧
    Text.trim g ≠ "" ∧ Text.trim a ≠ "" ∧ Text.trim v ≠ ""

theorem ofString_isSome {key : String} :
    (Coordinate.ofString? key).isSome = true ↔ IsCoordinateText key := by
  rw [Coordinate.ofString?, IsCoordinateText]
  match Text.splitAt ':' key with
  | [_, _, _] => simp [and_assoc]
  | [] | [_] | [_, _] => simp
  | _ :: _ :: _ :: _ :: _ => simp

structure Specification.Sound (s : Specification) : Prop where
  named : s.name.truth = true
  /-- All exclusions from the rewriting of old names are globs. -/
  globs : s.globProblems = []
  keys : ∀ e ∈ s.artifacts, IsCoordinateText e.1
  options : ∀ e ∈ s.artifacts, e.2.Sound

theorem artifactProblems_eq_nil {key : String} {config : ArtifactConfig} :
    Specification.artifactProblems key config = [] ↔ IsCoordinateText key ∧ config.Sound := by
  rw [Specification.artifactProblems, List.append_eq_nil_iff, problems_eq_nil, ← ofString_isSome]
  cases Coordinate.ofString? key <;> simp

theorem specification_problems {s : Specification} : s.problems = [] ↔ s.Sound := by
  rw [problems_nil]
  constructor
  · rintro ⟨⟨named, globs⟩, each⟩
    exact ⟨named, globs, fun e declared => (artifactProblems_eq_nil.mp (each e declared)).1,
      fun e declared => (artifactProblems_eq_nil.mp (each e declared)).2⟩
  · intro sound
    refine ⟨⟨sound.named, sound.globs⟩, fun e declared => artifactProblems_eq_nil.mpr ?_⟩
    exact ⟨sound.keys e declared, sound.options e declared⟩

/-! ## Reading a specification -/

/-- How a value fails to be a specification. -/
inductive Json.Fault.OfShape : Json.Fault → Prop
  | lacks (kind operation : String) : OfShape (.lacks kind operation)
  | notIterable (kind : String) : OfShape (.notIterable kind)
  | notSearchable (kind : String) : OfShape (.notSearchable kind)
  | unhashable (kind : String) : OfShape (.unhashable kind)

open Json (fieldOrNull_failsAs elementsOrNone_failsAs distinctScalars_failsAs)

theorem artifactConfig_failsAs (v : Json) :
    FailsAs Json.Fault.OfShape (ArtifactConfig.ofJson v) := by
  have field (key : String) : FailsAs Json.Fault.OfShape (v.fieldOrNull key) :=
    fieldOrNull_failsAs (fun v => .lacks v.kind "get") v key
  have listed (u : Json) : FailsAs Json.Fault.OfShape u.elementsOrNone :=
    elementsOrNone_failsAs (fun v => .notIterable v.kind) u
  have distinct (vs : List Json) : FailsAs Json.Fault.OfShape (Json.distinctScalars vs) :=
    distinctScalars_failsAs (fun v => .unhashable v.kind) vs
  refine failsAs_bind (field _) fun sha256 _ => failsAs_bind (field _) fun insecure _ => ?_
  refine failsAs_bind (field _) fun snippet _ => failsAs_bind (field _) fun testonly _ => ?_
  refine failsAs_bind (field _) fun v _ => failsAs_bind (listed v) fun deps _ => ?_
  refine failsAs_bind (field _) fun v _ => failsAs_bind (listed v) fun vs _ => ?_
  refine failsAs_bind (distinct vs) fun excluded _ => ?_
  refine failsAs_bind (field _) fun v _ => failsAs_bind (listed v) fun vs _ => ?_
  exact failsAs_bind (distinct vs) fun included _ => failsAs_ok _

theorem readArtifacts_failsAs : ∀ declared : List (String × Json),
    FailsAs Json.Fault.OfShape (Specification.readArtifacts declared)
  | [] => failsAs_ok []
  | (key, v) :: rest => by
      refine failsAs_bind (artifactConfig_failsAs _) fun config _ => ?_
      exact failsAs_bind (readArtifacts_failsAs rest) fun others _ => failsAs_ok _

theorem globOfJson_failsAs (v : Json) :
    FailsAs Json.Fault.OfShape (Specification.globOfJson v) := by
  cases v with
  | str s => exact failsAs_ok _
  | arr items =>
      rw [Specification.globOfJson]
      split
      · exact failsAs_error (.lacks _ _)
      · exact failsAs_ok _
  | obj fields =>
      rw [Specification.globOfJson]
      split
      · exact failsAs_error (.lacks _ _)
      · exact failsAs_ok _
  | _ => exact failsAs_error (.notSearchable _)

theorem compileGlobs_failsAs : ∀ vs : List Json,
    FailsAs Json.Fault.OfShape (Specification.compileGlobs vs)
  | [] => failsAs_ok _
  | v :: vs => by
      refine failsAs_bind (globOfJson_failsAs v) fun compiled _ => ?_
      refine failsAs_bind (compileGlobs_failsAs vs) fun (globs, faults) _ => ?_
      cases compiled with
      | ok g => exact failsAs_ok _
      | error f => exact failsAs_ok _

theorem specification_failsAs (v name : Json) :
    FailsAs Json.Fault.OfShape (Specification.ofJson v name) := by
  have field (key : String) : FailsAs Json.Fault.OfShape (v.fieldOrNull key) :=
    fieldOrNull_failsAs (fun v => .lacks v.kind "get") v key
  refine failsAs_bind (field _) fun named _ => ?_
  refine failsAs_bind (Json.field?_failsAs (fun v => .lacks v.kind "get") v _) ?_
  refine fun declared _ =>
    failsAs_bind (Json.entries_failsAs (fun v => .lacks v.kind "items") _) fun entries _ => ?_
  refine failsAs_bind (readArtifacts_failsAs entries) fun artifacts _ => ?_
  refine failsAs_bind (field _) fun substitutes _ => failsAs_bind (field _) fun jetified _ => ?_
  refine failsAs_bind (field _) fun v _ => ?_
  refine failsAs_bind (elementsOrNone_failsAs (fun v => .notIterable v.kind) v) fun excludes _ => ?_
  refine failsAs_bind (field _) fun rules _ => failsAs_bind (field _) fun legacy _ => ?_
  refine failsAs_bind (field _) fun aliases _ => ?_
  exact failsAs_bind (compileGlobs_failsAs excludes) fun (globs, faults) _ => failsAs_ok _

/-- The options that a value declares under a key are those that it has there. -/
def DeclaredAs (declared : String × Json) (entry : String × ArtifactConfig) : Prop :=
  entry.1 = declared.1 ∧ ArtifactConfig.ofJson (declared.2.orElse (.obj [])) = .ok entry.2

/-- A specification has all artifacts that a value declares, in their order, and no others. -/
def Specification.Declares (s : Specification) (v : Json) : Prop :=
  ∃ fields declared, v = .obj fields ∧
    (Json.findField "artifacts" fields).getD (.obj []) = .obj declared ∧
    List.Forall₂ DeclaredAs declared s.artifacts

theorem readArtifacts_declared : ∀ {declared : List (String × Json)}
    {artifacts : List (String × ArtifactConfig)},
    Specification.readArtifacts declared = .ok artifacts →
      List.Forall₂ DeclaredAs declared artifacts
  | [], artifacts, read => by
      cases read
      exact .nil
  | (key, v) :: rest, artifacts, read => by
      obtain ⟨config, own, read⟩ := except_bind_ok.mp read
      obtain ⟨others, later, read⟩ := except_bind_ok.mp read
      cases read
      exact .cons ⟨rfl, own⟩ (readArtifacts_declared later)

theorem ofJson_declares {v name : Json} {s : Specification}
    (read : Specification.ofJson v name = .ok s) : s.Declares v := by
  obtain ⟨named, -, read⟩ := except_bind_ok.mp read
  obtain ⟨found, looked, read⟩ := except_bind_ok.mp read
  obtain ⟨entries, listed, read⟩ := except_bind_ok.mp read
  obtain ⟨artifacts, each, read⟩ := except_bind_ok.mp read
  have kept : s.artifacts = artifacts := by
    -- the remaining fields do not touch the artifacts
    obtain ⟨substitutes, -, read⟩ := except_bind_ok.mp read
    obtain ⟨jetified, -, read⟩ := except_bind_ok.mp read
    obtain ⟨u, -, read⟩ := except_bind_ok.mp read
    obtain ⟨excludes, -, read⟩ := except_bind_ok.mp read
    obtain ⟨rules, -, read⟩ := except_bind_ok.mp read
    obtain ⟨legacy, -, read⟩ := except_bind_ok.mp read
    obtain ⟨aliases, -, read⟩ := except_bind_ok.mp read
    obtain ⟨globs, -, read⟩ := except_bind_ok.mp read
    cases read
    rfl
  cases v with
  | obj fields =>
      cases looked
      refine ⟨fields, entries, rfl, ?_, kept ▸ readArtifacts_declared each⟩
      cases shape : (Json.findField "artifacts" fields).getD (.obj []) with
      | obj declared =>
          rw [shape] at listed
          cases listed
          rfl
      | _ =>
          rw [shape] at listed
          cases listed
  | _ => cases looked

/-! ## The verdict -/

/-- Why there is no specification. -/
inductive Fault.OfSpecification : Fault → Prop
  | file {f : Fault} (file : f.OfFile) : OfSpecification f
  | shape {f : Json.Fault} (shape : f.OfShape) : OfSpecification (.value f)

/-- No key of a specification is required, so the reason is told as it is. -/
theorem noSpecification_message {path : Path} {f : Fault} (known : f.OfSpecification) :
    noSpecification path f = f.message := by
  rcases known with ⟨_ | _ | _⟩ | ⟨_ | _ | _ | _⟩ <;> rfl

/-- What loading a specification tells: the specification, if there is one, and what is wrong. -/
def Specification.verdict (path : Path) :
    Except Fault Specification → Option Specification × List ConfigProblem
  | .error f => (none, [⟨none, noSpecification path f⟩])
  | .ok s => (some s, s.problems)

/-- The specification that the files have at a path. -/
def specificationAt (fs : FileSystem) (path : Path) (defaultName : Json) :
    Except Fault Specification := do
  (Specification.ofJson (← jsonAt fs path) defaultName).mapError .value

theorem run_loadSpecification (path : Path) (defaultName : Json) (w : World) :
    (loadSpecification path defaultName).run w
      = (specificationAt w.files path defaultName, w.parsing path) :=
  perform_loadJson_bind _ path w

theorem specificationAt_failsAs (fs : FileSystem) (path : Path) (defaultName : Json) :
    FailsAs Fault.OfSpecification (specificationAt fs path defaultName) := by
  refine failsAs_bind (fun f failed => .file (jsonAt_failsAs fs path f failed)) fun v _ => ?_
  exact failsAs_mapError (specification_failsAs v defaultName) fun f shape => .shape shape

/-- To load a file of any content as a specification only announces the file.  Either there is no
specification and one problem, of a known kind, or there is one with everything that the file
declares and the list of its problems, and this is empty exactly if the specification is sound. -/
theorem specification_judged (w : World) (path : Path) (defaultName : Json) :
    ∃ answer, (loadSpecification path defaultName).run w = (answer, w.parsing path) ∧
      ((∃ f, answer = .error f ∧ f.OfSpecification ∧
          Specification.verdict path answer = (none, [⟨none, f.message⟩])) ∨
        ∃ v s, answer = .ok s ∧ jsonAt w.files path = .ok v ∧ s.Declares v ∧
          Specification.verdict path answer = (some s, s.problems) ∧
          (s.problems = [] ↔ s.Sound)) := by
  refine ⟨_, run_loadSpecification path defaultName w, ?_⟩
  cases loaded : specificationAt w.files path defaultName with
  | error f =>
      have known := specificationAt_failsAs w.files path defaultName f loaded
      refine .inl ⟨f, rfl, known, ?_⟩
      rw [Specification.verdict, noSpecification_message known]
  | ok s =>
      obtain ⟨v, read, made⟩ := except_bind_ok.mp loaded
      have parsed : Specification.ofJson v defaultName = .ok s := by
        cases same : Specification.ofJson v defaultName with
        | error f =>
            rw [same] at made
            cases made
        | ok s' =>
            rw [same] at made
            cases made
            rfl
      exact .inr ⟨v, s, rfl, read, ofJson_declares parsed, rfl, specification_problems⟩

end MavenImport
