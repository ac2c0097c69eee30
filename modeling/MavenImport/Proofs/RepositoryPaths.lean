/-
# Proofs.RepositoryPaths -- the path of a file tells what it is a file of

The path of a file within a repository puts the parts of a coordinate together with slashes, dashes
and points, and the parts may hold dashes and points themselves.  It can be read from its end: the
last three names are the artifact, the version and the name of the file, and those before them are
the segments of the group (`splitAt_artifactPath`).  The name of the file begins with the artifact
and the version, which are known by then, and in what is left the first point ends the classifier
(`fileEnding_injective`).  So two files with one path are the same file (`artifactPath_eq_iff`), as
long as no part holds a slash and no classifier holds a point.
-/
import MavenImport.Maven.Layout
import MavenImport.Proofs.TextLaws

namespace MavenImport

set_option autoImplicit false

/-! ## Names between slashes -/

theorem splitAt_slash (s t : String) :
    Text.splitAt '/' (s ++ "/" ++ t) = Text.splitAt '/' s ++ Text.splitAt '/' t := by
  have slash : (s ++ "/" ++ t).toList = s.toList ++ '/' :: t.toList := by simp
  unfold Text.splitAt
  rw [slash, Text.pieces_append_separator t.toList (by decide), List.map_append]

theorem splitAt_alone {s : String} (absent : '/' ∉ s.toList) : Text.splitAt '/' s = [s] := by
  have none : ∀ c ∈ s.toList, (c == '/') = false := by
    intro c held
    refine beq_eq_false_iff_ne.mpr ?_
    rintro rfl
    exact absent held
  unfold Text.splitAt
  rw [Text.pieces_of_none none]
  simp

/-! ## Parts of a path -/

/-- No part of a coordinate holds a slash. -/
structure Coordinate.Slashless (c : Coordinate) : Prop where
  group : '/' ∉ c.group.toList
  artifact : '/' ∉ c.artifact.toList
  version : '/' ∉ c.version.toList

/-- A classifier that is not given, or a text without slashes and points. -/
def IsClassifier (classifier : Option String) : Prop :=
  ∀ s ∈ classifier, s ≠ "" ∧ '/' ∉ s.toList ∧ '.' ∉ s.toList

/-- What the name of a file has after the artifact and the version. -/
def fileEnding (extension : String) (classifier : Option String) : String :=
  (match given? classifier with
    | some s => "-" ++ s
    | none => "") ++ "." ++ extension

/-- The names on the path of a file: segments of the group, the artifact, the version, and the name
of the file itself. -/
def fileNames (c : Coordinate) (ending : String) : List String :=
  Text.splitAt '.' c.group ++ [c.artifact, c.version, c.artifact ++ "-" ++ c.version ++ ending]

theorem isClassifier_none : IsClassifier none := by
  intro s listed
  cases listed

theorem fileEnding_none (extension : String) : fileEnding extension none = "." ++ extension := by
  simp [fileEnding, given?]

theorem fileEnding_some {s : String} (extension : String) (given : s ≠ "") :
    fileEnding extension (some s) = "-" ++ s ++ "." ++ extension := by
  simp [fileEnding, given?, given]

theorem fileEnding_slash {extension : String} {classifier : Option String}
    (extensions : '/' ∉ extension.toList) (classifiers : IsClassifier classifier) :
    '/' ∉ (fileEnding extension classifier).toList := by
  cases classifier with
  | none => simpa [fileEnding_none] using extensions
  | some s =>
      obtain ⟨given, slash, -⟩ := classifiers s rfl
      simp [fileEnding_some extension given, slash, extensions]

theorem splitAt_artifactPath {c : Coordinate} {extension : String} {classifier : Option String}
    (coordinate : c.Slashless) (extensions : '/' ∉ extension.toList)
    (classifiers : IsClassifier classifier) :
    Text.splitAt '/' (artifactPath c extension classifier)
      = fileNames c (fileEnding extension classifier) := by
  have parts : artifactPath c extension classifier
      = groupPath c.group ++ "/" ++ (c.artifact ++ "/" ++ (c.version ++ "/"
        ++ (c.artifact ++ "-" ++ c.version ++ fileEnding extension classifier))) := by
    unfold artifactPath fileEnding
    cases given? classifier <;> simp only [String.append_assoc]
  have group : Text.splitAt '/' (groupPath c.group) = Text.splitAt '.' c.group :=
    Text.splitAt_replaceChar coordinate.group
  have name : '/' ∉ (c.artifact ++ "-" ++ c.version ++ fileEnding extension classifier).toList := by
    simp [coordinate.artifact, coordinate.version, fileEnding_slash extensions classifiers]
  rw [parts, splitAt_slash, splitAt_slash, splitAt_slash, group, splitAt_alone coordinate.artifact,
    splitAt_alone coordinate.version, splitAt_alone name]
  rfl

/-! ## Files with one path -/

/-- The names on a path give the coordinate and the ending of the file. -/
theorem fileNames_injective {c c' : Coordinate} {ending ending' : String}
    (same : fileNames c ending = fileNames c' ending') : c = c' ∧ ending = ending' := by
  obtain ⟨groups, rest⟩ := List.append_inj' same rfl
  simp only [List.cons.injEq, and_true] at rest
  obtain ⟨artifact, version, name⟩ := rest
  have group := Text.splitAt_injective groups
  rw [artifact, version] at name
  have endings : ending = ending' :=
    String.toList_injective (by simpa using congrArg String.toList name)
  obtain ⟨g, a, v⟩ := c
  obtain ⟨g', a', v'⟩ := c'
  simp only at group artifact version
  rw [group, artifact, version]
  exact ⟨rfl, endings⟩

/-- An ending gives the extension and the classifier, which holds no point. -/
theorem fileEnding_injective {extension extension' : String} {classifier classifier' : Option String}
    (classifiers : IsClassifier classifier) (classifiers' : IsClassifier classifier')
    (same : fileEnding extension classifier = fileEnding extension' classifier') :
    extension = extension' ∧ classifier = classifier' := by
  cases classifier with
  | none =>
      cases classifier' with
      | none =>
          rw [fileEnding_none, fileEnding_none] at same
          exact ⟨String.toList_injective (by simpa using congrArg String.toList same), rfl⟩
      | some s =>
          obtain ⟨given, -, -⟩ := classifiers' s rfl
          rw [fileEnding_none, fileEnding_some extension' given] at same
          simpa using congrArg String.toList same
  | some s =>
      obtain ⟨given, -, point⟩ := classifiers s rfl
      rw [fileEnding_some extension given] at same
      cases classifier' with
      | none =>
          rw [fileEnding_none] at same
          simpa using congrArg String.toList same
      | some s' =>
          obtain ⟨given', -, point'⟩ := classifiers' s' rfl
          rw [fileEnding_some extension' given'] at same
          have lists : s.toList ++ '.' :: extension.toList
              = s'.toList ++ '.' :: extension'.toList := by
            simpa using congrArg String.toList same
          obtain ⟨texts, extensions⟩ := Text.append_separator_inj point point' lists
          rw [String.toList_injective texts, String.toList_injective extensions]
          exact ⟨rfl, rfl⟩

/-- Two files of a repository have one path if and only if they are of the same artifact and version
and have the same extension and classifier. -/
theorem artifactPath_eq_iff {c c' : Coordinate} {extension extension' : String}
    {classifier classifier' : Option String} (coordinate : c.Slashless) (coordinate' : c'.Slashless)
    (extensions : '/' ∉ extension.toList) (extensions' : '/' ∉ extension'.toList)
    (classifiers : IsClassifier classifier) (classifiers' : IsClassifier classifier') :
    artifactPath c extension classifier = artifactPath c' extension' classifier' ↔
      c = c' ∧ extension = extension' ∧ classifier = classifier' := by
  constructor
  · intro same
    have names : fileNames c (fileEnding extension classifier)
        = fileNames c' (fileEnding extension' classifier') := by
      rw [← splitAt_artifactPath coordinate extensions classifiers,
        ← splitAt_artifactPath coordinate' extensions' classifiers', same]
    obtain ⟨coordinates, endings⟩ := fileNames_injective names
    exact ⟨coordinates, fileEnding_injective classifiers classifiers' endings⟩
  · rintro ⟨rfl, rfl, rfl⟩
    rfl

/-- Two artifacts whose sources have one file name, `a-1-2-sources.jar`, in two directories. -/
theorem dashes_told_apart :
    (⟨"org.g", "a-1", "2"⟩ : Coordinate).Slashless ∧ (⟨"org.g", "a", "1-2"⟩ : Coordinate).Slashless ∧
      '/' ∉ "jar".toList ∧ IsClassifier (some "sources") ∧
      artifactPath ⟨"org.g", "a-1", "2"⟩ "jar" (some "sources")
        ≠ artifactPath ⟨"org.g", "a", "1-2"⟩ "jar" (some "sources") := by
  have one : (⟨"org.g", "a-1", "2"⟩ : Coordinate).Slashless := ⟨by decide, by decide, by decide⟩
  have other : (⟨"org.g", "a", "1-2"⟩ : Coordinate).Slashless := ⟨by decide, by decide, by decide⟩
  have extension : '/' ∉ "jar".toList := by decide
  have classifier : IsClassifier (some "sources") := by
    rintro s ⟨⟩
    exact ⟨by decide, by decide, by decide⟩
  refine ⟨one, other, extension, classifier, fun same => ?_⟩
  have together := (artifactPath_eq_iff one other extension extension classifier classifier).mp same
  exact absurd together.1 (by decide)

-- a point in a classifier could as well begin the extension
example : artifactPath ⟨"g", "a", "1"⟩ "jar" (some "x.y")
    = artifactPath ⟨"g", "a", "1"⟩ "y.jar" (some "x") := by decide

end MavenImport
