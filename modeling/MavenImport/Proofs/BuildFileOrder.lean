/-
# Proofs.BuildFileOrder -- build files do not depend on the order of arrival

Declarations arrive in any order.  Their files are written in the order of their paths, and in
each file they stand in the order of their coordinates, so that two arrivals with the same
declarations give the same files in the same order (`sortedGroups_perm`), if no two declarations
have one coordinate.  The same holds of the second names (`aliasFile_perm`).

An order settles how a list is sorted if no two members of the list are level in it
(`mergeSort_eq_of_perm`).  Coordinates are ordered by their texts, and paths by their names; no two
paths are level (`ble_antisymm`).
-/
import Mathlib.Data.List.Induction
import Mathlib.Data.List.Nodup
import Mathlib.Data.String.Basic
import MavenImport.Bazel.BuildFile
import MavenImport.Proofs.TextLaws

namespace MavenImport

set_option autoImplicit false

/-! ## Sorting -/

/-- Lists with the same members are sorted to the same list if the order tells these apart. -/
theorem mergeSort_eq_of_perm {α : Type} {le : α → α → Bool} {l l' : List α}
    (trans : ∀ a b c, le a b = true → le b c = true → le a c = true)
    (total : ∀ a b, (le a b || le b a) = true)
    (apart : ∀ a ∈ l, ∀ b ∈ l, le a b = true → le b a = true → a = b) (perm : l.Perm l') :
    l.mergeSort le = l'.mergeSort le := by
  have perm' : (l.mergeSort le).Perm (l'.mergeSort le) :=
    ((List.mergeSort_perm l le).trans perm).trans (List.mergeSort_perm l' le).symm
  refine List.Perm.eq_of_pairwise (fun a b listed listed' => ?_)
    (List.pairwise_mergeSort trans total l) (List.pairwise_mergeSort trans total l') perm'
  have member : a ∈ l := (List.mergeSort_perm l le).mem_iff.mp listed
  have member' : b ∈ l :=
    perm.mem_iff.mpr ((List.mergeSort_perm l' le).mem_iff.mp listed')
  exact apart a member b member'

/-- Sorting by a text that no two members share. -/
theorem mergeSort_text_eq_of_perm {α : Type} {text : α → String} {l l' : List α}
    (distinct : (l.map text).Nodup) (perm : l.Perm l') :
    (l.mergeSort fun a b => text a ≤ text b) = l'.mergeSort fun a b => text a ≤ text b := by
  refine mergeSort_eq_of_perm ?_ ?_ ?_ perm
  · intro a b c one other
    simp only [decide_eq_true_eq] at one other ⊢
    exact String.le_trans one other
  · intro a b
    simpa using String.le_total (text a) (text b)
  · intro a listed b listed' one other
    simp only [decide_eq_true_eq] at one other
    exact List.inj_on_of_nodup_map distinct listed listed' (String.le_antisymm one other)

/-! ## The order of paths -/

theorem namesLe_cons {a b : String} {as bs : List String} :
    Path.namesLe (a :: as) (b :: bs) = true ↔ a < b ∨ a = b ∧ Path.namesLe as bs = true := by
  have order : compare a b = if a < b then .lt else if a = b then .eq else .gt := rfl
  rw [Path.namesLe, order]
  by_cases less : a < b
  · simp [less]
  · by_cases same : a = b
    · simp [same]
    · simp [less, same]

theorem namesLe_trans :
    ∀ {a b c : List String}, Path.namesLe a b = true → Path.namesLe b c = true →
      Path.namesLe a c = true
  | [], _, _, _, _ => rfl
  | _ :: _, [], _, one, _ => by cases one
  | _ :: _, _ :: _, [], _, other => by cases other
  | a :: as, b :: bs, c :: cs, one, other => by
      rw [namesLe_cons] at one other ⊢
      rcases one with less | ⟨rfl, rest⟩
      · rcases other with less' | ⟨rfl, -⟩
        · exact .inl (lt_trans less less')
        · exact .inl less
      · exact other.imp id fun ⟨same, rest'⟩ => ⟨same, namesLe_trans rest rest'⟩

theorem namesLe_total : ∀ a b : List String, (Path.namesLe a b || Path.namesLe b a) = true
  | [], _ => rfl
  | _ :: _, [] => rfl
  | a :: as, b :: bs => by
      have rest := namesLe_total as bs
      rw [Bool.or_eq_true] at rest ⊢
      rw [namesLe_cons, namesLe_cons]
      rcases lt_trichotomy a b with less | rfl | more
      · exact .inl (.inl less)
      · exact rest.imp (fun le => .inr ⟨rfl, le⟩) fun le => .inr ⟨rfl, le⟩
      · exact .inr (.inl more)

theorem namesLe_antisymm :
    ∀ {a b : List String}, Path.namesLe a b = true → Path.namesLe b a = true → a = b
  | [], [], _, _ => rfl
  | [], _ :: _, _, other => by cases other
  | _ :: _, [], one, _ => by cases one
  | a :: as, b :: bs, one, other => by
      rw [namesLe_cons] at one other
      rcases one with less | ⟨rfl, rest⟩
      · rcases other with more | ⟨rfl, -⟩
        · exact absurd (lt_trans less more) (lt_irrefl a)
        · exact absurd less (lt_irrefl _)
      · rcases other with more | ⟨-, rest'⟩
        · exact absurd more (lt_irrefl a)
        · rw [namesLe_antisymm rest rest']

theorem ble_iff {p q : Path} : p.ble q = true ↔ Path.namesLe p.sortKey q.sortKey = true ∧
    (p.sortKey = q.sortKey → p.anchor.text ≤ q.anchor.text) := by
  rw [Path.ble, Bool.and_eq_true, decide_eq_true_eq]

theorem ble_trans {p q r : Path} (one : p.ble q = true) (other : q.ble r = true) :
    p.ble r = true := by
  rw [ble_iff] at one other ⊢
  refine ⟨namesLe_trans one.1 other.1, fun same => ?_⟩
  have level : p.sortKey = q.sortKey := namesLe_antisymm one.1 (same ▸ other.1)
  exact String.le_trans (one.2 level) (other.2 (level.symm.trans same))

theorem ble_total (p q : Path) : (p.ble q || q.ble p) = true := by
  rw [Bool.or_eq_true, ble_iff, ble_iff]
  by_cases same : p.sortKey = q.sortKey
  · have level : Path.namesLe p.sortKey p.sortKey = true := by
      simpa using namesLe_total p.sortKey p.sortKey
    rw [← same]
    exact (String.le_total p.anchor.text q.anchor.text).imp (⟨level, fun _ => ·⟩)
      (⟨level, fun _ => ·⟩)
  · have apart := namesLe_total p.sortKey q.sortKey
    rw [Bool.or_eq_true] at apart
    exact apart.imp (⟨·, fun level => absurd level same⟩) (⟨·, fun level => absurd level.symm same⟩)

theorem anchor_text_injective {a b : Anchor} (same : a.text = b.text) : a = b := by
  cases a <;> cases b <;> first | rfl | exact absurd same (by decide)

/-- No two paths are level in their order. -/
theorem ble_antisymm {p q : Path} (one : p.ble q = true) (other : q.ble p = true) : p = q := by
  rw [ble_iff] at one other
  have level : p.sortKey = q.sortKey := namesLe_antisymm one.1 other.1
  have anchor : p.anchor = q.anchor :=
    anchor_text_injective (String.le_antisymm (one.2 level) (other.2 level.symm))
  obtain ⟨a, names⟩ := p
  obtain ⟨b, names'⟩ := q
  obtain rfl : a = b := anchor
  unfold Path.sortKey at level
  split at level
  · exact congrArg (Path.mk a) level
  · exact congrArg (Path.mk a) (List.cons.inj level).2

/-! ## Grouping -/

/-- The declarations that belong to a file, in the order in which they came. -/
def declaredAt (path : Path) (declared : List (Path × Declared)) : List Declared :=
  (declared.filter fun e => e.1 = path).map Prod.snd

/-- Groups hold every declaration under its path, once. -/
structure Grouped (declared : List (Path × Declared)) (groups : List (Path × List Declared)) :
    Prop where
  once : (groups.map Prod.fst).Nodup
  paths : ∀ path, path ∈ groups.map Prod.fst ↔ path ∈ declared.map Prod.fst
  members : ∀ g ∈ groups, g.2 = declaredAt g.1 declared

theorem addToGroup_paths (path : Path) (d : Declared) :
    ∀ groups : List (Path × List Declared),
      (addToGroup path d groups).map Prod.fst
        = if path ∈ groups.map Prod.fst then groups.map Prod.fst
          else groups.map Prod.fst ++ [path]
  | [] => rfl
  | g :: gs => by
      unfold addToGroup
      by_cases same : g.1 = path
      · simp [same]
      · rw [if_neg same, List.map_cons, addToGroup_paths path d gs]
        simp only [List.map_cons, List.mem_cons, Ne.symm same, false_or]
        split <;> rfl

/-- A group after an addition is an old one, with the addition if it is in its file, or it is
made of the addition. -/
theorem addToGroup_members (path : Path) (d : Declared) :
    ∀ groups : List (Path × List Declared), (groups.map Prod.fst).Nodup →
      ∀ g ∈ addToGroup path d groups,
        (∃ old ∈ groups, g = (old.1, if old.1 = path then old.2 ++ [d] else old.2)) ∨
          path ∉ groups.map Prod.fst ∧ g = (path, [d])
  | [], _, g, listed => .inr ⟨List.not_mem_nil, List.mem_singleton.mp listed⟩
  | first :: rest, once, g, listed => by
      obtain ⟨fresh, once'⟩ := List.nodup_cons.mp once
      unfold addToGroup at listed
      by_cases same : first.1 = path
      · rw [if_pos same] at listed
        rcases List.mem_cons.mp listed with here | later
        · exact .inl ⟨first, List.mem_cons_self, by rw [here, if_pos same]⟩
        · have other : g.1 ≠ path := by
            intro found
            exact fresh (same.trans found.symm ▸ List.mem_map_of_mem later)
          exact .inl ⟨g, List.mem_cons_of_mem first later, by rw [if_neg other]⟩
      · rw [if_neg same] at listed
        rcases List.mem_cons.mp listed with here | later
        · exact .inl ⟨first, List.mem_cons_self, by rw [here, if_neg same]⟩
        · rcases addToGroup_members path d rest once' g later with ⟨old, known, made⟩ | ⟨new, made⟩
          · exact .inl ⟨old, List.mem_cons_of_mem first known, made⟩
          · refine .inr ⟨?_, made⟩
            rw [List.map_cons, List.mem_cons]
            exact fun found => found.elim (fun here => same here.symm) new

theorem declaredAt_append (path : Path) (declared : List (Path × Declared))
    (e : Path × Declared) :
    declaredAt path (declared ++ [e])
      = if e.1 = path then declaredAt path declared ++ [e.2] else declaredAt path declared := by
  unfold declaredAt
  rw [List.filter_append, List.map_append]
  by_cases same : e.1 = path
  · simp [same]
  · simp [same]

theorem declaredAt_none {path : Path} {declared : List (Path × Declared)}
    (absent : path ∉ declared.map Prod.fst) : declaredAt path declared = [] := by
  unfold declaredAt
  rw [List.map_eq_nil_iff, List.filter_eq_nil_iff]
  intro e listed
  simp only [decide_eq_true_eq]
  exact fun same => absent (same ▸ List.mem_map_of_mem listed)

theorem grouped_add {declared : List (Path × Declared)} {groups : List (Path × List Declared)}
    (grouped : Grouped declared groups) (e : Path × Declared) :
    Grouped (declared ++ [e]) (addToGroup e.1 e.2 groups) where
  once := by
    rw [addToGroup_paths]
    split
    · exact grouped.once
    · next fresh =>
        refine List.nodup_append.mpr ⟨grouped.once, List.nodup_singleton _, ?_⟩
        rintro path listed _ (_ | _) rfl
        · exact fresh listed
        · next later => cases later
  paths path := by
    rw [addToGroup_paths, List.map_append, List.mem_append, ← grouped.paths]
    split
    · next known =>
        refine ⟨.inl, fun found => found.elim id fun here => ?_⟩
        rw [List.mem_singleton.mp here]
        exact known
    · exact List.mem_append
  members g listed := by
    rw [declaredAt_append]
    rcases addToGroup_members e.1 e.2 groups grouped.once g listed with
      ⟨old, known, made⟩ | ⟨new, made⟩
    · rw [made, ← grouped.members old known]
      by_cases same : old.1 = e.1
      · rw [if_pos same, if_pos same.symm]
      · rw [if_neg same, if_neg (Ne.symm same)]
    · rw [made, if_pos rfl, declaredAt_none (fun found => new ((grouped.paths _).mpr found))]
      rfl

/-- The groups hold every declaration. -/
theorem groupByFile_grouped (declared : List (Path × Declared)) :
    Grouped declared (groupByFile declared) := by
  induction declared using List.reverseRecOn with
  | nil => exact ⟨List.nodup_nil, fun _ => Iff.rfl, fun _ listed => absurd listed List.not_mem_nil⟩
  | append_singleton declared e ih =>
      have step : groupByFile (declared ++ [e]) = addToGroup e.1 e.2 (groupByFile declared) := by
        rw [groupByFile, List.foldl_append]
        rfl
      rw [step]
      exact grouped_add ih e

/-! ## Arrivals in another order -/

section Arrivals

variable {declared declared' : List (Path × Declared)}

theorem declaredAt_perm (perm : declared.Perm declared') (path : Path) :
    (declaredAt path declared).Perm (declaredAt path declared') :=
  (perm.filter _).map _

/-- Declarations with distinct coordinates are in one order only. -/
theorem ordered_perm {ds ds' : List Declared} (distinct : (ds.map Declared.coordinate).Nodup)
    (perm : ds.Perm ds') : BuildFile.ordered ds = BuildFile.ordered ds' :=
  mergeSort_text_eq_of_perm distinct perm

/-- The declarations of a file are in one order only. -/
theorem ordered_declaredAt_perm
    (distinct : (declared.map fun e => e.2.coordinate).Nodup) (perm : declared.Perm declared')
    (path : Path) :
    BuildFile.ordered (declaredAt path declared)
      = BuildFile.ordered (declaredAt path declared') := by
  refine ordered_perm ?_ (declaredAt_perm perm path)
  have part : ((declared.filter fun e => e.1 = path).map fun e => e.2.coordinate).Nodup :=
    distinct.sublist (List.filter_sublist.map _)
  rwa [declaredAt, List.map_map]

/-- Arrivals in another order have the same files. -/
theorem groupByFile_paths (perm : declared.Perm declared') :
    ((groupByFile declared).map Prod.fst).Perm ((groupByFile declared').map Prod.fst) := by
  have one := groupByFile_grouped declared
  have other := groupByFile_grouped declared'
  rw [List.perm_ext_iff_of_nodup one.once other.once]
  intro path
  rw [one.paths, other.paths]
  exact (perm.map Prod.fst).mem_iff

/-- A group with its declarations in order. -/
def orderedGroup (g : Path × List Declared) : Path × List Declared := (g.1, BuildFile.ordered g.2)

theorem orderedGroups_perm (distinct : (declared.map fun e => e.2.coordinate).Nodup)
    (perm : declared.Perm declared') :
    ((groupByFile declared).map orderedGroup).Perm ((groupByFile declared').map orderedGroup) := by
  -- a group is settled by its path
  have shape : ∀ {l : List (Path × Declared)}, Grouped l (groupByFile l) →
      (groupByFile l).map orderedGroup
        = ((groupByFile l).map Prod.fst).map fun path =>
          (path, BuildFile.ordered (declaredAt path l)) := by
    intro l grouped
    rw [List.map_map]
    refine List.map_congr_left fun g listed => ?_
    rw [orderedGroup, grouped.members g listed]
    rfl
  rw [shape (groupByFile_grouped declared), shape (groupByFile_grouped declared')]
  have same : (fun path => (path, BuildFile.ordered (declaredAt path declared)))
      = fun path => (path, BuildFile.ordered (declaredAt path declared')) := by
    funext path
    rw [ordered_declaredAt_perm distinct perm]
  rw [same]
  exact (groupByFile_paths perm).map _

/-- The files come in one order only, and so do the declarations in each of them. -/
theorem sortedGroups_perm (distinct : (declared.map fun e => e.2.coordinate).Nodup)
    (perm : declared.Perm declared') :
    (sortedGroups (groupByFile declared)).map orderedGroup
      = (sortedGroups (groupByFile declared')).map orderedGroup := by
  have sorted : ∀ groups : List (Path × List Declared),
      (sortedGroups groups).map orderedGroup
        = (groups.map orderedGroup).mergeSort fun a b => a.1.ble b.1 := by
    intro groups
    exact List.map_mergeSort fun a _ b _ => rfl
  rw [sorted, sorted]
  refine mergeSort_eq_of_perm ?_ ?_ ?_ (orderedGroups_perm distinct perm)
  · exact fun a b c one other => ble_trans one other
  · exact fun a b => ble_total _ _
  · intro a listed b listed' one other
    obtain ⟨g, known, rfl⟩ := List.mem_map.mp listed
    obtain ⟨g', known', rfl⟩ := List.mem_map.mp listed'
    have grouped := groupByFile_grouped declared
    have path : g.1 = g'.1 := ble_antisymm one other
    rw [orderedGroup, orderedGroup, grouped.members g known, grouped.members g' known', path]

/-- The file of second names lists them in one order only. -/
theorem aliasFile_perm {coordinates coordinates' : List Coordinate} (workspace : String)
    (distinct : (coordinates.map Coordinate.text).Nodup) (perm : coordinates.Perm coordinates') :
    aliasFile workspace coordinates = aliasFile workspace coordinates' := by
  unfold aliasFile
  rw [mergeSort_text_eq_of_perm distinct perm]

/-- The content of a file depends on its declarations in order. -/
theorem content_congr {ds ds' : List Declared} (rulesLabel : String)
    (same : BuildFile.ordered ds = BuildFile.ordered ds') :
    BuildFile.content ds rulesLabel = BuildFile.content ds' rulesLabel := by
  unfold BuildFile.content
  rw [same]

end Arrivals

end MavenImport
