/-
# Proofs.VersionOrder -- the highest of a set of versions

The keys of versions are in a total order (`compareKeys`): tokens are compared one after another,
words come before numbers, and a key that begins another one comes before it.

A set of versions has a highest one exactly if all of its versions have keys, which fails for one
reason only: a token consists of digits and is no numeral (`Readable`).  The highest version is then
a member with a greatest key, namely the first of these that the traversal of the set comes to
(`highest_first`).  A key forgets separators, leading zeros and case, so several members may have the
greatest key; the choice is the same in every traversal exactly if only one has (`highest_settled`).
-/
import Mathlib.Data.Finset.Basic
import MavenImport.Maven.Version

namespace MavenImport.Version

set_option autoImplicit false

/-! ## The order of keys -/

theorem Token.cmp_swap (a b : Token) : a.cmp b = (b.cmp a).swap := by
  cases a <;> cases b
  · exact Std.OrientedOrd.eq_swap
  · rfl
  · rfl
  · exact Std.OrientedOrd.eq_swap

instance : Std.TransCmp Token.cmp where
  eq_swap := Token.cmp_swap _ _
  isLE_trans {a b c} one other := by
    cases a <;> cases b <;> cases c <;> simp only [Token.cmp] at one other ⊢
    case word.word.word => exact Std.TransOrd.isLE_trans one other
    case number.number.number => exact Std.TransOrd.isLE_trans one other
    case word.word.number => rfl
    case word.number.word => cases other
    case word.number.number => rfl
    case number.word.word => cases one
    case number.word.number => cases one
    case number.number.word => cases other

instance : Std.LawfulEqCmp Token.cmp where
  compare_self {a} := by cases a <;> exact Std.ReflOrd.compare_self
  eq_of_compare {a b} same := by
    cases a <;> cases b
    · rw [Std.LawfulEqOrd.eq_of_compare same]
    · cases same
    · cases same
    · rw [Std.LawfulEqOrd.eq_of_compare same]

/-- Keys are compared token by token. -/
theorem compareKeys_eq : compareKeys = List.compareLex Token.cmp := by
  funext as bs
  induction as generalizing bs with
  | nil => cases bs <;> rfl
  | cons a as ih =>
      cases bs with
      | nil => rfl
      | cons b bs => rw [compareKeys, ih, List.compareLex_cons_cons]

instance : Std.TransCmp compareKeys := by
  rw [compareKeys_eq]
  infer_instance

instance : Std.LawfulEqCmp compareKeys := by
  rw [compareKeys_eq]
  infer_instance

theorem compareKeys_self (key : List Token) : compareKeys key key = .eq :=
  Std.ReflCmp.compare_self

theorem compareKeys_antisymm {a b : List Token} (le : (compareKeys a b).isLE = true)
    (ge : (compareKeys b a).isLE = true) : a = b :=
  Std.LawfulEqCmp.eq_of_compare (Std.OrientedCmp.isLE_antisymm le ge)

/-! ## Versions with a key -/

/-- A token holds a character that is no digit, or it is a numeral: decimal digits, and not too many
of them. -/
def Legible (token : List Char) : Prop :=
  (∃ c ∈ token, Text.isDigit c = false) ∨
    (∀ c ∈ token, (Text.decimalValue? c).isSome = true) ∧ token.length ≤ Text.maxNumeralDigits

/-- Every token of a version is a word or a numeral. -/
def Readable (version : String) : Prop := ∀ token ∈ tokenTexts version, Legible token

theorem natOfDigits_isSome (acc : Nat) (cs : List Char) :
    (Text.natOfDigits? acc cs).isSome = true ↔
      ∀ c ∈ cs, (Text.decimalValue? c).isSome = true := by
  induction cs generalizing acc with
  | nil => simp [Text.natOfDigits?]
  | cons c cs ih =>
      rw [Text.natOfDigits?, List.forall_mem_cons]
      cases Text.decimalValue? c with
      | none => simp
      | some d => simp [ih]

theorem token_isSome {token : List Char} (some : token ≠ []) :
    (token? token).isSome = true ↔ Legible token := by
  unfold token? Legible
  by_cases digits : token.all Text.isDigit = true
  · have none : ¬ ∃ c ∈ token, Text.isDigit c = false := by
      rintro ⟨c, held, other⟩
      rw [List.all_eq_true.mp digits c held] at other
      cases other
    rw [if_pos digits, Option.isSome_map, Text.numeral?]
    by_cases long : Text.maxNumeralDigits < token.length
    · simp [long, none]
    · simp [long, none, some, natOfDigits_isSome, Nat.le_of_not_lt long]
  · rw [if_neg digits]
    simp only [Option.isSome_some, true_iff]
    left
    simpa using digits

theorem key_isSome (version : String) : (key? version).isSome = true ↔ Readable version := by
  have all : ∀ tokens : List (List Char), (∀ token ∈ tokens, token ≠ []) →
      ((tokens.mapM token?).isSome = true ↔ ∀ token ∈ tokens, Legible token) := by
    intro tokens nonempty
    induction tokens with
    | nil => simp
    | cons token tokens ih =>
        obtain ⟨first, rest⟩ := List.forall_mem_cons.mp nonempty
        rw [List.forall_mem_cons, ← token_isSome first, ← ih rest, List.mapM_cons]
        cases token? token <;> cases tokens.mapM token? <;> simp
  refine all _ fun token listed => ?_
  have nonempty := (List.mem_filter.mp listed).2
  simpa using nonempty

section Keyed

variable {versions : List String}

theorem keyed_none : keyed? versions = none ↔
    ∃ version ∈ versions, key? version = none := by
  induction versions with
  | nil => simp [keyed?]
  | cons version versions ih =>
      rw [List.exists_mem_cons_iff, ← ih, keyed?, List.mapM_cons, ← keyed?]
      cases key? version <;> cases keyed? versions <;> simp

/-- Versions are listed in their order, each with its key. -/
theorem keyed_some {entries : List (String × List Token)} (keyed : keyed? versions = some entries) :
    versions = entries.map Prod.fst ∧ ∀ e ∈ entries, key? e.1 = some e.2 := by
  induction versions generalizing entries with
  | nil =>
      cases keyed
      exact ⟨rfl, fun e listed => absurd listed List.not_mem_nil⟩
  | cons version versions ih =>
      rw [keyed?, List.mapM_cons, ← keyed?] at keyed
      cases first : key? version with
      | none => simp [first] at keyed
      | some key =>
          cases rest : keyed? versions with
          | none => simp [first, rest] at keyed
          | some others =>
              obtain rfl : (version, key) :: others = entries := by
                simpa [first, rest] using keyed
              obtain ⟨names, keys⟩ := ih rest
              exact ⟨by rw [names]; rfl, List.forall_mem_cons.mpr ⟨first, keys⟩⟩

theorem highest_unordered (unordered : ∃ version ∈ versions, key? version = none) :
    highest versions = .error .noNumber := by
  rw [highest, keyed_none.mpr unordered]

theorem highest_ordered (some : versions ≠ [])
    (ordered : ¬ ∃ version ∈ versions, key? version = none) :
    ∃ version, highest versions = .ok version := by
  unfold highest
  rcases keyed : keyed? versions with - | ⟨- | e⟩
  · exact absurd (keyed_none.mp keyed) ordered
  · exact absurd (keyed_some keyed).1 some
  · exact ⟨_, rfl⟩

end Keyed

/-! ## The first of the greatest -/

/-- An entry is the first with a greatest key: those before it have smaller ones, and none after it
has a greater one. -/
def FirstGreatest (entries : List (String × List Token)) (e : String × List Token) : Prop :=
  ∃ before after, entries = before ++ e :: after ∧
    (∀ b ∈ before, compareKeys b.2 e.2 = .lt) ∧ ∀ a ∈ after, (compareKeys a.2 e.2).isLE = true

namespace FirstGreatest

variable {entries : List (String × List Token)} {e other : String × List Token}

theorem bounds (first : FirstGreatest entries e) :
    ∀ d ∈ entries, (compareKeys d.2 e.2).isLE = true := by
  obtain ⟨before, after, rfl, smaller, rest⟩ := first
  intro d listed
  rcases List.mem_append.mp listed with early | late
  · rw [smaller d early]
    rfl
  · rcases List.mem_cons.mp late with rfl | later
    · rw [compareKeys_self]
      rfl
    · exact rest d later

/-- A smaller entry in front changes nothing. -/
theorem cons_smaller (first : FirstGreatest entries e)
    (smaller : compareKeys other.2 e.2 = .lt) : FirstGreatest (other :: entries) e := by
  obtain ⟨before, after, rfl, earlier, rest⟩ := first
  exact ⟨other :: before, after, rfl, List.forall_mem_cons.mpr ⟨smaller, earlier⟩, rest⟩

/-- An entry that is no greater than the one in front of it changes nothing. -/
theorem insert_lesser {front : String × List Token} (first : FirstGreatest (front :: entries) e)
    (lesser : (compareKeys other.2 front.2).isLE = true) :
    FirstGreatest (front :: other :: entries) e := by
  obtain ⟨before, after, split, earlier, rest⟩ := first
  cases before with
  | nil =>
      obtain ⟨rfl, rfl⟩ := List.cons.inj split
      exact ⟨[], other :: entries, rfl, earlier, List.forall_mem_cons.mpr ⟨lesser, rest⟩⟩
  | cons b before =>
      obtain ⟨rfl, rfl⟩ := List.cons.inj split
      obtain ⟨front', earlier'⟩ := List.forall_mem_cons.mp earlier
      have smaller := Std.TransCmp.lt_of_isLE_of_lt lesser front'
      exact ⟨front :: other :: before, after, rfl,
        List.forall_mem_cons.mpr ⟨front', List.forall_mem_cons.mpr ⟨smaller, earlier'⟩⟩, rest⟩

end FirstGreatest

/-- The search keeps the first of the greatest entries that it has seen. -/
theorem greatest_first (entries : List (String × List Token)) (best : String × List Token) :
    FirstGreatest (best :: entries) (greatest best entries) := by
  induction entries generalizing best with
  | nil => exact ⟨[], [], rfl, by simp, by simp⟩
  | cons e entries ih =>
      rw [greatest]
      by_cases greater : compareKeys e.2 best.2 = .gt
      · rw [if_pos greater]
        have found := ih e
        refine found.cons_smaller ?_
        exact Std.TransCmp.lt_of_lt_of_isLE (Std.OrientedCmp.lt_of_gt greater)
          (found.bounds e List.mem_cons_self)
      · rw [if_neg greater]
        exact (ih best).insert_lesser (Ordering.isLE_iff_ne_gt.mpr greater)

section Highest

variable {versions : List String} {v w : String}

theorem highest_first (found : highest versions = .ok v) :
    ∃ entries key, keyed? versions = some entries ∧ FirstGreatest entries (v, key) := by
  unfold highest at found
  split at found
  · cases found
  · cases found
  · next e entries keyed =>
      obtain rfl := Except.ok.inj found
      exact ⟨e :: entries, (greatest e entries).2, keyed, greatest_first entries e⟩

/-- The highest version is a member with a key, and no member has a greater one. -/
theorem highest_greatest (found : highest versions = .ok v) :
    v ∈ versions ∧ ∃ key, key? v = some key ∧
      ∀ w ∈ versions, ∃ k, key? w = some k ∧ (compareKeys k key).isLE = true := by
  obtain ⟨entries, key, keyed, first⟩ := highest_first found
  obtain ⟨rfl, keys⟩ := keyed_some keyed
  have listed : (v, key) ∈ entries := by
    obtain ⟨before, after, rfl, -, -⟩ := first
    exact List.mem_append_right before List.mem_cons_self
  refine ⟨List.mem_map_of_mem listed, key, keys _ listed, fun w member => ?_⟩
  obtain ⟨e, among, rfl⟩ := List.mem_map.mp member
  exact ⟨e.2, keys e among, first.bounds e among⟩

/-- Versions have a highest one if and only if all of them can be read. -/
theorem highest_isOk (some : versions ≠ []) :
    (∃ v, highest versions = .ok v) ↔ ∀ v ∈ versions, Readable v := by
  constructor
  · rintro ⟨v, found⟩ w member
    obtain ⟨-, key, -, greatest⟩ := highest_greatest found
    obtain ⟨k, own, -⟩ := greatest w member
    exact (key_isSome w).mp (by rw [own]; rfl)
  · intro readable
    refine highest_ordered some ?_
    rintro ⟨w, listed, none⟩
    have own := (key_isSome w).mpr (readable w listed)
    rw [none] at own
    cases own

/-- A version in front is the highest if its key is that of the highest. -/
theorem highest_front (found : highest (w :: versions) = .ok v) (level : key? w = key? v) :
    w = v := by
  obtain ⟨entries, key, keyed, before, after, rfl, smaller, -⟩ := highest_first found
  obtain ⟨names, keys⟩ := keyed_some keyed
  cases before with
  | nil => exact (List.cons.inj names).1
  | cons b before =>
      have front : w = b.1 := (List.cons.inj names).1
      have own : key? v = some key := keys (v, key) (by simp)
      have same : some b.2 = some key := by
        rw [← own, ← level, front, keys b List.mem_cons_self]
      have below := smaller b List.mem_cons_self
      rw [Option.some.inj same, compareKeys_self] at below
      cases below

/-- Two highest versions of the same members have one key. -/
theorem highest_level {versions' : List String} (members : ∀ u, u ∈ versions' ↔ u ∈ versions)
    (found : highest versions = .ok v) (found' : highest versions' = .ok w) :
    key? w = key? v := by
  obtain ⟨member, key, own, greatest⟩ := highest_greatest found
  obtain ⟨member', key', own', greatest'⟩ := highest_greatest found'
  obtain ⟨k, one, below⟩ := greatest w ((members w).mp member')
  obtain ⟨k', other, below'⟩ := greatest' v ((members v).mpr member)
  obtain rfl : key' = k := Option.some.inj (own'.symm.trans one)
  obtain rfl : key = k' := Option.some.inj (own.symm.trans other)
  rw [own, own', compareKeys_antisymm below below']

end Highest

/-! ## Sets -/

/-- A list goes through a set, in some order. -/
def Traverses (versions : List String) (s : Finset String) : Prop :=
  versions.Nodup ∧ ∀ v, v ∈ versions ↔ v ∈ s

/-- A member of a set has a key, and no member has a greater one. -/
def IsHighest (s : Finset String) (v : String) : Prop :=
  v ∈ s ∧ ∃ key, key? v = some key ∧
    ∀ w ∈ s, ∃ k, key? w = some k ∧ compareKeys k key ≠ .gt

/-- Any member of a set can come first. -/
theorem traverses_front {versions : List String} {s : Finset String} {v : String}
    (traverses : Traverses versions s) (member : v ∈ s) :
    Traverses (v :: versions.erase v) s := by
  obtain ⟨once, members⟩ := traverses
  have perm : (v :: versions.erase v).Perm versions :=
    (List.perm_cons_erase ((members v).mpr member)).symm
  exact ⟨perm.nodup_iff.mpr once, fun w => perm.mem_iff.trans (members w)⟩

/-- A nonempty set has a highest version in every traversal exactly if all of its versions can be
read.  It is then a member with a greatest key, and the same in every traversal exactly if no other
member has its key. -/
theorem highest_settled {s : Finset String} (nonempty : s.Nonempty) :
    ∀ versions, Traverses versions s →
      ((∃ v, highest versions = .ok v) ↔ ∀ v ∈ s, Readable v) ∧
      ∀ v, highest versions = .ok v → IsHighest s v ∧
        ((∀ versions', Traverses versions' s → highest versions' = .ok v) ↔
          ∀ w ∈ s, key? w = key? v → w = v) := by
  have found_iff : ∀ versions, Traverses versions s →
      ((∃ v, highest versions = .ok v) ↔ ∀ v ∈ s, Readable v) := by
    intro versions ⟨_, members⟩
    obtain ⟨u, member⟩ := nonempty
    rw [highest_isOk (List.ne_nil_of_mem ((members u).mpr member))]
    simp only [members]
  intro versions traverses
  refine ⟨found_iff versions traverses, fun v found => ?_⟩
  have members := traverses.2
  obtain ⟨member, key, own, greatest⟩ := highest_greatest found
  refine ⟨⟨(members v).mp member, key, own, fun w among => ?_⟩, fun settled w among level => ?_,
    fun alone versions' traverses' => ?_⟩
  · obtain ⟨k, some, below⟩ := greatest w ((members w).mpr among)
    exact ⟨k, some, Ordering.isLE_iff_ne_gt.mp below⟩
  · -- a member that is level with the highest one can come first, and is the highest then
    exact highest_front (settled _ (traverses_front traverses among)) level
  · obtain ⟨v', found'⟩ := (found_iff versions' traverses').mpr
      ((found_iff versions traverses).mp ⟨v, found⟩)
    have same : ∀ u, u ∈ versions' ↔ u ∈ versions := fun u =>
      (traverses'.2 u).trans (members u).symm
    have level := highest_level same found found'
    rw [found', alone v' ((traverses'.2 v').mp (highest_greatest found').1) level]

/-- Numbers are compared as such, and words come before them, in whatever order the set is gone
through. -/
theorem tenth_settled :
    ({"2.8.0", "2.10.0", "<SOME_VERSION>"} : Finset String).Nonempty ∧
      ∀ versions, Traverses versions {"2.8.0", "2.10.0", "<SOME_VERSION>"} →
        highest versions = .ok "2.10.0" := by
  have nonempty : ({"2.8.0", "2.10.0", "<SOME_VERSION>"} : Finset String).Nonempty := by simp
  have traverses : Traverses ["2.8.0", "2.10.0", "<SOME_VERSION>"]
      {"2.8.0", "2.10.0", "<SOME_VERSION>"} := ⟨by decide, by simp⟩
  have found : highest ["2.8.0", "2.10.0", "<SOME_VERSION>"] = .ok "2.10.0" := by decide
  have alone : ∀ w ∈ ({"2.8.0", "2.10.0", "<SOME_VERSION>"} : Finset String),
      key? w = key? "2.10.0" → w = "2.10.0" := by decide
  exact ⟨nonempty, ((highest_settled nonempty _ traverses).2 _ found).2.mpr alone⟩

/-- A set has no highest version for a token that looks like a number and is none, and it has
either of two that differ in a separator, depending on which comes first. -/
theorem highest_unsettled :
    highest ["²"] = .error .noNumber ∧
      highest ["1.0", "1-0"] = .ok "1.0" ∧ highest ["1-0", "1.0"] = .ok "1-0" := by
  decide

end MavenImport.Version
