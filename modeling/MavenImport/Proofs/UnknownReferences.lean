/-
# Proofs.UnknownReferences -- a reference without a value is left in its place

References are read from the left: one reaches from a dollar sign and a brace to the next
closing brace, whatever stands between, and the text behind it is read on (`Mentions`).  A pass
changes a text only at references that are looked up with success, so a text none of whose
references means a key is left as it is (`Properties.resolve_unknown`).

A name means the key it is, and the key behind `project.` or `pom.`.  But the two parts are
also taken out further inside a name, where they first stand, and that can be a key too
(`inner_part_taken_out`); the theorem has to ask that it is none.
-/
import MavenImport.Proofs.Expansion

namespace MavenImport

set_option autoImplicit false

/-! ## Taking out a part -/

/-- The first place of a pattern in a text, by what stands before and behind it. -/
def Text.FirstAt (pattern cs before behind : List Char) : Prop :=
  cs = before ++ pattern ++ behind ∧
    ∀ before' behind', cs = before' ++ pattern ++ behind' → before.length ≤ before'.length

/-- Taking out a pattern leaves the text, or what stands around its first place. -/
theorem Text.removeFirst_cases (pattern : List Char) : ∀ cs : List Char,
    removeFirst pattern cs = cs ∨
      ∃ before behind, FirstAt pattern cs before behind ∧
        removeFirst pattern cs = before ++ behind
  | [] => .inl rfl
  | c :: cs => by
      rw [removeFirst]
      split
      · next rest starts =>
          have here := (afterStart?_eq_some_iff ..).mp starts
          exact .inr ⟨[], rest, ⟨here, fun _ _ _ => Nat.zero_le _⟩, rfl⟩
      · next starts =>
          obtain same | ⟨before, behind, ⟨found, first⟩, removed⟩ := removeFirst_cases pattern cs
          · exact .inl (by rw [same])
          · refine .inr ⟨c :: before, behind, ⟨by simp [found], ?_⟩, by simp [removed]⟩
            rintro (_ | ⟨_, before'⟩) behind' other
            · have here := (afterStart?_eq_some_iff ..).mpr other
              cases starts.symm.trans here
            · simp only [List.cons_append, List.cons.injEq] at other
              exact Nat.succ_le_succ (first before' behind' other.2)

namespace Properties

/-! ## The references of a text -/

/-- A reference of this name opens the text, and this is the rest. -/
def Opens (cs name rest : List Char) : Prop :=
  name ≠ [] ∧ '\x7d' ∉ name ∧ cs = referenceText name ++ rest

/-- The names of the references of a text.  A reference hides what it reaches over. -/
inductive Mentions : List Char → List Char → Prop where
  | here {cs name rest : List Char} (opens : Opens cs name rest) : Mentions cs name
  | behind {cs other rest name : List Char} (opens : Opens cs other rest)
      (mentions : Mentions rest name) : Mentions cs name
  | later {c : Char} {cs name : List Char} (unopened : ∀ other rest, ¬ Opens (c :: cs) other rest)
      (mentions : Mentions cs name) : Mentions (c :: cs) name

theorem Opens.unique {cs name name' rest rest' : List Char} (one : Opens cs name rest)
    (other : Opens cs name' rest') : name = name' ∧ rest = rest' := by
  have same := one.2.2.symm.trans other.2.2
  simp only [referenceText, List.cons_append, List.append_assoc, List.nil_append,
    List.cons.injEq, true_and] at same
  exact Text.append_separator_inj one.2.1 other.2.1 same

/-- Where a reference opens the text, the others stand behind it. -/
theorem Mentions.opened {cs name rest other : List Char} (opens : Opens cs name rest)
    (mentions : Mentions cs other) : other = name ∨ Mentions rest other := by
  cases mentions with
  | here opens' => exact .inl (opens'.unique opens).1
  | behind opens' mentions => exact .inr ((opens'.unique opens).2 ▸ mentions)
  | later unopened _ => exact absurd opens (unopened _ _)

theorem not_mentions_nil {name : List Char} : ¬ Mentions [] name := by
  rintro (⟨-, -, written⟩ | ⟨⟨-, -, written⟩, -⟩) <;> simp [referenceText] at written

/-- What a pass reads at a place is the reference that opens there. -/
theorem reads_iff {c : Char} {cs name rest : List Char} :
    (if c = '$' ∧ cs.head? = some '\x7b' then referenceName? cs.tail else none)
      = some (name, rest) ↔ Opens (c :: cs) name rest := by
  constructor
  · intro read
    split at read
    · next opening =>
        obtain ⟨rfl, brace⟩ := opening
        obtain ⟨cs, rfl⟩ := List.head?_eq_some_iff.mp brace
        rw [List.tail_cons, referenceName?] at read
        split at read
        · cases read
        · next named =>
            have rest_found := Text.cut?_eq_some read
            refine ⟨?_, Text.cut?_before read, by simp [referenceText, rest_found]⟩
            rintro rfl
            exact named rest read
    · cases read
  · rintro ⟨named, closing, written⟩
    obtain ⟨n, ns, rfl⟩ := List.exists_cons_of_ne_nil named
    rw [referenceText] at written
    obtain ⟨rfl, rfl⟩ := List.cons.inj written
    have cut := Text.cut?_append rest closing
    simp only [List.cons_append] at cut
    simp [referenceName?, cut]

/-! ## Looking up -/

/-- The parts without which a name may be meant. -/
def parts : List String := ["project.", "pom."]

/-- A name that is no key, and is none without one of the parts at the place where that first
stands, has no value. -/
theorem lookup?_none {properties : Properties} {name : List Char}
    (unknown : properties.find? (String.ofList name) = none)
    (shortened : ∀ part ∈ parts, ∀ before behind, Text.FirstAt part.toList name before behind →
      properties.find? (String.ofList (before ++ behind)) = none) :
    properties.lookup? (String.ofList name) = none := by
  have without : ∀ part ∈ parts,
      properties.find? (String.ofList (Text.removeFirst part.toList name)) = none := by
    intro part listed
    obtain same | ⟨before, behind, first, removed⟩ := Text.removeFirst_cases part.toList name
    · rw [same, unknown]
    · rw [removed, shortened part listed before behind first]
  simp only [lookup?, candidates, String.toList_ofList, List.findSome?_cons, unknown,
    without "project." (by decide), without "pom." (by decide), List.findSome?_nil]

/-! ## Texts without a known reference -/

/-- A pass leaves a text whose references have no value. -/
theorem substituteFrom_unknown (properties : Properties) : ∀ (fuel : Nat) {cs : List Char},
    (∀ name, Mentions cs name → properties.lookup? (String.ofList name) = none) →
    substituteFrom properties fuel cs = cs
  | 0, _, _ => rfl
  | _ + 1, [], _ => rfl
  | fuel + 1, c :: cs, unknown => by
      rw [substituteFrom]
      split
      · next name rest read =>
          have opens := reads_iff.mp read
          rw [unknown name (.here opens),
            substituteFrom_unknown properties fuel fun other held =>
              unknown other (.behind opens held)]
          exact opens.2.2.symm
      · next unread =>
          have unopened : ∀ other rest, ¬ Opens (c :: cs) other rest := fun other rest opens => by
            rw [reads_iff.mpr opens] at unread
            cases unread
          rw [substituteFrom_unknown properties fuel fun other held =>
            unknown other (.later unopened held)]

/-- A text is left as it is when no reference in it has a name that is a key or one of the parts
and a key, and none has a part further inside whose removal makes it a key. -/
theorem resolve_unknown (properties : Properties) (s : String)
    (unknown : ∀ name, Mentions s.toList name → ∀ key, properties.contains key = true →
      name ≠ key.toList ∧ ∀ part ∈ parts, name ≠ part.toList ++ key.toList)
    (inner : ∀ name, Mentions s.toList name → ∀ part ∈ parts, ∀ before behind, before ≠ [] →
      Text.FirstAt part.toList name before behind →
        properties.contains (String.ofList (before ++ behind)) = false) :
    properties.resolve s = s := by
  refine properties.resolve_fixed ?_
  have absent : ∀ key, properties.contains key = false → properties.find? key = none :=
    fun key none => by simpa [Table.contains] using none
  rw [substitute, substituteFrom_unknown properties _ fun name held => ?_, String.ofList_toList]
  refine lookup?_none (absent _ ?_) fun part listed before behind first => absent _ ?_
  · refine Bool.eq_false_iff.mpr fun known => (unknown name held _ known).1 ?_
    rw [String.toList_ofList]
  · cases before with
    | cons => exact inner name held part listed _ _ (by simp) first
    | nil =>
        refine Bool.eq_false_iff.mpr fun known => (unknown name held _ known).2 part listed ?_
        simpa using first.1

/-- The reference to `b` is no reference here: the one in front of it reaches to its end. -/
theorem overlapped_unknown :
    ((∀ name, Mentions "$\x7ba$\x7bb\x7d".toList name →
        ∀ key, Table.contains ⟨[("b", "1")]⟩ key = true →
          name ≠ key.toList ∧ ∀ part ∈ parts, name ≠ part.toList ++ key.toList) ∧
      ∀ name, Mentions "$\x7ba$\x7bb\x7d".toList name → ∀ part ∈ parts, ∀ before behind,
        before ≠ [] → Text.FirstAt part.toList name before behind →
          Table.contains ⟨[("b", "1")]⟩ (String.ofList (before ++ behind)) = false) ∧
      resolve ⟨[("b", "1")]⟩ "$\x7ba$\x7bb\x7d" = "$\x7ba$\x7bb\x7d" := by
  have only : ∀ name, Mentions "$\x7ba$\x7bb\x7d".toList name → name = "a$\x7bb".toList := by
    intro name mentions
    have opens : Opens "$\x7ba$\x7bb\x7d".toList "a$\x7bb".toList [] :=
      ⟨by decide, by decide, by decide⟩
    exact (mentions.opened opens).resolve_right not_mentions_nil
  have unknown : ∀ name, Mentions "$\x7ba$\x7bb\x7d".toList name →
      ∀ key, Table.contains ⟨[("b", "1")]⟩ key = true →
        name ≠ key.toList ∧ ∀ part ∈ parts, name ≠ part.toList ++ key.toList := by
    intro name mentions key known
    obtain rfl := only name mentions
    obtain rfl : "b" = key := by simpa [Table.contains, Table.find?, Table.findEntry] using known
    decide
  have inner : ∀ name, Mentions "$\x7ba$\x7bb\x7d".toList name → ∀ part ∈ parts,
      ∀ before behind, before ≠ [] → Text.FirstAt part.toList name before behind →
        Table.contains ⟨[("b", "1")]⟩ (String.ofList (before ++ behind)) = false := by
    intro name mentions part listed before behind some_before first
    obtain rfl := only name mentions
    -- The name has no room for a part and something before it.
    have room : ∀ part ∈ parts, "a$\x7bb".toList.length ≤ part.toList.length := by decide
    have fits := congrArg List.length first.1
    have longer := List.length_pos_iff.mpr some_before
    simp only [List.length_append] at fits
    exact absurd (room part listed) (by omega)
  exact ⟨⟨unknown, inner⟩, resolve_unknown _ _ unknown inner⟩

/-- A part inside a name is taken out as well: `my.project.version` means `my.version`. -/
theorem inner_part_taken_out :
    ¬ ∀ (properties : Properties) (s : String),
      (∀ name, Mentions s.toList name → ∀ key, properties.contains key = true →
        name ≠ key.toList ∧ ∀ part ∈ parts, name ≠ part.toList ++ key.toList) →
      properties.resolve s = s := by
  intro kept
  have replaced : resolve ⟨[("my.version", "1")]⟩ "$\x7bmy.project.version\x7d" = "1" := by
    decide
  have same := kept ⟨[("my.version", "1")]⟩ "$\x7bmy.project.version\x7d" fun name mentions key
    known => by
      have opens : Opens "$\x7bmy.project.version\x7d".toList "my.project.version".toList [] :=
        ⟨by decide, by decide, by decide⟩
      obtain rfl := (mentions.opened opens).resolve_right not_mentions_nil
      obtain rfl : "my.version" = key := by
        simpa [Table.contains, Table.find?, Table.findEntry] using known
      decide
  rw [replaced] at same
  exact absurd same (by decide)

end Properties

end MavenImport
