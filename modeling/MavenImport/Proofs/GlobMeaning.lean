/-
# Proofs.GlobMeaning -- what a glob matches

The stars of a pattern stand between literal pieces (`Glob.literals`).  Pieces cover a name if the
name is put together from them, in order and from its start to its end, with any characters between
each two (`Glob.Covers`).  A pattern is matched by trying how much a star stands for; nothing is
lost by that, since a name without line feeds is matched exactly if the literal pieces cover it
(`segmentMatches_iff`).

A glob that is admitted has a literal character in one of its patterns.  It spares every name
without that character, so no glob matches all artifacts (`glob_covers`).
-/
import MavenImport.Glob
import MavenImport.Maven.Coordinate
import MavenImport.Proofs.TextLaws

namespace MavenImport

set_option autoImplicit false

namespace Glob

/-- A name is put together from pieces, with any characters between each two. -/
inductive Covers : List (List Char) → List Char → Prop
  | whole (piece : List Char) : Covers [piece] piece
  | next {pieces : List (List Char)} {rest : List Char} (piece gap : List Char)
      (covered : Covers pieces rest) : Covers (piece :: pieces) (piece ++ gap ++ rest)

/-- The literal pieces of a pattern, with a star between each two. -/
def literals (pattern : List Char) : List (List Char) := Text.pieces (· == '*') pattern

section Segments

variable {pieces : List (List Char)} {piece pattern name : List Char} {c : Char}

/-! ## Covers -/

/-- An empty piece in front leaves open what the name starts with. -/
theorem covers_gap (others : pieces ≠ []) :
    Covers ([] :: pieces) name ↔ ∃ gap rest, name = gap ++ rest ∧ Covers pieces rest := by
  constructor
  · intro covers
    cases covers with
    | whole => exact absurd rfl others
    | next _ gap covered => exact ⟨gap, _, rfl, covered⟩
  · rintro ⟨gap, rest, rfl, covered⟩
    exact .next [] gap covered

/-- A character in front of the first piece stands in front of the name. -/
theorem covers_letter :
    Covers ((c :: piece) :: pieces) name ↔
      ∃ rest, name = c :: rest ∧ Covers (piece :: pieces) rest := by
  constructor
  · intro covers
    cases covers with
    | whole => exact ⟨piece, rfl, .whole piece⟩
    | next _ gap covered => exact ⟨piece ++ gap ++ _, rfl, .next piece gap covered⟩
  · rintro ⟨rest, rfl, covered⟩
    cases covered with
    | whole => exact .whole (c :: piece)
    | next _ gap covered => exact .next (c :: piece) gap covered

/-- A covered name holds the characters of every piece. -/
theorem covers_mem (covers : Covers pieces name) (listed : piece ∈ pieces) (held : c ∈ piece) :
    c ∈ name := by
  induction covers with
  | whole other =>
      obtain rfl := List.mem_singleton.mp listed
      exact held
  | next first gap covered ih =>
      rcases List.mem_cons.mp listed with rfl | later
      · exact List.mem_append_left _ (List.mem_append_left _ held)
      · exact List.mem_append_right _ (ih later)

/-! ## The literal pieces of a pattern -/

theorem literals_ne_nil : literals pattern ≠ [] := Text.pieces_ne_nil _ pattern

theorem literals_star : literals ('*' :: pattern) = [] :: literals pattern := by
  simp [literals, Text.pieces]

theorem literals_letter (literal : c ≠ '*') (pattern : List Char) :
    ∃ piece pieces, literals pattern = piece :: pieces ∧
      literals (c :: pattern) = (c :: piece) :: pieces := by
  cases cut : literals pattern with
  | nil => exact absurd cut literals_ne_nil
  | cons piece pieces =>
      refine ⟨piece, pieces, rfl, ?_⟩
      rw [literals] at cut
      simp [literals, Text.pieces, literal, cut]

/-! ## Matching -/

/-- A star stands for any characters but line feeds. -/
theorem segmentMatches_star : segmentMatches ('*' :: pattern) name = true ↔
    ∃ gap rest, name = gap ++ rest ∧ '\n' ∉ gap ∧ segmentMatches pattern rest = true := by
  induction name with
  | nil =>
      rw [segmentMatches]
      constructor
      · intro matched
        exact ⟨[], [], rfl, List.not_mem_nil, by simpa using matched⟩
      · rintro ⟨gap, rest, whole, -, matched⟩
        obtain ⟨rfl, rfl⟩ := List.append_eq_nil_iff.mp whole.symm
        simpa using matched
  | cons d name ih =>
      rw [segmentMatches, if_pos rfl, Bool.or_eq_true, Bool.and_eq_true, decide_eq_true_iff, ih]
      constructor
      · rintro (matched | ⟨other, gap, rest, rfl, free, matched⟩)
        · exact ⟨[], d :: name, rfl, List.not_mem_nil, matched⟩
        · exact ⟨d :: gap, rest, rfl, by simp [free, Ne.symm other], matched⟩
      · rintro ⟨gap, rest, whole, free, matched⟩
        cases gap with
        | nil =>
            rw [List.nil_append] at whole
            exact .inl (whole ▸ matched)
        | cons e gap =>
            obtain ⟨rfl, rfl⟩ := List.cons.inj whole
            exact .inr ⟨Ne.symm (List.ne_of_not_mem_cons free), gap, rest, rfl,
              List.not_mem_of_not_mem_cons free, matched⟩

/-- Every other character stands for itself. -/
theorem segmentMatches_letter (literal : c ≠ '*') : segmentMatches (c :: pattern) name = true ↔
    ∃ rest, name = c :: rest ∧ segmentMatches pattern rest = true := by
  cases name with
  | nil =>
      rw [segmentMatches, if_neg literal]
      simp
  | cons d name =>
      rw [segmentMatches, if_neg literal, Bool.and_eq_true, decide_eq_true_iff]
      constructor
      · rintro ⟨rfl, matched⟩
        exact ⟨name, rfl, matched⟩
      · rintro ⟨rest, whole, matched⟩
        obtain ⟨rfl, rfl⟩ := List.cons.inj whole
        exact ⟨rfl, matched⟩

/-- The whole of a name matches a pattern exactly if the literal pieces of the pattern cover it. -/
theorem segmentMatches_iff (free : '\n' ∉ name) :
    segmentMatches pattern name = true ↔ Covers (literals pattern) name := by
  induction pattern generalizing name with
  | nil =>
      rw [segmentMatches, List.isEmpty_iff]
      constructor
      · rintro rfl
        exact .whole []
      · intro covers
        cases covers with
        | whole => rfl
        | next _ _ covered => cases covered
  | cons c pattern ih =>
      by_cases star : c = '*'
      · subst star
        rw [segmentMatches_star, literals_star, covers_gap literals_ne_nil]
        constructor
        · rintro ⟨gap, rest, rfl, -, matched⟩
          have behind : '\n' ∉ rest := fun held => free (List.mem_append_right gap held)
          exact ⟨gap, rest, rfl, (ih behind).mp matched⟩
        · rintro ⟨gap, rest, rfl, covered⟩
          obtain ⟨before, behind⟩ := not_or.mp (mt List.mem_append.mpr free)
          exact ⟨gap, rest, rfl, before, (ih behind).mpr covered⟩
      · obtain ⟨piece, pieces, cut, joined⟩ := literals_letter star pattern
        rw [segmentMatches_letter star, joined, covers_letter, ← cut]
        refine exists_congr fun rest => and_congr_right ?_
        rintro rfl
        exact ih fun held => free (List.mem_cons_of_mem c held)

/-- A name that lacks a literal character of a pattern does not match it. -/
theorem segmentMatches_spares (literal : c ≠ '*') (held : c ∈ pattern) (free : '\n' ∉ name)
    (lacks : c ∉ name) : segmentMatches pattern name = false := by
  rw [Bool.eq_false_iff]
  intro matched
  obtain ⟨piece, listed, within⟩ := Text.mem_pieces_of_mem (· == '*') held (by simpa using literal)
  exact lacks (covers_mem ((segmentMatches_iff free).mp matched) listed within)

end Segments

/-! ## Admitted globs -/

/-- A text that is admitted as a glob has its patterns around the first colon, and a literal
character in one of them. -/
theorem ofString_admitted {s : String} {g : Glob} (admitted : ofString s = .ok g) :
    s.toList = g.group ++ ':' :: g.artifact ∧ ':' ∉ g.group ∧
      ∃ c, c ≠ '*' ∧ (c ∈ g.group ∨ c ∈ g.artifact) := by
  unfold ofString at admitted
  split at admitted
  · cases admitted
  · split at admitted
    · cases admitted
    · rename_i group artifact cut
      split at admitted
      · rename_i some
        cases admitted
        have whole : s.toList = group ++ ':' :: artifact := Text.cut?_eq_some cut
        refine ⟨whole, Text.cut?_before cut, ?_⟩
        obtain ⟨c, held, literal⟩ := List.any_eq_true.mp some
        simp only [isLiteral, Bool.and_eq_true, decide_eq_true_eq] at literal
        obtain ⟨⟨⟨star, colon⟩, -⟩, -⟩ := literal
        rw [whole] at held
        rcases List.mem_append.mp held with before | behind
        · exact ⟨c, star, .inl before⟩
        · exact ⟨c, star, .inr ((List.mem_cons.mp behind).resolve_left colon)⟩
      · cases admitted

/-- An artifact whose names consist of one letter. -/
def lettered (c : Char) : Coordinate := ⟨String.singleton c, String.singleton c, "1"⟩

/-- A glob that is admitted matches exactly those names that the literal pieces of its two patterns
cover.  There is an artifact that it does not match. -/
theorem glob_covers {s : String} {g : Glob} (admitted : ofString s = .ok g) :
    ∃ group artifact, s.toList = group ++ ':' :: artifact ∧ ':' ∉ group ∧
      (∀ G A : String, '\n' ∉ G.toList → '\n' ∉ A.toList →
        (g.matchesPair G A = true ↔
          Covers (literals group) G.toList ∧ Covers (literals artifact) A.toList)) ∧
      ∃ c : Coordinate, Coordinate.ofString? c.text = some c ∧
        g.matchesPair c.group c.artifact = false := by
  obtain ⟨whole, first, l, star, held⟩ := ofString_admitted admitted
  refine ⟨g.group, g.artifact, whole, first, fun G A freeG freeA => ?_, ?_⟩
  · rw [matchesPair, Bool.and_eq_true, segmentMatches_iff freeG, segmentMatches_iff freeA]
  · -- Of the letters a and b one is not the literal character of the glob.
    obtain ⟨d, valid, free, other⟩ : ∃ d,
        Coordinate.ofString? (lettered d).text = some (lettered d) ∧ '\n' ∉ [d] ∧ l ∉ [d] := by
      by_cases same : l = 'a'
      · exact ⟨'b', by decide, by decide, by rw [same]; decide⟩
      · exact ⟨'a', by decide, by decide, by simpa using same⟩
    refine ⟨lettered d, valid, ?_⟩
    rw [matchesPair, Bool.and_eq_false_iff]
    rcases held with before | behind
    · exact .inl (segmentMatches_spares star before (by simpa [lettered] using free)
        (by simpa [lettered] using other))
    · exact .inr (segmentMatches_spares star behind (by simpa [lettered] using free)
        (by simpa [lettered] using other))

/-- A glob with stars beside each other and with characters of other pattern languages. -/
theorem starred_covers :
    ofString "org.**.a+:*-ktx*" = .ok ⟨"org.**.a+".toList, "*-ktx*".toList⟩ ∧
    ∃ group artifact, "org.**.a+:*-ktx*".toList = group ++ ':' :: artifact ∧ ':' ∉ group ∧
      (∀ G A : String, '\n' ∉ G.toList → '\n' ∉ A.toList →
        (matchesPair ⟨"org.**.a+".toList, "*-ktx*".toList⟩ G A = true ↔
          Covers (literals group) G.toList ∧ Covers (literals artifact) A.toList)) ∧
      ∃ c : Coordinate, Coordinate.ofString? c.text = some c ∧
        matchesPair ⟨"org.**.a+".toList, "*-ktx*".toList⟩ c.group c.artifact = false := by
  have admitted : ofString "org.**.a+:*-ktx*" = .ok ⟨"org.**.a+".toList, "*-ktx*".toList⟩ := by
    rfl
  exact ⟨admitted, glob_covers admitted⟩

end Glob

end MavenImport
