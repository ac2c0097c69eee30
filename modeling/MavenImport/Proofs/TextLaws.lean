/-
# Proofs.TextLaws -- what cutting finds in texts that were put together

Cutting at a character that the first part does not hold gives back that part and the rest
(`cut?_append`), so texts of such parts agree only if their parts do.
-/
import MavenImport.Text.Cut

namespace MavenImport.Text

set_option autoImplicit false

/-- Cutting at the first separator finds what stands before and after it. -/
theorem cut?_append {separator : Char} {first : List Char} (rest : List Char)
    (absent : separator ∉ first) :
    cut? separator (first ++ separator :: rest) = some (first, rest) := by
  induction first with
  | nil => simp [cut?]
  | cons c cs ih =>
      simp only [List.mem_cons, not_or] at absent
      simp [cut?, Ne.symm absent.1, ih absent.2]

theorem append_separator_inj {separator : Char} {first first' rest rest' : List Char}
    (absent : separator ∉ first) (absent' : separator ∉ first')
    (same : first ++ separator :: rest = first' ++ separator :: rest') :
    first = first' ∧ rest = rest' := by
  have cut := cut?_append rest absent
  rw [same, cut?_append rest' absent'] at cut
  cases cut
  exact ⟨rfl, rfl⟩

theorem not_mem_of_mem_pieces {isSeparator : Char → Bool} :
    ∀ {cs piece : List Char}, piece ∈ pieces isSeparator cs → ∀ c ∈ piece, isSeparator c = false
  | [], piece, listed, c, held => by
      obtain rfl := List.mem_singleton.mp listed
      cases held
  | c' :: cs, piece, listed, c, held => by
      unfold pieces at listed
      cases separates : isSeparator c' with
      | true =>
          rw [if_pos separates] at listed
          rcases List.mem_cons.mp listed with rfl | later
          · cases held
          · exact not_mem_of_mem_pieces later c held
      | false =>
          rw [if_neg (by simp [separates])] at listed
          cases rest : pieces isSeparator cs with
          | nil => exact absurd rest (pieces_ne_nil isSeparator cs)
          | cons p ps =>
              rw [rest] at listed
              rcases List.mem_cons.mp listed with rfl | later
              · rcases List.mem_cons.mp held with rfl | within
                · exact separates
                · exact not_mem_of_mem_pieces (rest ▸ List.mem_cons_self) c within
              · exact not_mem_of_mem_pieces (rest ▸ List.mem_cons_of_mem p later) c held

/-- What stands in a piece stands in the text. -/
theorem mem_of_mem_pieces {isSeparator : Char → Bool} {c : Char} :
    ∀ {cs piece : List Char}, piece ∈ pieces isSeparator cs → c ∈ piece → c ∈ cs
  | [], piece, listed, held => by
      obtain rfl := List.mem_singleton.mp listed
      cases held
  | c' :: cs, piece, listed, held => by
      unfold pieces at listed
      split at listed
      · rcases List.mem_cons.mp listed with rfl | later
        · cases held
        · exact List.mem_cons_of_mem c' (mem_of_mem_pieces later held)
      · cases rest : pieces isSeparator cs with
        | nil => exact absurd rest (pieces_ne_nil isSeparator cs)
        | cons p ps =>
            rw [rest] at listed
            rcases List.mem_cons.mp listed with rfl | later
            · rcases List.mem_cons.mp held with rfl | within
              · exact List.mem_cons_self
              · exact List.mem_cons_of_mem c' (mem_of_mem_pieces (rest ▸ List.mem_cons_self) within)
            · exact List.mem_cons_of_mem c'
                (mem_of_mem_pieces (rest ▸ List.mem_cons_of_mem p later) held)

/-- No piece holds the separator. -/
theorem not_mem_of_mem_splitAt {separator : Char} {s piece : String}
    (listed : piece ∈ splitAt separator s) : separator ∉ piece.toList := by
  obtain ⟨cs, member, rfl⟩ := List.mem_map.mp listed
  rw [String.toList_ofList]
  intro held
  have other := not_mem_of_mem_pieces member separator held
  simp at other

/-- The pieces of two texts with a separator between them are those of both. -/
theorem pieces_append_separator {isSeparator : Char → Bool} {c : Char} (rest : List Char)
    (separates : isSeparator c = true) :
    ∀ first : List Char,
      pieces isSeparator (first ++ c :: rest) = pieces isSeparator first ++ pieces isSeparator rest
  | [] => by simp [pieces, separates]
  | c' :: first => by
      have later := pieces_append_separator rest separates first
      rw [List.cons_append, pieces, later, pieces]
      by_cases other : isSeparator c' = true
      · rw [if_pos other, if_pos other]
        rfl
      · rw [if_neg other, if_neg other]
        cases found : pieces isSeparator first with
        | nil => exact absurd found (pieces_ne_nil isSeparator first)
        | cons p ps => rfl

/-- A text without a separator is in one piece. -/
theorem pieces_of_none {isSeparator : Char → Bool} :
    ∀ {cs : List Char}, (∀ c ∈ cs, isSeparator c = false) → pieces isSeparator cs = [cs]
  | [], _ => rfl
  | c :: cs, other => by
      rw [pieces, pieces_of_none fun c' later => other c' (List.mem_cons_of_mem c later),
        other c List.mem_cons_self]
      rfl

/-- What stands in a text stands in one of its pieces, or it is a separator. -/
theorem mem_pieces_of_mem (isSeparator : Char → Bool) {c : Char} :
    ∀ {cs : List Char}, c ∈ cs → isSeparator c = false → ∃ p ∈ pieces isSeparator cs, c ∈ p
  | c' :: cs, held, own => by
      unfold pieces
      by_cases separates : isSeparator c' = true
      · rw [if_pos separates]
        rcases List.mem_cons.mp held with rfl | later
        · rw [own] at separates
          cases separates
        · obtain ⟨p, listed, within⟩ := mem_pieces_of_mem isSeparator later own
          exact ⟨p, List.mem_cons_of_mem _ listed, within⟩
      · rw [if_neg separates]
        cases found : pieces isSeparator cs with
        | nil => exact absurd found (pieces_ne_nil isSeparator cs)
        | cons p ps =>
            rcases List.mem_cons.mp held with rfl | later
            · exact ⟨c :: p, List.mem_cons_self, List.mem_cons_self⟩
            · obtain ⟨q, listed, within⟩ := mem_pieces_of_mem isSeparator later own
              rw [found] at listed
              rcases List.mem_cons.mp listed with rfl | member
              · exact ⟨c' :: q, List.mem_cons_self, List.mem_cons_of_mem c' within⟩
              · exact ⟨q, List.mem_cons_of_mem _ member, within⟩

/-- A text is told by its pieces. -/
theorem pieces_injective {separator : Char} :
    ∀ {cs cs' : List Char}, pieces (· == separator) cs = pieces (· == separator) cs' → cs = cs'
  | [], [], _ => rfl
  | [], c :: cs, same => by
      rw [pieces, pieces] at same
      split at same
      · exact absurd (List.cons.inj same).2.symm (pieces_ne_nil _ cs)
      · split at same <;> cases same
  | c :: cs, [], same => by
      rw [pieces, pieces] at same
      split at same
      · exact absurd (List.cons.inj same).2 (pieces_ne_nil _ cs)
      · split at same <;> cases same
  | c :: cs, c' :: cs', same => by
      obtain ⟨p, ps, first⟩ := List.exists_cons_of_ne_nil (pieces_ne_nil (· == separator) cs)
      obtain ⟨q, qs, second⟩ := List.exists_cons_of_ne_nil (pieces_ne_nil (· == separator) cs')
      rw [pieces, pieces, first, second] at same
      by_cases one : c = separator <;> by_cases other : c' = separator
      · have rest : pieces (· == separator) cs = pieces (· == separator) cs' := by
          rw [first, second]
          simpa [one, other] using same
        rw [one, other, pieces_injective rest]
      · simp [one, other] at same
      · simp [one, other] at same
      · have both : (c = c' ∧ p = q) ∧ ps = qs := by simpa [one, other] using same
        have rest : pieces (· == separator) cs = pieces (· == separator) cs' := by
          rw [first, second, both.1.2, both.2]
        rw [both.1.1, pieces_injective rest]

theorem splitAt_injective {separator : Char} {s t : String}
    (same : splitAt separator s = splitAt separator t) : s = t := by
  have lists := (List.map_inj_right fun _ _ => String.ofList_injective).mp same
  exact String.toList_injective (pieces_injective lists)

/-- Replacing the separator by a character that does not occur leaves the pieces as they are. -/
theorem pieces_replace (old : Char) {new : Char} :
    ∀ {cs : List Char}, new ∉ cs →
      pieces (· == new) (cs.map fun c => if c = old then new else c) = pieces (· == old) cs
  | [], _ => rfl
  | c :: cs, absent => by
      simp only [List.mem_cons, not_or] at absent
      have later := pieces_replace old absent.2
      rw [List.map_cons, pieces, later, pieces]
      by_cases same : c = old
      · simp [same]
      · simp [same, Ne.symm absent.1]

/-- A text is replaced character by character. -/
theorem splitAt_replaceChar {old new : Char} {s : String} (absent : new ∉ s.toList) :
    splitAt new (replaceChar old new s) = splitAt old s := by
  unfold splitAt replaceChar
  rw [String.toList_ofList, pieces_replace old absent]

theorem cut?_none {separator : Char} {cs : List Char} (absent : separator ∉ cs) :
    cut? separator cs = none := by
  induction cs with
  | nil => rfl
  | cons c cs ih =>
      simp only [List.mem_cons, not_or] at absent
      simp [cut?, Ne.symm absent.1, ih absent.2]

/-- What is cut at a separator is put together again with it. -/
theorem cut?_eq_some {separator : Char} {cs first rest : List Char}
    (cut : cut? separator cs = some (first, rest)) : cs = first ++ separator :: rest := by
  induction cs generalizing first with
  | nil => simp [cut?] at cut
  | cons c cs ih =>
      by_cases same : c = separator
      · simp only [cut?, if_pos same, Option.some.injEq, Prod.mk.injEq] at cut
        simp [same, ← cut.1, cut.2]
      · simp only [cut?, if_neg same, Option.map_eq_some_iff, Prod.exists, Prod.mk.injEq] at cut
        obtain ⟨before, after, found, first, rest⟩ := cut
        subst first rest
        rw [ih found, List.cons_append]

/-- What stands before the first separator does not hold it. -/
theorem cut?_before {separator : Char} {cs first rest : List Char}
    (cut : cut? separator cs = some (first, rest)) : separator ∉ first := by
  induction cs generalizing first with
  | nil => simp [cut?] at cut
  | cons c cs ih =>
      by_cases same : c = separator
      · simp only [cut?, if_pos same, Option.some.injEq, Prod.mk.injEq] at cut
        simp [← cut.1]
      · simp only [cut?, if_neg same, Option.map_eq_some_iff, Prod.exists, Prod.mk.injEq] at cut
        obtain ⟨before, after, found, first, rest⟩ := cut
        subst first rest
        simp [Ne.symm same, ih found]

end MavenImport.Text
