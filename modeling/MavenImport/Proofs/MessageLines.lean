/-
# Proofs.MessageLines -- messages that are one line

A message is printed with a line end behind it, and it is one line if it has no line feed of its own
(`OneLine`).  Numbers have none, and neither has a text between quotes, whatever the text is
(`quoted_oneLine`).  So what is said of a file that cannot be read, or of bytes that are no text, is
one line even if the name of the file is not.
-/
import MavenImport.Fault

namespace MavenImport

set_option autoImplicit false

/-- A text without line feeds. -/
def OneLine (s : String) : Prop := '\n' ∉ s.toList

instance (s : String) : Decidable (OneLine s) := inferInstanceAs (Decidable (_ ∉ _))

theorem oneLine_append {s t : String} (first : OneLine s) (second : OneLine t) :
    OneLine (s ++ t) := by
  rw [OneLine, String.toList_append, List.mem_append]
  exact fun held => held.elim first second

namespace Text

theorem hexDigit_ne_lineFeed {n : Nat} (digit : n < 16) : hexDigit n ≠ '\n' := by
  revert n
  decide

theorem hexDigits_free : ∀ width n : Nat, '\n' ∉ hexDigits width n
  | 0, _ => List.not_mem_nil
  | width + 1, n => by
      rw [hexDigits, List.mem_append, List.mem_singleton, not_or]
      exact ⟨hexDigits_free width _, (hexDigit_ne_lineFeed (Nat.mod_lt n (by decide))).symm⟩

/-- A line feed is written as an escape, so no character brings one in. -/
theorem quotedChar_free {quote : Char} (visible : quote ≠ '\n') (c : Char) :
    '\n' ∉ quotedChar quote c := by
  have escaped : ∀ (letter : Char) (width : Nat), letter ≠ '\n' →
      '\n' ∉ '\\' :: letter :: hexDigits width c.toNat := by
    intro letter width other
    simp [other.symm, hexDigits_free]
  rw [quotedChar]
  split
  · next special =>
      have other : '\n' ≠ c := by
        rintro rfl
        rcases special with same | same
        · exact visible same.symm
        · cases same
      simp [other]
  split
  · decide
  split
  · decide
  split
  · decide
  split
  · next other _ _ =>
      rw [List.mem_singleton]
      exact fun same => other same.symm
  split
  · exact escaped 'x' 2 (by decide)
  split
  · exact escaped 'u' 4 (by decide)
  · exact escaped 'U' 8 (by decide)

theorem quoteFor_visible (cs : List Char) : quoteFor cs ≠ '\n' := by
  rw [quoteFor]
  split <;> decide

end Text

/-- A quoted text is one line. -/
theorem quoted_oneLine (s : String) : OneLine (Text.quoted s) := by
  have visible := Text.quoteFor_visible s.toList
  rw [OneLine, Text.quoted, String.toList_ofList]
  intro held
  rcases List.mem_append.mp held with held | last
  · rcases List.mem_cons.mp held with first | inside
    · exact visible first.symm
    · obtain ⟨c, -, among⟩ := List.mem_flatMap.mp inside
      exact Text.quotedChar_free visible c among
  · exact visible (List.mem_singleton.mp last).symm

theorem number_oneLine (n : Nat) : OneLine (toString n) := by
  rw [OneLine, Nat.toString_eq_repr, Nat.repr, String.toList_ofList]
  intro held
  exact absurd (Nat.isDigit_of_mem_toDigits (by decide) (by decide) held) (by decide)

/-- What is said of bytes that are no text. -/
theorem undecodable_oneLine (position : Nat) (m : Text.Utf8.Malformed) (first : UInt8) :
    OneLine (undecodable position m first) := by
  obtain ⟨length, reason⟩ := m
  have digits : OneLine (String.ofList (Text.hexDigits 2 first.toNat)) := by
    rw [OneLine, String.toList_ofList]
    exact Text.hexDigits_free 2 _
  rw [undecodable]
  split
  · have place : OneLine ("'utf-8' codec can't decode byte 0x"
        ++ String.ofList (Text.hexDigits 2 first.toNat) ++ " in position " ++ toString position
        ++ ": ") := by
      refine oneLine_append (oneLine_append (oneLine_append ?_ ?_) (number_oneLine _)) (by decide)
      · exact oneLine_append (by decide) digits
      · decide
    refine oneLine_append place ?_
    cases reason <;> (dsimp only; decide)
  · have place : OneLine ("'utf-8' codec can't decode bytes in position " ++ toString position
        ++ "-" ++ toString (position + length - 1) ++ ": ") := by
      refine oneLine_append (oneLine_append (oneLine_append ?_ ?_) (number_oneLine _)) (by decide)
      · exact oneLine_append (by decide) (number_oneLine _)
      · decide
    refine oneLine_append place ?_
    cases reason <;> (dsimp only; decide)

/-- What is said of a file that cannot be read names the file between quotes. -/
theorem fileFault_oneLine (f : Files.Fault) : OneLine f.message := by
  have named := quoted_oneLine f.path.text
  rw [Files.Fault.message]
  split
  · next number wording known =>
      have worded : OneLine wording := by
        revert known
        cases f.cause <;> simp only [Files.Cause.errno?, Option.some.injEq, Prod.mk.injEq,
          reduceCtorEq, false_imp_iff] <;> (rintro ⟨-, rfl⟩; decide)
      refine oneLine_append (oneLine_append (oneLine_append (oneLine_append ?_ ?_) worded) ?_) named
      · exact oneLine_append (by decide) (number_oneLine number)
      · decide
      · decide
  · split
    · exact oneLine_append (by decide) named
    · decide

end MavenImport
