/-
# Proofs.CoordinateLaws -- which texts tell coordinates apart

The text of a coordinate joins its parts with colons, and so does its slug.  They can be taken
apart again if no part holds a colon (`Coordinate.Plain`), as is the case with every coordinate
that was read from a text (`ofString_plain`).
-/
import MavenImport.Maven.Coordinate
import MavenImport.Proofs.TextLaws

namespace MavenImport

set_option autoImplicit false

/-- No part of a coordinate holds a colon. -/
def Coordinate.Plain (c : Coordinate) : Prop :=
  ':' ∉ c.group.toList ∧ ':' ∉ c.artifact.toList ∧ ':' ∉ c.version.toList

instance (c : Coordinate) : Decidable c.Plain :=
  inferInstanceAs (Decidable (_ ∧ _ ∧ _))

theorem text_injective {c d : Coordinate} (plain : c.Plain) (plain' : d.Plain)
    (same : c.text = d.text) : c = d := by
  obtain ⟨g, a, v⟩ := c
  obtain ⟨g', a', v'⟩ := d
  have lists : g.toList ++ ':' :: (a.toList ++ ':' :: v.toList)
      = g'.toList ++ ':' :: (a'.toList ++ ':' :: v'.toList) := by
    simpa [Coordinate.text] using congrArg String.toList same
  obtain ⟨groups, rest⟩ := Text.append_separator_inj plain.1 plain'.1 lists
  obtain ⟨artifacts, versions⟩ := Text.append_separator_inj plain.2.1 plain'.2.1 rest
  have sameGroup : g = g' := String.toList_injective groups
  have sameArtifact : a = a' := String.toList_injective artifacts
  have sameVersion : v = v' := String.toList_injective versions
  rw [sameGroup, sameArtifact, sameVersion]

/-- A slug with a single colon in it can be taken apart in one way only. -/
theorem slug_injective {c : Coordinate} (plain : c.Plain) {group artifact : String}
    (same : c.slug = slugOf group artifact) : c.group = group ∧ c.artifact = artifact := by
  have lists : c.group.toList ++ ':' :: c.artifact.toList
      = group.toList ++ ':' :: artifact.toList := by
    simpa [Coordinate.slug, slugOf] using congrArg String.toList same
  have colons := congrArg (List.count ':') lists
  simp only [List.count_append, List.count_cons_self, List.count_eq_zero.mpr plain.1,
    List.count_eq_zero.mpr plain.2.1] at colons
  have plain' : ':' ∉ group.toList := List.count_eq_zero.mp (by omega)
  obtain ⟨groups, artifacts⟩ := Text.append_separator_inj plain.1 plain' lists
  exact ⟨String.toList_injective groups, String.toList_injective artifacts⟩

theorem not_mem_trim {c : Char} {s : String} (absent : c ∉ s.toList) :
    c ∉ (Text.trim s).toList := by
  unfold Text.trim Text.trimChars
  rw [String.toList_ofList, List.mem_reverse]
  intro held
  have kept := (List.dropWhile_sublist _).mem held
  exact absent ((List.dropWhile_sublist _).mem (List.mem_reverse.mp kept))

/-- What is read from a text has no colons left in it. -/
theorem ofString_plain {s : String} {c : Coordinate} (parsed : Coordinate.ofString? s = some c) :
    c.Plain := by
  have absent : ∀ part ∈ (Text.splitAt ':' s).map Text.trim, ':' ∉ part.toList := by
    intro part listed
    obtain ⟨piece, member, rfl⟩ := List.mem_map.mp listed
    exact not_mem_trim (Text.not_mem_of_mem_splitAt member)
  unfold Coordinate.ofString? at parsed
  split at parsed
  · next g a v pieces =>
      split at parsed
      · cases parsed
      · cases parsed
        rw [pieces] at absent
        exact ⟨absent g (by simp), absent a (by simp), absent v (by simp)⟩
  · cases parsed

end MavenImport
