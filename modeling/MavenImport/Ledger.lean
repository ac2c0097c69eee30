/-
# Ledger -- which artifacts are needed, in which versions and by whom

The ledger has an entry for every artifact that was declared or needed, under its slug.  An
entry holds the versions that were asked for and the coordinates that asked, each once.  It
is written to only, by `record`; `versionsOf` and `dependantsOf` are its view.
-/
import MavenImport.Table

namespace MavenImport

set_option autoImplicit false

structure LedgerEntry where
  dependants : List String := []
  versions : List String := []
deriving Repr, DecidableEq

abbrev Ledger := Table String LedgerEntry

/-- Adds a member to a list without repetitions. -/
def addOnce (s : String) (members : List String) : List String :=
  if s ∈ members then members else members ++ [s]

theorem mem_addOnce (s t : String) (members : List String) :
    t ∈ addOnce s members ↔ t ∈ members ∨ t = s := by
  unfold addOnce
  split
  · next h => exact ⟨Or.inl, fun | .inl h' => h' | .inr rfl => h⟩
  · simp

/-- Adds a version, and the coordinate that asked for it if there is one. -/
def LedgerEntry.add (e : LedgerEntry) (version : String) (dependant : Option String) :
    LedgerEntry where
  dependants := match dependant with
    | some d => addOnce d e.dependants
    | none => e.dependants
  versions := addOnce version e.versions

namespace Ledger

def empty : Ledger := ⟨[]⟩

/-- Notes that a version of an artifact is declared, or needed by another artifact. -/
def record (l : Ledger) (slug version : String) (dependant : Option String) : Ledger :=
  l.put slug (((l.find? slug).getD {}).add version dependant)

/-- The versions that were asked for. -/
def versionsOf (l : Ledger) (slug : String) : List String :=
  ((l.find? slug).map LedgerEntry.versions).getD []

/-- The coordinates that asked for an artifact. -/
def dependantsOf (l : Ledger) (slug : String) : List String :=
  ((l.find? slug).map LedgerEntry.dependants).getD []

theorem find?_record (l : Ledger) (slug version t : String) (dependant : Option String) :
    (l.record slug version dependant).find? t =
      if slug = t then some (((l.find? slug).getD {}).add version dependant) else l.find? t :=
  Table.find?_put l slug t _

theorem mem_versionsOf_record (l : Ledger) (slug version t v : String) (d : Option String) :
    v ∈ (l.record slug version d).versionsOf t ↔
      v ∈ l.versionsOf t ∨ (slug = t ∧ v = version) := by
  by_cases h : slug = t
  · subst h
    simp only [versionsOf, find?_record, if_true, Option.map_some, Option.getD_some,
      LedgerEntry.add, mem_addOnce, true_and]
    cases l.find? slug <;> simp
  · simp [versionsOf, find?_record, h]

end Ledger

end MavenImport
