/-
# Text.Range -- character classes given by ranges of code points

A class of characters is a list of closed ranges; `inRanges` is membership.
-/
namespace MavenImport.Text

set_option autoImplicit false

/-- Membership of a code point in a list of closed ranges. -/
def inRanges (table : List (Nat × Nat)) (n : Nat) : Bool :=
  table.any fun r => r.1 ≤ n && n ≤ r.2

end MavenImport.Text
