/-
# Bazel.Label -- telling labels from names of artifacts

A text that starts with `@`, `/` or `:` is a label.  Another text names an artifact if its
first two parts between colons are not blank; what comes after them is not looked at.
-/
import MavenImport.Text.Cut

namespace MavenImport

set_option autoImplicit false

/-- A text that is a label already. -/
def isLabel (s : String) : Bool := match s.toList with
  | c :: _ => c = '@' || c = '/' || c = ':'
  | [] => false

/-- A text that names a group and an artifact. -/
def isPair (s : String) : Bool :=
  !isLabel s && match Text.splitAt ':' s with
    | g :: a :: _ => Text.trim g ≠ "" && Text.trim a ≠ ""
    | _ => false

end MavenImport
