/-
# Text.Cut -- cutting a text at separators and putting the pieces together

`pieces` cuts at every separator and so always gives one piece more than there are
separators; `cut?` cuts at the first one.  Replacement of one character by another keeps the
length (`replaceChar`).  A pattern is taken out once (`removeFirst`), or at every occurrence
that does not overlap an earlier one (`removeAll`).
-/
import MavenImport.Text.Blank

namespace MavenImport.Text

set_option autoImplicit false

/-- The runs of characters between separators, empty runs included. -/
def pieces (isSeparator : Char → Bool) : List Char → List (List Char)
  | [] => [[]]
  | c :: cs =>
    if isSeparator c then [] :: pieces isSeparator cs
    else match pieces isSeparator cs with
      | [] => [[c]]
      | p :: ps => (c :: p) :: ps

/-- The pieces of a text between occurrences of one character. -/
def splitAt (separator : Char) (s : String) : List String :=
  (pieces (· == separator) s.toList).map String.ofList

/-- The characters before and after the first separator. -/
def cut? (separator : Char) : List Char → Option (List Char × List Char)
  | [] => none
  | c :: cs =>
    if c = separator then some ([], cs)
    else (cut? separator cs).map fun (a, b) => (c :: a, b)

/-- The pieces of a text with a separator between each two. -/
def joinWith (separator : String) : List String → String
  | [] => ""
  | [s] => s
  | s :: t :: rest => s ++ separator ++ joinWith separator (t :: rest)

/-- Every occurrence of one character replaced by another. -/
def replaceChar (old new : Char) (s : String) : String :=
  String.ofList (s.toList.map fun c => if c = old then new else c)

/-- The rest of a text after a given beginning. -/
def afterStart? : List Char → List Char → Option (List Char)
  | [], cs => some cs
  | _ :: _, [] => none
  | p :: ps, c :: cs => if p = c then afterStart? ps cs else none

def startsWith (beginning s : String) : Bool := (afterStart? beginning.toList s.toList).isSome

def endsWith (ending s : String) : Bool :=
  (afterStart? ending.toList.reverse s.toList.reverse).isSome

/-- The first occurrence of a pattern taken out. -/
def removeFirst (pattern : List Char) : List Char → List Char
  | [] => []
  | c :: cs => match afterStart? pattern (c :: cs) with
    | some rest => rest
    | none => c :: removeFirst pattern cs

/-- Every occurrence of a pattern taken out, from the left; `skip` counts the characters of
an occurrence that are still to be passed over. -/
def removeAll (pattern : List Char) (skip : Nat) : List Char → List Char
  | [] => []
  | c :: cs => match skip with
    | n + 1 => removeAll pattern n cs
    | 0 =>
      if pattern ≠ [] ∧ (afterStart? pattern (c :: cs)).isSome then
        removeAll pattern (pattern.length - 1) cs
      else c :: removeAll pattern 0 cs

/-- The characters without the run of one character at the end. -/
def trimEnd (c : Char) (cs : List Char) : List Char :=
  (cs.reverse.dropWhile (· == c)).reverse

theorem pieces_ne_nil (isSeparator : Char → Bool) (cs : List Char) :
    pieces isSeparator cs ≠ [] := by
  cases cs with
  | nil => simp [pieces]
  | cons c cs =>
    simp only [pieces]
    split
    · simp
    · split <;> simp

theorem afterStart?_eq_some_iff (p cs rest : List Char) :
    afterStart? p cs = some rest ↔ cs = p ++ rest := by
  induction p generalizing cs with
  | nil => simp [afterStart?]
  | cons a p ih =>
    cases cs with
    | nil => simp [afterStart?]
    | cons c cs =>
      by_cases h : a = c
      · subst h; simp [afterStart?, ih]
      · simp [afterStart?, h, Ne.symm h]

end MavenImport.Text
