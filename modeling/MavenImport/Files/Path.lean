/-
# Files.Path -- file paths as names

A path is an anchor and a list of names.  Reading a path drops empty and `.` segments and
keeps `..` ones; exactly two leading slashes are an anchor of their own.  Joining an anchored
path replaces what stands before it.  Paths are ordered by their names, the anchor first.
-/
import MavenImport.Text.Cut

namespace MavenImport

set_option autoImplicit false

/-- What a path is relative to. -/
inductive Anchor
  | here
  | root
  | doubleRoot
deriving Repr, DecidableEq

def Anchor.text : Anchor → String
  | .here => ""
  | .root => "/"
  | .doubleRoot => "//"

structure Path where
  anchor : Anchor
  names : List String
deriving Repr, DecidableEq

namespace Path

/-- The names between slashes, without empty and `.` ones. -/
def namesOf (s : String) : List String :=
  (Text.splitAt '/' s).filter fun name => name ≠ "" ∧ name ≠ "."

def ofString (s : String) : Path :=
  let anchor := match s.toList with
    | '/' :: '/' :: '/' :: _ => .root
    | '/' :: '/' :: _ => .doubleRoot
    | '/' :: _ => .root
    | _ => .here
  ⟨anchor, namesOf s⟩

def text (p : Path) : String :=
  if p.anchor = .here ∧ p.names = [] then "."
  else p.anchor.text ++ Text.joinWith "/" p.names

/-- The second path seen from the first. -/
def join (p q : Path) : Path :=
  if q.anchor = .here then ⟨p.anchor, p.names ++ q.names⟩ else q

def joinText (p : Path) (s : String) : Path := p.join (ofString s)

/-- The last name; empty for a path without names. -/
def name (p : Path) : String := p.names.getLast?.getD ""

def parent (p : Path) : Path := ⟨p.anchor, p.names.dropLast⟩

/-- The names that order a path. -/
def sortKey (p : Path) : List String :=
  if p.anchor = .here then p.names else p.anchor.text :: p.names

/-- The order of two lists of names: that of the first names that differ. -/
def namesLe : List String → List String → Bool
  | [], _ => true
  | _ :: _, [] => false
  | a :: as, b :: bs => match compare a b with
    | .lt => true
    | .eq => namesLe as bs
    | .gt => false

/-- Whether a path comes no later than another one.  Paths with the same names in this order come by
what they are relative to. -/
def ble (p q : Path) : Bool :=
  namesLe p.sortKey q.sortKey && decide (p.sortKey = q.sortKey → p.anchor.text ≤ q.anchor.text)

theorem join_here (p : Path) (names : List String) :
    p.join ⟨.here, names⟩ = ⟨p.anchor, p.names ++ names⟩ := by simp [join]

end Path

end MavenImport
