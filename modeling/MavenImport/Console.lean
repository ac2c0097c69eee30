/-
# Console -- messages by level of detail

A message is printed always, from the first level of verbosity on, or from the second.  What
was printed is kept in order, each message with its line end.
-/
namespace MavenImport

set_option autoImplicit false

structure Console where
  verbosity : Int
  /-- The messages printed, last one first. -/
  printed : List String := []

/-- How much verbosity a message asks for. -/
inductive Level
  | always
  | info
  | detail
deriving Repr, DecidableEq

namespace Console

def shows (c : Console) : Level → Bool
  | .always => true
  | .info => 0 < c.verbosity
  | .detail => 1 < c.verbosity

/-- Prints a message of a level, with a line end or without. -/
def print (c : Console) (level : Level) (message : String) (lineEnd : Bool) : Console :=
  if c.shows level then
    { c with printed := (if lineEnd then message ++ "\n" else message) :: c.printed }
  else c

/-- The messages in the order in which they were printed. -/
def messages (c : Console) : List String := c.printed.reverse

end Console

end MavenImport
