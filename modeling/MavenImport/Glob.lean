/-
# Glob -- patterns for groups and artifacts

A glob is a pattern for the group and one for the artifact, with the first colon between
them.  A star stands for any characters but line feeds, and every other character for itself;
the whole of a name must match.  Patterns without a literal part are refused, since they would
match everything.
-/
import MavenImport.Json.Access

namespace MavenImport

set_option autoImplicit false

structure Glob where
  group : List Char
  artifact : List Char
deriving Repr, DecidableEq

namespace Glob

/-- Why a text is no glob. -/
inductive Fault
  | everything
  | noColon (glob : String)
  | noLiteral (glob : String)
deriving Repr, DecidableEq

def Fault.message : Fault → String
  | .everything =>
    "Invalid exclusion glob \"*:*\" would exclude all artifacts. Set use_jetifier=False instead."
  | .noColon glob =>
    "Invalid exclusion glob \"" ++ glob ++ "\" lacks the groupId:artifactId structure."
  | .noLiteral glob =>
    "Invalid exclusion glob \"" ++ glob ++ "\" - requires some valid partial group or artifact id"

/-- A character that counts as a literal part. -/
def isLiteral (c : Char) : Bool := c ≠ '*' && c ≠ ':' && c ≠ '.' && !Text.isBlank c

def ofString (s : String) : Except Fault Glob :=
  if s = "*:*" then .error .everything
  else match Text.cut? ':' s.toList with
    | none => .error (.noColon s)
    | some (group, artifact) =>
      if s.toList.any isLiteral then .ok ⟨group, artifact⟩ else .error (.noLiteral s)

/-- Whether the whole of a name matches a pattern. -/
def segmentMatches : List Char → List Char → Bool
  | [], name => name.isEmpty
  | p :: ps, name =>
    if p = '*' then
      segmentMatches ps name ||
        match name with
        | [] => false
        | c :: cs => c ≠ '\n' && segmentMatches (p :: ps) cs
    else match name with
      | [] => false
      | c :: cs => p = c && segmentMatches ps cs
termination_by pattern name => pattern.length + name.length

def matchesPair (g : Glob) (group artifact : String) : Bool :=
  segmentMatches g.group group.toList && segmentMatches g.artifact artifact.toList

end Glob

/-- Whether one of several globs matches. -/
def anyMatches (globs : List Glob) (group artifact : String) : Bool :=
  globs.any fun g => g.matchesPair group artifact

end MavenImport
