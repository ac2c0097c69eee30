/-
# Web -- what servers answer

A request for an address is answered with a status, a reason and a body, or fails on the way
with an error of some kind.  The answer to an address never changes; an address that is not
listed is not found.

A client does not ask for the text of a URL as it stands.  It takes the segments `.` and `..` out
of the path first (`Web.target`), and it takes no URL that holds a control character
(`Web.refuses`).
-/
import MavenImport.Table
import MavenImport.Text.Cut

namespace MavenImport

set_option autoImplicit false

inductive Reply
  | response (status : Int) (reason : String) (body : ByteArray)
  | failure (kind message : String)

abbrev Web := Table String Reply

namespace Web

/-- A client refuses a URL with an ASCII control character. -/
def refuses (url : String) : Bool := url.toList.any fun c => c.toNat < 0x20 || c.toNat = 0x7F

/-- The scheme of a URL with its colon, if it has one, and the rest. -/
def cutScheme (url : List Char) : List Char × List Char :=
  match Text.cut? ':' url with
  | some (c :: cs, rest) =>
    if c.isAlpha ∧ cs.all fun c => c.isAlphanum || c = '+' || c = '-' || c = '.' then
      (c :: cs ++ [':'], rest)
    else ([], url)
  | _ => ([], url)

/-- The authority of a URL without its scheme, with the slashes before it, and the rest. -/
def cutAuthority : List Char → List Char × List Char
  | '/' :: '/' :: cs =>
    let within (c : Char) : Bool := c ≠ '/' && c ≠ '?' && c ≠ '#'
    ('/' :: '/' :: cs.takeWhile within, cs.dropWhile within)
  | cs => ([], cs)

/-- The segments of a path without `.` and `..` (RFC 3986, 5.2.4); `above` are those before them,
the last one first.  Nothing is above the root. -/
def dropDots (above : List String) : List String → List String
  | [] => above.reverse
  | segment :: rest =>
    if segment = "." then dropDots above rest
    else if segment = ".." then dropDots (if above = [""] then above else above.tail) rest
    else dropDots (segment :: above) rest

/-- The address that a client asks for. -/
def target (url : String) : String :=
  let (scheme, rest) := cutScheme url.toList
  let (authority, rest) := cutAuthority rest
  if scheme = [] ∧ authority.length ≤ 2 then url
  else
    let path := rest.takeWhile fun c => c ≠ '?' && c ≠ '#'
    String.ofList (scheme ++ authority)
      ++ Text.joinWith "/" (dropDots [] (Text.splitAt '/' (String.ofList path)))
      ++ String.ofList (rest.drop path.length)

/-- The answer to a request. -/
def reply (web : Web) (url : String) : Reply :=
  (web.find? (target url)).getD (.response 404 "Not Found" ByteArray.empty)

end Web

end MavenImport
