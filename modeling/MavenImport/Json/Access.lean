/-
# Json.Access -- looking into values whose shape is not known

Configuration is taken apart by a few operations, and each says in its own way that a value
has the wrong shape for it (`Json.Fault`).  Looking up a key that may be absent needs an
object (`field?`); taking a key that must be there also tells the other ways to fail apart
(`member`).  Listing a value gives the items of a list, the characters of a string and the
keys of an object (`elements`).
-/
import MavenImport.Json.Basic

namespace MavenImport.Json

set_option autoImplicit false

/-- Why a value cannot be taken apart as asked; `kind` is the kind of the value. -/
inductive Fault
  /-- The value does not have an operation. -/
  | lacks (kind operation : String)
  | notIterable (kind : String)
  | notSearchable (kind : String)
  | notSubscriptable (kind : String)
  /-- The value is indexed by positions and not by keys. -/
  | positional (kind : String)
  | unhashable (kind : String)
  | missingKey (key : String)
  /-- A value is text where others are joined. -/
  | notText (position : Nat) (kind : String)
  /-- A text stands for a URL and is none that a client takes. -/
  | refusedUrl (url : String)
deriving Repr, DecidableEq

def Fault.message : Fault → String
  | .lacks kind operation => "'" ++ kind ++ "' object has no attribute '" ++ operation ++ "'"
  | .notIterable kind => "'" ++ kind ++ "' object is not iterable"
  | .notSearchable kind => "argument of type '" ++ kind ++ "' is not iterable"
  | .notSubscriptable kind => "'" ++ kind ++ "' object is not subscriptable"
  | .positional kind =>
    if kind = "str" then "string indices must be integers, not 'str'"
    else kind ++ " indices must be integers or slices, not str"
  | .unhashable kind => "unhashable type: '" ++ kind ++ "'"
  | .missingKey key => Text.quoted key
  | .notText position kind =>
    "sequence item " ++ toString position ++ ": expected str instance, " ++ kind ++ " found"
  | .refusedUrl _ => "Invalid non-printable ASCII character in URL"

/-- The value of a key among the fields of an object. -/
def findField (key : String) (fields : List (String × Json)) : Option Json :=
  (fields.find? fun f => f.1 = key).map Prod.snd

/-- The value of a key that an object may have. -/
def field? (v : Json) (key : String) : Except Fault (Option Json) := match v with
  | obj fields => .ok (findField key fields)
  | v => .error (.lacks v.kind "get")

/-- The value of a key, null if an object does not have it. -/
def fieldOrNull (v : Json) (key : String) : Except Fault Json :=
  (v.field? key).map fun found => found.getD null

/-- The value of a key that must be there. -/
def member (v : Json) (key : String) : Except Fault Json := match v with
  | obj fields => match findField key fields with
    | some found => .ok found
    | none => .error (.missingKey key)
  | str _ => .error (.positional "str")
  | arr _ => .error (.positional "list")
  | v => .error (.notSubscriptable v.kind)

/-- What a value consists of when it is listed. -/
def elements (v : Json) : Except Fault (List Json) := match v with
  | arr items => .ok items
  | str s => .ok (s.toList.map fun c => str (String.ofList [c]))
  | obj fields => .ok (fields.map fun f => str f.1)
  | v => .error (.notIterable v.kind)

/-- The elements of a value that may be absent or false. -/
def elementsOrNone (v : Json) : Except Fault (List Json) :=
  if v.truth then v.elements else .ok []

/-- The keys and values of an object. -/
def entries (v : Json) : Except Fault (List (String × Json)) := match v with
  | obj fields => .ok fields
  | v => .error (.lacks v.kind "items")

/-- The scalars among values that must all be scalars, each once. -/
def distinctScalars (vs : List Json) : Except Fault (List Json) :=
  match vs.find? fun v => !v.isScalar with
  | some v => .error (.unhashable v.kind)
  | none => .ok (distinct vs)

/-- A value if it counts as true, and another one otherwise. -/
def orElse (v other : Json) : Json := if v.truth then v else other

/-- The entry whose key equals a scalar. -/
def findScalar {α : Type} (key : Json) (table : List (Json × α)) : Option α :=
  (table.find? fun e => sameEntry e.1 key).map Prod.snd

/-- Writes an entry under a scalar key: in place if the key is there, else at the end. -/
def putScalar {α : Type} (key : Json) (value : α) : List (Json × α) → List (Json × α)
  | [] => [(key, value)]
  | e :: es => if sameEntry e.1 key then (e.1, value) :: es else e :: putScalar key value es

/-- Texts put together with a separator; every value must be text. -/
def joinTexts (separator : String) (vs : List Json) : Except Fault String :=
  match ((List.range vs.length).zip vs).find? fun (_, v) => v.str?.isNone with
  | some (i, v) => .error (.notText i v.kind)
  | none => .ok (Text.joinWith separator (vs.filterMap str?))

end MavenImport.Json
