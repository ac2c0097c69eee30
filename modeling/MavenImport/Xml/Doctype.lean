/-
# Xml.Doctype -- the document type declaration and what it declares

The declaration is read as tokens first (`Doctype.tokens?`), up to the angle bracket that
closes it, and the tokens are then matched against the grammar (`Doctype.ofTokens?`).  Two
things are kept of it: the general entities, with their text or the fact that they have none
here, and the declared attributes of each element, with their defaults.

The first declaration of an entity or of an attribute counts.  After a reference to a
parameter entity, whose text is not read, further declarations are not taken up.
-/
import MavenImport.Xml.Name
import MavenImport.Table
import MavenImport.Text.Cut

namespace MavenImport.Xml

set_option autoImplicit false

/-- A general entity. -/
inductive EntityText
  | text (characters : List Char)
  | external
  | unparsed
deriving Repr, DecidableEq

/-- A declared attribute of an element. -/
structure AttributeDeclaration where
  name : QName
  /-- White space in the value is text. -/
  isText : Bool
  default? : Option String
deriving Repr, DecidableEq

structure Doctype where
  entities : Table String EntityText
  attributes : List (QName × AttributeDeclaration)
  /-- Declarations may exist that are not read. -/
  incomplete : Bool
  /-- The document says that it does not depend on declarations elsewhere. -/
  standalone : Bool

def Doctype.empty (standalone : Bool) : Doctype := ⟨⟨[]⟩, [], false, standalone⟩

/-- An undefined entity is an error only if all declarations are known. -/
def Doctype.isComplete (d : Doctype) : Bool := !d.incomplete || d.standalone

/-- Further declarations are taken up. -/
def Doctype.keeps (d : Doctype) (unread : Bool) : Bool := !unread || d.standalone

/-! ## Characters and references -/

/-- The text before a delimiter and what follows it; characters that no document holds are
refused. -/
def until? (delimiter acc : List Char) : List Char → Option (List Char × List Char)
  | [] => none
  | c :: cs =>
    if delimiter.isPrefixOf (c :: cs) then some (acc.reverse, (c :: cs).drop delimiter.length)
    else if isDocumentChar c then until? delimiter (c :: acc) cs
    else none

/-- What follows a comment, given what follows its opening; two hyphens end it. -/
def afterComment? (cs : List Char) : Option (List Char) :=
  match until? ['-', '-'] [] cs with
  | some (_, '>' :: rest) => some rest
  | _ => none

/-- Whether a target of a processing instruction is the reserved one, in any case. -/
def isReservedTarget (name : List Char) : Bool :=
  String.ofList (name.map Char.toLower) == "xml"

/-- What follows a processing instruction, given what follows its opening. -/
def afterInstruction? (cs : List Char) : Option (List Char) :=
  match readName? cs with
  | none => none
  | some (name, rest) =>
    if isReservedTarget name then none
    else match rest with
      | '?' :: '>' :: rest => some rest
      | c :: rest => if isSpace c then (until? ['?', '>'] [] rest).map Prod.snd else none
      | [] => none

/-- The character of a number, if a document may refer to it. -/
def characterOf? (n : Nat) : Option Char :=
  if n.isValidChar && (isDocumentChar (Char.ofNat n) || n = 13) then some (Char.ofNat n)
  else none

/-- A digit of a character reference. -/
def referenceDigit? (base : Nat) (c : Char) : Option Nat :=
  if '0' ≤ c ∧ c ≤ '9' then some (c.toNat - 48)
  else if base = 16 ∧ 'a' ≤ c ∧ c ≤ 'f' then some (c.toNat - 87)
  else if base = 16 ∧ 'A' ≤ c ∧ c ≤ 'F' then some (c.toNat - 55)
  else none

/-- The number of a character reference, at least one digit and a semicolon; it does not grow
past the last code point. -/
def referenceNumber? (base acc : Nat) (seen : Bool) : List Char → Option (Nat × List Char)
  | [] => none
  | c :: cs =>
    if c = ';' then if seen then some (acc, cs) else none
    else match referenceDigit? base c with
      | some d => referenceNumber? base (min (acc * base + d) 0x110000) true cs
      | none => none

/-- A reference, after its ampersand. -/
inductive Reference
  | character (c : Char)
  | entity (name : String)
deriving Repr, DecidableEq

def readReference? : List Char → Option (Reference × List Char)
  | '#' :: 'x' :: cs => do
    let (n, rest) ← referenceNumber? 16 0 false cs
    return (.character (← characterOf? n), rest)
  | '#' :: cs => do
    let (n, rest) ← referenceNumber? 10 0 false cs
    return (.character (← characterOf? n), rest)
  | cs => match readName? cs with
    | some (name, ';' :: rest) => some (.entity (String.ofList name), rest)
    | _ => none

/-- The entities that need no declaration. -/
def predefined? : String → Option Char
  | "lt" => some '<'
  | "gt" => some '>'
  | "amp" => some '&'
  | "quot" => some '"'
  | "apos" => some '\''
  | _ => none

/-- Line ends as line feeds: a carriage return, with the line feed after it if there is one,
becomes a line feed. -/
def lineFeeds : List Char → List Char
  | '\r' :: '\n' :: cs => '\n' :: lineFeeds cs
  | '\r' :: cs => '\n' :: lineFeeds cs
  | c :: cs => c :: lineFeeds cs
  | [] => []

/-- The replacement text of a declared value: references to characters are replaced, those to
entities stay, and a percent sign is refused. -/
def replacementText? (acc : List Char) : Nat → List Char → Option (List Char)
  | 0, _ => none
  | _ + 1, [] => some (lineFeeds acc.reverse)
  | fuel + 1, c :: cs =>
    if c = '%' then none
    else if c = '&' then match readReference? cs with
      | some (.character d, rest) => replacementText? (d :: acc) fuel rest
      | some (.entity name, rest) =>
        replacementText? (';' :: (name.toList.reverse ++ '&' :: acc)) fuel rest
      | none => none
    else replacementText? (c :: acc) fuel cs

/-- An attribute value with its references replaced and its white space turned into spaces.
`acc` holds the characters had so far, last first, `opened` the entities being replaced and
`budget` the characters that entities may still give. -/
def expandValue? (d : Doctype) (opened : List String) (budget : Nat) (acc : List Char) :
    Nat → List Char → Option (List Char × Nat)
  | 0, _ => none
  | _ + 1, [] => some (acc, budget)
  | fuel + 1, c :: cs =>
    if c = '<' then none
    else if isSpace c then expandValue? d opened budget (' ' :: acc) fuel cs
    else if c = '&' then match readReference? cs with
      | none => none
      | some (.character e, rest) => expandValue? d opened budget (e :: acc) fuel rest
      | some (.entity name, rest) => match predefined? name with
        | some e => expandValue? d opened budget (e :: acc) fuel rest
        | none => match d.entities.find? name with
          | none =>
            if d.isComplete then none else expandValue? d opened budget acc fuel rest
          | some .external => none
          | some .unparsed => none
          | some (.text text) =>
            if opened.contains name || budget < text.length then none
            else match expandValue? d (name :: opened) (budget - text.length) acc fuel text with
              | none => none
              | some (acc, budget) => expandValue? d opened budget acc fuel rest
    else expandValue? d opened budget (c :: acc) fuel cs

/-- Runs of spaces as one space, and none at either end. -/
def collapseSpaces (cs : List Char) : List Char :=
  let rec squeeze (pending : Bool) : List Char → List Char
    | [] => []
    | c :: cs =>
      if c = ' ' then squeeze true cs
      else (if pending then [' '] else []) ++ c :: squeeze false cs
  squeeze false (cs.dropWhile (· = ' '))

/-- The value of an attribute as written, and what is left of the budget. -/
def Doctype.attributeValue? (d : Doctype) (isText : Bool) (budget : Nat) (raw : List Char) :
    Option (String × Nat) :=
  match expandValue? d [] budget [] (budget + raw.length + 1) raw with
  | none => none
  | some (acc, budget) =>
    let cs := acc.reverse
    some (String.ofList (if isText then cs else collapseSpaces cs), budget)

/-! ## Tokens -/

inductive Token
  /-- The opening of a declaration and its keyword. -/
  | declaration (keyword : String)
  | name (n : QName)
  /-- A name with a sign of repetition. -/
  | repeated (n : QName)
  /-- A token of name characters that is no name. -/
  | nameToken
  /-- A keyword after a number sign. -/
  | pound (keyword : String)
  | literal (characters : List Char)
  | percent
  | parameterEntity
  | openGroup
  /-- The end of a group, and the sign of repetition after it. -/
  | closeGroup (sign : Option Char)
  | or
  | comma
  | openBracket
  | closeBracket
  | close
  | instruction
  | comment
deriving Repr, DecidableEq

/-- Whether the characters after a token let it end there. -/
def endsBefore (allowed : List Char) : List Char → Bool
  | [] => false
  | c :: _ => isSpace c || allowed.contains c

def isNameEnd (cs : List Char) : Bool := endsBefore ['>', ')', ',', '|', '[', '%'] cs

/-- A name, a repeated name or a name token at the front. -/
def readNameToken? (cs : List Char) : Option (Token × List Char) :=
  let word := cs.takeWhile fun c => isNameChar c || c = ':'
  let rest := cs.dropWhile fun c => isNameChar c || c = ':'
  if word = [] ∨ word.head? = some ':' then none
  else
    let name? := match readQName? word with
      | some (n, []) => some n
      | _ => none
    match name?, rest with
    | some n, c :: rest' =>
      if c = '?' ∨ c = '*' ∨ c = '+' then some (.repeated n, rest')
      else if isNameEnd rest then some (.name n, rest) else none
    | none, _ => if isNameEnd rest then some (.nameToken, rest) else none
    | _, [] => none

/-- What an opening angle bracket starts. -/
def readMarkup? : List Char → Option (Token × List Char)
  | '!' :: '-' :: '-' :: rest => (afterComment? rest).map (Token.comment, ·)
  | '!' :: rest =>
    let keyword := rest.takeWhile Char.isAlpha
    let rest := rest.dropWhile Char.isAlpha
    if keyword ≠ [] ∧ endsBefore [] rest then
      some (.declaration (String.ofList keyword), rest)
    else none
  | '?' :: rest => (afterInstruction? rest).map (Token.instruction, ·)
  | _ => none

/-- The end of a group: a sign of repetition, or a character that may follow. -/
def readGroupEnd? : List Char → Option (Token × List Char)
  | c :: rest =>
    if c = '*' ∨ c = '?' ∨ c = '+' then some (.closeGroup (some c), rest)
    else if endsBefore ['>', ',', '|', ')'] (c :: rest) then
      some (.closeGroup none, c :: rest)
    else none
  | [] => none

/-- One token at the front. -/
def readToken? : List Char → Option (Token × List Char)
  | [] => none
  | c :: cs =>
    if c = '<' then readMarkup? cs
    else if c = '"' ∨ c = '\'' then match until? [c] [] cs with
      | some (text, rest) =>
        if endsBefore ['>', '%', '['] rest then some (.literal text, rest) else none
      | none => none
    else if c = '%' then
      if endsBefore ['%'] cs then some (.percent, cs)
      else match readName? cs with
        | some (_, ';' :: rest) => some (.parameterEntity, rest)
        | _ => none
    else if c = '#' then match readName? cs with
      | some (name, rest) =>
        if endsBefore [')', '>', '%', '|'] rest then some (.pound (String.ofList name), rest)
        else none
      | none => none
    else if c = '(' then some (.openGroup, cs)
    else if c = ')' then readGroupEnd? cs
    else if c = '|' then some (.or, cs)
    else if c = ',' then some (.comma, cs)
    else if c = '[' then some (.openBracket, cs)
    else if c = ']' then
      if [']', '>'].isPrefixOf cs then none else some (.closeBracket, cs)
    else if c = '>' then some (.close, cs)
    else readNameToken? (c :: cs)

/-- The tokens after the keyword, up to the angle bracket outside the brackets. -/
def Doctype.tokensFrom? (inside : Bool) (acc : List Token) :
    Nat → List Char → Option (List Token × List Char)
  | 0, _ => none
  | fuel + 1, cs => match readToken? (skipSpace cs) with
    | none => none
    | some (t, rest) => match t with
      | .openBracket => tokensFrom? true (t :: acc) fuel rest
      | .closeBracket => tokensFrom? false (t :: acc) fuel rest
      | .close =>
        if inside then tokensFrom? inside (t :: acc) fuel rest
        else some ((t :: acc).reverse, rest)
      | _ => tokensFrom? inside (t :: acc) fuel rest

def Doctype.tokens? (cs : List Char) : Option (List Token × List Char) :=
  tokensFrom? false [] (cs.length + 1) cs

/-! ## Grammar -/

/-- The characters of a public identifier. -/
def isPublicChar (c : Char) : Bool :=
  c.isAlphanum || c = ' ' || c = '\n' || "-'()+,./:=?;!*#@$_%".toList.contains c

def isPublicIdentifier (cs : List Char) : Bool := cs.all isPublicChar

def plainName? (n : QName) : Option String :=
  if n.qualifier.isNone then some n.label else none

/-- A group of a content model after its opening bracket.  `levels` holds, innermost first,
the separator seen in each open group. -/
def afterGroup? (levels : List (Option Token)) (expectItem : Bool) :
    List Token → Option (List Token)
  | [] => none
  | t :: ts =>
    if expectItem then match t with
      | .openGroup => afterGroup? (none :: levels) true ts
      | .name _ => afterGroup? levels false ts
      | .repeated _ => afterGroup? levels false ts
      | _ => none
    else match t, levels with
      | .closeGroup _, [_] => some ts
      | .closeGroup _, _ :: outer => afterGroup? outer false ts
      | .comma, seen :: outer =>
        if seen = some .or then none else afterGroup? (some .comma :: outer) true ts
      | .or, seen :: outer =>
        if seen = some .comma then none else afterGroup? (some .or :: outer) true ts
      | _, _ => none

/-- The names after the text keyword of a mixed content model. -/
def afterMixed? : List Token → Option (List Token)
  | .closeGroup sign :: ts => if sign = some '*' then some ts else none
  | .or :: .name _ :: ts => afterMixed? ts
  | _ => none

/-- What follows a content model. -/
def afterContentModel? : List Token → Option (List Token)
  | .name n :: ts =>
    if n.qualifier.isNone ∧ (n.label = "EMPTY" ∨ n.label = "ANY") then some ts else none
  | .openGroup :: .pound "PCDATA" :: .closeGroup sign :: ts =>
    if sign = none ∨ sign = some '*' then some ts else none
  | .openGroup :: .pound "PCDATA" :: ts => afterMixed? ts
  | .openGroup :: ts => afterGroup? [none] true ts
  | _ => none

/-- What follows an enumeration, after its opening bracket. -/
def afterEnumeration? (namesOnly : Bool) : List Token → Option (List Token)
  | item :: next :: ts =>
    let allowed := match item with
      | .name n => !namesOnly || n.qualifier.isNone
      | .nameToken => !namesOnly
      | _ => false
    if !allowed then none
    else match next with
      | .or => afterEnumeration? namesOnly ts
      | .closeGroup none => some ts
      | _ => none
  | _ => none

/-- The types with names of their own. -/
def attributeTypes : List String :=
  ["CDATA", "ID", "IDREF", "IDREFS", "ENTITY", "ENTITIES", "NMTOKEN", "NMTOKENS"]

/-- Whether an attribute type is text and whether it is an identifier, and what follows it. -/
def readAttributeType? : List Token → Option ((Bool × Bool) × List Token)
  | .name n :: ts => match plainName? n with
    | none => none
    | some "NOTATION" => match ts with
      | .openGroup :: ts => (afterEnumeration? true ts).map ((false, false), ·)
      | _ => none
    | some keyword =>
      if attributeTypes.contains keyword then some ((keyword = "CDATA", keyword = "ID"), ts)
      else none
  | .openGroup :: ts => (afterEnumeration? false ts).map ((false, false), ·)
  | _ => none

/-- The default of an attribute, as written, and what follows it. -/
def readDefault? : List Token → Option (Option (List Char) × List Token)
  | .pound "IMPLIED" :: ts => some (none, ts)
  | .pound "REQUIRED" :: ts => some (none, ts)
  | .pound "FIXED" :: .literal text :: ts => some (some text, ts)
  | .literal text :: ts => some (some text, ts)
  | _ => none

/-- Adds a declared attribute of an element; one with a default, or an identifier, counts only
if the attribute is not declared yet. -/
def Doctype.declare (d : Doctype) (element : QName) (isId : Bool) (a : AttributeDeclaration) :
    Doctype :=
  let declared := d.attributes.any fun (e, b) => e == element && b.name == a.name
  if (a.default?.isSome || isId) && declared then d
  else { d with attributes := d.attributes ++ [(element, a)] }

/-- The state of reading an internal subset: what is declared, whether declarations were left
unread, and the budget of characters that entities may still give. -/
structure Subset where
  doctype : Doctype
  unread : Bool
  budget : Nat

/-- The attributes of one declaration, up to its end. -/
def readAttributes? (element : QName) : Nat → Subset → List Token →
    Option (Subset × List Token)
  | _, s, .close :: ts => some (s, ts)
  | fuel + 1, s, .name a :: ts => do
    let ((isText, isId), ts) ← readAttributeType? ts
    let (raw?, ts) ← readDefault? ts
    if s.doctype.keeps s.unread then
      match raw? with
      | none =>
        readAttributes? element fuel
          { s with doctype := s.doctype.declare element isId ⟨a, isText, none⟩ } ts
      | some raw =>
        let (value, budget) ← s.doctype.attributeValue? isText s.budget raw
        readAttributes? element fuel
          { s with
            doctype := s.doctype.declare element isId ⟨a, isText, some value⟩
            budget := budget } ts
    else readAttributes? element fuel s ts
  | _, _, _ => none

/-- Adds a general entity, unless it is declared already or needs no declaration. -/
def Subset.addEntity (s : Subset) (name : String) (text : EntityText) : Subset :=
  if s.doctype.keeps s.unread && (predefined? name).isNone then
    { s with doctype := { s.doctype with entities := s.doctype.entities.putNew name text } }
  else s

/-- The replacement text of a declared value, checked only if declarations are taken up. -/
def Subset.text? (s : Subset) (raw : List Char) : Option (List Char) :=
  if s.doctype.keeps s.unread then replacementText? [] (raw.length + 1) raw else some []

/-- The rest of an entity declaration after its keyword. -/
def readEntity? (s : Subset) : List Token → Option (Subset × List Token)
  | .percent :: .name n :: .literal raw :: .close :: ts => do
    let _ ← plainName? n
    let _ ← s.text? raw
    return (s, ts)
  | .percent :: .name n :: .name k :: .literal _ :: .close :: ts =>
    if n.qualifier.isNone ∧ plainName? k = some "SYSTEM" then some (s, ts) else none
  | .percent :: .name n :: .name k :: .literal p :: .literal _ :: .close :: ts =>
    if n.qualifier.isNone ∧ plainName? k = some "PUBLIC" ∧ isPublicIdentifier p then some (s, ts)
    else none
  | .name n :: .literal raw :: .close :: ts => do
    let name ← plainName? n
    let text ← s.text? raw
    return (s.addEntity name (.text text), ts)
  | .name n :: .name k :: .literal _ :: .close :: ts => do
    let name ← plainName? n
    if plainName? k = some "SYSTEM" then some (s.addEntity name .external, ts) else none
  | .name n :: .name k :: .literal _ :: .name nd :: .name m :: .close :: ts => do
    let name ← plainName? n
    if plainName? k = some "SYSTEM" ∧ plainName? nd = some "NDATA" ∧ m.qualifier.isNone then
      some (s.addEntity name .unparsed, ts)
    else none
  | .name n :: .name k :: .literal p :: .literal _ :: .close :: ts => do
    let name ← plainName? n
    if plainName? k = some "PUBLIC" ∧ isPublicIdentifier p then
      some (s.addEntity name .external, ts)
    else none
  | .name n :: .name k :: .literal p :: .literal _ :: .name nd :: .name m :: .close :: ts => do
    let name ← plainName? n
    if plainName? k = some "PUBLIC" ∧ isPublicIdentifier p ∧ plainName? nd = some "NDATA"
        ∧ m.qualifier.isNone then
      some (s.addEntity name .unparsed, ts)
    else none
  | _ => none

/-- What follows a notation declaration after its keyword. -/
def afterNotation? : List Token → Option (List Token)
  | .name n :: .name k :: .literal p :: ts =>
    if n.qualifier.isSome then none
    else match plainName? k, ts with
      | some "SYSTEM", .close :: ts => some ts
      | some "PUBLIC", .close :: ts => if isPublicIdentifier p then some ts else none
      | some "PUBLIC", .literal _ :: .close :: ts =>
        if isPublicIdentifier p then some ts else none
      | _, _ => none
  | _ => none

/-- The declarations of an internal subset, up to its closing bracket. -/
def readSubset? : Nat → Subset → List Token → Option (Subset × List Token)
  | 0, _, _ => none
  | fuel + 1, s, ts => match ts with
    | .closeBracket :: ts => some (s, ts)
    | .comment :: ts => readSubset? fuel s ts
    | .instruction :: ts => readSubset? fuel s ts
    | .parameterEntity :: ts =>
      readSubset? fuel
        { s with unread := true, doctype := { s.doctype with incomplete := true } } ts
    | .declaration "ENTITY" :: ts => match readEntity? s ts with
      | some (s, ts) => readSubset? fuel s ts
      | none => none
    | .declaration "NOTATION" :: ts => match afterNotation? ts with
      | some ts => readSubset? fuel s ts
      | none => none
    | .declaration "ELEMENT" :: .name _ :: ts => match afterContentModel? ts with
      | some (.close :: ts) => readSubset? fuel s ts
      | _ => none
    | .declaration "ATTLIST" :: .name n :: ts => match readAttributes? n fuel s ts with
      | some (s, ts) => readSubset? fuel s ts
      | none => none
    | _ => none

/-- The rest of a declaration after the place of an external identifier. -/
def readSubsetOrEnd? (s : Subset) (fuel : Nat) : List Token → Option Subset
  | [.close] => some s
  | .openBracket :: ts => match readSubset? fuel s ts with
    | some (s, [.close]) => some s
    | _ => none
  | _ => none

/-- What the tokens of a document type declaration declare, and the budget left. -/
def Doctype.ofTokens? (standalone : Bool) (budget : Nat) (ts : List Token) :
    Option (Doctype × Nat) :=
  let s : Subset := ⟨.empty standalone, false, budget⟩
  let external : Subset := { s with doctype := { s.doctype with incomplete := true } }
  let fuel := ts.length + 1
  let result := match ts with
    | .name _ :: .name k :: .literal p :: ts => match plainName? k, ts with
      | some "SYSTEM", ts => readSubsetOrEnd? external fuel ts
      | some "PUBLIC", .literal _ :: ts =>
        if isPublicIdentifier p then readSubsetOrEnd? external fuel ts else none
      | _, _ => none
    | .name _ :: ts => readSubsetOrEnd? s fuel ts
    | _ => none
  result.map fun s => (s.doctype, s.budget)

end MavenImport.Xml
