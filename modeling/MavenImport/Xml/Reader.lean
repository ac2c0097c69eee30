/-
# Xml.Reader -- documents to trees of elements

The reader takes well-formed documents with namespaces: every prefix is bound where it is
used, no attribute is given twice, elements nest, and references are to characters or to
declared entities.  The text of an entity is read as content of its own, so that it opens and
closes the same elements; entities that refer to themselves are refused, and so are documents
whose entities blow up beyond measure.

Reading starts from bytes (`Element.ofBytes`): a byte order mark, or the first two bytes,
tell UTF-16 from the sets that agree with ASCII, and a declaration may name one of the latter.
-/
import MavenImport.Xml.Charset
import MavenImport.Xml.Doctype
import MavenImport.Xml.Element

namespace MavenImport.Xml

set_option autoImplicit false

/-- Why bytes are no document. -/
inductive Fault
  | malformed
  | unknownCharset (name : String)
  | multiByteCharset
deriving Repr, DecidableEq

/-! ## Namespaces -/

def xmlNamespace : String := "http://www.w3.org/XML/1998/namespace"
def declarationNamespace : String := "http://www.w3.org/2000/xmlns/"

/-- What prefixes are bound to, the innermost binding first; no prefix is the default. -/
abbrev Bindings := List (Option String × String)

/-- The character that ends a namespace in an expanded name. -/
def namespaceEnd : Char := '\x7d'

/-- A binding, if it is admitted: only `xml` is bound to its own namespace, nothing is bound to
the namespace of declarations, and only the default can be unbound. -/
def bind? (bindings : Bindings) (label : Option String) (space : String) : Option Bindings :=
  if label = some "xmlns" ∨ (label.isSome ∧ space = "") ∨ space = declarationNamespace
      ∨ space.toList.contains namespaceEnd then none
  else if (label = some "xml") ≠ (space = xmlNamespace) then none
  else some ((label, space) :: bindings)

/-- The namespace of a prefix, or of no prefix. -/
def spaceOf (bindings : Bindings) (label : Option String) : Option String :=
  if label = some "xml" then some xmlNamespace
  else match bindings.find? fun b => b.1 = label with
    | some (_, space) => if space = "" then none else some space
    | none => none

def elementName? (bindings : Bindings) (n : QName) : Option Name :=
  match n.qualifier, spaceOf bindings n.qualifier with
  | none, space => some ⟨space, n.label⟩
  | some _, some space => some ⟨some space, n.label⟩
  | some _, none => none

def attributeName? (bindings : Bindings) (n : QName) : Option Name :=
  match n.qualifier, spaceOf bindings n.qualifier with
  | none, _ => some ⟨none, n.label⟩
  | some _, some space => some ⟨some space, n.label⟩
  | some _, none => none

/-- The prefix that an attribute binds, if it is a declaration of one. -/
def boundLabel? (n : QName) : Option (Option String) :=
  match n.qualifier with
  | none => if n.label = "xmlns" then some none else none
  | some q => if q = "xmlns" then some (some n.label) else none

/-! ## Tags -/

/-- The raw attributes of a tag after its name: whether the element is empty, the attributes
in order, and what follows the tag. -/
def readTag? (acc : List (QName × List Char)) :
    Nat → List Char → Option (Bool × List (QName × List Char) × List Char)
  | 0, _ => none
  | fuel + 1, cs => match skipSpace cs with
    | '>' :: rest => some (false, acc.reverse, rest)
    | '/' :: '>' :: rest => some (true, acc.reverse, rest)
    | cs' =>
      if cs'.length = cs.length then none
      else match readQName? cs' with
        | none => none
        | some (n, rest) => match skipSpace rest with
          | '=' :: rest => match skipSpace rest with
            | q :: rest =>
              if q = '"' ∨ q = '\'' then match until? [q] [] rest with
                | some (raw, rest) => readTag? ((n, raw) :: acc) fuel rest
                | none => none
              else none
            | [] => none
          | _ => none

/-- Whether an attribute of an element takes white space as text. -/
def Doctype.isText (d : Doctype) (element name : QName) : Bool :=
  match d.attributes.find? fun (e, a) => e == element && a.name == name with
  | some (_, a) => a.isText
  | none => true

/-- The attributes of an element that are declared with a default. -/
def Doctype.defaults (d : Doctype) (element : QName) : List (QName × String) :=
  d.attributes.filterMap fun (e, a) =>
    if e = element then a.default?.map (a.name, ·) else none

/-- Values for raw attributes, in order, and what is left of the budget. -/
def readValues? (d : Doctype) (element : QName) (budget : Nat) :
    List (QName × List Char) → Option (List (QName × String) × Nat)
  | [] => some ([], budget)
  | (n, raw) :: rest => do
    let (value, budget) ← d.attributeValue? (d.isText element n) budget raw
    let (values, budget) ← readValues? d element budget rest
    return ((n, value) :: values, budget)

/-- The bindings inside an element with given attributes. -/
def bindAll? (bindings : Bindings) : List (QName × String) → Option Bindings
  | [] => some bindings
  | (n, value) :: rest => match boundLabel? n with
    | none => bindAll? bindings rest
    | some label => match bind? bindings label value with
      | none => none
      | some bindings => bindAll? bindings rest

/-- The attributes that are no declarations, with expanded names. -/
def expandAll? (bindings : Bindings) : List (QName × String) → Option (List (Name × String))
  | [] => some []
  | (n, value) :: rest => do
    let others ← expandAll? bindings rest
    if (boundLabel? n).isSome then return others
    return ((← attributeName? bindings n), value) :: others

/-- An element that is open. -/
structure Frame where
  written : QName
  name : Name
  attributes : List (Name × String)
  /-- The text before the first child, last character first. -/
  text : List Char
  /-- The children, last one first. -/
  children : List Element
  bindings : Bindings

def Frame.close (f : Frame) : Element :=
  .mk f.name f.attributes (String.ofList f.text.reverse) f.children.reverse

/-- The open elements, innermost first, the root once it is closed, and the budget of
characters that entities may still give. -/
structure Progress where
  openFrames : List Frame
  root : Option Element
  budget : Nat

def Progress.bindings (p : Progress) : Bindings := match p.openFrames with
  | f :: _ => f.bindings
  | [] => []

/-- Adds a character of text. -/
def Progress.addChar (p : Progress) (c : Char) : Progress := match p.openFrames with
  | f :: fs =>
    if f.children.isEmpty then { p with openFrames := { f with text := c :: f.text } :: fs } else p
  | [] => p

def Progress.addChars (p : Progress) (cs : List Char) : Progress := cs.foldl addChar p

/-- Adds a closed element to the innermost open one, or makes it the root. -/
def Progress.addElement (p : Progress) (e : Element) : Progress := match p.openFrames with
  | f :: fs => { p with openFrames := { f with children := e :: f.children } :: fs }
  | [] => { p with root := some e }

/-- Takes up a start tag. -/
def Progress.start? (p : Progress) (d : Doctype) (n : QName) (empty : Bool)
    (raw : List (QName × List Char)) : Option Progress := do
  let (values, budget) ← readValues? d n p.budget raw
  if !(values.map Prod.fst).Nodup then none
  let defaults := (d.defaults n).filter fun (a, _) => !(values.map Prod.fst).contains a
  let all := values ++ defaults
  let bindings ← bindAll? p.bindings all
  let name ← elementName? bindings n
  let attributes ← expandAll? bindings all
  if !(attributes.map Prod.fst).Nodup then none
  let f : Frame := ⟨n, name, attributes, [], [], bindings⟩
  let p := { p with budget := budget }
  if empty then return p.addElement f.close
  return { p with openFrames := f :: p.openFrames }

/-- Takes up an end tag, which must be that of the innermost open element. -/
def Progress.end? (p : Progress) (n : QName) : Option Progress := match p.openFrames with
  | f :: fs => if f.written = n then some ({ p with openFrames := fs }.addElement f.close) else none
  | [] => none

/-- What follows the name of an end tag. -/
def afterEndTag? (cs : List Char) : Option (List Char) := match skipSpace cs with
  | '>' :: rest => some rest
  | _ => none

/-! ## Content -/

/-- Reads content until the root is closed, or until the end of the text of an entity; `floor`
elements were open when the text began, and none of them may be closed in it. -/
def readContent? (d : Doctype) (opened : List String) (floor : Nat) :
    Nat → Progress → List Char → Option (Progress × List Char)
  | 0, _, _ => none
  | fuel + 1, p, cs => match cs with
    | [] => if p.openFrames.length = floor ∧ floor ≠ 0 then some (p, []) else none
    | '<' :: '/' :: rest =>
      if p.openFrames.length = floor then none
      else match readQName? rest with
        | none => none
        | some (n, rest) => match p.end? n, afterEndTag? rest with
          | some p, some rest =>
            if p.openFrames.isEmpty then some (p, rest) else readContent? d opened floor fuel p rest
          | _, _ => none
    | '<' :: '!' :: '-' :: '-' :: rest => match afterComment? rest with
      | some rest => readContent? d opened floor fuel p rest
      | none => none
    | '<' :: '!' :: '[' :: 'C' :: 'D' :: 'A' :: 'T' :: 'A' :: '[' :: rest =>
      match until? [']', ']', '>'] [] rest with
      | some (text, rest) => readContent? d opened floor fuel (p.addChars text) rest
      | none => none
    | '<' :: '?' :: rest => match afterInstruction? rest with
      | some rest => readContent? d opened floor fuel p rest
      | none => none
    | '<' :: rest => match readQName? rest with
      | none => none
      | some (n, rest) => match readTag? [] (rest.length + 1) rest with
        | none => none
        | some (empty, raw, rest) => match p.start? d n empty raw with
          | none => none
          | some p =>
            if p.openFrames.isEmpty then some (p, rest) else readContent? d opened floor fuel p rest
    | '&' :: rest => match readReference? rest with
      | none => none
      | some (.character c, rest) => readContent? d opened floor fuel (p.addChar c) rest
      | some (.entity name, rest) => match predefined? name with
        | some c => readContent? d opened floor fuel (p.addChar c) rest
        | none => match d.entities.find? name with
          | some (.text text) =>
            if opened.contains name || p.budget < text.length then none
            else match readContent? d (name :: opened) p.openFrames.length fuel
                { p with budget := p.budget - text.length } text with
              | some (p, _) => readContent? d opened floor fuel p rest
              | none => none
          | _ => none
    | ']' :: ']' :: '>' :: _ => none
    | c :: rest =>
      if isDocumentChar c then readContent? d opened floor fuel (p.addChar c) rest else none

/-! ## Documents -/

/-- What follows comments, processing instructions and white space. -/
def afterMisc? : Nat → List Char → Option (List Char)
  | 0, _ => none
  | fuel + 1, cs => match skipSpace cs with
    | '<' :: '!' :: '-' :: '-' :: rest => match afterComment? rest with
      | some rest => afterMisc? fuel rest
      | none => none
    | '<' :: '?' :: rest => match afterInstruction? rest with
      | some rest => afterMisc? fuel rest
      | none => none
    | rest => some rest

/-- Characters that entities may give in a document of a given length: eight million
characters in all, or the document a hundred times over. -/
def entityBudget (length : Nat) : Nat := max 8388608 (100 * length) - length

/-- The document type declaration, if there is one, and what follows it. -/
def readDoctype? (standalone : Bool) (budget : Nat) (cs : List Char) :
    Option ((Doctype × Nat) × List Char) :=
  match Text.afterStart? "<!DOCTYPE".toList cs with
  | none => some ((.empty standalone, budget), cs)
  | some rest =>
    if endsBefore [] rest then do
      let (tokens, rest) ← Doctype.tokens? rest
      return ((← Doctype.ofTokens? standalone budget tokens), rest)
    else none

/-- The root of a document, from what follows the declaration of its version. -/
def readDocument? (standalone : Bool) (cs : List Char) : Option Element := do
  let n := cs.length
  let rest ← afterMisc? (n + 1) cs
  let ((doctype, budget), rest) ← readDoctype? standalone (entityBudget n) rest
  let rest ← afterMisc? (n + 1) rest
  match rest with
  | '<' :: '!' :: _ => none
  | '<' :: '/' :: _ => none
  | '<' :: _ =>
    let (p, rest) ← readContent? doctype [] 0 (entityBudget n + n + 1) ⟨[], none, budget⟩ rest
    let rest ← afterMisc? (n + 1) rest
    if rest.isEmpty then p.root else none
  | _ => none

/-- The declaration at the start of a document. -/
structure Declaration where
  charset : Option String
  standalone : Bool

/-- A character of a value in the declaration. -/
def isDeclarationChar (c : Char) : Bool := c.isAlphanum || c = '.' || c = '-' || c = '_'

/-- One value in the declaration, with white space before it, and what follows it. -/
def readDeclared? (cs : List Char) : Option ((String × List Char) × List Char) :=
  let cs' := skipSpace cs
  if cs'.length = cs.length then none
  else
    let name := cs'.takeWhile Char.isAlpha
    match skipSpace (cs'.dropWhile Char.isAlpha) with
    | '=' :: rest => match skipSpace rest with
      | q :: rest =>
        if q = '"' ∨ q = '\'' then
          let value := rest.takeWhile isDeclarationChar
          match rest.dropWhile isDeclarationChar with
          | c :: rest => if c = q then some ((String.ofList name, value), rest) else none
          | [] => none
        else none
      | [] => none
    | _ => none

/-- The end of the declaration: white space at most. -/
def isDeclarationEnd (cs : List Char) : Bool := (skipSpace cs).isEmpty

/-- The value of the last entry of the declaration. -/
def readStandalone? (charset : Option String) (cs : List Char) : Option Declaration :=
  if isDeclarationEnd cs then some ⟨charset, false⟩
  else match readDeclared? cs with
    | some (("standalone", value), rest) =>
      if !isDeclarationEnd rest then none
      else if value = "yes".toList then some ⟨charset, true⟩
      else if value = "no".toList then some ⟨charset, false⟩
      else none
    | _ => none

/-- The values of a declaration, in their order. -/
def readDeclaration? (cs : List Char) : Option Declaration :=
  match readDeclared? cs with
  | some (("version", _), rest) =>
    if isDeclarationEnd rest then some ⟨none, false⟩
    else match readDeclared? rest with
      | some (("encoding", value), rest) =>
        if (value.head?.map Char.isAlpha).getD false then
          readStandalone? (some (String.ofList value)) rest
        else none
      | _ => readStandalone? none rest
  | _ => none

/-- The declaration at the front, if there is one, and what follows it. -/
def splitDeclaration? (cs : List Char) : Option (Option Declaration × List Char) :=
  match Text.afterStart? "<?xml".toList cs with
  | none => some (none, cs)
  | some rest =>
    if endsBefore [] rest then match until? ['?', '>'] [] rest with
      | some (inner, rest) => (readDeclaration? inner).map fun d => (some d, rest)
      | none => none
    else some (none, cs)

/-- The root of a document whose characters are known up to line ends. -/
def readCharacters (d : Option Declaration) (cs : List Char) : Except Fault Element :=
  match readDocument? ((d.map Declaration.standalone).getD false) (lineFeeds cs) with
  | some e => .ok e
  | none => .error .malformed

/-- Reads a document in UTF-16, whose declaration must not name another set. -/
def readUtf16 (bigEndian : Bool) (bytes : List UInt8) : Except Fault Element :=
  match (Charset.utf16 bigEndian).decode? bytes with
  | none => .error .malformed
  | some cs => match splitDeclaration? (lineFeeds cs) with
    | none => .error .malformed
    | some (d, rest) => match d.bind Declaration.charset with
      | none => readCharacters d rest
      | some name => match Named.ofName name with
        | .charset (.utf16 b) =>
          if b = bigEndian ∨ String.ofList (name.toList.map Char.toUpper) = "UTF-16" then
            readCharacters d rest
          else .error .malformed
        | .unknown => .error (.unknownCharset name)
        | .multiByte => .error .multiByteCharset
        | _ => .error .malformed

/-- The bytes of a declaration at the front, as characters. -/
def declarationBytes (bytes : List UInt8) : List Char :=
  let cs := bytes.map fun b => Char.ofNat b.toNat
  if "<?xml".toList.isPrefixOf cs then lineFeeds cs else []

/-- Reads a document in a set that agrees with ASCII: the declared one, or else UTF-8. -/
def readAsciiBased (bytes : List UInt8) : Except Fault Element :=
  let read (c : Charset) : Except Fault Element := match c.decode? bytes with
    | none => .error .malformed
    | some cs => match splitDeclaration? (lineFeeds cs) with
      | none => .error .malformed
      | some (d, rest) => readCharacters d rest
  match splitDeclaration? (declarationBytes bytes) with
  | none => .error .malformed
  | some (d, _) => match d.bind Declaration.charset with
    | none => read .utf8
    | some name => match Named.ofName name with
      | .charset (.utf16 _) => .error .malformed
      | .charset c => read c
      | .multiByte => .error .multiByteCharset
      | .foreign => .error .malformed
      | .unknown => .error (.unknownCharset name)

/-- The root of a document. -/
def Element.ofBytes (bytes : ByteArray) : Except Fault Element :=
  match bytes.toList with
  | 0xFE :: 0xFF :: rest => readUtf16 true rest
  | 0xFF :: 0xFE :: rest => readUtf16 false rest
  | 0xEF :: 0xBB :: 0xBF :: rest => readAsciiBased rest
  | 0 :: b :: rest => readUtf16 true (0 :: b :: rest)
  | a :: 0 :: rest => readUtf16 false (a :: 0 :: rest)
  | all => readAsciiBased all

end MavenImport.Xml
