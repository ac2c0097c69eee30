/-
# Command.Arguments -- reading the arguments of a command

Arguments are options or operands.  An option is a flag, which may be cut short as long as no
other flag begins like it, and may have its value attached behind an equals sign.  Flags of one
letter without a value may be run together.  After a divider of two dashes all arguments are
operands, and so is what looks like a negative number.

All arguments are marked first (`mark`), options are put together with their values (`items`),
and then they are read one after the other, so that the first thing wrong, or the first call
for help, is what counts.  Arguments that nothing takes are passed over, and refused at the end.
-/
import MavenImport.Text.Cut
import MavenImport.Text.Digit

namespace MavenImport.Arguments

set_option autoImplicit false

/-- Why no command is run: the arguments are wrong, or help was asked for. -/
inductive Exit
  | usage
  | help
deriving Repr, DecidableEq

/-- A flag by its full name, with the meaning that it has for its command. -/
structure Flag (κ : Type) where
  name : String
  meaning : κ
  takesValue : Bool

/-- What an option has attached to its flag. -/
inductive Attached
  | nothing
  /-- A text behind an equals sign. -/
  | value (s : String)
  /-- What follows a flag of one letter directly. -/
  | letters (cs : List Char)

/-- What an argument is at its place. -/
inductive Mark (κ : Type)
  | operand
  | divider
  | option (flag : Flag κ) (attached : Attached)
  | unknown

variable {κ : Type}

def divider : String := "--"

/-- A text that looks like a negative number: a dash and digits, with at most one point, which
digits follow. -/
def isNegativeNumber (s : String) : Bool :=
  let digit (c : Char) : Bool := (Text.decimalValue? c).isSome
  let body (cs : List Char) : Bool :=
    let rest := cs.dropWhile digit
    if rest.isEmpty then !cs.isEmpty
    else rest.head? = some '.' && !rest.tail.isEmpty && rest.tail.all digit
  match s.toList with
  | '-' :: cs => body (if cs.getLast? = some '\n' then cs.dropLast else cs)
  | _ => false

/-- An argument cut at its first equals sign. -/
def cutValue (s : String) : String × Attached := match Text.cut? '=' s.toList with
  | some (name, value) => (String.ofList name, .value (String.ofList value))
  | none => (s, .nothing)

/-- The flags that a long argument may mean, with the value attached to it. -/
def longCandidates (flags : List (Flag κ)) (s : String) : List (Flag κ × Attached) :=
  let (name, attached) := cutValue s
  (flags.filter fun f => Text.startsWith name f.name).map fun f => (f, attached)

/-- The flags that a short argument may mean: a flag of one letter with all the rest attached,
or one that begins like the argument. -/
def shortCandidates (flags : List (Flag κ)) (s : String) : List (Flag κ × Attached) :=
  flags.filterMap fun f =>
    if f.name.toList = s.toList.take 2 then some (f, .letters (s.toList.drop 2))
    else if Text.startsWith s f.name then some (f, .nothing)
    else none

def candidates (flags : List (Flag κ)) (s : String) : List (Flag κ × Attached) :=
  if Text.startsWith divider s then longCandidates flags s else shortCandidates flags s

def findFlag (flags : List (Flag κ)) (name : String) : Option (Flag κ) :=
  flags.find? fun f => f.name = name

/-- The flag that an argument names in full, perhaps with a value attached. -/
def exactOption (flags : List (Flag κ)) (s : String) : Option (Flag κ × Attached) :=
  match findFlag flags s with
  | some f => some (f, .nothing)
  | none => match cutValue s with
    | (name, .value value) => (findFlag flags name).map fun f => (f, .value value)
    | _ => none

/-- What an argument that begins with a dash is. -/
def markDashed (flags : List (Flag κ)) (s : String) : Except Exit (Mark κ) :=
  match exactOption flags s with
  | some (f, attached) => .ok (.option f attached)
  | none => match candidates flags s with
    | [(f, attached)] => .ok (.option f attached)
    | [] =>
      if isNegativeNumber s || s.toList.contains ' ' then .ok .operand else .ok .unknown
    | _ => .error .usage

def markOne (flags : List (Flag κ)) (s : String) : Except Exit (Mark κ) :=
  if Text.startsWith "-" s && s ≠ "-" then markDashed flags s else .ok .operand

/-- The arguments with what each of them is. -/
def mark (flags : List (Flag κ)) : List String → Except Exit (List (String × Mark κ))
  | [] => .ok []
  | s :: rest =>
    if s = divider then .ok ((s, .divider) :: rest.map fun t => (t, .operand))
    else do
      let m ← markOne flags s
      return (s, m) :: (← mark flags rest)

/-- The flags of letters that are run together, and whether letters from some point on mean
no flag.  A dash or an equals sign among them is wrong. -/
def cluster (flags : List (Flag κ)) : List Char → Option (List (Flag κ) × Bool)
  | [] => some ([], false)
  | c :: cs =>
    if c = '-' || c = '=' then none
    else match findFlag flags (String.ofList ['-', c]) with
      | some f => (cluster flags cs).map fun (fs, leftover) => (f :: fs, leftover)
      | none => some ([], true)

/-- Arguments that belong together. -/
inductive Item (κ : Type)
  /-- Flags, each with its value, which is empty for a flag without one, and whether the argument
  holds more than them. -/
  | option (given : List (Flag κ × String)) (leftover : Bool)
  /-- An option without the value that it takes, or with one that it does not take. -/
  | malformed
  /-- An operand, with all arguments behind it. -/
  | operand (s : String) (behind : List String)
  | divider
  | unknown

/-- An option of a flag that takes no value, with what is attached to it. -/
def plainOption (flags : List (Flag κ)) (f : Flag κ) : Attached → Item κ
  | .nothing => .option [(f, "")] false
  | .value _ => .malformed
  | .letters cs => match cluster flags cs with
    | some (fs, leftover) => .option ((f :: fs).map (·, "")) leftover
    | none => .malformed

/-- Puts options together with their values. -/
def items (flags : List (Flag κ)) : List (String × Mark κ) → List (Item κ)
  | [] => []
  | (s, .operand) :: rest => .operand s (rest.map Prod.fst) :: items flags rest
  | (_, .divider) :: rest => .divider :: items flags rest
  | (_, .unknown) :: rest => .unknown :: items flags rest
  | (_, .option f attached) :: rest =>
    if f.takesValue then match attached, rest with
      | .value s, rest => .option [(f, s)] false :: items flags rest
      | .letters cs, rest => .option [(f, String.ofList cs)] false :: items flags rest
      | .nothing, (s, .operand) :: rest => .option [(f, s)] false :: items flags rest
      | .nothing, _ => [.malformed]
    else plainOption flags f attached :: items flags rest

/-- What the arguments of a command say. -/
structure Reading (κ : Type) where
  /-- The meanings of the flags, with their values, in order. -/
  given : List (κ × String) := []
  operand : Option String := none
  /-- There are arguments that nothing takes. -/
  leftover : Bool := false

namespace Reading

/-- Takes flags up, each of which `check` may refuse. -/
def take (check : κ → String → Except Exit Unit) (r : Reading κ) :
    List (Flag κ × String) → Except Exit (Reading κ)
  | [] => .ok r
  | (f, value) :: rest => do
    check f.meaning value
    take check { r with given := r.given ++ [(f.meaning, value)] } rest

/-- Notes whether something is left over. -/
def leave (r : Reading κ) (leftover : Bool) : Reading κ :=
  { r with leftover := r.leftover || leftover }

/-- The value of a flag; of several the last counts. -/
def value? [DecidableEq κ] (r : Reading κ) (k : κ) : Option String :=
  ((r.given.filter fun e => e.1 = k).getLast?).map Prod.snd

/-- How often a flag is given. -/
def count [DecidableEq κ] (r : Reading κ) (k : κ) : Nat := r.given.countP fun e => e.1 = k

end Reading

/-- Reads all arguments of a command, which takes an operand or not.  A divider belongs to the
operand beside it. -/
def readAll (check : κ → String → Except Exit Unit) (takesOperand : Bool) :
    List (Item κ) → Reading κ → Except Exit (Reading κ)
  | [], r => .ok r
  | .option given leftover :: rest, r => do
    readAll check takesOperand rest (← (r.leave leftover).take check given)
  | .malformed :: _, _ => .error .usage
  | .unknown :: rest, r => readAll check takesOperand rest (r.leave true)
  | .divider :: rest, r =>
    if takesOperand && r.operand.isNone then readAll check takesOperand rest r
    else readAll check takesOperand rest (r.leave true)
  | .operand s _ :: rest, r =>
    if takesOperand && r.operand.isNone then
      let r := { r with operand := some s }
      match rest with
      | .divider :: rest => readAll check takesOperand rest r
      | rest => readAll check takesOperand rest r
    else readAll check takesOperand rest (r.leave true)

/-- Reads arguments up to the first operand, which is a command, and gives it with the arguments
behind it. -/
def readToCommand (check : κ → String → Except Exit Unit) :
    List (Item κ) → Reading κ → Except Exit (Reading κ × String × List String)
  | [], _ => .error .usage
  | .option given leftover :: rest, r => do
    readToCommand check rest (← (r.leave leftover).take check given)
  | .malformed :: _, _ => .error .usage
  | .unknown :: rest, r => readToCommand check rest (r.leave true)
  | .divider :: _, _ => .error .usage
  | .operand s behind :: _, r => .ok (r, s, behind)

/-- A whole number: digits of any script, which single underscores may part, with a sign and
blanks around it. -/
def integer? (s : String) : Option Int :=
  let blank (c : Char) : Bool :=
    c = ' ' || ('\t' ≤ c && c ≤ '\r') || (127 < c.toNat && Text.isBlank c)
  let cs := ((s.toList.dropWhile blank).reverse.dropWhile blank).reverse
  let natural (cs : List Char) : Option Int :=
    let groups := Text.pieces (· = '_') cs
    if groups.any List.isEmpty then none else (Text.numeral? groups.flatten).map Int.ofNat
  match cs with
  | '+' :: cs => natural cs
  | '-' :: cs => (natural cs).map (- ·)
  | cs => natural cs

end MavenImport.Arguments
