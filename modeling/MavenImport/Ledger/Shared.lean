/-
# Ledger.Shared -- one ledger that many callers use at once

The ledger of a run is an object in memory, and `Ledger` is how it reads: an index leads from a
slug to the cell of its entry, and the entry to two sets of texts.  A call takes the lock, makes
its steps and gives the lock back.  Each access to the index, to an entry or to a set is a step
of its own (`Work.next`), so the steps of the callers may come in any order.

All entries are answered as a copy.  Those who have copies may follow the references in them and
change what these lead to, at any time and without the lock; what one of them has is taken to be
had by all.  Who makes the next step is said by a schedule (`State.follow`).
-/
import MavenImport.Ledger

namespace MavenImport

set_option autoImplicit false

/-- What is recorded: a slug, a version, and the coordinate that asked for it if there is one. -/
abbrev Recording := String × String × Option String

namespace SharedLedger

/-! ## Memory -/

/-- Where a cell lies. -/
abbrev Address := Nat

inductive Cell
  /-- It leads from slugs to entries. -/
  | index (slots : Table String Address)
  /-- It leads to the set of dependants and to the set of versions. -/
  | entry (dependants versions : Address)
  /-- It is a set. -/
  | members (texts : List String)
deriving Repr, DecidableEq

/-- The cells that a cell refers to. -/
def Cell.refs : Cell → List Address
  | index slots => slots.values
  | entry dependants versions => [dependants, versions]
  | members _ => []

/-- All cells, each at its address. -/
abbrev Memory := List Cell

/-- Where the index of the ledger lies. -/
def home : Address := 0

namespace Memory

def slots? (m : Memory) (a : Address) : Option (Table String Address) := match m[a]? with
  | some (.index slots) => some slots
  | _ => none

/-- The addresses of the dependants and of the versions of an entry. -/
def sets? (m : Memory) (a : Address) : Option (Address × Address) := match m[a]? with
  | some (.entry dependants versions) => some (dependants, versions)
  | _ => none

def texts? (m : Memory) (a : Address) : Option (List String) := match m[a]? with
  | some (.members texts) => some texts
  | _ => none

/-- Makes a new cell, which comes to lie behind all others. -/
def place (m : Memory) (c : Cell) : Memory := m ++ [c]

/-- Adds a text to a set. -/
def add (m : Memory) (a : Address) (text : String) : Option Memory :=
  (m.texts? a).map fun texts => m.set a (.members (addOnce text texts))

/-- Puts an entry in an index. -/
def file (m : Memory) (a : Address) (slug : String) (entry : Address) : Option Memory :=
  (m.slots? a).map fun slots => m.set a (.index (slots.put slug entry))

/-- Makes a copy of a set. -/
def copySet (m : Memory) (a : Address) : Option Memory :=
  (m.texts? a).map fun texts => m.place (.members texts)

/-- An entry as it reads. -/
def entry? (m : Memory) (a : Address) : Option LedgerEntry := do
  let (dependants, versions) ← m.sets? a
  return ⟨← m.texts? dependants, ← m.texts? versions⟩

def entries? (m : Memory) : List (String × Address) → Option (List (String × LedgerEntry))
  | [] => some []
  | (slug, a) :: slots => do
    let e ← m.entry? a
    return (slug, e) :: (← entries? m slots)

/-- The ledger that an index leads to, as it reads. -/
def ledger? (m : Memory) (a : Address) : Option Ledger := do
  let slots ← m.slots? a
  return ⟨← m.entries? slots.entries⟩

end Memory

/-! ## Calls -/

inductive Request
  | record (r : Recording)
  /-- All entries. -/
  | entries
  | contains (slug : String)
  /-- How many slugs there are. -/
  | size
deriving Repr, DecidableEq

/-- How far a call has come. -/
inductive Work
  /-- The entry of the slug is looked up. -/
  | seeking (r : Recording)
  /-- There is none, so one is made. -/
  | making (r : Recording)
  /-- It is made, and is put in the index. -/
  | filing (r : Recording) (entry : Address)
  /-- The version is added. -/
  | adding (r : Recording) (entry : Address)
  /-- The dependant is added, if there is one. -/
  | crediting (r : Recording) (entry : Address)
  | recorded (r : Recording)
  /-- An index is made for the copy. -/
  | opening
  /-- The entry that has a place in the index is looked up. -/
  | copying (copy : Address) (place : Nat)
  /-- The dependants of that entry are copied. -/
  | picked (copy : Address) (place : Nat) (slug : String) (entry : Address)
  /-- The versions of that entry are copied. -/
  | halfway (copy : Address) (place : Nat) (slug : String) (entry dependants : Address)
  /-- The copied sets make up an entry, which is put in the copy. -/
  | joining (copy : Address) (place : Nat) (slug : String) (dependants versions : Address)
  | copied (copy : Address)
  /-- The slug is looked up. -/
  | asking (slug : String)
  | told (slug : String) (found : Bool)
  /-- The slugs are counted. -/
  | counting
  | counted (slugs : Nat)
deriving Repr, DecidableEq

inductive Answer
  | done
  /-- A copy of the entries, as it reads when it is answered. -/
  | listed (seen : Option Ledger)
  | told (found : Bool)
  | counted (slugs : Nat)
deriving Repr, DecidableEq

/-- How a call begins, once it has the lock. -/
def Request.start : Request → Work
  | record r => .seeking r
  | entries => .opening
  | contains slug => .asking slug
  | size => .counting

namespace Work

/-- The call that is being made. -/
def request : Work → Request
  | seeking r | making r | filing r _ | adding r _ | crediting r _ | recorded r => .record r
  | asking slug | told slug _ => .contains slug
  | counting | counted _ => .size
  | _ => .entries

/-- The answer to a call that has come to its end. -/
def answer? (m : Memory) : Work → Option Answer
  | recorded _ => some .done
  | copied copy => some (.listed (m.ledger? copy))
  | told _ found => some (.told found)
  | counted slugs => some (.counted slugs)
  | _ => none

/-- What is handed to the caller, apart from texts. -/
def handed : Work → List Address
  | copied copy => [copy]
  | _ => []

/-- The next step of a call, unless it has come to its end or a reference leads astray. -/
def next (m : Memory) : Work → Option (Work × Memory)
  | seeking r => do
    let slots ← m.slots? home
    match slots.find? r.1 with
    | some entry => return (adding r entry, m)
    | none => return (making r, m)
  | making r =>
    let sets := (m.place (.members [])).place (.members [])
    some (filing r sets.length, sets.place (.entry m.length (m.length + 1)))
  | filing r entry => do return (adding r entry, ← m.file home r.1 entry)
  | adding r entry => do
    let (_, versions) ← m.sets? entry
    return (crediting r entry, ← m.add versions r.2.1)
  | crediting r entry => match r.2.2 with
    | none => some (recorded r, m)
    | some dependant => do
      let (dependants, _) ← m.sets? entry
      return (recorded r, ← m.add dependants dependant)
  | opening => some (copying m.length 0, m.place (.index ⟨[]⟩))
  | copying copy n => do
    let slots ← m.slots? home
    match slots.entries[n]? with
    | some (slug, entry) => return (picked copy n slug entry, m)
    | none => return (copied copy, m)
  | picked copy n slug entry => do
    let (dependants, _) ← m.sets? entry
    return (halfway copy n slug entry m.length, ← m.copySet dependants)
  | halfway copy n slug entry dependants => do
    let (_, versions) ← m.sets? entry
    return (joining copy n slug dependants m.length, ← m.copySet versions)
  | joining copy n slug dependants versions => do
    let m' ← (m.place (.entry dependants versions)).file copy slug m.length
    return (copying copy (n + 1), m')
  | asking slug => do
    let slots ← m.slots? home
    return (told slug (slots.contains slug), m)
  | counting => do
    let slots ← m.slots? home
    return (counted slots.entries.length, m)
  | recorded _ | copied _ | told _ _ | counted _ => none

end Work

/-! ## Callers -/

inductive Caller
  /-- It is outside, with calls to make. -/
  | waiting (calls : List Request)
  /-- It makes a call, which has the lock, and has others to make later. -/
  | inside (work : Work) (later : List Request)
deriving Repr, DecidableEq

/-- The calls that are not answered yet. -/
def Caller.calls : Caller → List Request
  | waiting calls => calls
  | inside work later => work.request :: later

/-- A call that was answered. -/
structure Event where
  caller : Nat
  request : Request
  answer : Answer
deriving Repr, DecidableEq

/-- What a call recorded, if it did. -/
def Event.recording? (e : Event) : Option Recording := match e.request with
  | .record r => some r
  | _ => none

/-- What was recorded, in the order of the calls. -/
def recordings (log : List Event) : List Recording := log.filterMap Event.recording?

structure State where
  memory : Memory
  locked : Bool
  callers : List Caller
  /-- The references that those have who were given copies. -/
  held : List Address
  /-- The calls that were answered, in order. -/
  log : List Event
deriving Repr, DecidableEq

/-- Who makes a step. -/
inductive Move
  | call (caller : Nat)
  /-- Someone who has a reference to a cell takes a reference out of it. -/
  | read (a b : Address)
  /-- Someone who has a reference to a cell changes it to whatever they can. -/
  | write (a : Address) (c : Cell)
  /-- Someone makes a cell. -/
  | make (c : Cell)
deriving Repr, DecidableEq

def Move.isCall : Move → Bool
  | call _ => true
  | _ => false

namespace State

/-- An empty ledger, and callers with calls to make. -/
def start (programs : List (List Request)) : State where
  memory := [.index ⟨[]⟩]
  locked := false
  callers := programs.map .waiting
  held := []
  log := []

/-- A step of a caller: it takes the lock if it is free, goes on with its call, or is answered and
gives the lock back. -/
def call (s : State) (i : Nat) : State := match s.callers[i]? with
  | some (.waiting (request :: later)) =>
    if s.locked then s
    else { s with locked := true, callers := s.callers.set i (.inside request.start later) }
  | some (.inside work later) => match work.answer? s.memory with
    | some answer =>
      { s with
        locked := false
        callers := s.callers.set i (.waiting later)
        held := work.handed ++ s.held
        log := s.log ++ [⟨i, work.request, answer⟩] }
    | none => match work.next s.memory with
      | some (work', m) =>
        { s with memory := m, callers := s.callers.set i (.inside work' later) }
      | none => s
  | _ => s

/-- The references that a cell has. -/
def refsAt (s : State) (a : Address) : List Address := (s.memory[a]?.map Cell.refs).getD []

/-- A step, if it can be made. -/
def move (s : State) : Move → State
  | .call i => s.call i
  | .read a b => if a ∈ s.held ∧ b ∈ s.refsAt a then { s with held := b :: s.held } else s
  | .write a c =>
    if a ∈ s.held ∧ ∀ b ∈ c.refs, b ∈ s.held then { s with memory := s.memory.set a c } else s
  | .make c =>
    if ∀ b ∈ c.refs, b ∈ s.held then
      { s with memory := s.memory.place c, held := s.memory.length :: s.held }
    else s

/-- Makes steps in the order of a schedule. -/
def follow (s : State) (schedule : List Move) : State := schedule.foldl move s

/-- All calls are answered. -/
def Done (s : State) : Prop := ∀ c ∈ s.callers, c = .waiting []

end State

end SharedLedger

end MavenImport
