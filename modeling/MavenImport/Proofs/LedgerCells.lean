/-
# Proofs.LedgerCells -- how a ledger lies in memory

A ledger that lies in memory (`Lies`) has an index, which leads to the cells of its entries, and
these to their sets.  It then reads as the ledger that it is (`ledger?_lies`), whatever else is
in memory (`lies_kept`).

Some cells are fenced in (`Fenced`): nothing outside refers to them, and nobody has been given a
reference to one.  So it stays when someone who was given references follows them and changes
what they find (`fenced_write`), and when the fenced cells change or become more.  A part of them
that refers to nothing but itself can be given away (`fenced_release`).
-/
import Mathlib.Data.List.Nodup
import MavenImport.Ledger.Shared
import MavenImport.Proofs.TableLaws

namespace MavenImport

set_option autoImplicit false

namespace SharedLedger

/-! ## Places -/

/-- An entry of a ledger, and where it lies. -/
structure Spot where
  entry : Address
  dependants : Address
  versions : Address
  value : LedgerEntry

namespace Spot

/-- The cells of an entry, in the order in which they are made. -/
def cells (s : Spot) : List Address := [s.dependants, s.versions, s.entry]

structure Lies (m : Memory) (s : Spot) : Prop where
  entry : m[s.entry]? = some (.entry s.dependants s.versions)
  dependants : m[s.dependants]? = some (.members s.value.dependants)
  versions : m[s.versions]? = some (.members s.value.versions)

end Spot

/-- The ledger that has some entries. -/
def ledgerOf (rows : List (String × Spot)) : Ledger := ⟨rows.map fun r => (r.1, r.2.value)⟩

/-- The index that leads to some entries. -/
def slotsOf (rows : List (String × Spot)) : Table String Address :=
  ⟨rows.map fun r => (r.1, r.2.entry)⟩

def cellsOf (rows : List (String × Spot)) : List Address := rows.flatMap fun r => r.2.cells

/-- The ledger of some entries lies in memory, with its index at an address. -/
structure Lies (m : Memory) (a : Address) (rows : List (String × Spot)) : Prop where
  index : m[a]? = some (.index (slotsOf rows))
  spots : ∀ r ∈ rows, r.2.Lies m

section Rows

variable (rows rows' : List (String × Spot)) (slug : String) (spot : Spot)

theorem find?_ledgerOf :
    (ledgerOf rows).find? slug = (Table.findEntry slug rows).map Spot.value :=
  findEntry_map Spot.value slug rows

theorem find?_slotsOf :
    (slotsOf rows).find? slug = (Table.findEntry slug rows).map Spot.entry :=
  findEntry_map Spot.entry slug rows

theorem keys_ledgerOf : (ledgerOf rows).keys = rows.map Prod.fst := by
  simp [ledgerOf, Table.keys]

theorem cellsOf_append : cellsOf (rows ++ rows') = cellsOf rows ++ cellsOf rows' :=
  List.flatMap_append

theorem cellsOf_cons : cellsOf ((slug, spot) :: rows) = spot.cells ++ cellsOf rows :=
  List.flatMap_cons

variable {rows slug}

theorem slotsOf_put (new : slug ∉ rows.map Prod.fst) :
    (slotsOf rows).put slug spot.entry = slotsOf (rows ++ [(slug, spot)]) := by
  have new' : slug ∉ (rows.map fun r => (r.1, r.2.entry)).map Prod.fst := by simpa using new
  rw [slotsOf, Table.put, putEntry_new new', slotsOf, List.map_append]
  rfl

theorem ledgerOf_put (new : slug ∉ rows.map Prod.fst) :
    (ledgerOf rows).put slug spot.value = ledgerOf (rows ++ [(slug, spot)]) := by
  have new' : slug ∉ (rows.map fun r => (r.1, r.2.value)).map Prod.fst := by simpa using new
  rw [ledgerOf, Table.put, putEntry_new new', ledgerOf, List.map_append]
  rfl

/-- The value of an entry changes in place. -/
theorem ledgerOf_change {pre : List (String × Spot)} (first : slug ∉ pre.map Prod.fst)
    (spot spot' : Spot) (post : List (String × Spot)) :
    (ledgerOf (pre ++ (slug, spot) :: post)).put slug spot'.value
      = ledgerOf (pre ++ (slug, spot') :: post) := by
  have first' : slug ∉ (pre.map fun r => (r.1, r.2.value)).map Prod.fst := by simpa using first
  simp only [ledgerOf, Table.put, List.map_append, List.map_cons, putEntry_split first']

end Rows

/-! ## Changes of memory -/

/-- The contents of some cells are kept. -/
def Memory.Keeps (m m' : Memory) (cells : List Address) : Prop :=
  ∀ a ∈ cells, ∀ c, m[a]? = some c → m'[a]? = some c

section Changes

variable {m m' : Memory} {a b : Address} {c d : Cell}

theorem keeps_set {cells : List Address} (other : a ∉ cells) (c : Cell) :
    m.Keeps (m.set a c) cells := by
  intro b among d there
  have ne : a ≠ b := fun same => other (same ▸ among)
  rw [List.getElem?_set_ne ne]
  exact there

theorem keeps_place (m : Memory) (c : Cell) (cells : List Address) :
    m.Keeps (m.place c) cells := by
  intro b _ d there
  obtain ⟨less, -⟩ := List.getElem?_eq_some_iff.mp there
  rw [Memory.place, List.getElem?_append_left less]
  exact there

theorem Memory.Keeps.mono {cells cells' : List Address} (keeps : m.Keeps m' cells')
    (part : ∀ a ∈ cells, a ∈ cells') : m.Keeps m' cells :=
  fun a among => keeps a (part a among)

theorem Memory.Keeps.trans {m'' : Memory} {cells : List Address} (keeps : m.Keeps m' cells)
    (keeps' : m'.Keeps m'' cells) : m.Keeps m'' cells :=
  fun a among c there => keeps' a among c (keeps a among c there)

theorem getElem?_place (m : Memory) (c : Cell) : (m.place c)[m.length]? = some c := by
  simp [Memory.place]

theorem length_place (m : Memory) (c : Cell) : (m.place c).length = m.length + 1 := by
  simp [Memory.place]

/-- What a cell holds that was just made, and what the others hold. -/
theorem getElem?_place_eq_some :
    (m.place c)[a]? = some d ↔ m[a]? = some d ∨ a = m.length ∧ d = c := by
  rw [Memory.place, List.getElem?_append]
  split
  · next less =>
      constructor
      · exact .inl
      · rintro (there | ⟨rfl, -⟩)
        · exact there
        · exact absurd less (Nat.lt_irrefl _)
  · next more =>
      have none : m[a]? = none := List.getElem?_eq_none (Nat.not_lt.mp more)
      rw [none, List.getElem?_singleton]
      constructor
      · intro there
        split at there
        · next last =>
            cases there
            exact .inr ⟨Nat.le_antisymm (Nat.le_of_sub_eq_zero last) (Nat.not_lt.mp more), rfl⟩
        · cases there
      · rintro (there | ⟨rfl, rfl⟩)
        · cases there
        · simp

theorem getElem?_set_eq_some (there : m[a]? = some d) : (m.set a c)[a]? = some c := by
  obtain ⟨less, -⟩ := List.getElem?_eq_some_iff.mp there
  exact List.getElem?_set_self less

variable {slots : Table String Address} {texts : List String} {dependants versions : Address}

theorem slots?_eq (there : m[a]? = some (.index slots)) : m.slots? a = some slots := by
  rw [Memory.slots?, there]

theorem sets?_eq (there : m[a]? = some (.entry dependants versions)) :
    m.sets? a = some (dependants, versions) := by
  rw [Memory.sets?, there]

theorem texts?_eq (there : m[a]? = some (.members texts)) : m.texts? a = some texts := by
  rw [Memory.texts?, there]

theorem add_eq (there : m[a]? = some (.members texts)) (text : String) :
    m.add a text = some (m.set a (.members (addOnce text texts))) := by
  rw [Memory.add, texts?_eq there]
  rfl

theorem file_eq (there : m[a]? = some (.index slots)) (slug : String) (entry : Address) :
    m.file a slug entry = some (m.set a (.index (slots.put slug entry))) := by
  rw [Memory.file, slots?_eq there]
  rfl

theorem copySet_eq (there : m[a]? = some (.members texts)) :
    m.copySet a = some (m.place (.members texts)) := by
  rw [Memory.copySet, texts?_eq there]
  rfl

end Changes

/-! ## Ledgers in memory -/

section Lying

variable {m m' : Memory} {a : Address} {rows : List (String × Spot)} {spot : Spot}

theorem spot_kept (lies : spot.Lies m) (keeps : m.Keeps m' spot.cells) : spot.Lies m' where
  entry := keeps _ (by simp [Spot.cells]) _ lies.entry
  dependants := keeps _ (by simp [Spot.cells]) _ lies.dependants
  versions := keeps _ (by simp [Spot.cells]) _ lies.versions

theorem mem_cellsOf {r : String × Spot} (listed : r ∈ rows) {b : Address} (own : b ∈ r.2.cells) :
    b ∈ cellsOf rows :=
  List.mem_flatMap.mpr ⟨r, listed, own⟩

theorem lies_kept (lies : Lies m a rows) (keeps : m.Keeps m' (a :: cellsOf rows)) :
    Lies m' a rows where
  index := keeps a List.mem_cons_self _ lies.index
  spots r listed := by
    apply spot_kept (lies.spots r listed)
    exact keeps.mono fun b own => List.mem_cons_of_mem a (mem_cellsOf listed own)

theorem entry?_lies (lies : spot.Lies m) : m.entry? spot.entry = some spot.value := by
  rw [Memory.entry?, sets?_eq lies.entry]
  dsimp only [Option.bind_eq_bind, Option.bind_some]
  rw [texts?_eq lies.dependants, texts?_eq lies.versions]
  rfl

theorem entries?_lies :
    ∀ {rows : List (String × Spot)}, (∀ r ∈ rows, r.2.Lies m) →
      m.entries? (rows.map fun r => (r.1, r.2.entry)) = some (rows.map fun r => (r.1, r.2.value))
  | [], _ => rfl
  | (slug, spot) :: rows, lies => by
      rw [List.map_cons, Memory.entries?, entry?_lies (lies _ List.mem_cons_self),
        entries?_lies fun r listed => lies r (List.mem_cons_of_mem _ listed)]
      rfl

/-- A ledger that lies in memory reads as what it is. -/
theorem ledger?_lies (lies : Lies m a rows) : m.ledger? a = some (ledgerOf rows) := by
  rw [Memory.ledger?, slots?_eq lies.index]
  dsimp only [Option.bind_eq_bind, Option.bind_some]
  rw [slotsOf, entries?_lies lies.spots]
  rfl

/-- What a ledger refers to is its own. -/
theorem lies_refs (lies : Lies m a rows) :
    ∀ b ∈ a :: cellsOf rows, ∀ c, m[b]? = some c → ∀ x ∈ c.refs, x ∈ a :: cellsOf rows := by
  intro b own c there x referred
  rcases List.mem_cons.mp own with rfl | own
  · rw [lies.index] at there
    cases there
    simp only [Cell.refs, slotsOf, Table.values, List.map_map, List.mem_map,
      Function.comp_apply] at referred
    obtain ⟨r, listed, rfl⟩ := referred
    exact List.mem_cons_of_mem _ (mem_cellsOf listed (by simp [Spot.cells]))
  · obtain ⟨r, listed, own⟩ := List.mem_flatMap.mp own
    have lies := lies.spots r listed
    simp only [Spot.cells, List.mem_cons, List.not_mem_nil, or_false] at own
    -- the two sets refer to nothing
    rcases own with rfl | rfl | rfl
    · rw [lies.dependants] at there
      cases there
      cases referred
    · rw [lies.versions] at there
      cases there
      cases referred
    · rw [lies.entry] at there
      cases there
      apply List.mem_cons_of_mem
      apply mem_cellsOf listed
      simp only [Cell.refs, List.mem_cons, List.not_mem_nil, or_false] at referred
      rcases referred with rfl | rfl <;> simp [Spot.cells]

/-- An entry that lies elsewhere is put in the index. -/
theorem lies_file {slug : String} (lies : Lies m a rows) (made : spot.Lies m)
    (new : slug ∉ rows.map Prod.fst) (once : (a :: cellsOf (rows ++ [(slug, spot)])).Nodup) :
    Lies (m.set a (.index ((slotsOf rows).put slug spot.entry))) a (rows ++ [(slug, spot)]) where
  index := by
    rw [slotsOf_put spot new]
    exact getElem?_set_eq_some lies.index
  spots r listed := by
    have there : r.2.Lies m := by
      rcases List.mem_append.mp listed with old | last
      · exact lies.spots r old
      · rw [List.mem_singleton.mp last]
        exact made
    apply spot_kept there
    apply keeps_set
    exact fun own => (List.nodup_cons.mp once).1 (mem_cellsOf listed own)

/-- One of the sets of an entry changes, and with it the value of the entry. -/
theorem lies_change {slug : String} {pre post : List (String × Spot)} {b : Address} {c : Cell}
    {e : LedgerEntry} (lies : Lies m a (pre ++ (slug, spot) :: post))
    (once : (a :: cellsOf (pre ++ (slug, spot) :: post)).Nodup) (own : b ∈ spot.cells)
    (changed : ({ spot with value := e } : Spot).Lies (m.set b c)) :
    Lies (m.set b c) a (pre ++ (slug, { spot with value := e }) :: post) := by
  rw [cellsOf_append, cellsOf_cons, List.nodup_cons, List.nodup_append, List.nodup_append] at once
  obtain ⟨index, -, ⟨-, -, after⟩, before⟩ := once
  constructor
  · have same : slotsOf (pre ++ (slug, { spot with value := e }) :: post)
        = slotsOf (pre ++ (slug, spot) :: post) := by simp [slotsOf]
    have ne : b ≠ a := by
      rintro rfl
      exact index (List.mem_append_right _ (List.mem_append_left _ own))
    rw [same, List.getElem?_set_ne ne]
    exact lies.index
  · intro r listed
    rcases List.mem_append.mp listed with earlier | here
    · apply spot_kept (lies.spots r (List.mem_append_left _ earlier))
      apply keeps_set
      exact fun mine => before b (mem_cellsOf earlier mine) b (List.mem_append_left _ own) rfl
    · rcases List.mem_cons.mp here with rfl | later
      · exact changed
      · apply spot_kept (lies.spots r (List.mem_append_right _ (List.mem_cons_of_mem _ later)))
        apply keeps_set
        exact fun mine => after b own b (mem_cellsOf later mine) rfl

/-- A version is added to an entry. -/
theorem spot_addVersion (lies : spot.Lies m) (once : spot.cells.Nodup) (version : String) :
    ({ spot with value := { spot.value with versions := addOnce version spot.value.versions } }
      : Spot).Lies (m.set spot.versions (.members (addOnce version spot.value.versions))) := by
  simp only [Spot.cells, List.nodup_cons, List.mem_cons, List.not_mem_nil, or_false, not_or] at once
  obtain ⟨⟨sets, -⟩, versions, -⟩ := once
  constructor
  · rw [List.getElem?_set_ne versions]
    exact lies.entry
  · rw [List.getElem?_set_ne (Ne.symm sets)]
    exact lies.dependants
  · exact getElem?_set_eq_some lies.versions

/-- A dependant is added to an entry. -/
theorem spot_addDependant (lies : spot.Lies m) (once : spot.cells.Nodup) (dependant : String) :
    ({ spot with value :=
        { spot.value with dependants := addOnce dependant spot.value.dependants } } : Spot).Lies
      (m.set spot.dependants (.members (addOnce dependant spot.value.dependants))) := by
  simp only [Spot.cells, List.nodup_cons, List.mem_cons, List.not_mem_nil, or_false, not_or] at once
  obtain ⟨⟨sets, entry⟩, -⟩ := once
  constructor
  · rw [List.getElem?_set_ne entry]
    exact lies.entry
  · exact getElem?_set_eq_some lies.dependants
  · rw [List.getElem?_set_ne sets]
    exact lies.versions

end Lying

/-! ## Fences -/

/-- A cell is there, and is none of the fenced ones. -/
structure Outside (m : Memory) (own : List Address) (a : Address) : Prop where
  there : a < m.length
  other : a ∉ own

/-- Some cells are fenced in: no reference to one of them was given away, and no cell outside has
any. -/
structure Fenced (m : Memory) (held own : List Address) : Prop where
  once : own.Nodup
  within : ∀ a ∈ own, a < m.length
  held : ∀ a ∈ held, Outside m own a
  closed : ∀ a c, m[a]? = some c → a ∉ own → ∀ b ∈ c.refs, Outside m own b

section Fences

variable {m : Memory} {held own : List Address} {a : Address}

theorem fenced_new (fenced : Fenced m held own) : m.length ∉ own :=
  fun among => Nat.lt_irrefl _ (fenced.within _ among)

theorem outside_set (out : Outside m own a) (b : Address) (c : Cell) :
    Outside (m.set b c) own a :=
  ⟨by rw [List.length_set]; exact out.there, out.other⟩

theorem outside_place (out : Outside m own a) (c : Cell) : Outside (m.place c) own a :=
  ⟨by rw [length_place]; exact Nat.lt_succ_of_lt out.there, out.other⟩

/-- A fenced cell changes. -/
theorem fenced_set (fenced : Fenced m held own) (among : a ∈ own) (c : Cell) :
    Fenced (m.set a c) held own where
  once := fenced.once
  within b among := by
    rw [List.length_set]
    exact fenced.within b among
  held b given := outside_set (fenced.held b given) a c
  closed b d there other x referred := by
    have ne : a ≠ b := fun same => other (same ▸ among)
    rw [List.getElem?_set_ne ne] at there
    exact outside_set (fenced.closed b d there other x referred) a c

/-- A cell is made and fenced in. -/
theorem fenced_place (fenced : Fenced m held own) (c : Cell) :
    Fenced (m.place c) held (own ++ [m.length]) := by
  have outside : ∀ b, Outside m own b → Outside (m.place c) (own ++ [m.length]) b := by
    intro b out
    refine ⟨(outside_place out c).there, ?_⟩
    rw [List.mem_append, List.mem_singleton]
    rintro (among | rfl)
    · exact out.other among
    · exact Nat.lt_irrefl _ out.there
  refine ⟨?_, ?_, fun b given => outside b (fenced.held b given), ?_⟩
  · exact fenced.once.append (List.nodup_singleton _) (by simpa using fenced_new fenced)
  · intro b among
    rw [length_place]
    rcases List.mem_append.mp among with old | new
    · exact Nat.lt_succ_of_lt (fenced.within b old)
    · rw [List.mem_singleton.mp new]
      exact Nat.lt_succ_self _
  · intro b d there other x referred
    rw [List.mem_append, not_or, List.mem_singleton] at other
    rcases getElem?_place_eq_some.mp there with there | ⟨last, -⟩
    · exact outside x (fenced.closed b d there other.1 x referred)
    · exact absurd last other.2

/-- A part that refers to nothing but itself is given away. -/
theorem fenced_release {part given : List Address} (fenced : Fenced m held (own ++ part))
    (alone : ∀ a ∈ part, ∀ c, m[a]? = some c → ∀ b ∈ c.refs, b ∈ part)
    (among : ∀ a ∈ given, a ∈ part) : Fenced m (given ++ held) own := by
  obtain ⟨once, -, apart⟩ := List.nodup_append.mp fenced.once
  have released : ∀ b ∈ part, Outside m own b := fun b mine =>
    ⟨fenced.within b (List.mem_append_right _ mine), fun old => apart b old b mine rfl⟩
  have outside : ∀ b, Outside m (own ++ part) b → Outside m own b := fun b out =>
    ⟨out.there, fun old => out.other (List.mem_append_left _ old)⟩
  refine ⟨once, fun b old => fenced.within b (List.mem_append_left _ old), ?_, ?_⟩
  · intro b held
    rcases List.mem_append.mp held with new | old
    · exact released b (among b new)
    · exact outside b (fenced.held b old)
  · intro b c there other x referred
    by_cases mine : b ∈ part
    · exact released x (alone b mine c there x referred)
    · have out : b ∉ own ++ part := by
        rw [List.mem_append, not_or]
        exact ⟨other, mine⟩
      exact outside x (fenced.closed b c there out x referred)

/-- Someone follows a reference. -/
theorem fenced_read (fenced : Fenced m held own) {b : Address} {c : Cell} (given : a ∈ held)
    (there : m[a]? = some c) (referred : b ∈ c.refs) : Fenced m (b :: held) own where
  once := fenced.once
  within := fenced.within
  held x given' := by
    rcases List.mem_cons.mp given' with rfl | old
    · exact fenced.closed a c there (fenced.held a given).other x referred
    · exact fenced.held x old
  closed := fenced.closed

/-- Someone changes a cell to one with references that they have. -/
theorem fenced_write (fenced : Fenced m held own) {c : Cell} (refs : ∀ b ∈ c.refs, b ∈ held) :
    Fenced (m.set a c) held own where
  once := fenced.once
  within b among := by
    rw [List.length_set]
    exact fenced.within b among
  held b given := outside_set (fenced.held b given) a c
  closed b d there other x referred := by
    apply outside_set
    by_cases same : a = b
    · subst same
      obtain ⟨less, -⟩ := List.getElem?_eq_some_iff.mp there
      rw [List.length_set] at less
      rw [List.getElem?_set_self less] at there
      cases there
      exact fenced.held x (refs x referred)
    · rw [List.getElem?_set_ne same] at there
      exact fenced.closed b d there other x referred

/-- Someone makes a cell with references that they have. -/
theorem fenced_make (fenced : Fenced m held own) {c : Cell} (refs : ∀ b ∈ c.refs, b ∈ held) :
    Fenced (m.place c) (m.length :: held) own where
  once := fenced.once
  within b among := by
    rw [length_place]
    exact Nat.lt_succ_of_lt (fenced.within b among)
  held b given := by
    rcases List.mem_cons.mp given with rfl | old
    · exact ⟨by rw [length_place]; exact Nat.lt_succ_self _, fenced_new fenced⟩
    · exact outside_place (fenced.held b old) c
  closed b d there other x referred := by
    apply outside_place
    rcases getElem?_place_eq_some.mp there with there | ⟨-, rfl⟩
    · exact fenced.closed b d there other x referred
    · exact fenced.held x (refs x referred)

end Fences

end SharedLedger

end MavenImport
