/-
# Proofs.LedgerCalls -- what a call does to a ledger in memory

While a call has the lock, memory holds the ledger as it was before the call together with what
the call has done to it so far (`Fits`).  Every step of the call keeps that (`fits_next`): it is
never led astray, comes closer to its end, and does what the ledger says and not what the
addresses are (`Work.after`).  At its end a recording has made of the ledger what
`Ledger.record` makes of it, and all entries are answered by a copy that reads as the ledger
(`fits_answer`) and shares no cell with it.
-/
import Mathlib.Data.List.TakeDrop
import MavenImport.Proofs.LedgerCells

namespace MavenImport

set_option autoImplicit false

namespace SharedLedger

/-! ## Stages of a call -/

/-- What a slug has before a recording, if only for the time of the recording. -/
def before (l : Ledger) (r : Recording) : LedgerEntry := (l.find? r.1).getD {}

/-- A ledger that lies in memory at its place, and its cells. -/
structure Lying (m : Memory) (l : Ledger) (rows : List (String × Spot)) (own : List Address) :
    Prop where
  lies : Lies m home rows
  same : ledgerOf rows = l
  own : own = home :: cellsOf rows

/-- A recording is at the entry of its slug, which has a value. -/
structure Found (m : Memory) (l : Ledger) (r : Recording) (value : LedgerEntry)
    (entry : Address) (own : List Address) (pre post : List (String × Spot)) (spot : Spot) :
    Prop where
  lying : Lying m (l.put r.1 value) (pre ++ (r.1, spot) :: post) own
  first : r.1 ∉ pre.map Prod.fst
  value : spot.value = value
  entry : spot.entry = entry

/-- The ledger lies at its place, and a copy of the entries in some first places elsewhere. -/
structure Copied (m : Memory) (l : Ledger) (copy : Address) (n : Nat)
    (rows twins : List (String × Spot)) : Prop where
  lying : Lying m l rows (home :: cellsOf rows)
  copy : Lies m copy twins
  part : (ledgerOf twins).entries = l.entries.take n

/-- The cells of a ledger and of a copy of it. -/
def cellsWith (copy : Address) (rows twins : List (String × Spot)) : List Address :=
  (home :: cellsOf rows) ++ (copy :: cellsOf twins)

/-- Memory holds what a call has come to, that began with a ledger; and the cells that are not to
be seen by others. -/
inductive Fits (m : Memory) (l : Ledger) : Work → List Address → Prop
  | seeking {r rows own} (lying : Lying m l rows own) : Fits m l (.seeking r) own
  | making {r rows own} (lying : Lying m l rows own) (new : l.find? r.1 = none) :
      Fits m l (.making r) own
  | filing {r rows own} {spot : Spot} (lying : Lying m l rows own) (new : l.find? r.1 = none)
      (made : spot.Lies m) (bare : spot.value = {}) :
      Fits m l (.filing r spot.entry) (own ++ spot.cells)
  | adding {r entry own pre post spot}
      (found : Found m l r (before l r) entry own pre post spot) : Fits m l (.adding r entry) own
  | crediting {r entry own pre post spot}
      (found : Found m l r ((before l r).add r.2.1 none) entry own pre post spot) :
      Fits m l (.crediting r entry) own
  | recorded {r rows own} (lying : Lying m (l.record r.1 r.2.1 r.2.2) rows own) :
      Fits m l (.recorded r) own
  | opening {rows own} (lying : Lying m l rows own) : Fits m l .opening own
  | copying {copy n rows twins} (copied : Copied m l copy n rows twins) :
      Fits m l (.copying copy n) (cellsWith copy rows twins)
  | picked {copy n rows twins slug} {spot : Spot} (copied : Copied m l copy n rows twins)
      (nth : rows[n]? = some (slug, spot)) :
      Fits m l (.picked copy n slug spot.entry) (cellsWith copy rows twins)
  | halfway {copy n rows twins slug dependants} {spot : Spot}
      (copied : Copied m l copy n rows twins) (nth : rows[n]? = some (slug, spot))
      (set : m[dependants]? = some (.members spot.value.dependants)) :
      Fits m l (.halfway copy n slug spot.entry dependants)
        (cellsWith copy rows twins ++ [dependants])
  | joining {copy n rows twins slug dependants versions} {spot : Spot}
      (copied : Copied m l copy n rows twins) (nth : rows[n]? = some (slug, spot))
      (set : m[dependants]? = some (.members spot.value.dependants))
      (set' : m[versions]? = some (.members spot.value.versions)) :
      Fits m l (.joining copy n slug dependants versions)
        (cellsWith copy rows twins ++ [dependants] ++ [versions])
  | copied {copy n rows twins} (copied : Copied m l copy n rows twins) (all : l.entries.length ≤ n) :
      Fits m l (.copied copy) (cellsWith copy rows twins)
  | asking {slug rows own} (lying : Lying m l rows own) : Fits m l (.asking slug) own
  | told {slug rows own} (lying : Lying m l rows own) :
      Fits m l (.told slug (l.contains slug)) own
  | counting {rows own} (lying : Lying m l rows own) : Fits m l .counting own
  | counted {rows own} (lying : Lying m l rows own) : Fits m l (.counted l.entries.length) own

/-- A call without its addresses. -/
def Work.bare : Work → Work
  | filing r _ => filing r 0
  | adding r _ => adding r 0
  | crediting r _ => crediting r 0
  | copying _ n => copying 0 n
  | picked _ n slug _ => picked 0 n slug 0
  | halfway _ n slug _ _ => halfway 0 n slug 0 0
  | joining _ n slug _ _ => joining 0 n slug 0 0
  | copied _ => copied 0
  | w => w

/-- What a call comes to next, as the ledger says and without its addresses. -/
def Work.after (l : Ledger) : Work → Work
  | seeking r => if l.contains r.1 then adding r 0 else making r
  | making r => filing r 0
  | filing r _ => adding r 0
  | adding r _ => crediting r 0
  | crediting r _ => recorded r
  | opening => copying 0 0
  | copying _ n => match l.entries[n]? with
    | some (slug, _) => picked 0 n slug 0
    | none => copied 0
  | picked _ n slug _ => halfway 0 n slug 0 0
  | halfway _ n slug _ _ => joining 0 n slug 0 0
  | joining _ n _ _ _ => copying 0 (n + 1)
  | copied _ => copied 0
  | asking slug => told slug (l.contains slug)
  | counting => counted l.entries.length
  | w => w

/-- How many steps are left at most, for so many entries. -/
def Work.left (entries : Nat) : Work → Nat
  | seeking _ => 6
  | making _ => 5
  | filing _ _ => 4
  | adding _ _ => 3
  | crediting _ _ => 2
  | opening => 4 * entries + 3
  | copying _ n => 4 * (entries - n) + 2
  | picked _ n _ _ => 4 * (entries - n) + 1
  | halfway _ n _ _ _ => 4 * (entries - n)
  | joining _ n _ _ _ => 4 * (entries - n) - 1
  | asking _ | counting => 2
  | recorded _ | copied _ | told _ _ | counted _ => 1

/-- What a call answers at its end, as the ledger says. -/
def Work.reply? (l : Ledger) : Work → Option Answer
  | recorded _ => some .done
  | copied _ => some (.listed (some l))
  | told _ found => some (.told found)
  | counted slugs => some (.counted slugs)
  | _ => none

theorem after_bare (l : Ledger) (w : Work) : w.bare.after l = w.after l := by
  cases w <;> rfl

theorem reply?_bare (l : Ledger) (w : Work) : w.bare.reply? l = w.reply? l := by
  cases w <;> rfl

theorem request_bare (w : Work) : w.bare.request = w.request := by
  cases w <;> rfl

/-! ## Steps of a call -/

/-- A call makes a step: it is not led astray, and what it is and does is kept. -/
structure Advance (m : Memory) (l : Ledger) (held : List Address) (w w' : Work) (m' : Memory)
    (own : List Address) : Prop where
  next : w.next m = some (w', m')
  fits : Fits m' l w' own
  fence : Fenced m' held own
  request : w'.request = w.request
  bare : w'.bare = w.after l
  left : w'.left l.entries.length < w.left l.entries.length

section Lookup

variable {m : Memory} {l : Ledger} {rows : List (String × Spot)} {own : List Address}

theorem lying_kept {m' : Memory} (lying : Lying m l rows own) (keeps : m.Keeps m' own) :
    Lying m' l rows own :=
  ⟨lies_kept lying.lies (lying.own ▸ keeps), lying.same, lying.own⟩

/-- A slug is found in memory if the ledger has it. -/
theorem lying_contains (lying : Lying m l rows own) (slug : String) :
    (slotsOf rows).contains slug = l.contains slug := by
  rw [Table.contains, Table.contains, find?_slotsOf, ← lying.same, find?_ledgerOf,
    Option.isSome_map, Option.isSome_map]

theorem lying_length (lying : Lying m l rows own) :
    (slotsOf rows).entries.length = l.entries.length := by
  rw [← lying.same, slotsOf, ledgerOf, List.length_map, List.length_map]

theorem lying_new (lying : Lying m l rows own) {slug : String} (new : l.find? slug = none) :
    slug ∉ rows.map Prod.fst := by
  intro among
  rw [← lying.same, find?_ledgerOf, Option.map_eq_none_iff] at new
  have known := (findEntry_isSome slug rows).mpr among
  rw [new] at known
  cases known

end Lookup

section Recording

variable {m : Memory} {l : Ledger} {r : Recording} {rows pre post : List (String × Spot)}
  {spot : Spot} {entry : Address} {held own : List Address}

theorem seeking_next (lying : Lying m l rows own) (fence : Fenced m held own) :
    ∃ w m' own', Advance m l held (.seeking r) w m' own' := by
  have slots := slots?_eq lying.lies.index
  have known := find?_slotsOf rows r.1
  have known' : l.find? r.1 = (Table.findEntry r.1 rows).map Spot.value := by
    rw [← lying.same, find?_ledgerOf]
  cases found : Table.findEntry r.1 rows with
  | none =>
      rw [found] at known known'
      refine ⟨.making r, m, own, ?_, .making lying known', fence, rfl, ?_, by simp [Work.left]⟩
      · simp [Work.next, slots, known]
      · simp [Work.after, Work.bare, Table.contains, known']
  | some spot =>
      obtain ⟨pre, post, rfl, first⟩ := findEntry_split found
      rw [found] at known known'
      have same : before l r = spot.value := by simp [before, known']
      have lying' : Lying m (l.put r.1 (before l r)) (pre ++ (r.1, spot) :: post) own := by
        rw [same, put_found known']
        exact lying
      refine ⟨.adding r spot.entry, m, own, ?_, .adding ⟨lying', first, same.symm, rfl⟩, fence,
        rfl, ?_, by simp [Work.left]⟩
      · simp [Work.next, slots, known]
      · simp [Work.after, Work.bare, Table.contains, known']

theorem making_next (lying : Lying m l rows own) (new : l.find? r.1 = none)
    (fence : Fenced m held own) : ∃ w m' own', Advance m l held (.making r) w m' own' := by
  let spot : Spot := ⟨m.length + 2, m.length, m.length + 1, {}⟩
  let made := ((m.place (.members [])).place (.members [])).place (.entry m.length (m.length + 1))
  have fence' : Fenced made held (own ++ spot.cells) := by
    have placed := fenced_place (fenced_place (fenced_place fence (.members [])) (.members []))
      (.entry m.length (m.length + 1))
    simpa [length_place, spot, Spot.cells] using placed
  have there : spot.Lies made := by
    constructor <;> simp [made, spot, Memory.place]
  have keeps : m.Keeps made own :=
    (keeps_place m _ own).trans ((keeps_place _ _ own).trans (keeps_place _ _ own))
  exact ⟨.filing r spot.entry, made, own ++ spot.cells, by simp [Work.next, made, spot, length_place],
    .filing (lying_kept lying keeps) new there rfl, fence', rfl, rfl, by simp [Work.left]⟩

theorem filing_next (lying : Lying m l rows own) (new : l.find? r.1 = none) (made : spot.Lies m)
    (bare : spot.value = {}) (fence : Fenced m held (own ++ spot.cells)) :
    ∃ w m' own', Advance m l held (.filing r spot.entry) w m' own' := by
  have absent := lying_new lying new
  have cells : own ++ spot.cells = home :: cellsOf (rows ++ [(r.1, spot)]) := by
    rw [lying.own, cellsOf_append]
    simp [cellsOf]
  rw [cells] at fence
  have empty : before l r = spot.value := by rw [before, new, bare, Option.getD_none]
  have lying' : Lying (m.set home (.index ((slotsOf rows).put r.1 spot.entry)))
      (l.put r.1 (before l r)) (rows ++ [(r.1, spot)])
      (home :: cellsOf (rows ++ [(r.1, spot)])) := by
    refine ⟨lies_file lying.lies made absent fence.once, ?_, rfl⟩
    rw [empty, ← lying.same, ledgerOf_put spot absent]
  refine ⟨.adding r spot.entry, _, _, ?_, .adding ⟨lying', absent, empty.symm, rfl⟩,
    fenced_set fence List.mem_cons_self _, rfl, rfl, by simp [Work.left]⟩
  simp [Work.next, file_eq lying.lies.index]

/-- One of the sets of the entry that was found changes, and with it the ledger. -/
theorem found_change {value value' : LedgerEntry} {b : Address} {c : Cell}
    (found : Found m l r value entry own pre post spot) (fence : Fenced m held own)
    (among : b ∈ spot.cells)
    (changed : ({ spot with value := value' } : Spot).Lies (m.set b c)) :
    Found (m.set b c) l r value' entry own pre post { spot with value := value' } ∧
      Fenced (m.set b c) held own := by
  have cells := found.lying.own
  have once := fence.once
  rw [cells] at once
  have lies := lies_change found.lying.lies once among changed
  have same : ledgerOf (pre ++ (r.1, { spot with value := value' }) :: post)
      = l.put r.1 value' := by
    rw [← ledgerOf_change found.first spot { spot with value := value' } post, found.lying.same,
      put_put]
  have cells' : own = home :: cellsOf (pre ++ (r.1, { spot with value := value' }) :: post) := by
    rw [cells, cellsOf_append, cellsOf_append, cellsOf_cons, cellsOf_cons]
    rfl
  refine ⟨⟨⟨lies, same, cells'⟩, found.first, rfl, found.entry⟩, fenced_set fence ?_ c⟩
  rw [cells]
  exact List.mem_cons_of_mem _ (mem_cellsOf (r := (r.1, spot)) (by simp) among)

theorem found_lies {value : LedgerEntry} (found : Found m l r value entry own pre post spot)
    (fence : Fenced m held own) : spot.Lies m ∧ spot.cells.Nodup := by
  refine ⟨found.lying.lies.spots (r.1, spot) (by simp), ?_⟩
  have once := fence.once
  rw [found.lying.own, cellsOf_append, cellsOf_cons, List.nodup_cons, List.nodup_append,
    List.nodup_append] at once
  exact once.2.2.1.1

theorem adding_next (found : Found m l r (before l r) entry own pre post spot)
    (fence : Fenced m held own) : ∃ w m' own', Advance m l held (.adding r entry) w m' own' := by
  obtain ⟨lies, once⟩ := found_lies found fence
  obtain ⟨found', fence'⟩ := found_change found fence (by simp [Spot.cells])
    (spot_addVersion lies once r.2.1)
  rw [found.value] at found' fence'
  refine ⟨.crediting r entry, _, own, ?_, .crediting found', fence', rfl, rfl, by simp [Work.left]⟩
  have sets := sets?_eq lies.entry
  rw [found.entry] at sets
  simp [Work.next, sets, add_eq lies.versions, found.value]

theorem crediting_next (found : Found m l r ((before l r).add r.2.1 none) entry own pre post spot)
    (fence : Fenced m held own) :
    ∃ w m' own', Advance m l held (.crediting r entry) w m' own' := by
  obtain ⟨lies, once⟩ := found_lies found fence
  cases asked : r.2.2 with
  | none =>
      have lying : Lying m (l.record r.1 r.2.1 r.2.2) (pre ++ (r.1, spot) :: post) own := by
        rw [asked]
        exact found.lying
      exact ⟨.recorded r, m, own, by simp [Work.next, asked], .recorded lying, fence, rfl, rfl,
        by simp [Work.left]⟩
  | some dependant =>
      obtain ⟨found', fence'⟩ := found_change found fence (by simp [Spot.cells])
        (spot_addDependant lies once dependant)
      have sets := sets?_eq lies.entry
      rw [found.entry] at sets
      have lying := found'.lying
      rw [found.value] at lying fence'
      have recorded : l.record r.1 r.2.1 r.2.2 = l.put r.1
          { (before l r).add r.2.1 none with
            dependants := addOnce dependant ((before l r).add r.2.1 none).dependants } := by
        rw [asked]
        rfl
      rw [← recorded] at lying
      refine ⟨.recorded r, _, own, ?_, .recorded lying, fence', rfl, rfl, by simp [Work.left]⟩
      simp [Work.next, asked, sets, add_eq lies.dependants, found.value]

end Recording

section Copying

variable {m : Memory} {l : Ledger} {copy n : Nat} {rows twins : List (String × Spot)}
  {spot : Spot} {slug : String} {dependants versions : Address} {held own : List Address}

theorem copied_kept {m' : Memory} (copied : Copied m l copy n rows twins)
    (keeps : m.Keeps m' (cellsWith copy rows twins)) : Copied m' l copy n rows twins where
  lying := lying_kept copied.lying (keeps.mono fun _ own => List.mem_append_left _ own)
  copy := lies_kept copied.copy (keeps.mono fun _ own => List.mem_append_right _ own)
  part := copied.part

/-- The place of an entry in the ledger and in its index. -/
theorem copied_nth (copied : Copied m l copy n rows twins) :
    l.entries[n]? = rows[n]?.map (fun r => (r.1, r.2.value)) ∧
      (slotsOf rows).entries[n]? = rows[n]?.map (fun r => (r.1, r.2.entry)) := by
  rw [← copied.lying.same]
  exact ⟨List.getElem?_map .., List.getElem?_map ..⟩

theorem nth_less (copied : Copied m l copy n rows twins) (nth : rows[n]? = some (slug, spot)) :
    n < l.entries.length := by
  have there := (copied_nth copied).1
  rw [nth] at there
  exact (List.getElem?_eq_some_iff.mp there).1

theorem opening_next (lying : Lying m l rows own) (fence : Fenced m held own) :
    ∃ w m' own', Advance m l held .opening w m' own' := by
  have keeps := keeps_place m (.index ⟨[]⟩) own
  have lying' := lying_kept lying keeps
  have empty : Lies (m.place (.index ⟨[]⟩)) m.length [] :=
    ⟨getElem?_place m _, fun _ listed => by cases listed⟩
  refine ⟨.copying m.length 0, m.place (.index ⟨[]⟩), cellsWith m.length rows [], rfl,
    .copying ⟨⟨lying'.lies, lying.same, rfl⟩, empty, rfl⟩, ?_, rfl, rfl, by simp [Work.left]⟩
  have placed := fenced_place fence (.index ⟨[]⟩)
  rw [lying.own] at placed
  exact placed

theorem copying_next (copied : Copied m l copy n rows twins)
    (fence : Fenced m held (cellsWith copy rows twins)) :
    ∃ w m' own', Advance m l held (.copying copy n) w m' own' := by
  have slots := slots?_eq copied.lying.lies.index
  obtain ⟨value, entry⟩ := copied_nth copied
  cases nth : rows[n]? with
  | none =>
      rw [nth] at value entry
      refine ⟨.copied copy, m, _, by simp [Work.next, slots, entry],
        .copied copied (List.getElem?_eq_none_iff.mp value), fence, rfl, ?_, by simp [Work.left]⟩
      simp [Work.after, Work.bare, value]
  | some row =>
      obtain ⟨slug, spot⟩ := row
      rw [nth] at value entry
      refine ⟨.picked copy n slug spot.entry, m, _, by simp [Work.next, slots, entry],
        .picked copied nth, fence, rfl, ?_, by simp [Work.left]⟩
      simp [Work.after, Work.bare, value]

theorem picked_next (copied : Copied m l copy n rows twins) (nth : rows[n]? = some (slug, spot))
    (fence : Fenced m held (cellsWith copy rows twins)) :
    ∃ w m' own', Advance m l held (.picked copy n slug spot.entry) w m' own' := by
  have lies := copied.lying.lies.spots _ (List.mem_of_getElem? nth)
  have less := nth_less copied nth
  refine ⟨.halfway copy n slug spot.entry m.length,
    m.place (.members spot.value.dependants), _, ?_,
    .halfway (copied_kept copied (keeps_place _ _ _)) nth (getElem?_place m _),
    fenced_place fence _, rfl, rfl, by simp [Work.left]⟩
  simp [Work.next, sets?_eq lies.entry, copySet_eq lies.dependants]

theorem halfway_next (copied : Copied m l copy n rows twins) (nth : rows[n]? = some (slug, spot))
    (set : m[dependants]? = some (.members spot.value.dependants))
    (fence : Fenced m held (cellsWith copy rows twins ++ [dependants])) :
    ∃ w m' own', Advance m l held (.halfway copy n slug spot.entry dependants) w m' own' := by
  have lies := copied.lying.lies.spots _ (List.mem_of_getElem? nth)
  have less := nth_less copied nth
  refine ⟨.joining copy n slug dependants m.length, m.place (.members spot.value.versions), _, ?_,
    .joining (copied_kept copied (keeps_place _ _ _)) nth
      (keeps_place m _ [dependants] _ List.mem_cons_self _ set) (getElem?_place m _),
    fenced_place fence _, rfl, rfl, by simp only [Work.left]; omega⟩
  simp [Work.next, sets?_eq lies.entry, copySet_eq lies.versions]

/-- A slug comes once in a ledger that has no slug twice. -/
theorem copied_new (copied : Copied m l copy n rows twins) (tidy : l.keys.Nodup)
    (nth : rows[n]? = some (slug, spot)) : slug ∉ twins.map Prod.fst := by
  have keys : twins.map Prod.fst = l.keys.take n := by
    rw [← keys_ledgerOf, Table.keys, copied.part, List.map_take]
    rfl
  have there := (copied_nth copied).1
  rw [nth, Option.map_some] at there
  have key : l.keys[n]? = some slug := by
    rw [Table.keys, List.getElem?_map, there]
    rfl
  rw [keys]
  intro among
  obtain ⟨k, less, same⟩ := List.mem_take_iff_getElem.mp among
  obtain ⟨bound, rfl⟩ := List.getElem?_eq_some_iff.mp key
  have twice := (List.Nodup.getElem_inj_iff tidy).mp same
  omega

theorem joining_next (copied : Copied m l copy n rows twins) (tidy : l.keys.Nodup)
    (nth : rows[n]? = some (slug, spot))
    (set : m[dependants]? = some (.members spot.value.dependants))
    (set' : m[versions]? = some (.members spot.value.versions))
    (fence : Fenced m held (cellsWith copy rows twins ++ [dependants] ++ [versions])) :
    ∃ w m' own', Advance m l held (.joining copy n slug dependants versions) w m' own' := by
  let twin : Spot := ⟨m.length, dependants, versions, spot.value⟩
  let placed := m.place (.entry dependants versions)
  let filed := placed.set copy (.index ((slotsOf twins).put slug m.length))
  have new := copied_new copied tidy nth
  have less := nth_less copied nth
  have cells : cellsWith copy rows twins ++ [dependants] ++ [versions] ++ [m.length]
      = cellsWith copy rows (twins ++ [(slug, twin)]) := by
    simp [cellsWith, cellsOf, twin, Spot.cells]
  have fence' := fenced_place fence (.entry dependants versions)
  rw [cells] at fence'
  obtain ⟨-, once, apart⟩ := List.nodup_append.mp fence'.once
  have keeps := keeps_place m (.entry dependants versions)
  have copied' : Copied placed l copy n rows twins := copied_kept copied (keeps _)
  have there : twin.Lies placed :=
    ⟨getElem?_place m _, keeps [dependants] _ List.mem_cons_self _ set,
      keeps [versions] _ List.mem_cons_self _ set'⟩
  have own : copy ∈ copy :: cellsOf (twins ++ [(slug, twin)]) := List.mem_cons_self
  have full : Copied filed l copy (n + 1) rows (twins ++ [(slug, twin)]) := by
    refine ⟨lying_kept copied'.lying (keeps_set ?_ _), lies_file copied'.copy there new once, ?_⟩
    · exact fun among => apart copy among copy own rfl
    · have last := (copied_nth copied).1
      rw [nth] at last
      rw [List.take_add_one, last, ← copied.part]
      simp [ledgerOf, twin]
  refine ⟨.copying copy (n + 1), filed, _, ?_, .copying full,
    fenced_set fence' (List.mem_append_right _ own) _, rfl, rfl, by simp only [Work.left]; omega⟩
  have file := file_eq copied'.copy.index slug m.length
  simp only [Work.next]
  rw [file]
  rfl

end Copying

section Asking

variable {m : Memory} {l : Ledger} {rows : List (String × Spot)} {held own : List Address}

theorem asking_next {slug : String} (lying : Lying m l rows own) (fence : Fenced m held own) :
    ∃ w m' own', Advance m l held (.asking slug) w m' own' := by
  refine ⟨.told slug (l.contains slug), m, own, ?_, .told lying, fence, rfl, rfl,
    by simp [Work.left]⟩
  simp [Work.next, slots?_eq lying.lies.index, lying_contains lying slug]

theorem counting_next (lying : Lying m l rows own) (fence : Fenced m held own) :
    ∃ w m' own', Advance m l held .counting w m' own' := by
  refine ⟨.counted l.entries.length, m, own, ?_, .counted lying, fence, rfl, rfl,
    by simp [Work.left]⟩
  simp [Work.next, slots?_eq lying.lies.index, lying_length lying]

end Asking

section Calls

variable {m : Memory} {l : Ledger} {w : Work} {held own : List Address}

/-- What a call is answered at its end, as the ledger says. -/
theorem fits_answer (fits : Fits m l w own) : w.answer? m = w.reply? l := by
  cases fits with
  | @copied copy n rows twins copied all =>
      have whole : ledgerOf twins = l := by
        have part := copied.part
        rw [List.take_of_length_le all] at part
        exact congrArg Table.mk part
      rw [Work.answer?, ledger?_lies copied.copy, whole]
      rfl
  | _ => rfl

/-- A call that has not come to its end makes a step. -/
theorem fits_next (tidy : l.keys.Nodup) (fits : Fits m l w own) (fence : Fenced m held own)
    (going : w.reply? l = none) : ∃ w' m' own', Advance m l held w w' m' own' := by
  cases fits with
  | seeking lying => exact seeking_next lying fence
  | making lying new => exact making_next lying new fence
  | filing lying new made bare => exact filing_next lying new made bare fence
  | adding found => exact adding_next found fence
  | crediting found => exact crediting_next found fence
  | opening lying => exact opening_next lying fence
  | copying copied => exact copying_next copied fence
  | picked copied nth => exact picked_next copied nth fence
  | halfway copied nth set => exact halfway_next copied nth set fence
  | joining copied nth set set' => exact joining_next copied tidy nth set set' fence
  | asking lying => exact asking_next lying fence
  | counting lying => exact counting_next lying fence
  | recorded _ => cases going
  | copied _ _ => cases going
  | told _ => cases going
  | counted _ => cases going

/-- A call is not concerned with what happens elsewhere in memory. -/
theorem fits_kept {m' : Memory} (fits : Fits m l w own) (keeps : m.Keeps m' own) :
    Fits m' l w own := by
  cases fits with
  | seeking lying => exact .seeking (lying_kept lying keeps)
  | making lying new => exact .making (lying_kept lying keeps) new
  | filing lying new made bare =>
      exact .filing (lying_kept lying (keeps.mono fun _ own => List.mem_append_left _ own)) new
        (spot_kept made (keeps.mono fun _ own => List.mem_append_right _ own)) bare
  | adding found =>
      exact .adding ⟨lying_kept found.lying keeps, found.first, found.value, found.entry⟩
  | crediting found =>
      exact .crediting ⟨lying_kept found.lying keeps, found.first, found.value, found.entry⟩
  | recorded lying => exact .recorded (lying_kept lying keeps)
  | opening lying => exact .opening (lying_kept lying keeps)
  | copying copied => exact .copying (copied_kept copied keeps)
  | picked copied nth => exact .picked (copied_kept copied keeps) nth
  | halfway copied nth set =>
      exact .halfway (copied_kept copied (keeps.mono fun _ own => List.mem_append_left _ own)) nth
        (keeps _ (by simp) _ set)
  | joining copied nth set set' =>
      refine .joining (copied_kept copied (keeps.mono ?_)) nth (keeps _ (by simp) _ set)
        (keeps _ (by simp) _ set')
      exact fun _ own => List.mem_append_left _ (List.mem_append_left _ own)
  | copied copied all => exact .copied (copied_kept copied keeps) all
  | asking lying => exact .asking (lying_kept lying keeps)
  | told lying => exact .told (lying_kept lying keeps)
  | counting lying => exact .counting (lying_kept lying keeps)
  | counted lying => exact .counted (lying_kept lying keeps)

end Calls

end SharedLedger

end MavenImport
