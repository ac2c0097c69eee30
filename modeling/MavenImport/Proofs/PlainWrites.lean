/-
# Proofs.PlainWrites -- writing files without links

Whether a file can be written at a place is settled by the first entry or name on the way that
hinders (`FileSystem.hitch?`) and by what is at its end (`FileSystem.bar?`).  If nothing bars it,
the file is written (`replaceFile_free`), and otherwise the file system is left as it is
(`replaceFile_barred`).

What bars a file lasts as long as the entries do: a file system that has more entries bars it too
(`bar_lasts`).
-/
import MavenImport.Proofs.PlainFiles

namespace MavenImport

open Files (Cause)
open FileSystem (nameFault?)

set_option autoImplicit false

namespace FileSystem

/-- The first name on the way that no entry can have, or entry that is no directory.  What is
missing is no hindrance. -/
def hitch? (f : FileSystem) : Location → List String → Option Cause
  | _, [] => none
  | base, name :: rest => match nameFault? name with
    | some cause => some cause
    | none => match f.entryAt? (base ++ [name]) with
      | some (.file _) => some .notDirectory
      | _ => f.hitch? (base ++ [name]) rest

/-- What bars a file from being written at the end of a path. -/
def bar? (f : FileSystem) (p : Path) : Option Cause :=
  (f.hitch? (f.start p) p.parent.names).or
    ((if maxNameBytes < p.name.utf8ByteSize + temporaryNameBytes then some .nameTooLong
      else none).or
    ((nameFault? p.name).or
      (if f.entryAt? (f.placeOf p) = some .directory then some .isDirectory else none)))

/-- The entries of one file system are in the other one, of the same kinds. -/
structure Lasts (f g : FileSystem) : Prop where
  here : g.here = f.here
  directory : ∀ l, f.entryAt? l = some .directory → g.entryAt? l = some .directory
  file : ∀ l i, f.entryAt? l = some (.file i) → ∃ j, g.entryAt? l = some (.file j)

/-- There is a directory at the end of a path, and the entries off the path are as before. -/
structure Leads (f : FileSystem) (p : Path) (g : FileSystem) : Prop where
  plain : g.Plain
  directory : g.entryAt? (f.placeOf p) = some .directory
  elsewhere : ∀ l, ¬ l <+: f.placeOf p → g.entryAt? l = f.entryAt? l

end FileSystem

variable {f g h : FileSystem}

/-! ## What hinders -/

theorem hitch_append :
    ∀ (names rest : List String) (base : Location),
      f.hitch? base (names ++ rest) = (f.hitch? base names).or (f.hitch? (base ++ names) rest)
  | [], rest, base => by rw [List.append_nil, FileSystem.hitch?, Option.none_or, List.nil_append]
  | name :: names, rest, base => by
      rw [List.cons_append, FileSystem.hitch?, FileSystem.hitch?]
      cases nameFault? name with
      | some cause => rfl
      | none =>
          dsimp only
          rcases f.entryAt? (base ++ [name]) with - | ⟨- | i | target⟩ <;> dsimp only
          · rw [hitch_append names rest (base ++ [name])]
            simp
          · rw [hitch_append names rest (base ++ [name])]
            simp
          · rfl
          · rw [hitch_append names rest (base ++ [name])]
            simp

theorem walk_invalid {followLast : Bool} {base : Location} {name : String} {cause : Cause}
    (down : name ≠ "..") (invalid : nameFault? name = some cause) :
    f.walk followLast base [name] = .error cause := by
  rw [FileSystem.walk, if_neg down, invalid]

theorem nameFault_cause {name : String} {cause : Cause} (fault : nameFault? name = some cause) :
    cause = .nulInName ∨ cause = .nameTooLong := by
  unfold FileSystem.nameFault? at fault
  split at fault
  · cases fault
    exact .inl rfl
  · split at fault
    · cases fault
      exact .inr rfl
    · cases fault

theorem hitch_cause {cause : Cause} :
    ∀ (names : List String) (base : Location), f.hitch? base names = some cause →
      cause = .nulInName ∨ cause = .nameTooLong ∨ cause = .notDirectory
  | [], _, hitched => by cases hitched
  | name :: rest, base, hitched => by
      rw [FileSystem.hitch?] at hitched
      cases valid : nameFault? name with
      | some cause' =>
          rw [valid] at hitched
          cases hitched
          exact (nameFault_cause valid).imp_right .inl
      | none =>
          rw [valid] at hitched
          dsimp only at hitched
          split at hitched
          · cases hitched
            exact .inr (.inr rfl)
          · exact hitch_cause rest (base ++ [name]) hitched

/-- A walk that comes to grief other than by something missing is hitched. -/
theorem walk_hitched (plain : f.Plain) {followLast : Bool} {cause : Cause} (other : cause ≠ .notFound) :
    ∀ (names : List String) (base : Location), ".." ∉ names →
      f.walk followLast base names = .error cause → f.hitch? base names = some cause
  | [], _, _, walked => by cases walked
  | name :: rest, base, down, walked => by
      simp only [List.mem_cons, not_or] at down
      rw [FileSystem.walk, if_neg (Ne.symm down.1)] at walked
      rw [FileSystem.hitch?]
      cases valid : nameFault? name with
      | some cause' =>
          rw [valid] at walked
          cases walked
          rfl
      | none =>
          rw [valid] at walked
          dsimp only at walked ⊢
          rcases entry : f.entryAt? (base ++ [name]) with - | ⟨- | i | target⟩ <;>
            rw [entry] at walked <;> dsimp only at walked ⊢
          · split at walked
            · cases walked
            · cases walked
              exact absurd rfl other
          · exact walk_hitched plain other rest (base ++ [name]) down.2 walked
          · split at walked
            · cases walked
            · cases walked
              rfl
          · exact absurd entry (plain.unlinked _ _)

/-- Nothing hinders on the way to a directory. -/
theorem hitch_directory (plain : f.Plain) :
    ∀ (names : List String) (base : Location),
      f.entryAt? (base ++ names) = some .directory → f.hitch? base names = none
  | [], _, _ => rfl
  | name :: rest, base, present => by
      have first : f.entryAt? (base ++ [name]) = some .directory := by
        by_cases last : rest = []
        · subst last
          exact present
        · exact directory_above plain.toFormed rest (base ++ [name]) last (by simp [present])
      rw [FileSystem.hitch?, (plain.placed base name (by rw [first]; simp)).2]
      dsimp only
      rw [first]
      exact hitch_directory plain rest (base ++ [name]) (by simpa using present)

/-! ## Entries that last -/

theorem lasts_refl (f : FileSystem) : f.Lasts f := ⟨rfl, fun _ => id, fun _ i found => ⟨i, found⟩⟩

theorem lasts_trans (first : f.Lasts g) (second : g.Lasts h) : f.Lasts h where
  here := second.here.trans first.here
  directory l found := second.directory l (first.directory l found)
  file l i found := by
    obtain ⟨j, later⟩ := first.file l i found
    exact second.file l j later

theorem lasts_present (lasts : f.Lasts g) (plain : f.Plain) {l : Location}
    (present : f.entryAt? l ≠ none) : g.entryAt? l ≠ none := by
  rcases entry : f.entryAt? l with - | ⟨- | i | target⟩
  · exact absurd entry present
  · rw [lasts.directory l entry]
    simp
  · obtain ⟨j, later⟩ := lasts.file l i entry
    rw [later]
    simp
  · exact absurd entry (plain.unlinked _ _)

theorem placeOf_lasts (lasts : f.Lasts g) (p : Path) : g.placeOf p = f.placeOf p := by
  unfold FileSystem.placeOf FileSystem.start
  rw [lasts.here]

/-- What hinders lasts, unless something before it does so too: and that would be a file. -/
theorem hitch_lasts (lasts : f.Lasts g) {cause : Cause} :
    ∀ (names : List String) (base : Location), f.hitch? base names = some cause →
      g.hitch? base names = some cause ∨ g.hitch? base names = some .notDirectory
  | [], _, hitched => by cases hitched
  | name :: rest, base, hitched => by
      rw [FileSystem.hitch?] at hitched ⊢
      cases valid : nameFault? name with
      | some cause' =>
          rw [valid] at hitched
          exact .inl hitched
      | none =>
          rw [valid] at hitched
          dsimp only at hitched ⊢
          split at hitched
          · rename_i i entry
            obtain ⟨j, later⟩ := lasts.file _ i entry
            rw [later]
            exact .inr rfl
          · split
            · exact .inr rfl
            · exact hitch_lasts lasts rest (base ++ [name]) hitched

/-- What newly hinders is a file. -/
theorem hitch_new {cause : Cause} :
    ∀ (names : List String) (base : Location), f.hitch? base names = none →
      g.hitch? base names = some cause → cause = .notDirectory
  | [], _, _, hitched => by cases hitched
  | name :: rest, base, free, hitched => by
      rw [FileSystem.hitch?] at free hitched
      cases valid : nameFault? name with
      | some cause' =>
          rw [valid] at free
          cases free
      | none =>
          rw [valid] at free hitched
          dsimp only at free hitched
          split at free
          · cases free
          · split at hitched
            · cases hitched
              rfl
            · exact hitch_new rest (base ++ [name]) free hitched

/-- What bars a file lasts, up to what it is called. -/
theorem bar_lasts (lasts : f.Lasts g) {p : Path} {cause : Cause} (barred : f.bar? p = some cause) :
    ∃ cause', g.bar? p = some cause' ∧ (cause ≠ .nulInName → cause' ≠ .nulInName) := by
  have start : g.start p = f.start p := by
    unfold FileSystem.start
    rw [lasts.here]
  unfold FileSystem.bar? at barred ⊢
  rw [placeOf_lasts lasts, start]
  cases hitched : f.hitch? (f.start p) p.parent.names with
  | some cause' =>
      rw [hitched] at barred
      cases barred
      rcases hitch_lasts lasts _ _ hitched with same | file
      · exact ⟨cause, by rw [same]; rfl, id⟩
      · exact ⟨.notDirectory, by rw [file]; rfl, fun _ => by simp⟩
  | none =>
      rw [hitched, Option.none_or] at barred
      cases later : g.hitch? (f.start p) p.parent.names with
      | some cause' =>
          obtain rfl := hitch_new _ _ hitched later
          exact ⟨.notDirectory, rfl, fun _ => by simp⟩
      | none =>
          rw [Option.none_or]
          split at barred
          · cases barred
            rename_i long
            exact ⟨.nameTooLong, by rw [if_pos long]; rfl, id⟩
          · rename_i short
            rw [if_neg short, Option.none_or]
            rw [Option.none_or] at barred
            cases valid : nameFault? p.name with
            | some cause' =>
                rw [valid] at barred
                cases barred
                exact ⟨cause, rfl, id⟩
            | none =>
                rw [valid, Option.none_or] at barred
                rw [Option.none_or]
                split at barred
                · rename_i directory
                  rw [if_pos (lasts.directory _ directory)]
                  exact ⟨cause, barred, id⟩
                · cases barred

/-! ## Entering -/

/-- A file system with one more entry in a directory, or an entry in the place of one that is no
directory, is formed well. -/
theorem entered_formed (formed : f.Formed) {l : Location} {name : String} {e : Entry}
    (here : g.here = f.here)
    (entries : ∀ l', g.entryAt? l' = if l ++ [name] = l' then some e else f.entryAt? l')
    (above : f.entryAt? l = some .directory) (valid : nameFault? name = none)
    (free : f.entryAt? (l ++ [name]) ≠ some .directory) : g.Formed where
  root := by
    rw [entries, if_neg (by simp)]
    exact formed.root
  here := by
    rw [here, entries, if_neg]
    · exact formed.here
    · intro same
      exact free (same ▸ formed.here)
  placed l' name' present := by
    by_cases same : l ++ [name] = l' ++ [name']
    · obtain ⟨rfl, last⟩ := List.append_inj' same rfl
      obtain rfl : name = name' := by simpa using last
      refine ⟨?_, valid⟩
      rw [entries, if_neg (by simp)]
      exact above
    · rw [entries, if_neg same] at present
      obtain ⟨directory, valid'⟩ := formed.placed l' name' present
      refine ⟨?_, valid'⟩
      rw [entries, if_neg]
      · exact directory
      · intro inside
        exact free (inside ▸ directory)

/-- An entry that is no link makes no difference to there being none. -/
theorem entered_plain (plain : f.Plain) {l : Location} {name : String} {e : Entry}
    (here : g.here = f.here)
    (entries : ∀ l', g.entryAt? l' = if l ++ [name] = l' then some e else f.entryAt? l')
    (solid : ∀ target, e ≠ .link target) (above : f.entryAt? l = some .directory)
    (valid : nameFault? name = none) (free : f.entryAt? (l ++ [name]) ≠ some .directory) :
    g.Plain where
  toFormed := entered_formed plain.toFormed here entries above valid free
  unlinked l' target found := by
    rw [entries] at found
    split at found
    · exact solid target (Option.some.inj found)
    · exact plain.unlinked l' target found

theorem entryAt_putEntry (l l' : Location) (e : Entry) :
    (f.putEntry l e).entryAt? l' = if l = l' then some e else f.entryAt? l' :=
  find?_put_entry f l l' e

theorem entryAt_putFile (l l' : Location) (bytes : ByteArray) :
    (f.putFile l bytes).entryAt? l' = if l = l' then some (.file f.fresh) else f.entryAt? l' :=
  find?_put_entry f l l' _

/-- What grows keeps its entries. -/
theorem grows_lasts (grows : f.Grows g) : f.Lasts g where
  here := grows.here
  directory l found := by
    rcases grows.seen l with kept | ⟨absent, -⟩
    · rw [← seen_directory, kept, seen_directory]
      exact found
    · rw [seen_none, found] at absent
      cases absent
  file l i found := by
    rcases grows.seen l with kept | ⟨absent, -⟩
    · have shown : f.seen? l = some (.file (f.content i)) := seen_file.mpr ⟨i, found, rfl⟩
      rw [← kept] at shown
      obtain ⟨j, later, -⟩ := seen_file.mp shown
      exact ⟨j, later⟩
    · rw [seen_none, found] at absent
      cases absent

/-! ## Making directories -/

theorem parent_straight {p : Path} (straight : p.Straight) : p.parent.Straight := fun up =>
  straight ((List.dropLast_sublist _).subset up)

theorem names_parent {p : Path} (named : p.names ≠ []) : p.names = p.parent.names ++ [p.name] := by
  rw [Path.parent, Path.name, List.getLast?_eq_some_getLast named]
  exact (List.dropLast_concat_getLast named).symm

theorem place_parent {p : Path} (named : p.names ≠ []) :
    f.placeOf p = f.placeOf p.parent ++ [p.name] := by
  unfold FileSystem.placeOf
  rw [show f.start p.parent = f.start p from rfl, List.append_assoc, ← names_parent named]

/-- What enters at the end of a path leaves files plain if the walk there came by a directory and a
valid name. -/
theorem placed_plain (plain : f.Plain) {p : Path} {e : Entry} (here : g.here = f.here)
    (entries : ∀ l, g.entryAt? l = if f.placeOf p = l then some e else f.entryAt? l)
    (solid : ∀ target, e ≠ .link target)
    (through : ∀ above name, p.names = above ++ [name] →
      f.entryAt? (f.start p ++ above) = some .directory ∧ nameFault? name = none)
    (free : f.entryAt? (f.placeOf p) ≠ some .directory) : g.Plain := by
  have named : p.names ≠ [] := by
    intro none
    rw [FileSystem.placeOf, none, List.append_nil] at free
    exact free (start_directory plain.toFormed p)
  obtain ⟨directory, valid⟩ := through _ _ (names_parent named)
  rw [place_parent named] at entries free
  exact entered_plain plain here entries solid directory valid free

section Directories

variable (plain : f.Plain) {p : Path} (straight : p.Straight)
include plain straight

/-- A directory that is there is left. -/
theorem orPresent_directory (present : f.entryAt? (f.placeOf p) = some .directory)
    (fault : Files.Fault) : f.orPresent p fault = .ok f := by
  unfold FileSystem.orPresent
  rw [(isDirectory_plain plain straight).mpr present]

theorem makeParents_present (present : f.entryAt? (f.placeOf p) = some .directory) (n : Nat) :
    f.makeParents p n = .ok f := by
  have made : f.makeDirectory p = .error ⟨.exists, p⟩ := by
    unfold FileSystem.makeDirectory
    rw [locateEntry_present plain straight (by rw [present]; simp)]
    dsimp only
    rw [present]
  cases n <;> rw [FileSystem.makeParents, made] <;> dsimp only <;>
    rw [if_neg (by simp)] <;> exact orPresent_directory plain straight present _

theorem makeDirectory_leads (made : f.makeDirectory p = .ok g) : f.Leads p g := by
  unfold FileSystem.makeDirectory at made
  split at made
  · cases made
  · rename_i l located
    obtain ⟨rfl, through⟩ := locateEntry_arrived plain straight located
    split at made
    · rename_i absent
      cases made
      have elsewhere : ∀ l, ¬ l <+: f.placeOf p →
          (f.putEntry (f.placeOf p) .directory).entryAt? l = f.entryAt? l := by
        intro l off
        rw [entryAt_putEntry, if_neg]
        rintro rfl
        exact off List.prefix_rfl
      refine ⟨?_, by rw [entryAt_putEntry, if_pos rfl], elsewhere⟩
      exact placed_plain plain rfl (fun l => entryAt_putEntry _ l _) (by simp) through
        (by rw [absent]; simp)
    · cases made

theorem orPresent_leads {fault : Files.Fault} (present : f.orPresent p fault = .ok g) :
    f.Leads p g := by
  obtain rfl := orPresent_ok present
  refine ⟨plain, ?_, fun _ _ => rfl⟩
  unfold FileSystem.orPresent at present
  split at present
  · rename_i directory
    exact (isDirectory_plain plain straight).mp directory
  · cases present
  · cases present

theorem makeParents_zero_leads (made : f.makeParents p 0 = .ok g) : f.Leads p g := by
  unfold FileSystem.makeParents at made
  split at made
  · rename_i dirs first
    cases made
    exact makeDirectory_leads plain straight first
  · split at made
    · cases made
    · exact orPresent_leads plain straight made

end Directories

theorem makeParents_leads :
    ∀ (n : Nat) {f g : FileSystem} {p : Path}, f.Plain → p.Straight → f.makeParents p n = .ok g →
      f.Leads p g
  | 0, _, _, _, plain, straight, made => makeParents_zero_leads plain straight made
  | n + 1, f, g, p, plain, straight, made => by
      rcases makeParents_succ made with only | ⟨dirs, above, last⟩
      · exact makeParents_zero_leads plain straight only
      · have first := makeParents_leads n plain (parent_straight straight) above
        have last := makeParents_zero_leads first.plain straight last
        have place := placeOf_lasts (grows_lasts (makeParents_grows n above)) p
        have up : f.placeOf p.parent <+: f.placeOf p :=
          (List.prefix_append_right_inj _).mpr (List.dropLast_prefix _)
        refine ⟨last.plain, place ▸ last.directory, fun l off => ?_⟩
        rw [last.elsewhere l (by rwa [place]), first.elsewhere l fun on => off (on.trans up)]

/-! ## Being hindered -/

section Hitched

variable {p : Path} {above : List String} {name : String}

theorem makeDirectory_error {cause : Cause}
    (walked : f.walk false (f.start p) p.names = .error cause) :
    f.makeDirectory p = .error ⟨cause, p⟩ := by
  unfold FileSystem.makeDirectory FileSystem.locateEntry
  rw [follow_error walked]

/-- A hindrance that is no lack of directories ends the making. -/
theorem makeParents_error (plain : f.Plain) {cause : Cause}
    (walked : f.walk false (f.start p) p.names = .error cause) (other : cause ≠ .notFound)
    (n : Nat) : f.makeParents p n = .error ⟨cause, p⟩ := by
  have absent : f.orPresent p ⟨cause, p⟩ = .error ⟨cause, p⟩ := by
    unfold FileSystem.orPresent FileSystem.isDirectory FileSystem.status FileSystem.locate
    rw [follow_error ((walk_followLast plain _ _).trans walked)]
    dsimp only
    cases FileSystem.isAbsence cause <;> rfl
  cases n <;> rw [FileSystem.makeParents, makeDirectory_error walked] <;> dsimp only <;>
    rw [if_neg other, absent]

/-- Directories above are made only if one of them is missing. -/
theorem makeParents_direct
    (found : ∀ fault, f.makeDirectory p = .error fault → fault.cause ≠ .notFound) :
    ∀ n, f.makeParents p n = f.makeParents p 0
  | 0 => rfl
  | n + 1 => by
      rw [FileSystem.makeParents, FileSystem.makeParents]
      cases made : f.makeDirectory p with
      | ok g => rfl
      | error fault =>
          dsimp only
          rw [if_neg (found fault made), if_neg (found fault made)]

/-- In a directory that is there, the walk comes to the place of a name if the name is valid. -/
theorem walk_into (plain : f.Plain) (straight : p.Straight) (split : p.names = above ++ [name])
    (directory : f.entryAt? (f.start p ++ above) = some .directory) :
    f.walk false (f.start p) p.names = match nameFault? name with
      | some cause => .error cause
      | none => .ok (.arrived (f.placeOf p)) := by
  have down : ".." ∉ above ++ [name] := split ▸ straight
  simp only [List.mem_append, List.mem_singleton, not_or] at down
  rw [FileSystem.placeOf, split, walk_through plain.toFormed above _ down.1 directory,
    ← List.append_assoc]
  cases valid : nameFault? name with
  | some cause => exact walk_invalid (Ne.symm down.2) valid
  | none => exact walk_last (plain.unlinked _) (Ne.symm down.2) valid

/-- In a directory that is there, a directory is made or found if the name is valid and not that
of a file. -/
theorem makeParents_zero_free (plain : f.Plain) (straight : p.Straight)
    (split : p.names = above ++ [name])
    (directory : f.entryAt? (f.start p ++ above) = some .directory)
    (free : f.hitch? (f.start p ++ above) [name] = none) :
    ∃ g, f.makeParents p 0 = .ok g := by
  have place : f.placeOf p = f.start p ++ above ++ [name] := by
    rw [FileSystem.placeOf, split, List.append_assoc]
  by_cases present : f.entryAt? (f.placeOf p) = some .directory
  · exact ⟨f, makeParents_present plain straight present 0⟩
  · have walked := walk_into plain straight split directory
    rw [FileSystem.hitch?] at free
    cases valid : nameFault? name with
    | some cause => rw [valid] at free; cases free
    | none =>
        rw [valid] at walked
        rw [valid, ← place] at free
        dsimp only at free
        have absent : f.entryAt? (f.placeOf p) = none := by
          rcases entry : f.entryAt? (f.placeOf p) with - | ⟨- | i | target⟩
          · rfl
          · exact absurd entry present
          · rw [entry] at free
            cases free
          · exact absurd entry (plain.unlinked _ _)
        have made : f.makeDirectory p = .ok (f.putEntry (f.placeOf p) .directory) := by
          unfold FileSystem.makeDirectory FileSystem.locateEntry
          rw [follow_arrived walked]
          dsimp only
          rw [absent]
        exact ⟨_, by rw [FileSystem.makeParents, made]⟩

/-- The system refuses what hinders, unless no operation can take the path. -/
theorem refusal_iff {cause : Cause}
    (hinders : cause = .nulInName ∨ cause = .nameTooLong ∨ cause = .notDirectory) :
    (⟨cause, p⟩ : Files.Fault).isRefusal = true ↔ cause ≠ .nulInName := by
  rcases hinders with rfl | rfl | rfl <;> simp [Files.Fault.isRefusal, Files.Cause.errno?]

/-- What hinders the last step of making a directory is a name or a file. -/
theorem makeParents_zero_hitched (plain : f.Plain) (straight : p.Straight)
    (split : p.names = above ++ [name])
    (directory : f.entryAt? (f.start p ++ above) = some .directory) {cause : Cause}
    (hitched : f.hitch? (f.start p ++ above) [name] = some cause) :
    ∃ fault, f.makeParents p 0 = .error fault ∧
      (fault.isRefusal = true ↔ cause ≠ .nulInName) := by
  have place : f.placeOf p = f.start p ++ above ++ [name] := by
    rw [FileSystem.placeOf, split, List.append_assoc]
  have walked := walk_into plain straight split directory
  rw [FileSystem.hitch?] at hitched
  cases valid : nameFault? name with
  | some cause' =>
      rw [valid] at hitched walked
      cases hitched
      refine ⟨⟨cause, p⟩, ?_, ?_⟩
      · exact makeParents_error plain walked
          (by rcases nameFault_cause valid with rfl | rfl <;> simp) 0
      · exact refusal_iff ((nameFault_cause valid).imp_right .inl)
  | none =>
      rw [valid, ← place] at hitched
      dsimp only at hitched
      rcases entry : f.entryAt? (f.placeOf p) with - | ⟨- | i | target⟩ <;>
        rw [entry] at hitched <;> cases hitched
      refine ⟨⟨.exists, p⟩, ?_, by simp [Files.Fault.isRefusal, Files.Cause.errno?]⟩
      have made : f.makeDirectory p = .error ⟨.exists, p⟩ := by
        unfold FileSystem.makeDirectory
        rw [locateEntry_present plain straight (by rw [entry]; simp)]
        dsimp only
        rw [entry]
      rw [FileSystem.makeParents, made]
      dsimp only
      rw [if_neg (by simp)]
      unfold FileSystem.orPresent FileSystem.isDirectory
      rw [(status_plain plain straight).mpr entry]
      rfl

/-- If a directory is missing above, the directories up to it are made first. -/
theorem makeParents_missing (walked : f.walk false (f.start p) p.names = .error .notFound)
    (split : p.names = above ++ [name]) (n : Nat) :
    f.makeParents p (n + 1) = match f.makeParents p.parent n with
      | .error fault => .error fault
      | .ok dirs => dirs.makeParents p 0 := by
  have other : p.parent ≠ p := by
    intro same
    have length := congrArg (fun q : Path => q.names.length) same
    simp [Path.parent, split] at length
  rw [FileSystem.makeParents, makeDirectory_error walked]
  dsimp only
  rw [if_pos rfl, if_neg other]
  rfl

end Hitched

/-- A walk to make a directory arrives, is hitched or finds a directory missing. -/
theorem walk_cases (plain : f.Plain) {p : Path} (straight : p.Straight) {above : List String}
    {name : String} (split : p.names = above ++ [name]) :
    (f.entryAt? (f.start p ++ above) = some .directory ∧ ∀ n, f.makeParents p n = f.makeParents p 0) ∨
      (f.entryAt? (f.start p ++ above) ≠ some .directory ∧
        f.walk false (f.start p) p.names = .error .notFound) ∨
      ∃ cause, cause ≠ .notFound ∧ f.walk false (f.start p) p.names = .error cause ∧
        f.hitch? (f.start p) p.names = some cause := by
  cases walked : f.walk false (f.start p) p.names with
  | ok stop =>
      obtain ⟨rfl, through⟩ :=
        walk_arrived p.names (f.start p) (direct_start plain straight) walked
      refine .inl ⟨(through above name split).1, makeParents_direct fun fault made => ?_⟩
      unfold FileSystem.makeDirectory FileSystem.locateEntry at made
      rw [follow_arrived walked] at made
      dsimp only at made
      split at made <;> cases made
      simp
  | error cause =>
      by_cases missing : cause = .notFound
      · subst missing
        refine .inr (.inl ⟨fun directory => ?_, rfl⟩)
        rw [walk_into plain straight split directory] at walked
        cases valid : nameFault? name with
        | some cause =>
            rw [valid] at walked
            cases walked
            rcases nameFault_cause valid with same | same <;> cases same
        | none =>
            rw [valid] at walked
            cases walked
      · exact .inr (.inr ⟨cause, missing, rfl, walk_hitched plain missing _ _ straight walked⟩)

/-- In what the directories above were made in, the last step is free or hindered as before. -/
theorem hitch_made (plain : f.Plain) {l : Location} {name : String} (grown : f.Grows g)
    (missing : f.entryAt? l ≠ some .directory) :
    g.hitch? l [name] = f.hitch? l [name] := by
  have absent : f.entryAt? (l ++ [name]) = none := by
    cases entry : f.entryAt? (l ++ [name]) with
    | none => rfl
    | some e => exact absurd (plain.placed l name (by rw [entry]; simp)).1 missing
  simp only [FileSystem.hitch?, absent]
  rcases grown.seen (l ++ [name]) with kept | ⟨-, made⟩
  · rw [seen_none.mpr absent, seen_none] at kept
    rw [kept]
  · rw [seen_directory] at made
    rw [made]

/-- The directories of a path are made if nothing hinders, and otherwise nothing is. -/
theorem makeParents_settled :
    ∀ (n : Nat) {f : FileSystem} {p : Path}, f.Plain → p.Straight → p.names.length = n →
      match f.hitch? (f.start p) p.names with
      | none => ∃ g, f.makeParents p n = .ok g
      | some cause => ∃ fault, f.makeParents p n = .error fault ∧
          (fault.isRefusal = true ↔ cause ≠ .nulInName)
  | 0, f, p, plain, straight, length => by
      have none : p.names = [] := List.eq_nil_of_length_eq_zero length
      have present : f.entryAt? (f.placeOf p) = some .directory := by
        rw [FileSystem.placeOf, none, List.append_nil]
        exact start_directory plain.toFormed p
      rw [none]
      exact ⟨f, makeParents_present plain straight present 0⟩
  | n + 1, f, p, plain, straight, length => by
      have split := names_parent (List.ne_nil_of_length_eq_add_one length)
      rcases walk_cases plain straight split with ⟨directory, direct⟩ | ⟨missing, walked⟩ |
        ⟨cause, other, walked, hitched⟩
      · rw [direct, split, hitch_append, hitch_directory plain _ _ directory, Option.none_or]
        cases last : f.hitch? (f.start p ++ p.parent.names) [p.name] with
        | none => exact makeParents_zero_free plain straight split directory last
        | some cause => exact makeParents_zero_hitched plain straight split directory last
      · have below := makeParents_settled n plain (parent_straight straight)
          (by rw [Path.parent, List.length_dropLast, length]; rfl)
        rw [makeParents_missing walked split, split, hitch_append]
        rw [show f.start p.parent = f.start p from rfl] at below
        cases hitched : f.hitch? (f.start p) p.parent.names with
        | some cause =>
            rw [hitched] at below
            obtain ⟨fault, refused, kind⟩ := below
            rw [refused]
            exact ⟨fault, rfl, kind⟩
        | none =>
            rw [hitched] at below
            obtain ⟨dirs, made⟩ := below
            have grown := makeParents_grows n made
            obtain ⟨plain', directory, -⟩ :=
              makeParents_leads n plain (parent_straight straight) made
            have start : dirs.start p = f.start p := by
              unfold FileSystem.start
              rw [grown.here]
            have directory' : dirs.entryAt? (dirs.start p ++ p.parent.names)
                = some .directory := by
              rw [start]
              exact directory
            rw [made, Option.none_or, ← hitch_made plain grown missing, ← start]
            dsimp only
            cases last : dirs.hitch? (dirs.start p ++ p.parent.names) [p.name] with
            | none => exact makeParents_zero_free plain' straight split directory' last
            | some cause => exact makeParents_zero_hitched plain' straight split directory' last
      · rw [hitched]
        exact ⟨⟨cause, p⟩, makeParents_error plain walked other (n + 1),
          refusal_iff (hitch_cause _ _ hitched)⟩

/-! ## Writing files -/

/-- What is not a directory gives way to a file. -/
theorem putFile_lasts {l : Location} {bytes : ByteArray} (solid : f.entryAt? l ≠ some .directory) :
    f.Lasts (f.putFile l bytes) where
  here := rfl
  directory l' found := by
    rw [entryAt_putFile, if_neg]
    · exact found
    · rintro rfl
      exact solid found
  file l' i found := by
    rw [entryAt_putFile]
    split
    · exact ⟨_, rfl⟩
    · exact ⟨i, found⟩

theorem replaceFile_lasts {p : Path} {bytes : ByteArray} (written : f.replaceFile p bytes = .ok g) :
    f.Lasts g := by
  obtain ⟨dirs, l, made, -, solid, rfl⟩ := replaceFile_ok written
  exact lasts_trans (grows_lasts (makeDirectories_grows made)) (putFile_lasts solid)

section Files

variable (plain : f.Plain) {p : Path} (straight : p.Straight)
include plain straight

theorem makeDirectories_settled : match f.hitch? (f.start p) p.names with
    | none => ∃ g, f.makeDirectories p = .ok g
    | some cause => ∃ fault, f.makeDirectories p = .error fault ∧
        (fault.isRefusal = true ↔ cause ≠ .nulInName) :=
  makeParents_settled p.names.length plain straight rfl

/-- What is written is a plain file at the place of its path.  Elsewhere there may be new
directories, but only if the directory of the file is new. -/
theorem replaceFile_plain {bytes : ByteArray} (written : f.replaceFile p bytes = .ok g) :
    g.Plain ∧ g.here = f.here ∧ g.seen? (f.placeOf p) = some (.file bytes) ∧
      (∀ l, l ≠ f.placeOf p → g.seen? l = f.seen? l ∨
        f.seen? l = none ∧ g.seen? l = some .directory) ∧
      (f.entryAt? (f.placeOf p.parent) = some .directory →
        ∀ l, l ≠ f.placeOf p → g.seen? l = f.seen? l) := by
  obtain ⟨dirs, l, made, located, solid, rfl⟩ := replaceFile_ok written
  have grown := makeDirectories_grows made
  obtain ⟨plain', -, -⟩ := makeParents_leads _ plain (parent_straight straight) made
  obtain ⟨place, through⟩ := locateEntry_arrived plain' straight located
  rw [placeOf_lasts (grows_lasts grown)] at place
  subst place
  have seen := fun l' => putFile_seen (f := dirs) (f.placeOf p) l' bytes
  refine ⟨?_, grown.here, by rw [seen, if_pos rfl], fun l other => ?_, fun present l other => ?_⟩
  · rw [← placeOf_lasts (grows_lasts grown)] at solid ⊢
    exact placed_plain plain' rfl (fun l => entryAt_putFile _ l bytes) (by simp) through solid
  · rw [seen, if_neg (Ne.symm other)]
    exact grown.seen l
  · have still : dirs = f := by
      have same := makeParents_present plain (parent_straight straight) present
        p.parent.names.length
      unfold FileSystem.makeDirectories at made
      rw [same] at made
      exact (Except.ok.inj made).symm
    rw [seen, if_neg (Ne.symm other), still]

/-- A file is written if nothing bars it, and otherwise it is refused with what bars it. -/
theorem replaceFile_settled (named : p.names ≠ []) (bytes : ByteArray) : match f.bar? p with
    | none => ∃ g, f.replaceFile p bytes = .ok g
    | some cause => ∃ fault, f.replaceFile p bytes = .error fault ∧
        (fault.isRefusal = true ↔ cause ≠ .nulInName) := by
  have made := makeDirectories_settled plain (parent_straight straight)
  rw [show f.start p.parent = f.start p from rfl] at made
  unfold FileSystem.bar? FileSystem.replaceFile
  cases hitched : f.hitch? (f.start p) p.parent.names with
  | some cause =>
      rw [hitched] at made
      obtain ⟨fault, refused, kind⟩ := made
      rw [refused]
      exact ⟨fault, rfl, kind⟩
  | none =>
      rw [hitched] at made
      obtain ⟨dirs, made⟩ := made
      rw [made, Option.none_or]
      simp only [bind, Except.bind]
      by_cases long : FileSystem.maxNameBytes < p.name.utf8ByteSize + FileSystem.temporaryNameBytes
      · rw [if_pos long, if_pos long]
        exact ⟨⟨.nameTooLong, p⟩, rfl, by simp [Files.Fault.isRefusal, Files.Cause.errno?]⟩
      · rw [if_neg long, if_neg long, Option.none_or]
        have lasts := grows_lasts (makeDirectories_grows made)
        obtain ⟨plain', directory, elsewhere⟩ :=
          makeParents_leads _ plain (parent_straight straight) made
        have start : dirs.start p = f.start p := by
          unfold FileSystem.start
          rw [lasts.here]
        have walked := walk_into plain' straight (names_parent named) (start ▸ directory)
        rw [placeOf_lasts lasts] at walked
        -- making the directories above made none at the place itself
        have same : dirs.entryAt? (f.placeOf p) = f.entryAt? (f.placeOf p) := by
          refine elsewhere _ fun on => ?_
          have longer := on.length_le
          rw [place_parent named, List.length_append, List.length_singleton] at longer
          omega
        unfold FileSystem.locateEntry
        cases valid : nameFault? p.name with
        | some cause =>
            rw [valid] at walked
            rw [follow_error walked]
            exact ⟨⟨cause, p⟩, rfl, refusal_iff ((nameFault_cause valid).imp_right .inl)⟩
        | none =>
            rw [valid] at walked
            rw [follow_arrived walked, Option.none_or]
            dsimp only
            rw [same]
            by_cases occupied : f.entryAt? (f.placeOf p) = some .directory
            · rw [if_pos occupied, occupied]
              exact ⟨⟨.isDirectory, p⟩, rfl, by simp [Files.Fault.isRefusal, Files.Cause.errno?]⟩
            · rw [if_neg occupied]
              rcases entry : f.entryAt? (f.placeOf p) with - | ⟨- | i | target⟩
              · exact ⟨_, rfl⟩
              · exact absurd entry occupied
              · exact ⟨_, rfl⟩
              · exact ⟨_, rfl⟩

omit plain straight in
/-- What hinders a path on its way or by its last name bars a file there, unless it is the file
itself. -/
theorem bar_of_hitch {cause : Cause} (hitched : f.hitch? (f.start p) p.names = some cause)
    (other : cause ≠ .notDirectory) : f.bar? p ≠ none := by
  unfold FileSystem.bar?
  by_cases named : p.names = []
  · rw [named] at hitched
    cases hitched
  · rw [names_parent named, hitch_append] at hitched
    cases before : f.hitch? (f.start p) p.parent.names with
    | some cause' => simp
    | none =>
        rw [before, Option.none_or, FileSystem.hitch?] at hitched
        cases valid : nameFault? p.name with
        | some cause' => split <;> simp
        | none =>
            rw [valid] at hitched
            dsimp only at hitched
            split at hitched
            · cases hitched
              exact absurd rfl other
            · cases hitched

/-- If it cannot be told whether there is something at a path, no file can be written there. -/
theorem bar_of_unknown {fault : Files.Fault} (unknown : f.pathExists p = .error fault) :
    f.entryAt? (f.placeOf p) = none ∧ f.bar? p ≠ none := by
  have absent : f.entryAt? (f.placeOf p) = none := by
    cases entry : f.entryAt? (f.placeOf p) with
    | none => rfl
    | some e =>
        have exist := (pathExists_plain plain straight).mpr (by rw [entry]; simp)
        rw [unknown] at exist
        cases exist
  refine ⟨absent, ?_⟩
  unfold FileSystem.pathExists FileSystem.status FileSystem.locate at unknown
  cases walked : f.walk true (f.start p) p.names with
  | ok stop =>
      obtain ⟨rfl, -⟩ :=
        walk_arrived p.names (f.start p) (direct_start plain straight) walked
      rw [follow_arrived walked] at unknown
      dsimp only at unknown
      rw [show f.start p ++ p.names = f.placeOf p from rfl, absent] at unknown
      cases unknown
  | error cause =>
      rw [follow_error walked] at unknown
      dsimp only at unknown
      have known : FileSystem.isAbsence cause = false := by
        cases known : FileSystem.isAbsence cause with
        | false => rfl
        | true => rw [if_pos known] at unknown; cases unknown
      have missing : cause ≠ .notFound := by rintro rfl; cases known
      have file : cause ≠ .notDirectory := by rintro rfl; cases known
      exact bar_of_hitch (walk_hitched plain missing _ _ straight walked) file

variable (named : p.names ≠ [])
include named

theorem replaceFile_free (free : f.bar? p = none) (bytes : ByteArray) :
    ∃ g, f.replaceFile p bytes = .ok g := by
  have settled := replaceFile_settled plain straight named bytes
  rwa [free] at settled

theorem replaceFile_barred {cause : Cause} (barred : f.bar? p = some cause) (bytes : ByteArray) :
    ∃ fault, f.replaceFile p bytes = .error fault ∧
      (fault.isRefusal = true ↔ cause ≠ .nulInName) := by
  have settled := replaceFile_settled plain straight named bytes
  rwa [barred] at settled

theorem free_of_written {bytes : ByteArray} (written : f.replaceFile p bytes = .ok g) :
    f.bar? p = none := by
  cases barred : f.bar? p with
  | none => rfl
  | some cause =>
      obtain ⟨fault, refused, -⟩ := replaceFile_barred plain straight named barred bytes
      rw [written] at refused
      cases refused

end Files

end MavenImport
