/-
# Proofs.PlainFiles -- files without links

In a file system without links (`FileSystem.Plain`) a path that does not go up leads to the place
that its names spell out (`FileSystem.placeOf`), or nowhere.  So a path shows what there is at its
place (`status_plain`), and it can be read exactly if there is a file (`readFile_plain`).
-/
import MavenImport.Proofs.FileWrites

namespace MavenImport

open Files (Cause)
open FileSystem (nameFault? Stop)

set_option autoImplicit false

/-! ## File systems without links -/

namespace FileSystem

/-- Every entry has a name that an entry can have and lies in a directory. -/
structure Formed (f : FileSystem) : Prop where
  root : f.entryAt? [] = some .directory
  here : f.entryAt? f.here = some .directory
  placed : ∀ l name, f.entryAt? (l ++ [name]) ≠ none →
    f.entryAt? l = some .directory ∧ nameFault? name = none

/-- There are no links. -/
structure Plain (f : FileSystem) : Prop extends Formed f where
  unlinked : ∀ l target, f.entryAt? l ≠ some (.link target)

/-- From a directory on, names neither go up nor come to a link. -/
structure Direct (f : FileSystem) (base : Location) (names : List String) : Prop where
  directory : f.entryAt? base = some .directory
  down : ".." ∉ names
  unlinked : ∀ above, above <+: names → ∀ target, f.entryAt? (base ++ above) ≠ some (.link target)

/-- The location that the names of a path spell out. -/
def placeOf (f : FileSystem) (p : Path) : Location := f.start p ++ p.names

end FileSystem

/-- A path does not go up. -/
def Path.Straight (p : Path) : Prop := ".." ∉ p.names

instance (p : Path) : Decidable p.Straight := inferInstanceAs (Decidable (".." ∉ p.names))

open FileSystem (Plain)

variable {f g h : FileSystem}

/-! ## Names that go up -/

/-- Where names lead from a location, if there are no links. -/
def Path.along (base : Location) (names : List String) : Location :=
  names.foldl (fun l name => if name = ".." then l.dropLast else l ++ [name]) base

theorem along_append (base : Location) (names more : List String) :
    Path.along base (names ++ more) = Path.along (Path.along base names) more := by
  simp only [Path.along, List.foldl_append]

theorem along_up (base : Location) : Path.along base [".."] = base.dropLast := by
  simp [Path.along]

theorem along_one {base : Location} {name : String} (down : name ≠ "..") :
    Path.along base [name] = base ++ [name] := by
  simp [Path.along, down]

theorem along_cons (base : Location) (name : String) (names : List String) :
    Path.along base (name :: names) = Path.along (Path.along base [name]) names :=
  along_append base [name] names

theorem along_down {base : Location} {names : List String} (down : ".." ∉ names) :
    Path.along base names = base ++ names := by
  induction names generalizing base with
  | nil => simp [Path.along]
  | cons name names ih =>
      simp only [List.mem_cons, not_or] at down
      rw [along_cons, along_one (Ne.symm down.1), ih down.2]
      simp

/-! ## Entries -/

theorem seen_directory {l : Location} :
    f.seen? l = some .directory ↔ f.entryAt? l = some .directory := by
  unfold FileSystem.seen?
  rcases f.entryAt? l with - | ⟨- | i | target⟩ <;> simp [FileSystem.see]

theorem seen_file {l : Location} {bytes : ByteArray} :
    f.seen? l = some (.file bytes) ↔
      ∃ i, f.entryAt? l = some (.file i) ∧ f.content i = bytes := by
  unfold FileSystem.seen?
  rcases f.entryAt? l with - | ⟨- | i | target⟩ <;> simp [FileSystem.see]

theorem seen_none {l : Location} : f.seen? l = none ↔ f.entryAt? l = none := by
  unfold FileSystem.seen?
  rw [Option.map_eq_none_iff]

section Formed

variable (formed : f.Formed)
include formed

theorem start_directory (p : Path) : f.entryAt? (f.start p) = some .directory := by
  unfold FileSystem.start
  split
  · exact formed.here
  · exact formed.root

/-- There are only directories above an entry. -/
theorem directory_above : ∀ (names : List String) (l : Location), names ≠ [] →
    f.entryAt? (l ++ names) ≠ none → f.entryAt? l = some .directory
  | [], _, below, _ => absurd rfl below
  | [name], l, _, present => (formed.placed l name present).1
  | name :: other :: rest, l, _, present => by
      have below : f.entryAt? (l ++ [name]) = some .directory :=
        directory_above (other :: rest) (l ++ [name]) (by simp) (by simpa using present)
      exact (formed.placed l name (by rw [below]; simp)).1

end Formed

/-- There is nothing but the root in the beginning. -/
theorem empty_plain : (FileSystem.empty []).Plain := by
  have entry : ∀ l, (FileSystem.empty []).entryAt? l = if [] = l then some .directory else none :=
    fun _ => rfl
  refine ⟨⟨rfl, rfl, fun l name present => ?_⟩, fun l target found => ?_⟩
  · rw [entry, if_neg (by simp)] at present
    exact absurd rfl present
  · rw [entry] at found
    split at found <;> cases found

/-! ## Walking -/

/-- On the way through directories a walk goes on from the last of them. -/
theorem walk_through (formed : f.Formed) {followLast : Bool} {rest : List String} :
    ∀ (names : List String) (base : Location), ".." ∉ names →
      f.entryAt? (base ++ names) = some .directory →
      f.walk followLast base (names ++ rest) = f.walk followLast (base ++ names) rest
  | [], base, _, _ => by rw [List.append_nil, List.nil_append]
  | name :: names, base, down, present => by
      simp only [List.mem_cons, not_or] at down
      have first : f.entryAt? (base ++ [name]) = some .directory := by
        by_cases last : names = []
        · subst last
          exact present
        · exact directory_above formed names (base ++ [name]) last (by simp [present])
      have valid := (formed.placed base name (by rw [first]; simp)).2
      rw [List.cons_append, FileSystem.walk, if_neg (Ne.symm down.1), valid]
      dsimp only
      rw [first]
      dsimp only
      rw [walk_through formed names (base ++ [name]) down.2 (by simpa using present)]
      simp

/-- The last step of a walk arrives if an entry can have the name, whether there is one or
not. -/
theorem walk_last {followLast : Bool} {base : Location} {name : String}
    (unlinked : ∀ target, f.entryAt? (base ++ [name]) ≠ some (.link target)) (down : name ≠ "..")
    (valid : nameFault? name = none) :
    f.walk followLast base [name] = .ok (.arrived (base ++ [name])) := by
  rw [FileSystem.walk, if_neg down, valid]
  dsimp only
  rcases entry : f.entryAt? (base ++ [name]) with - | ⟨- | i | target⟩
  · rfl
  · rfl
  · rfl
  · exact absurd entry (unlinked target)

section Direct

variable {base : Location} {names : List String}

theorem direct_step {name : String} (direct : f.Direct base (name :: names))
    (directory : f.entryAt? (base ++ [name]) = some .directory) :
    f.Direct (base ++ [name]) names where
  directory := directory
  down below := direct.down (List.mem_cons_of_mem name below)
  unlinked above leading target := by
    have first := direct.unlinked (name :: above) (List.prefix_cons_inj name |>.mpr leading) target
    simpa using first

theorem direct_first {name : String} (direct : f.Direct base (name :: names)) :
    name ≠ ".." ∧ ∀ target, f.entryAt? (base ++ [name]) ≠ some (.link target) :=
  ⟨fun up => direct.down (up ▸ List.mem_cons_self),
    direct.unlinked [name] (List.prefix_append [name] names)⟩

/-- A walk that ends well arrives where the names lead, and has come through a directory. -/
theorem walk_arrived {followLast : Bool} {stop : Stop} :
    ∀ (names : List String) (base : Location), f.Direct base names →
      f.walk followLast base names = .ok stop →
      stop = .arrived (base ++ names) ∧ ∀ above name, names = above ++ [name] →
        f.entryAt? (base ++ above) = some .directory ∧ nameFault? name = none
  | [], base, _, walked => by
      cases walked
      exact ⟨by rw [List.append_nil], fun above name split => by simp at split⟩
  | name :: rest, base, direct, walked => by
      obtain ⟨down, unlinked⟩ := direct_first direct
      rw [FileSystem.walk, if_neg down] at walked
      cases valid : nameFault? name with
      | some cause => rw [valid] at walked; cases walked
      | none =>
          rw [valid] at walked
          dsimp only at walked
          have here : rest = [] → ∀ above last, name :: rest = above ++ [last] →
              f.entryAt? (base ++ above) = some .directory ∧ nameFault? last = none := by
            rintro rfl above last split
            obtain ⟨rfl, rfl⟩ : above = [] ∧ last = name := by
              cases above with
              | nil => simpa [eq_comm] using split
              | cons _ above => simp at split
            rw [List.append_nil]
            exact ⟨direct.directory, valid⟩
          rcases entry : f.entryAt? (base ++ [name]) with - | ⟨- | i | target⟩ <;>
            rw [entry] at walked <;> dsimp only at walked
          · split at walked
            · rename_i last
              cases walked
              exact ⟨by rw [last], here last⟩
            · cases walked
          · obtain ⟨arrived, through⟩ :=
              walk_arrived rest (base ++ [name]) (direct_step direct entry) walked
            refine ⟨by simpa using arrived, fun above last split => ?_⟩
            cases above with
            | nil =>
                simp only [List.nil_append, List.cons.injEq] at split
                exact here split.2 [] last (by rw [split.1, split.2]; rfl)
            | cons _ above =>
                simp only [List.cons_append, List.cons.injEq] at split
                rw [← split.1]
                simpa using through above last split.2
          · split at walked
            · rename_i last
              cases walked
              exact ⟨by rw [last], here last⟩
            · cases walked
          · exact absurd entry (unlinked target)

/-- Where there is an entry, a walk arrives. -/
theorem walk_present (formed : f.Formed) {followLast : Bool} (direct : f.Direct base names)
    (present : f.entryAt? (base ++ names) ≠ none) :
    f.walk followLast base names = .ok (.arrived (base ++ names)) := by
  rcases List.eq_nil_or_concat names with rfl | ⟨above, name, rfl⟩
  · rw [FileSystem.walk, List.append_nil]
  · have unlinked := direct.unlinked _ (List.prefix_refl _)
    have down := direct.down
    rw [List.concat_eq_append] at down unlinked present ⊢
    simp only [List.mem_append, List.mem_singleton, not_or] at down
    rw [← List.append_assoc] at present unlinked
    obtain ⟨directory, valid⟩ := formed.placed _ _ present
    rw [walk_through formed above base down.1 directory,
      walk_last unlinked (Ne.symm down.2) valid, List.append_assoc]

end Direct

/-- Without links it makes no difference whether a last one would be followed. -/
theorem walk_followLast (plain : f.Plain) :
    ∀ (names : List String) (base : Location),
      f.walk true base names = f.walk false base names
  | [], _ => rfl
  | name :: rest, base => by
      have later := walk_followLast plain rest
      rw [FileSystem.walk, FileSystem.walk]
      rcases entry : f.entryAt? (base ++ [name]) with - | ⟨- | i | target⟩
      · simp only [later, entry]
      · simp only [later, entry]
      · simp only [later, entry]
      · exact absurd entry (plain.unlinked _ _)

theorem direct_start (plain : f.Plain) {p : Path} (straight : p.Straight) :
    f.Direct (f.start p) p.names :=
  ⟨start_directory plain.toFormed p, straight, fun _ _ => plain.unlinked _⟩

theorem follow_arrived {followLast : Bool} {base l : Location} {names : List String}
    (walked : f.walk followLast base names = .ok (.arrived l)) (links : Nat) :
    f.follow followLast links base names = .ok l := by
  cases links <;> rw [FileSystem.follow, walked]

theorem follow_error {followLast : Bool} {base : Location} {names : List String} {cause : Cause}
    (walked : f.walk followLast base names = .error cause) (links : Nat) :
    f.follow followLast links base names = .error cause := by
  cases links <;> rw [FileSystem.follow, walked]

/-! ## Looking at a path -/

section Look

variable (plain : f.Plain) {p : Path} (straight : p.Straight)
include plain straight

/-- A path that can be followed leads to its place. -/
theorem locate_arrived {l : Location} (located : f.locate p = .ok l) : l = f.placeOf p := by
  unfold FileSystem.locate at located
  cases walked : f.walk true (f.start p) p.names with
  | error cause =>
      rw [follow_error walked] at located
      cases located
  | ok stop =>
      obtain ⟨rfl, -⟩ :=
        walk_arrived p.names (f.start p) (direct_start plain straight) walked
      rw [follow_arrived walked] at located
      cases located
      rfl

theorem locateEntry_arrived {l : Location} (located : f.locateEntry p = .ok l) :
    l = f.placeOf p ∧ ∀ above name, p.names = above ++ [name] →
      f.entryAt? (f.start p ++ above) = some .directory ∧ nameFault? name = none := by
  unfold FileSystem.locateEntry at located
  cases walked : f.walk false (f.start p) p.names with
  | error cause =>
      rw [follow_error walked] at located
      cases located
  | ok stop =>
      obtain ⟨rfl, through⟩ :=
        walk_arrived p.names (f.start p) (direct_start plain straight) walked
      rw [follow_arrived walked] at located
      cases located
      exact ⟨rfl, through⟩

theorem locateEntry_present (present : f.entryAt? (f.placeOf p) ≠ none) :
    f.locateEntry p = .ok (f.placeOf p) :=
  follow_arrived (walk_present plain.toFormed (direct_start plain straight) present) _

/-- A path shows the entry at its place. -/
theorem status_plain {e : Entry} : f.status p = .ok e ↔ f.entryAt? (f.placeOf p) = some e := by
  unfold FileSystem.status
  constructor
  · intro shown
    split at shown
    · cases shown
    · rename_i l located
      rw [← locate_arrived plain straight located]
      split at shown
      · rename_i found
        cases shown
        exact found
      · cases shown
  · intro found
    have located : f.locate p = .ok (f.placeOf p) :=
      follow_arrived (walk_present plain.toFormed (direct_start plain straight)
        (found ▸ Option.some_ne_none e)) _
    rw [located]
    dsimp only
    rw [found]

theorem pathExists_plain :
    f.pathExists p = .ok true ↔ f.entryAt? (f.placeOf p) ≠ none := by
  unfold FileSystem.pathExists
  constructor
  · intro exist
    split at exist
    · rename_i e shown
      rw [(status_plain plain straight).mp shown]
      simp
    · split at exist <;> cases exist
  · intro present
    obtain ⟨e, found⟩ := Option.ne_none_iff_exists'.mp present
    rw [(status_plain plain straight).mpr found]

theorem isDirectory_plain :
    f.isDirectory p = .ok true ↔ f.entryAt? (f.placeOf p) = some .directory := by
  unfold FileSystem.isDirectory
  constructor
  · intro directory
    split at directory
    · rename_i e shown
      rw [(status_plain plain straight).mp shown]
      simpa using directory
    · split at directory <;> cases directory
  · intro found
    rw [(status_plain plain straight).mpr found]
    rfl

theorem readFile_plain {bytes : ByteArray} :
    f.readFile p = .ok bytes ↔ f.seen? (f.placeOf p) = some (.file bytes) := by
  unfold FileSystem.readFile
  rw [seen_file]
  constructor
  · intro readable
    split at readable
    · cases readable
    · cases readable
    · rename_i i shown
      cases readable
      exact ⟨i, (status_plain plain straight).mp shown, rfl⟩
    · cases readable
  · rintro ⟨i, found, rfl⟩
    rw [(status_plain plain straight).mpr found]

end Look

end MavenImport
