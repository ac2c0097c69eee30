/-
# Proofs.KeptFiles -- files that are written where there was nothing

A file that is written where a path leads to nothing takes nothing away: whatever a path led to
before, it still leads to, with the same content (`FileSystem.Keeps`, `replaceFile_keeps`).

A path that goes up needs some care.  One that goes up from a directory that is missing leads to
nothing, until the directory is made to write the file: then it leads on, and maybe to a file
that was there before.  So does a link that leads to nothing, or a path with more links than are
followed.  The statement is about paths that go up and through links only as far as there are
directories (`FileSystem.Clear`).
-/
import MavenImport.Proofs.PlainWrites

namespace MavenImport

open Files (Cause)
open FileSystem (nameFault? Stop)

set_option autoImplicit false

namespace FileSystem

/-- What one file system shows, the other one shows too, and no link is new. -/
structure Keeps (f g : FileSystem) : Prop where
  formed : g.Formed
  here : g.here = f.here
  seen : ∀ l e, f.seen? l = some e → g.seen? l = some e
  linked : ∀ l target, g.entryAt? l = some (.link target) → f.entryAt? l = some (.link target)

/-- Directories and links are there still. -/
structure Retains (f g : FileSystem) : Prop where
  here : g.here = f.here
  directory : ∀ l, f.entryAt? l = some .directory → g.entryAt? l = some .directory
  link : ∀ l target, f.entryAt? l = some (.link target) → g.entryAt? l = some (.link target)

/-- There is an entry at a location, and where it is a file there is one still. -/
structure Stands (f g : FileSystem) (l : Location) : Prop where
  present : f.entryAt? l ≠ none
  file : ∀ i, f.entryAt? l = some (.file i) → ∃ j, g.entryAt? l = some (.file j)

/-- Up to some directory that is there a path may go up and through links, and from there on it
does neither. -/
def Clear (f : FileSystem) (p : Path) : Prop :=
  ∃ above below base, p.names = above ++ below ∧
    f.follow true maxLinks (f.start p) above = .ok base ∧ f.Direct base below

/-- Where a walk can end: in a directory, or at a name in one. -/
def Stop.Within (f : FileSystem) : Stop → Prop
  | .arrived l => f.entryAt? l = some .directory ∨
      ∃ above name, l = above ++ [name] ∧ f.entryAt? above = some .directory ∧
        nameFault? name = none
  | .atLink base _ _ => f.entryAt? base = some .directory

end FileSystem

variable {f g h : FileSystem}

theorem seen_link {l : Location} {target : String} :
    f.seen? l = some (.link target) ↔ f.entryAt? l = some (.link target) := by
  unfold FileSystem.seen?
  rcases f.entryAt? l with - | ⟨- | i | other⟩ <;> simp [FileSystem.see]

/-- In files without links every path is clear that does not go up. -/
theorem clear_straight (plain : f.Plain) {p : Path} (straight : p.Straight) : f.Clear p :=
  ⟨[], p.names, f.start p, rfl, rfl, direct_start plain straight⟩

/-! ## Where a path ends -/

section Ends

variable (formed : f.Formed)
include formed

/-- The directory above a directory is one, and the root stands for the one above itself. -/
theorem directory_dropLast {l : Location} (directory : f.entryAt? l = some .directory) :
    f.entryAt? l.dropLast = some .directory := by
  rcases List.eq_nil_or_concat l with rfl | ⟨above, name, rfl⟩
  · exact directory
  · rw [List.concat_eq_append] at directory ⊢
    rw [List.dropLast_concat]
    exact (formed.placed above name (by rw [directory]; simp)).1

theorem walk_within {followLast : Bool} {stop : Stop} :
    ∀ (names : List String) (base : Location), f.entryAt? base = some .directory →
      f.walk followLast base names = .ok stop → stop.Within f
  | [], base, directory, walked => by
      cases walked
      exact .inl directory
  | name :: rest, base, directory, walked => by
      rw [FileSystem.walk] at walked
      by_cases up : name = ".."
      · rw [if_pos up] at walked
        exact walk_within rest _ (directory_dropLast formed directory) walked
      · rw [if_neg up] at walked
        cases valid : nameFault? name with
        | some cause =>
            rw [valid] at walked
            cases walked
        | none =>
            rw [valid] at walked
            dsimp only at walked
            rcases entry : f.entryAt? (base ++ [name]) with - | ⟨- | i | target⟩ <;>
              rw [entry] at walked <;> dsimp only at walked
            · split at walked <;> cases walked
              exact .inr ⟨base, name, rfl, directory, valid⟩
            · exact walk_within rest _ entry walked
            · split at walked <;> cases walked
              exact .inr ⟨base, name, rfl, directory, valid⟩
            · split at walked <;> cases walked
              · exact .inr ⟨base, name, rfl, directory, valid⟩
              · exact directory

/-- Where a path leads to and there is no directory, there is one above, and a name that an entry
can have. -/
theorem follow_ends {followLast : Bool} {l : Location} (other : f.entryAt? l ≠ some .directory) :
    ∀ (links : Nat) (names : List String) (base : Location),
      f.entryAt? base = some .directory → f.follow followLast links base names = .ok l →
        ∃ above name, l = above ++ [name] ∧ f.entryAt? above = some .directory ∧
          nameFault? name = none
  | 0, names, base, directory, followed => by
      rw [FileSystem.follow] at followed
      rcases walked : f.walk followLast base names with cause | ⟨l' | ⟨base', target, rest⟩⟩ <;>
        rw [walked] at followed <;> cases followed
      exact (walk_within formed names base directory walked).resolve_left other
  | links + 1, names, base, directory, followed => by
      rw [FileSystem.follow] at followed
      rcases walked : f.walk followLast base names with cause | ⟨l' | ⟨base', target, rest⟩⟩ <;>
        rw [walked] at followed
      · cases followed
      · cases followed
        exact (walk_within formed names base directory walked).resolve_left other
      · have within : f.entryAt? base' = some .directory :=
          walk_within formed names base directory walked
        refine follow_ends other links _ _ ?_ followed
        split
        · exact within
        · exact formed.root

/-- A file system with one more entry where a path leads, or an entry in the place of one that is no
directory, is formed well. -/
theorem followed_formed {followLast : Bool} {p : Path} {l : Location} {e : Entry}
    (located : f.follow followLast FileSystem.maxLinks (f.start p) p.names = .ok l)
    (solid : f.entryAt? l ≠ some .directory) (here : g.here = f.here)
    (entries : ∀ l', g.entryAt? l' = if l = l' then some e else f.entryAt? l') : g.Formed := by
  obtain ⟨above, name, rfl, directory, valid⟩ :=
    follow_ends formed solid _ _ _ (start_directory formed p) located
  exact entered_formed formed here entries directory valid solid

end Ends

/-! ## Directories that are made -/

theorem makeDirectory_formed {p : Path} (formed : f.Formed) (made : f.makeDirectory p = .ok g) :
    g.Formed := by
  unfold FileSystem.makeDirectory at made
  split at made
  · cases made
  · rename_i l located
    split at made
    · rename_i absent
      cases made
      have solid : f.entryAt? l ≠ some .directory := by simp [absent]
      exact followed_formed formed located solid rfl fun l' => entryAt_putEntry _ l' _
    · cases made

theorem makeParents_formed (n : Nat) {p : Path} (formed : f.Formed)
    (made : f.makeParents p n = .ok g) : g.Formed :=
  makeParents_relates (R := fun f g => f.Formed → g.Formed) (fun _ => id)
    (fun first second formed => second (first formed))
    (fun made formed => makeDirectory_formed formed made) n made formed

theorem replaceFile_formed {p : Path} {bytes : ByteArray} (formed : f.Formed)
    (written : f.replaceFile p bytes = .ok g) : g.Formed := by
  obtain ⟨dirs, l, made, located, solid, rfl⟩ := replaceFile_ok written
  have formed' : dirs.Formed := makeParents_formed _ formed made
  exact followed_formed formed' located solid rfl fun l' => entryAt_putFile _ l' bytes

/-! ## Paths that lead on -/

theorem stands_directory {l : Location} (directory : f.entryAt? l = some .directory) :
    f.Stands g l where
  present := by simp [directory]
  file i found := by
    rw [directory] at found
    cases found

section Leading

variable (retains : f.Retains g)
include retains

/-- A walk that does not end at a name without an entry goes the same way. -/
theorem walk_retains {followLast : Bool} {stop : Stop}
    (stands : ∀ l, stop = .arrived l → f.Stands g l) :
    ∀ (names : List String) (base : Location), f.walk followLast base names = .ok stop →
      g.walk followLast base names = .ok stop
  | [], base, walked => walked
  | name :: rest, base, walked => by
      rw [FileSystem.walk] at walked ⊢
      by_cases up : name = ".."
      · rw [if_pos up] at walked ⊢
        exact walk_retains stands rest _ walked
      · rw [if_neg up] at walked ⊢
        cases valid : nameFault? name with
        | some cause =>
            rw [valid] at walked
            cases walked
        | none =>
            rw [valid] at walked
            dsimp only at walked ⊢
            rcases entry : f.entryAt? (base ++ [name]) with - | ⟨- | i | target⟩ <;>
              rw [entry] at walked <;> dsimp only at walked
            · split at walked <;> cases walked
              exact absurd entry (stands _ rfl).present
            · rw [retains.directory _ entry]
              exact walk_retains stands rest _ walked
            · split at walked <;> cases walked
              next last =>
                obtain ⟨j, found⟩ := (stands _ rfl).file i entry
                rw [found]
                exact if_pos last
            · rw [retains.link _ _ entry]
              exact walked

theorem follow_retains {followLast : Bool} {l : Location} (stands : f.Stands g l) :
    ∀ (links : Nat) (names : List String) (base : Location),
      f.follow followLast links base names = .ok l → g.follow followLast links base names = .ok l
  | 0, names, base, followed => by
      rw [FileSystem.follow] at followed
      rcases walked : f.walk followLast base names with cause | ⟨l' | ⟨base', target, rest⟩⟩ <;>
        rw [walked] at followed <;> cases followed
      exact follow_arrived (walk_retains retains (fun l' same => by cases same; exact stands)
        names base walked) 0
  | links + 1, names, base, followed => by
      rw [FileSystem.follow] at followed
      rcases walked : f.walk followLast base names with cause | ⟨l' | ⟨base', target, rest⟩⟩ <;>
        rw [walked] at followed
      · cases followed
      · cases followed
        exact follow_arrived (walk_retains retains (fun l' same => by cases same; exact stands)
          names base walked) _
      · rw [FileSystem.follow,
          walk_retains retains (fun l' same => by cases same) names base walked]
        exact follow_retains stands links _ _ followed

/-- A path to a directory leads to it still. -/
theorem locate_retains {p : Path} {l : Location} (directory : f.entryAt? l = some .directory)
    (located : f.locate p = .ok l) : g.locate p = .ok l := by
  unfold FileSystem.locate FileSystem.start at located ⊢
  rw [retains.here]
  exact follow_retains retains (stands_directory directory) _ _ _ located

end Leading

/-! ## What is kept -/

theorem keeps_refl (formed : f.Formed) : f.Keeps f :=
  ⟨formed, rfl, fun _ _ shown => shown, fun _ _ found => found⟩

theorem keeps_trans (first : f.Keeps g) (second : g.Keeps h) : f.Keeps h where
  formed := second.formed
  here := second.here.trans first.here
  seen l e shown := second.seen l e (first.seen l e shown)
  linked l target found := first.linked l target (second.linked l target found)

/-- Where there may only be more directories, everything is kept. -/
theorem grows_keeps (formed : g.Formed) (grows : f.Grows g) : f.Keeps g where
  formed := formed
  here := grows.here
  seen l e shown := by
    rcases grows.seen l with kept | ⟨absent, -⟩
    · exact kept.trans shown
    · rw [absent] at shown
      cases shown
  linked l target found := by
    rw [← seen_link] at found ⊢
    rcases grows.seen l with kept | ⟨-, directory⟩
    · exact kept.symm.trans found
    · rw [directory] at found
      cases found

section Kept

variable (keeps : f.Keeps g)
include keeps

theorem start_keeps (p : Path) : g.start p = f.start p := by
  unfold FileSystem.start
  rw [keeps.here]

/-- An entry is still there, and shows the same. -/
theorem entry_keeps {l : Location} {e : Entry} (found : f.entryAt? l = some e) :
    ∃ e', g.entryAt? l = some e' ∧ g.see e' = f.see e := by
  have shown : g.seen? l = some (f.see e) := by
    refine keeps.seen l _ ?_
    rw [FileSystem.seen?, found]
    rfl
  unfold FileSystem.seen? at shown
  obtain ⟨e', found', same⟩ := Option.map_eq_some_iff.mp shown
  exact ⟨e', found', same⟩

theorem directory_keeps {l : Location} (found : f.entryAt? l = some .directory) :
    g.entryAt? l = some .directory :=
  seen_directory.mp (keeps.seen l _ (seen_directory.mpr found))

theorem direct_keeps {base : Location} {names : List String} (direct : f.Direct base names) :
    g.Direct base names where
  directory := directory_keeps keeps direct.directory
  down := direct.down
  unlinked above leading target found :=
    direct.unlinked above leading target (keeps.linked _ target found)

theorem keeps_retains : f.Retains g where
  here := keeps.here
  directory _ := directory_keeps keeps
  link l _ found := seen_link.mp (keeps.seen l _ (seen_link.mpr found))

theorem stands_keeps {l : Location} (present : f.entryAt? l ≠ none) : f.Stands g l where
  present := present
  file i found := by
    obtain ⟨j, found', -⟩ := seen_file.mp (keeps.seen l _ (seen_file.mpr ⟨i, found, rfl⟩))
    exact ⟨j, found'⟩

theorem follow_keeps {followLast : Bool} {l : Location} (present : f.entryAt? l ≠ none)
    (links : Nat) (names : List String) (base : Location)
    (followed : f.follow followLast links base names = .ok l) :
    g.follow followLast links base names = .ok l :=
  follow_retains (keeps_retains keeps) (stands_keeps keeps present) links names base followed

theorem clear_keeps {p : Path} (clear : f.Clear p) : g.Clear p := by
  obtain ⟨above, below, base, split, followed, direct⟩ := clear
  refine ⟨above, below, base, split, ?_, direct_keeps keeps direct⟩
  rw [start_keeps keeps]
  exact follow_keeps keeps (by rw [direct.directory]; simp) _ _ _ followed

/-- A path shows what it showed. -/
theorem status_keeps {p : Path} {e : Entry} (shown : f.status p = .ok e) :
    ∃ e', g.status p = .ok e' ∧ g.see e' = f.see e := by
  unfold FileSystem.status FileSystem.locate at shown ⊢
  rw [start_keeps keeps]
  split at shown
  · cases shown
  · rename_i l located
    split at shown
    · rename_i found
      cases shown
      rw [follow_keeps keeps (by rw [found]; simp) _ _ _ located]
      obtain ⟨e', found', same⟩ := entry_keeps keeps found
      dsimp only
      rw [found']
      exact ⟨e', rfl, same⟩
    · cases shown

theorem pathExists_keeps {p : Path} (present : f.pathExists p = .ok true) :
    g.pathExists p = .ok true := by
  unfold FileSystem.pathExists at present ⊢
  split at present
  · rename_i e shown
    obtain ⟨e', shown', -⟩ := status_keeps keeps shown
    rw [shown']
  · split at present <;> cases present

theorem readFile_keeps {p : Path} {bytes : ByteArray} (readable : f.readFile p = .ok bytes) :
    g.readFile p = .ok bytes := by
  unfold FileSystem.readFile at readable ⊢
  split at readable
  · cases readable
  · cases readable
  · rename_i i shown
    cases readable
    obtain ⟨- | j | target, shown', same⟩ := status_keeps keeps shown
    · cases same
    · rw [shown']
      exact congrArg Except.ok (Seen.file.inj same)
    · cases same
  · cases readable

end Kept

/-! ## Files that are written -/

section Append

variable {followLast : Bool} {base base' : Location} {rest : List String}

/-- A walk goes on from the directory where its first part arrives. -/
theorem walk_append (directory : f.entryAt? base' = some .directory) :
    ∀ (names : List String) (base : Location), f.walk true base names = .ok (.arrived base') →
      f.walk followLast base (names ++ rest) = f.walk followLast base' rest
  | [], base, walked => by
      cases walked
      rfl
  | name :: names, base, walked => by
      rw [List.cons_append, FileSystem.walk]
      rw [FileSystem.walk] at walked
      by_cases up : name = ".."
      · rw [if_pos up] at walked ⊢
        exact walk_append directory names _ walked
      · rw [if_neg up] at walked ⊢
        cases valid : nameFault? name with
        | some cause =>
            rw [valid] at walked
            cases walked
        | none =>
            rw [valid] at walked
            dsimp only at walked ⊢
            rcases entry : f.entryAt? (base ++ [name]) with - | ⟨- | i | target⟩ <;>
              rw [entry] at walked <;> dsimp only at walked ⊢
            · split at walked <;> cases walked
              rw [directory] at entry
              cases entry
            · exact walk_append directory names _ walked
            · split at walked <;> cases walked
              rw [directory] at entry
              cases entry
            · split at walked <;> cases walked
              rw [directory] at entry
              cases entry

/-- A link in the first part is followed whether a last one would be or not, since it is not
last. -/
theorem walk_append_link (more : rest ≠ [] ∨ followLast = true) {target : String}
    {left : List String} :
    ∀ (names : List String) (base : Location),
      f.walk true base names = .ok (.atLink base' target left) →
        f.walk followLast base (names ++ rest) = .ok (.atLink base' target (left ++ rest))
  | [], base, walked => by cases walked
  | name :: names, base, walked => by
      rw [List.cons_append, FileSystem.walk]
      rw [FileSystem.walk] at walked
      by_cases up : name = ".."
      · rw [if_pos up] at walked ⊢
        exact walk_append_link more names _ walked
      · rw [if_neg up] at walked ⊢
        cases valid : nameFault? name with
        | some cause =>
            rw [valid] at walked
            cases walked
        | none =>
            rw [valid] at walked
            dsimp only at walked ⊢
            rcases entry : f.entryAt? (base ++ [name]) with - | ⟨- | i | target⟩ <;>
              rw [entry] at walked <;> dsimp only at walked ⊢
            · split at walked <;> cases walked
            · exact walk_append_link more names _ walked
            · split at walked <;> cases walked
            · rw [if_neg (by simp)] at walked
              cases walked
              rw [if_neg]
              rintro ⟨last, stays⟩
              rcases more with more | follows
              · exact more (List.append_eq_nil_iff.mp last).2
              · rw [follows] at stays
                cases stays

/-- Following goes on from the directory where its first part leads to. -/
theorem follow_append (directory : f.entryAt? base' = some .directory)
    (more : rest ≠ [] ∨ followLast = true) (ending : Except Cause Location)
    (on : f.walk followLast base' rest = ending.map .arrived) :
    ∀ (links : Nat) (names : List String) (base : Location),
      f.follow true links base names = .ok base' →
        f.follow followLast links base (names ++ rest) = ending
  | 0, names, base, followed => by
      rw [FileSystem.follow] at followed ⊢
      rcases walked : f.walk true base names with cause | ⟨l' | ⟨base'', target, left⟩⟩ <;>
        rw [walked] at followed <;> cases followed
      rw [walk_append directory names base walked, on]
      cases ending <;> rfl
  | links + 1, names, base, followed => by
      rw [FileSystem.follow] at followed ⊢
      rcases walked : f.walk true base names with cause | ⟨l' | ⟨base'', target, left⟩⟩ <;>
        rw [walked] at followed
      · cases followed
      · cases followed
        rw [walk_append directory names base walked, on]
        cases ending <;> rfl
      · rw [walk_append_link more names base walked]
        dsimp only at followed ⊢
        rw [← List.append_assoc]
        exact follow_append directory more ending on links _ _ followed

end Append

section Replacing

variable {p : Path} {above below : List String} {base : Location}

/-- A path that leads to nothing has no entry at its end. -/
theorem absent_of_clear (formed : f.Formed) (split : p.names = above ++ below)
    (followed : f.follow true FileSystem.maxLinks (f.start p) above = .ok base)
    (direct : f.Direct base below) (absent : f.pathExists p = .ok false) :
    f.entryAt? (base ++ below) = none := by
  cases found : f.entryAt? (base ++ below) with
  | none => rfl
  | some e =>
      have arrives : f.walk true base below = .ok (.arrived (base ++ below)) :=
        walk_present formed direct (by rw [found]; simp)
      have located : f.locate p = .ok (base ++ below) := by
        unfold FileSystem.locate
        rw [split]
        exact follow_append direct.directory (.inr rfl) (.ok _) arrives _ _ _ followed
      have shown : f.status p = .ok e := by
        unfold FileSystem.status
        rw [located]
        dsimp only
        rw [found]
      unfold FileSystem.pathExists at absent
      rw [shown] at absent
      cases absent

theorem located_of_clear (split : p.names = above ++ below)
    (followed : f.follow true FileSystem.maxLinks (f.start p) above = .ok base)
    (direct : f.Direct base below) (more : below ≠ []) {l : Location}
    (located : f.locateEntry p = .ok l) : l = base ++ below := by
  unfold FileSystem.locateEntry at located
  rw [split] at located
  cases walked : f.walk false base below with
  | error cause =>
      rw [follow_append direct.directory (.inl more) (.error cause) walked _ _ _ followed]
        at located
      cases located
  | ok stop =>
      obtain ⟨rfl, -⟩ := walk_arrived below base direct walked
      rw [follow_append direct.directory (.inl more) (.ok _) walked _ _ _ followed]
        at located
      cases located
      rfl

/-- What is written where a clear path leads to nothing is a new entry. -/
theorem replaceFile_adds (formed : f.Formed) (clear : f.Clear p)
    (absent : f.pathExists p = .ok false) {bytes : ByteArray}
    (written : f.replaceFile p bytes = .ok g) :
    ∃ dirs l, f.makeDirectories p.parent = .ok dirs ∧ dirs.locateEntry p = .ok l ∧
      dirs.entryAt? l = none ∧ g = dirs.putFile l bytes := by
  obtain ⟨dirs, l, made, located, solid, rfl⟩ := replaceFile_ok written
  have grown := makeDirectories_grows made
  have keeps : f.Keeps dirs := grows_keeps (makeParents_formed _ formed made) grown
  obtain ⟨above, below, base, split, followed, direct⟩ := clear
  have empty := absent_of_clear formed split followed direct absent
  have more : below ≠ [] := by
    rintro rfl
    rw [List.append_nil, direct.directory] at empty
    cases empty
  have followed' : dirs.follow true FileSystem.maxLinks (dirs.start p) above = .ok base := by
    rw [start_keeps keeps]
    exact follow_keeps keeps (by rw [direct.directory]; simp) _ _ _ followed
  obtain rfl := located_of_clear split followed' (direct_keeps keeps direct) more located
  refine ⟨dirs, _, made, located, ?_, rfl⟩
  -- making the directories has made none here, where the file goes
  rw [← seen_none] at empty ⊢
  rcases grown.seen (base ++ below) with kept | ⟨-, directory⟩
  · exact kept.trans empty
  · exact absurd (seen_directory.mp directory) solid

/-- A file that is written where a clear path leads to nothing takes nothing away, and can be read
there. -/
theorem replaceFile_keeps (formed : f.Formed) (clear : f.Clear p)
    (absent : f.pathExists p = .ok false) {bytes : ByteArray}
    (written : f.replaceFile p bytes = .ok g) : f.Keeps g ∧ g.readFile p = .ok bytes := by
  have formed' := replaceFile_formed formed written
  obtain ⟨dirs, l, made, located, free, rfl⟩ := replaceFile_adds formed clear absent written
  have keeps : f.Keeps dirs :=
    grows_keeps (makeParents_formed _ formed made) (makeDirectories_grows made)
  refine ⟨keeps_trans keeps ⟨formed', rfl, fun l e shown => ?_,
    fun l target found => ?_⟩, readFile_putFile located (.inl free)⟩
  · rw [putFile_seen, if_neg]
    · exact shown
    · rintro rfl
      rw [seen_none.mpr free] at shown
      cases shown
  · rw [entryAt_putFile] at found
    split at found
    · cases found
    · exact found

end Replacing

end MavenImport
