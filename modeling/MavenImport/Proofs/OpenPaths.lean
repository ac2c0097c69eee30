/-
# Proofs.OpenPaths -- paths that nothing blocks

A file can be stored at a path, and read there again, if nothing is in its way
(`FileSystem.Admits`, `replaceFile_admitted`).  Up to some directory that is there the path may
lead through links.  From there on no file and no link stands where a directory has to be, no
directory and no link where the file has to be, and all names are such that entries can have them.
Directories may be missing, and names may go up: a name that goes up from a directory that is
missing leads on as soon as the directory is made.

A path must not block itself either.  One that goes up to one of its own directories needs that
directory where its file has to be.
-/
import MavenImport.Proofs.KeptFiles

namespace MavenImport

open Files (Cause)
open FileSystem (nameFault? maxLinks)

set_option autoImplicit false

/-! ## What is in the way -/

namespace FileSystem

/-- From a directory on, names lead through directories. -/
def Paved (f : FileSystem) (base : Location) (names : List String) : Prop :=
  ∀ above, above <+: names → f.entryAt? (Path.along base above) = some .directory

/-- From a directory on, names lead through directories, as soon as missing ones are made. -/
structure Passable (f : FileSystem) (base : Location) (names : List String) : Prop where
  directory : f.entryAt? base = some .directory
  named : ∀ name ∈ names, nameFault? name = none
  free : ∀ above, above <+: names → f.entryAt? (Path.along base above) = none ∨
    f.entryAt? (Path.along base above) = some .directory

/-- From a directory on, nothing is in the way of directories and of a file in the last of them. -/
structure Opens (f : FileSystem) (base : Location) (up : List String) (name : String) : Prop where
  passable : f.Passable base up
  named : nameFault? name = none
  /-- There is a name for a temporary file beside it. -/
  short : name.utf8ByteSize + temporaryNameBytes ≤ maxNameBytes
  down : name ≠ ".."
  free : f.entryAt? (Path.along base up ++ [name]) = none ∨
    ∃ i, f.entryAt? (Path.along base up ++ [name]) = some (.file i)
  /-- The file is not where one of the directories has to be. -/
  apart : ∀ above, above <+: up → Path.along base above ≠ Path.along base up ++ [name]

/-- Nothing is in the way of a file at a path. -/
def Admits (f : FileSystem) (p : Path) : Prop :=
  ∃ above base up name, p.names = above ++ (up ++ [name]) ∧
    f.follow true maxLinks (f.start p) above = .ok base ∧ f.Opens base up name

end FileSystem

variable {f g h : FileSystem} {base : Location} {name : String} {names above : List String}

/-! ## Walking over directories -/

theorem paved_nil (directory : f.entryAt? base = some .directory) : f.Paved base [] := by
  intro above leading
  rw [List.prefix_nil.mp leading]
  exact directory

theorem paved_base (paved : f.Paved base names) : f.entryAt? base = some .directory :=
  paved [] List.nil_prefix

theorem paved_cons : f.Paved base (name :: names) ↔
    f.entryAt? base = some .directory ∧ f.Paved (Path.along base [name]) names := by
  constructor
  · intro paved
    refine ⟨paved_base paved, fun above leading => ?_⟩
    rw [← along_cons]
    exact paved (name :: above) ((List.prefix_cons_inj name).mpr leading)
  · rintro ⟨directory, paved⟩ above leading
    rcases List.prefix_cons_iff.mp leading with rfl | ⟨below, rfl, leading'⟩
    · exact directory
    · rw [along_cons]
      exact paved below leading'

theorem paved_concat : f.Paved base (names ++ [name]) ↔
    f.Paved base names ∧ f.entryAt? (Path.along base (names ++ [name])) = some .directory := by
  constructor
  · intro paved
    exact ⟨fun above leading => paved above (leading.trans (List.prefix_append _ _)),
      paved _ List.prefix_rfl⟩
  · rintro ⟨paved, last⟩ above leading
    rcases List.prefix_concat_iff.mp leading with rfl | leading
    · exact last
    · exact paved above leading

theorem passable_cons (passable : f.Passable base (name :: names))
    (directory : f.entryAt? (Path.along base [name]) = some .directory) :
    f.Passable (Path.along base [name]) names where
  directory := directory
  named other listed := passable.named other (List.mem_cons_of_mem _ listed)
  free above leading := by
    rw [← along_cons]
    exact passable.free (name :: above) ((List.prefix_cons_inj name).mpr leading)

theorem passable_init (passable : f.Passable base (names ++ [name])) : f.Passable base names where
  directory := passable.directory
  named other listed := passable.named other (List.mem_append_left _ listed)
  free above leading := passable.free above (leading.trans (List.prefix_append _ _))

section Walk

variable {followLast : Bool} {rest : List String}

theorem walk_on (valid : nameFault? name = none)
    (directory : f.entryAt? (Path.along base [name]) = some .directory) :
    f.walk followLast base (name :: rest) = f.walk followLast (Path.along base [name]) rest := by
  rw [FileSystem.walk]
  by_cases up : name = ".."
  · rw [if_pos up, up, along_up]
  · rw [along_one up] at directory ⊢
    rw [if_neg up, valid]
    dsimp only
    rw [directory]

theorem walk_paved (named : ∀ name ∈ names, nameFault? name = none)
    (paved : f.Paved base names) :
    f.walk followLast base (names ++ rest) = f.walk followLast (Path.along base names) rest := by
  induction names generalizing base with
  | nil => rfl
  | cons name names ih =>
      obtain ⟨valid, named⟩ := List.forall_mem_cons.mp named
      have paved := (paved_cons.mp paved).2
      rw [List.cons_append, walk_on valid (paved_base paved), ih named paved, ← along_cons]

/-- The first directory that is missing ends a walk.  None is missing above a directory, so a name
that goes up is not where the walk ends. -/
theorem walk_unpaved (formed : f.Formed) (passable : f.Passable base names)
    (unpaved : ¬ f.Paved base names) (more : rest ≠ []) :
    f.walk followLast base (names ++ rest) = .error .notFound := by
  induction names generalizing base with
  | nil => exact absurd (paved_nil passable.directory) unpaved
  | cons name names ih =>
      have valid := passable.named name List.mem_cons_self
      rcases passable.free [name] (by simp) with missing | directory
      · have down : name ≠ ".." := by
          rintro rfl
          rw [along_up, directory_dropLast formed passable.directory] at missing
          cases missing
        rw [along_one down] at missing
        rw [List.cons_append, FileSystem.walk, if_neg down, valid]
        dsimp only
        rw [missing]
        dsimp only
        rw [if_neg (by simp [more])]
      · rw [List.cons_append, walk_on valid directory]
        refine ih (passable_cons passable directory) fun paved => unpaved ?_
        exact paved_cons.mpr ⟨passable.directory, paved⟩

/-- A single name leads to where there is no link. -/
theorem walk_single (valid : nameFault? name = none)
    (unlinked : ∀ target, f.entryAt? (Path.along base [name]) ≠ some (.link target)) :
    f.walk followLast base [name] = .ok (.arrived (Path.along base [name])) := by
  by_cases up : name = ".."
  · rw [FileSystem.walk, if_pos up, up, along_up, FileSystem.walk]
  · rw [along_one up] at unlinked ⊢
    exact walk_last unlinked up valid

end Walk

/-! ## Paths that lead to something -/

section Entries

/-- Whether the last name is followed or not makes a difference only where it is a link. -/
theorem walk_unfollowed {stop : FileSystem.Stop} :
    ∀ (names : List String) (base : Location), f.walk true base names = .ok stop →
      f.walk false base names = .ok stop ∨
        ∃ l target, f.walk false base names = .ok (.arrived l) ∧
          f.entryAt? l = some (.link target)
  | [], base, walked => .inl walked
  | name :: rest, base, walked => by
      rw [FileSystem.walk] at walked ⊢
      by_cases up : name = ".."
      · rw [if_pos up] at walked ⊢
        exact walk_unfollowed rest _ walked
      · rw [if_neg up] at walked ⊢
        cases valid : nameFault? name with
        | some cause =>
            rw [valid] at walked
            cases walked
        | none =>
            rw [valid] at walked
            dsimp only at walked ⊢
            rcases entry : f.entryAt? (base ++ [name]) with - | ⟨- | i | target⟩ <;>
              rw [entry] at walked <;> dsimp only at walked ⊢
            · exact .inl walked
            · exact walk_unfollowed rest _ walked
            · exact .inl walked
            · rw [if_neg (by simp)] at walked
              by_cases last : rest = []
              · rw [if_pos (by simp [last])]
                exact .inr ⟨_, target, rfl, entry⟩
              · rw [if_neg (by simp [last])]
                exact .inl walked

theorem follow_unfollowed {l : Location} (present : f.entryAt? l ≠ none) :
    ∀ (links : Nat) (names : List String) (base : Location),
      f.follow true links base names = .ok l →
        ∃ l', f.follow false links base names = .ok l' ∧ f.entryAt? l' ≠ none := by
  intro links
  induction links with
  | zero =>
      intro names base followed
      rw [FileSystem.follow] at followed
      rcases walked : f.walk true base names with cause | ⟨l' | ⟨base', target, rest⟩⟩ <;>
        rw [walked] at followed <;> cases followed
      rcases walk_unfollowed names base walked with same | ⟨l', target, arrived, link⟩
      · exact ⟨l, follow_arrived same 0, present⟩
      · exact ⟨l', follow_arrived arrived 0, by simp [link]⟩
  | succ links ih =>
      intro names base followed
      rw [FileSystem.follow] at followed
      rcases walked : f.walk true base names with cause | stop
      · rw [walked] at followed
        cases followed
      · rcases walk_unfollowed names base walked with same | ⟨l', target, arrived, link⟩
        · rw [walked] at followed
          rw [FileSystem.follow, same]
          rcases stop with l' | ⟨base', target, rest⟩
          · cases followed
            exact ⟨l, rfl, present⟩
          · exact ih _ _ followed
        · exact ⟨l', follow_arrived arrived _, by simp [link]⟩

variable {p : Path}

theorem status_located {l : Location} {e : Entry} (located : f.locate p = .ok l)
    (entry : f.entryAt? l = some e) : f.status p = .ok e := by
  rw [FileSystem.status, located]
  dsimp only
  rw [entry]

/-- A directory that is there is left as it is. -/
theorem makeParents_there {l : Location} (located : f.locate p = .ok l)
    (directory : f.entryAt? l = some .directory) (n : Nat) : f.makeParents p n = .ok f := by
  obtain ⟨l', located', present⟩ :=
    follow_unfollowed (by simp [directory]) maxLinks p.names (f.start p) located
  have refused : f.makeDirectory p = .error ⟨.exists, p⟩ := by
    rw [FileSystem.makeDirectory, FileSystem.locateEntry, located']
    dsimp only
    obtain ⟨e, entry⟩ := Option.ne_none_iff_exists'.mp present
    rw [entry]
  have passes : f.orPresent p ⟨.exists, p⟩ = .ok f := by
    rw [FileSystem.orPresent, FileSystem.isDirectory, status_located located directory]
    rfl
  cases n <;> simp only [FileSystem.makeParents, refused] <;> exact passes

end Entries

/-! ## Directories -/

section Directories

variable {p : Path}

/-- The path leads on from where its first names lead to. -/
theorem follow_onward {followLast : Bool} (ending : Except Cause Location)
    (split : p.names = above ++ names)
    (followed : f.follow true maxLinks (f.start p) above = .ok base)
    (directory : f.entryAt? base = some .directory) (more : names ≠ [] ∨ followLast = true)
    (on : f.walk followLast base names = ending.map .arrived) :
    f.follow followLast maxLinks (f.start p) p.names = ending := by
  rw [split]
  exact follow_append directory more ending on _ _ _ followed

theorem locate_paved (split : p.names = above ++ names)
    (followed : f.follow true maxLinks (f.start p) above = .ok base)
    (named : ∀ name ∈ names, nameFault? name = none) (paved : f.Paved base names) :
    f.locate p = .ok (Path.along base names) := by
  have walked : f.walk true base (names ++ []) = f.walk true (Path.along base names) [] :=
    walk_paved named paved
  rw [List.append_nil] at walked
  exact follow_onward (.ok _) split followed (paved_base paved) (.inr rfl) walked

/-- Where only the last directory is missing, it is made. -/
theorem makeDirectory_paved (split : p.names = above ++ (names ++ [name]))
    (followed : f.follow true maxLinks (f.start p) above = .ok base)
    (named : ∀ other ∈ names ++ [name], nameFault? other = none) (paved : f.Paved base names)
    (missing : f.entryAt? (Path.along base (names ++ [name])) = none) :
    f.makeDirectory p = .ok (f.putEntry (Path.along base (names ++ [name])) .directory) := by
  rw [along_append] at missing ⊢
  have walked : f.walk false base (names ++ [name])
      = .ok (.arrived (Path.along (Path.along base names) [name])) := by
    rw [walk_paved (fun other listed => named other (List.mem_append_left _ listed)) paved]
    exact walk_single (named name (by simp)) (by simp [missing])
  have located : f.locateEntry p = .ok (Path.along (Path.along base names) [name]) :=
    follow_onward (.ok _) split followed (paved_base paved) (.inl (by simp)) walked
  rw [FileSystem.makeDirectory, located]
  dsimp only
  rw [missing]

theorem paved_putEntry (paved : f.Paved base names) :
    (f.putEntry (Path.along base (names ++ [name])) .directory).Paved base (names ++ [name]) := by
  rw [paved_concat]
  constructor
  · intro above leading
    rw [entryAt_putEntry]
    split
    · rfl
    · exact paved above leading
  · rw [entryAt_putEntry, if_pos rfl]

/-- What making the directories of a path comes to: they are there, and nothing has changed
elsewhere. -/
def FileSystem.PavedBy (f : FileSystem) (base : Location) (names : List String)
    (g : FileSystem) : Prop :=
  g.Paved base names ∧
    ∀ l, (∀ above, above <+: names → Path.along base above ≠ l) → g.entryAt? l = f.entryAt? l

theorem pavedBy_refl (paved : f.Paved base names) : f.PavedBy base names f :=
  ⟨paved, fun _ _ => rfl⟩

theorem pavedBy_trans (first : f.PavedBy base names g)
    (second : g.PavedBy base (names ++ [name]) h) : f.PavedBy base (names ++ [name]) h := by
  refine ⟨second.1, fun l apart => (second.2 l apart).trans (first.2 l ?_)⟩
  exact fun above leading => apart above (leading.trans (List.prefix_append _ _))

/-- The last directory is there or can be made, when those above it are there. -/
theorem makeParents_last (n : Nat) (split : p.names = above ++ (names ++ [name]))
    (followed : f.follow true maxLinks (f.start p) above = .ok base)
    (named : ∀ other ∈ names ++ [name], nameFault? other = none) (paved : f.Paved base names)
    (free : f.entryAt? (Path.along base (names ++ [name])) = none ∨
      f.entryAt? (Path.along base (names ++ [name])) = some .directory) :
    ∃ g, f.makeParents p n = .ok g ∧ f.PavedBy base (names ++ [name]) g := by
  rcases free with missing | directory
  · have made := makeDirectory_paved split followed named paved missing
    refine ⟨_, ?_, paved_putEntry paved, fun l apart => ?_⟩
    · cases n <;> rw [FileSystem.makeParents, made]
    · rw [entryAt_putEntry, if_neg (apart _ List.prefix_rfl)]
  · have whole : f.Paved base (names ++ [name]) := paved_concat.mpr ⟨paved, directory⟩
    have located := locate_paved split followed named whole
    exact ⟨f, makeParents_there located directory n, pavedBy_refl whole⟩

/-- Where directories may be made, a place that nothing blocks is still free for one. -/
theorem passable_grows (grows : f.Grows g) (passable : f.Passable base names) :
    g.entryAt? (Path.along base names) = none ∨
      g.entryAt? (Path.along base names) = some .directory := by
  rw [← seen_none, ← seen_directory]
  rcases grows.seen (Path.along base names) with kept | ⟨-, made⟩
  · rw [kept, seen_none, seen_directory]
    exact passable.free names List.prefix_rfl
  · exact .inr made

/-- Directories that nothing blocks can be made, the outermost first.  The induction is on their
number: when those above the last one are made, only the last may be missing. -/
theorem makeParents_passable (formed : f.Formed) (n : Nat) {p : Path} (names : List String)
    (short : names.length ≤ n) (split : p.names = above ++ names)
    (followed : f.follow true maxLinks (f.start p) above = .ok base)
    (passable : f.Passable base names) :
    ∃ g, f.makeParents p n = .ok g ∧ f.PavedBy base names g := by
  by_cases paved : f.Paved base names
  · have located := locate_paved split followed passable.named paved
    exact ⟨f, makeParents_there located (paved _ List.prefix_rfl) n, pavedBy_refl paved⟩
  rcases List.eq_nil_or_concat names with rfl | ⟨up, name, rfl⟩
  · exact absurd (paved_nil passable.directory) paved
  rw [List.concat_eq_append] at *
  by_cases nearly : f.Paved base up
  · exact makeParents_last n split followed passable.named nearly (passable.free _ List.prefix_rfl)
  -- more than the last is missing, so that the directories above come first
  have walked : f.walk false base (up ++ [name]) = .error .notFound :=
    walk_unpaved formed (passable_init passable) nearly (by simp)
  have lost : f.locateEntry p = .error .notFound :=
    follow_onward (.error _) split followed passable.directory (.inl (by simp)) walked
  have refused : f.makeDirectory p = .error ⟨.notFound, p⟩ := by
    rw [FileSystem.makeDirectory, lost]
  have upward : p.parent.names = above ++ up := by
    rw [Path.parent, split, ← List.append_assoc, List.dropLast_concat]
  have other : p.parent ≠ p := by
    intro same
    have lengths := congrArg (fun q => q.names.length) same
    simp [upward, split] at lengths
  cases n with
  | zero => simp at short
  | succ n =>
      obtain ⟨g, made, first⟩ := makeParents_passable formed n up (by simpa using short) upward
        followed (passable_init passable)
      have grows := makeParents_grows _ made
      have keeps : f.Keeps g := grows_keeps (makeParents_formed _ formed made) grows
      have followed' : g.follow true maxLinks (g.start p) above = .ok base := by
        rw [start_keeps keeps]
        exact follow_keeps keeps (by simp [passable.directory]) _ _ _ followed
      obtain ⟨h, made', second⟩ := makeParents_last 0 split followed' passable.named first.1
        (passable_grows grows passable)
      refine ⟨h, ?_, pavedBy_trans first second⟩
      rw [FileSystem.makeParents, refused]
      dsimp only
      rw [if_pos rfl, if_neg other, made]
      exact made'

end Directories

/-! ## Files -/

section Files

variable {p : Path} {up : List String}

theorem follow_opens (split : p.names = above ++ (up ++ [name]))
    (followed : f.follow true maxLinks (f.start p) above = .ok base)
    (named : ∀ other ∈ up, nameFault? other = none) (paved : f.Paved base up)
    (valid : nameFault? name = none) (down : name ≠ "..") {followLast : Bool}
    (unlinked : ∀ target, f.entryAt? (Path.along base up ++ [name]) ≠ some (.link target)) :
    f.follow followLast maxLinks (f.start p) p.names = .ok (Path.along base up ++ [name]) := by
  have walked : f.walk followLast base (up ++ [name])
      = .ok (.arrived (Path.along base up ++ [name])) := by
    rw [walk_paved named paved]
    exact walk_last unlinked down valid
  exact follow_onward (.ok _) split followed (paved_base paved) (.inl (by simp)) walked

/-- A file can be stored where nothing is in its way, and read again. -/
theorem replaceFile_admitted (formed : f.Formed) (admits : f.Admits p) (bytes : ByteArray) :
    ∃ g, f.replaceFile p bytes = .ok g ∧ g.readFile p = .ok bytes := by
  obtain ⟨above, base, up, name, split, followed, opens⟩ := admits
  have upward : p.parent.names = above ++ up := by
    rw [Path.parent, split, ← List.append_assoc, List.dropLast_concat]
  have last : p.name = name := by simp [Path.name, split]
  obtain ⟨dirs, made, paved, elsewhere⟩ := makeParents_passable formed p.parent.names.length up
    (by simp [upward]) upward followed opens.passable
  have keeps : f.Keeps dirs :=
    grows_keeps (makeParents_formed _ formed made) (makeParents_grows _ made)
  have followed' : dirs.follow true maxLinks (dirs.start p) above = .ok base := by
    rw [start_keeps keeps]
    exact follow_keeps keeps (by simp [opens.passable.directory]) _ _ _ followed
  have free : dirs.entryAt? (Path.along base up ++ [name]) = none ∨
      ∃ i, dirs.entryAt? (Path.along base up ++ [name]) = some (.file i) := by
    rw [elsewhere _ opens.apart]
    exact opens.free
  have located : dirs.locateEntry p = .ok (Path.along base up ++ [name]) := by
    refine follow_opens split followed' opens.passable.named paved opens.named opens.down ?_
    rcases free with missing | ⟨i, file⟩ <;> simp [*]
  refine ⟨dirs.putFile (Path.along base up ++ [name]) bytes, ?_, readFile_putFile located free⟩
  rw [FileSystem.replaceFile, FileSystem.makeDirectories, made, last]
  simp only [bind, Except.bind]
  rw [if_neg (Nat.not_lt.mpr opens.short), located]
  rcases free with missing | ⟨i, file⟩ <;> simp only [*] <;> rfl

/-- Where nothing is in the way of a file there is one that can be read, or nothing. -/
theorem pathExists_admitted (formed : f.Formed) (admits : f.Admits p) :
    f.pathExists p = .ok false ∨
      f.pathExists p = .ok true ∧ ∃ bytes, f.readFile p = .ok bytes := by
  obtain ⟨above, base, up, name, split, followed, opens⟩ := admits
  by_cases paved : f.Paved base up
  · have located : f.locate p = .ok (Path.along base up ++ [name]) := by
      refine follow_opens split followed opens.passable.named paved opens.named opens.down ?_
      rcases opens.free with missing | ⟨i, file⟩ <;> simp [*]
    rcases opens.free with missing | ⟨i, file⟩
    · left
      rw [FileSystem.pathExists, FileSystem.status, located]
      dsimp only
      rw [missing]
      rfl
    · right
      have shown := status_located located file
      rw [FileSystem.pathExists, FileSystem.readFile, shown]
      exact ⟨rfl, _, rfl⟩
  · left
    have walked : f.walk true base (up ++ [name]) = .error .notFound :=
      walk_unpaved formed opens.passable paved (by simp)
    have lost : f.locate p = .error .notFound :=
      follow_onward (.error _) split followed opens.passable.directory (.inr rfl) walked
    rw [FileSystem.pathExists, FileSystem.status, lost]
    rfl

/-- In the way of a path that does not go up are only entries above its place and at it. -/
theorem admits_straight (formed : f.Formed) (split : p.names = up ++ [name])
    (straight : p.Straight) (named : ∀ other ∈ p.names, nameFault? other = none)
    (short : name.utf8ByteSize + FileSystem.temporaryNameBytes ≤ FileSystem.maxNameBytes)
    (passable : ∀ above, above <+: up → f.entryAt? (f.start p ++ above) = none ∨
      f.entryAt? (f.start p ++ above) = some .directory)
    (free : f.entryAt? (f.placeOf p) = none ∨ ∃ i, f.entryAt? (f.placeOf p) = some (.file i)) :
    f.Admits p := by
  rw [Path.Straight, split, List.mem_append, List.mem_singleton, not_or] at straight
  rw [FileSystem.placeOf, split, ← List.append_assoc] at free
  rw [split] at named
  have place (above : List String) (leading : above <+: up) :
      Path.along (f.start p) above = f.start p ++ above :=
    along_down fun listed => straight.1 (leading.subset listed)
  have whole := place up List.prefix_rfl
  refine ⟨[], f.start p, up, name, split, rfl, ?_⟩
  exact
    { passable :=
        { directory := start_directory formed p
          named := fun other listed => named other (List.mem_append_left _ listed)
          free := fun above leading => by
            rw [place above leading]
            exact passable above leading }
      named := named name (by simp)
      short := short
      down := Ne.symm straight.2
      free := by rwa [whole]
      apart := fun above leading same => by
        rw [place above leading, whole, List.append_assoc] at same
        have lengths := leading.length_le
        rw [List.append_cancel_left same, List.length_append] at lengths
        exact absurd lengths (by simp) }

/-- In the beginning nothing is in the way of a path that does not go up. -/
theorem empty_admits (split : p.names = up ++ [name]) (straight : p.Straight)
    (named : ∀ other ∈ p.names, nameFault? other = none)
    (short : name.utf8ByteSize + FileSystem.temporaryNameBytes ≤ FileSystem.maxNameBytes) :
    (FileSystem.empty []).Admits p := by
  have entry (l : Location) :
      (FileSystem.empty []).entryAt? l = if [] = l then some .directory else none := rfl
  apply admits_straight empty_plain.toFormed split straight named short
  · intro above leading
    rw [entry]
    split
    · exact .inr rfl
    · exact .inl rfl
  · left
    rw [entry, if_neg (by simp [FileSystem.placeOf, split])]

end Files

end MavenImport
