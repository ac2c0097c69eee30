/-
# Proofs.LocatedDirectories -- directories that paths lead to

A path can be followed to its end only if those above it can be (`follow_split`).  So what can be
read below a path shows that the path itself leads to a directory.  If there are no links below
that directory (`FileSystem.Rooted`), every entry below it is where its names spell, and the path
leads there (`rooted_present`).

As long as directories and links stay (`FileSystem.Upholds`), such a path leads to the same
directory, whatever files come and go.
-/
import MavenImport.Proofs.ResolvedPlaces

namespace MavenImport

open FileSystem (nameFault? Stop maxLinks)

set_option autoImplicit false

namespace FileSystem

/-- Directories and links are what they were. -/
structure Upholds (f g : FileSystem) : Prop extends f.Linked g where
  directory : ∀ l, f.entryAt? l = some .directory → g.entryAt? l = some .directory

/-- A path leads to a directory, and there are no links below it. -/
structure Rooted (f : FileSystem) (p : Path) : Prop where
  located : f.locate p = .ok (f.resolve p)
  directory : f.entryAt? (f.resolve p) = some .directory
  bare : f.Bare (f.resolve p)

end FileSystem

variable {f g h : FileSystem} {p : Path} {names : List String}

/-! ## The parts of a path -/

/-- A walk along two lists of names ends with the second where the first has led, or at a link in
the first. -/
theorem walk_split (formed : f.Formed) {followLast : Bool} {more : List String} (last : more ≠ [])
    {stop : Stop} : ∀ (names : List String) (base : Location),
      f.entryAt? base = some .directory → f.walk followLast base (names ++ more) = .ok stop →
      (∃ base', f.walk true base names = .ok (.arrived base') ∧
        f.entryAt? base' = some .directory ∧ f.walk followLast base' more = .ok stop) ∨
      ∃ base' target rest, f.walk true base names = .ok (.atLink base' target rest) ∧
        f.entryAt? base' = some .directory ∧ stop = .atLink base' target (rest ++ more)
  | [], base, directory, walked => .inl ⟨base, rfl, directory, walked⟩
  | name :: rest, base, directory, walked => by
      rw [List.cons_append, FileSystem.walk] at walked
      rw [FileSystem.walk]
      by_cases up : name = ".."
      · rw [if_pos up] at walked ⊢
        exact walk_split formed last rest _ (directory_dropLast formed directory) walked
      · rw [if_neg up] at walked ⊢
        have unfinished : rest ++ more ≠ [] := by simp [last]
        cases valid : nameFault? name with
        | some cause => rw [valid] at walked; cases walked
        | none =>
            rw [valid] at walked
            dsimp only at walked ⊢
            rcases entry : f.entryAt? (base ++ [name]) with - | ⟨- | i | target⟩ <;>
              rw [entry] at walked <;> dsimp only at walked ⊢
            · rw [if_neg unfinished] at walked
              cases walked
            · exact walk_split formed last rest _ entry walked
            · rw [if_neg unfinished] at walked
              cases walked
            · rw [if_neg fun ended => unfinished ended.1] at walked
              cases walked
              exact .inr ⟨base, target, rest, by rw [if_neg (by simp)], directory, rfl⟩

/-- A path can be followed only if those above it can be. -/
theorem follow_split (formed : f.Formed) {followLast : Bool} {more : List String} (last : more ≠ [])
    {l : Location} : ∀ (links : Nat) (names : List String) (base : Location),
      f.entryAt? base = some .directory →
      f.follow followLast links base (names ++ more) = .ok l →
      ∃ base' fewer, f.follow true links base names = .ok base' ∧
        f.entryAt? base' = some .directory ∧ f.follow followLast fewer base' more = .ok l := by
  intro links
  induction links with
  | zero =>
      intro names base directory followed
      rw [FileSystem.follow] at followed
      rcases walked : f.walk followLast base (names ++ more) with
        cause | ⟨l' | ⟨base', target, rest⟩⟩ <;> rw [walked] at followed <;> cases followed
      rcases walk_split formed last names base directory walked with
        ⟨base', first, there, second⟩ | ⟨_, _, _, -, -, never⟩
      · exact ⟨base', 0, follow_arrived first 0, there, follow_arrived second 0⟩
      · cases never
  | succ n ih =>
      intro names base directory followed
      rw [FileSystem.follow] at followed
      rcases walked : f.walk followLast base (names ++ more) with cause | stop
      · rw [walked] at followed
        cases followed
      · rcases walk_split formed last names base directory walked with
          ⟨base', first, there, second⟩ | ⟨base', target, rest, first, there, rfl⟩
        · refine ⟨base', n + 1, follow_arrived first _, there, ?_⟩
          rw [walked] at followed
          rw [FileSystem.follow, second]
          exact followed
        · rw [walked] at followed
          dsimp only at followed
          rw [← List.append_assoc] at followed
          have start : f.entryAt? (if (Path.ofString target).anchor = .here then base' else [])
              = some .directory := by
            split
            · exact there
            · exact formed.root
          obtain ⟨base'', fewer, first', there', second⟩ := ih _ _ start followed
          refine ⟨base'', fewer, ?_, there', second⟩
          rw [FileSystem.follow, first]
          exact first'

/-- Below a place without links, names that go down lead down. -/
theorem resolveFrom_below {more : List String} (down : ".." ∉ more) (links : Nat)
    (names : List String) (base : Location) (bare : f.Bare (f.resolveFrom links base names)) :
    f.resolveFrom links base (names ++ more) = f.resolveFrom links base names ++ more := by
  induction links, base, names using FileSystem.resolveFrom.induct f with
  | case1 links base =>
      rw [FileSystem.resolveFrom] at bare ⊢
      exact resolveFrom_unlinked links more base down fun above _ => bare above
  | case2 links base rest ih =>
      rw [List.cons_append]
      rw [resolveFrom_up] at bare ⊢
      rw [resolveFrom_up]
      exact ih bare
  | case3 base name rest up l target entry ih =>
      rw [List.cons_append]
      rw [resolveFrom_spent up] at bare ⊢
      rw [resolveFrom_spent up]
      exact ih bare
  | case4 base name rest up l target entry n p ih =>
      rw [List.cons_append]
      rw [resolveFrom_link up entry] at bare ⊢
      rw [resolveFrom_link up entry, ← List.append_assoc]
      exact ih bare
  | case5 links base name rest up l solid ih =>
      rw [List.cons_append]
      rw [resolveFrom_step up solid] at bare ⊢
      rw [resolveFrom_step up solid]
      exact ih bare

theorem resolve_below {p : Path} (bare : f.Bare (f.resolve p)) {more : List String}
    (down : ".." ∉ more) : f.resolve ⟨p.anchor, p.names ++ more⟩ = f.resolve p ++ more :=
  resolveFrom_below down _ _ _ bare

/-! ## Directories that stay -/

theorem upholds_refl (f : FileSystem) : f.Upholds f := ⟨linked_refl f, fun _ => id⟩

theorem upholds_trans (first : f.Upholds g) (second : g.Upholds h) : f.Upholds h :=
  ⟨linked_trans first.toLinked second.toLinked, fun l => second.directory l ∘ first.directory l⟩

theorem grows_upholds (grows : f.Grows g) : f.Upholds g where
  toLinked := grows_linked grows
  directory l found := by
    rw [← seen_directory] at found ⊢
    rcases grows.seen l with same | ⟨-, directory⟩
    · rw [same, found]
    · exact directory

/-- Entries that are no directories and no links may come and go. -/
theorem upholds_except {l : Location} (here : g.here = f.here)
    (entry : ∀ l', l' ≠ l → g.entryAt? l' = f.entryAt? l')
    (before : f.entryAt? l = none ∨ ∃ i, f.entryAt? l = some (.file i))
    (after : g.entryAt? l = none ∨ ∃ i, g.entryAt? l = some (.file i)) : f.Upholds g where
  here := here
  link l' target := by
    by_cases same : l' = l
    · subst same
      rcases before with none | ⟨i, file⟩ <;> rcases after with none' | ⟨j, file'⟩ <;> simp [*]
    · rw [entry l' same]
  directory l' found := by
    by_cases same : l' = l
    · subst same
      rcases before with none | ⟨i, file⟩ <;> simp [*] at found
    · rw [entry l' same, found]

theorem upholds_retains (upholds : f.Upholds g) : f.Retains g :=
  ⟨upholds.here, upholds.directory, fun l target => (upholds.link l target).mpr⟩

/-! ## Directories that are made -/

/-- A name that is not to be followed further is where a walk along it ends. -/
theorem walk_entry {base : Location} {name : String} {stop : Stop} (down : name ≠ "..")
    (walked : f.walk false base [name] = .ok stop) :
    nameFault? name = none ∧ stop = .arrived (base ++ [name]) := by
  rw [FileSystem.walk, if_neg down] at walked
  cases valid : nameFault? name with
  | some cause => rw [valid] at walked; cases walked
  | none =>
      rw [valid] at walked
      dsimp only at walked
      rcases entry : f.entryAt? (base ++ [name]) with - | ⟨- | i | target⟩ <;>
        rw [entry] at walked <;> cases walked <;> exact ⟨rfl, rfl⟩

/-- A path leads to the directory that was made for it. -/
theorem makeDirectory_located (formed : f.Formed) (made : f.makeDirectory p = .ok g) :
    g.locate p = .ok (f.resolve p) := by
  have upholds := grows_upholds (makeDirectory_grows made)
  obtain ⟨located, absent, put⟩ := makeDirectory_ok made
  have missing : f.entryAt? (f.resolve p) ≠ some .directory := by simp [absent]
  have start := start_directory formed p
  unfold FileSystem.locateEntry at located
  rcases List.eq_nil_or_concat p.names with top | ⟨above, name, split⟩
  · -- where following starts there is a directory
    rw [top, follow_arrived rfl] at located
    exact absurd (Except.ok.inj located ▸ start) missing
  · rw [List.concat_eq_append] at split
    rw [split] at located
    obtain ⟨base, fewer, followed, directory, onward⟩ :=
      follow_split formed (by simp) _ _ _ start located
    by_cases up : name = ".."
    · -- and so there is above a directory
      subst up
      have walked : f.walk false base [".."] = .ok (.arrived base.dropLast) := by
        rw [FileSystem.walk, if_pos rfl, FileSystem.walk]
      rw [follow_arrived walked] at onward
      exact absurd (Except.ok.inj onward ▸ directory_dropLast formed directory) missing
    · cases walked : f.walk false base [name] with
      | error cause =>
          rw [follow_error walked] at onward
          cases onward
      | ok stop =>
          obtain ⟨valid, rfl⟩ := walk_entry up walked
          rw [follow_arrived walked] at onward
          have place := Except.ok.inj onward
          have there : g.entryAt? (base ++ [name]) = some .directory := by
            rw [put, entryAt_putEntry, if_pos place.symm]
          rw [FileSystem.locate, FileSystem.start, upholds.here, split, ← place]
          exact follow_append (upholds.directory _ directory) (.inr rfl) (.ok _)
            (walk_last (by simp [there]) up valid) _ _ _
            (follow_retains (upholds_retains upholds) (stands_directory directory) _ _ _ followed)

/-- The last attempt at a directory comes after those above it were made. -/
theorem makeParents_ends (n : Nat) (made : f.makeParents p n = .ok g) :
    ∃ dirs, f.Upholds dirs ∧ (f.Formed → dirs.Formed) ∧ dirs.makeParents p 0 = .ok g := by
  cases n with
  | zero => exact ⟨f, upholds_refl f, id, made⟩
  | succ n =>
      rcases makeParents_succ made with last | ⟨dirs, above, last⟩
      · exact ⟨f, upholds_refl f, id, last⟩
      · exact ⟨dirs, grows_upholds (makeParents_grows n above),
          fun formed => makeParents_formed n formed above, last⟩

/-- A path leads to the directory that was made for it, with those above it. -/
theorem makeDirectories_located (formed : f.Formed) (made : f.makeDirectories p = .ok g) :
    g.locate p = .ok (f.resolve p) := by
  obtain ⟨dirs, upholds, formed', last⟩ := makeParents_ends _ made
  rw [← resolve_linked upholds.toLinked]
  rw [FileSystem.makeParents] at last
  split at last
  · next first =>
      cases last
      exact makeDirectory_located (formed' formed) first
  · split at last
    · cases last
    · obtain ⟨rfl, located, -⟩ := orPresent_there last
      exact located

/-! ## Below a directory -/

/-- A path along which something can be reached leads to a directory. -/
theorem rooted_of_followed (formed : f.Formed) (bare : f.Bare (f.resolve p)) (more : names ≠ [])
    {followLast : Bool} {l : Location}
    (followed : f.follow followLast maxLinks (f.start p) (p.names ++ names) = .ok l) :
    f.Rooted p := by
  obtain ⟨base, fewer, located, directory, -⟩ :=
    follow_split formed more _ _ _ (start_directory formed p) followed
  have place : f.resolve p = base := resolve_located located (by simp [directory])
  exact ⟨place ▸ located, place ▸ directory, bare⟩

theorem rooted_upholds (upholds : f.Upholds g) (rooted : f.Rooted p) : g.Rooted p := by
  have place := resolve_linked upholds.toLinked p
  exact
    { located := place ▸ locate_retains (upholds_retains upholds) rooted.directory rooted.located
      directory := place ▸ upholds.directory _ rooted.directory
      bare := place ▸ bare_linked upholds.toLinked rooted.bare }

section Rooted

variable (rooted : f.Rooted p)
include rooted

theorem rooted_direct (down : ".." ∉ names) : f.Direct (f.resolve p) names :=
  ⟨rooted.directory, down, fun above _ => rooted.bare above⟩

theorem rooted_follow {followLast : Bool} (ending : Except Files.Cause Location)
    (more : names ≠ [] ∨ followLast = true)
    (on : f.walk followLast (f.resolve p) names = ending.map .arrived) :
    f.follow followLast maxLinks (f.start p) (p.names ++ names) = ending :=
  follow_append rooted.directory more ending on _ _ _ rooted.located

/-- What can be reached is where the names spell. -/
theorem rooted_followed {followLast : Bool} (more : names ≠ [] ∨ followLast = true)
    (down : ".." ∉ names) {l : Location}
    (followed : f.follow followLast maxLinks (f.start p) (p.names ++ names) = .ok l) :
    l = f.resolve p ++ names := by
  cases walked : f.walk followLast (f.resolve p) names with
  | error cause =>
      rw [rooted_follow rooted (.error cause) more walked] at followed
      cases followed
  | ok stop =>
      obtain ⟨rfl, -⟩ := walk_arrived _ _ (rooted_direct rooted down) walked
      rw [rooted_follow rooted (.ok _) more walked] at followed
      exact (Except.ok.inj followed).symm

variable (formed : f.Formed) (down : ".." ∉ names)
include formed down

/-- What is there can be reached. -/
theorem rooted_present {followLast : Bool} (more : names ≠ [] ∨ followLast = true)
    (present : f.entryAt? (f.resolve p ++ names) ≠ none) :
    f.follow followLast maxLinks (f.start p) (p.names ++ names) = .ok (f.resolve p ++ names) :=
  rooted_follow rooted (.ok _) more (walk_present formed (rooted_direct rooted down) present)

theorem rooted_status {e : Entry} (entry : f.entryAt? (f.resolve p ++ names) = some e) :
    f.status ⟨p.anchor, p.names ++ names⟩ = .ok e :=
  status_located (rooted_present rooted formed down (.inr rfl) (by simp [entry])) entry

theorem rooted_readFile {i : Nat} (file : f.entryAt? (f.resolve p ++ names) = some (.file i)) :
    f.readFile ⟨p.anchor, p.names ++ names⟩ = .ok (f.content i) := by
  rw [FileSystem.readFile, rooted_status rooted formed down file]

theorem rooted_pathExists (present : f.entryAt? (f.resolve p ++ names) ≠ none) :
    f.pathExists ⟨p.anchor, p.names ++ names⟩ = .ok true := by
  obtain ⟨e, entry⟩ := Option.ne_none_iff_exists'.mp present
  rw [FileSystem.pathExists, rooted_status rooted formed down entry]

end Rooted

/-- In a directory there is room for an entry. -/
theorem rooted_free (rooted : f.Rooted p) (formed : f.Formed) {above : List String} {name : String}
    (down : ".." ∉ above ++ [name]) (directory : f.entryAt? (f.resolve p ++ above) = some .directory)
    (valid : nameFault? name = none) {followLast : Bool} :
    f.follow followLast maxLinks (f.start p) (p.names ++ (above ++ [name]))
      = .ok (f.resolve p ++ (above ++ [name])) := by
  simp only [List.mem_append, List.mem_singleton, not_or] at down
  refine rooted_follow rooted (.ok _) (.inl (by simp)) ?_
  rw [walk_through formed above _ down.1 directory,
    walk_last (by rw [List.append_assoc]; exact rooted.bare _) (Ne.symm down.2) valid,
    List.append_assoc]
  rfl

/-- A file that can be read below a path is where the names spell, and the path leads to a
directory. -/
theorem readFile_below (formed : f.Formed) (bare : f.Bare (f.resolve p)) (more : names ≠ [])
    (down : ".." ∉ names) {bytes : ByteArray}
    (read : f.readFile ⟨p.anchor, p.names ++ names⟩ = .ok bytes) :
    f.Rooted p ∧ ∃ i, f.entryAt? (f.resolve p ++ names) = some (.file i) ∧ f.content i = bytes := by
  unfold FileSystem.readFile at read
  split at read
  · cases read
  · cases read
  · next i shown =>
      cases read
      obtain ⟨located, entry⟩ := status_resolved shown (by simp)
      rw [resolve_below bare down] at located entry
      exact ⟨rooted_of_followed formed bare more located, i, entry, rfl⟩
  · cases read

end MavenImport
