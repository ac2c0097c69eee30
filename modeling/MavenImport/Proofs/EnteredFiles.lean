/-
# Proofs.EnteredFiles -- files that are entered below a directory

A file comes to be below a directory in two ways: it is written there (`replaceFile_enters`), or
it is linked to there from below another directory (`linkFile_enters`).  Either way there are
directories on the way to it then, and no other entry is new or other than it was
(`FileSystem.Enters`).

A link is always made by a second name for the file.  The file to be linked is there, what stood in
the place of the link is cleared away, and so nothing is left that a second name could fail for.
-/
import MavenImport.Proofs.LocatedDirectories
import MavenImport.Proofs.WriteOnce

namespace MavenImport

open FileSystem (nameFault? maxLinks)
open MavenImport.Action (perform_bind_ok perform_change_ok perform_inspect_ok)

set_option autoImplicit false

namespace FileSystem

/-- There is a file below the place of a path, under some names. -/
def Shows (f : FileSystem) (p : Path) (names : List String) (i : Nat) : Prop :=
  f.entryAt? (f.resolve p ++ names) = some (.file i)

/-- A directory is new, and it is on the way to the place of a path or below it. -/
def NewDirectory (f : FileSystem) (p : Path) (g : FileSystem) (l : Location) : Prop :=
  f.entryAt? l = none ∧ g.entryAt? l = some .directory ∧ (f.OnTheWay p l ∨ f.resolve p <+: l)

/-- The directories that names below a path need are there. -/
structure Prepares (f : FileSystem) (p : Path) (names : List String) (g : FileSystem) : Prop where
  formed : g.Formed
  rooted : g.Rooted p
  upholds : f.Upholds g
  there : g.entryAt? (f.resolve p ++ names) = some .directory
  entries : ∀ l, g.entryAt? l = f.entryAt? l ∨ f.NewDirectory p g l

/-- A file has names below a path, under which there was none before or another one.  Nothing else
is new but directories. -/
structure Enters (f : FileSystem) (p : Path) (names : List String) (i : Nat) (g : FileSystem) :
    Prop where
  formed : g.Formed
  rooted : g.Rooted p
  upholds : f.Upholds g
  spares : f.Spares g
  entry : g.entryAt? (f.resolve p ++ names) = some (.file i)
  elsewhere : ∀ l, l ≠ f.resolve p ++ names →
    g.entryAt? l = f.entryAt? l ∨ f.NewDirectory p g l

end FileSystem

variable {f g h : FileSystem} {p q : Path} {names above : List String} {name : String}

/-! ## Directories -/

/-- The way to a path is the same while links stay. -/
theorem onTheWay_linked (linked : f.Linked g) {l : Location} :
    g.OnTheWay p l ↔ f.OnTheWay p l := by
  simp only [FileSystem.OnTheWay, resolve_linked linked]

theorem entries_trans (linked : f.Linked g) {l : Location}
    (first : g.entryAt? l = f.entryAt? l ∨ f.NewDirectory p g l)
    (second : h.entryAt? l = g.entryAt? l ∨ g.NewDirectory p h l) :
    h.entryAt? l = f.entryAt? l ∨ f.NewDirectory p h l := by
  rcases second with same | ⟨absent, directory, place⟩
  · unfold FileSystem.NewDirectory at first ⊢
    rwa [same]
  · rw [onTheWay_linked linked, resolve_linked linked] at place
    rcases first with same | ⟨-, there, -⟩
    · exact .inr ⟨same ▸ absent, directory, place⟩
    · rw [there] at absent
      cases absent

theorem onTheWay_below (bare : f.Bare (f.resolve p)) (down : ".." ∉ names) {l : Location}
    (onTheWay : f.OnTheWay ⟨p.anchor, p.names ++ names⟩ l) :
    f.OnTheWay p l ∨ f.resolve p <+: l := by
  obtain ⟨leading, isPrefix, rfl⟩ := onTheWay
  rcases List.prefix_or_prefix_of_prefix isPrefix (List.prefix_append p.names names) with
    within | ⟨more, rfl⟩
  · exact .inl ⟨leading, within, rfl⟩
  · have further : ".." ∉ more := fun up =>
      down (((List.prefix_append_right_inj _).mp isPrefix).subset up)
    exact .inr ⟨more, (resolve_below bare further).symm⟩

theorem makeDirectories_prepares (formed : f.Formed) (bare : f.Bare (f.resolve p))
    (down : ".." ∉ names)
    (made : f.makeDirectories ⟨p.anchor, p.names ++ names⟩ = .ok g) : f.Prepares p names g := by
  have upholds := grows_upholds (makeDirectories_grows made)
  have formed' : g.Formed := makeParents_formed _ formed made
  have root := resolve_linked upholds.toLinked p
  have bare' : g.Bare (g.resolve p) := root ▸ bare_linked upholds.toLinked bare
  have place := resolve_below bare down
  have located := makeDirectories_located formed made
  refine ⟨formed', ?_, upholds, place ▸ makeDirectories_there made, fun l => ?_⟩
  · by_cases whole : names = []
    · subst whole
      have there := makeDirectories_there made
      rw [List.append_nil] at located there
      exact ⟨root ▸ located, root ▸ there, bare'⟩
    · exact rooted_of_followed formed' bare' whole located
  · refine (makeDirectories_places made l).imp_right ?_
    rintro ⟨absent, directory, onTheWay⟩
    exact ⟨absent, directory, onTheWay_below bare down onTheWay⟩

section Entered

variable {i j : Nat} (enters : f.Enters p names i g)
include enters

theorem enters_shows : g.Shows p names i := by
  rw [FileSystem.Shows, resolve_linked enters.upholds.toLinked]
  exact enters.entry

/-- Files elsewhere are there still. -/
theorem enters_other {below : List String}
    (other : f.resolve q ++ below ≠ f.resolve p ++ names) (file : f.Shows q below j) :
    g.Shows q below j := by
  rw [FileSystem.Shows, resolve_linked enters.upholds.toLinked]
  rcases enters.elsewhere _ other with same | ⟨absent, -, -⟩
  · exact same.trans file
  · rw [FileSystem.Shows, absent] at file
    cases file

theorem enters_beside {below : List String} (other : below ≠ names) (file : f.Shows p below j) :
    g.Shows p below j :=
  enters_other enters (fun same => other (List.append_cancel_left same)) file

end Entered

/-- A file that is entered after directories and other entries made room for it. -/
theorem enters_after {i : Nat} (upholds : f.Upholds g) (spares : f.Spares g)
    (entries : ∀ l, l ≠ f.resolve p ++ names → g.entryAt? l = f.entryAt? l ∨ f.NewDirectory p g l)
    (enters : g.Enters p names i h) : f.Enters p names i h := by
  have place := resolve_linked upholds.toLinked p
  exact ⟨enters.formed, enters.rooted, upholds_trans upholds enters.upholds,
    spares_trans spares enters.spares, place ▸ enters.entry, fun l other =>
      entries_trans upholds.toLinked (entries l other) (enters.elsewhere l (place ▸ other))⟩

/-- An entry below a directory, where no directory was, enters a file. -/
theorem entered_enters {i : Nat} (rooted : f.Rooted p) (formed : g.Formed) (here : g.here = f.here)
    (spares : f.Spares g)
    (entries : ∀ l, g.entryAt? l
      = if f.resolve p ++ names = l then some (.file i) else f.entryAt? l)
    (solid : f.entryAt? (f.resolve p ++ names) ≠ some .directory) : f.Enters p names i g := by
  have entry : g.entryAt? (f.resolve p ++ names) = some (.file i) := by rw [entries, if_pos rfl]
  have others (l : Location) (other : l ≠ f.resolve p ++ names) :
      g.entryAt? l = f.entryAt? l := by
    rw [entries, if_neg (Ne.symm other)]
  have upholds : f.Upholds g := by
    refine upholds_except here others ?_ (.inr ⟨i, entry⟩)
    rcases before : f.entryAt? (f.resolve p ++ names) with - | ⟨- | i | target⟩
    · exact .inl rfl
    · exact absurd before solid
    · exact .inr ⟨i, rfl⟩
    · exact absurd before (rooted.bare _ target)
  exact ⟨formed, rooted_upholds upholds rooted, upholds, spares, entry,
    fun l other => .inl (others l other)⟩

/-! ## Writing -/

theorem replaceFile_enters (formed : f.Formed) (bare : f.Bare (f.resolve p))
    (down : ".." ∉ above ++ [name]) {bytes : ByteArray}
    (written : f.replaceFile ⟨p.anchor, p.names ++ (above ++ [name])⟩ bytes = .ok g) :
    ∃ i, f.Enters p (above ++ [name]) i g ∧ g.content i = bytes := by
  have formed' := replaceFile_formed formed written
  obtain ⟨dirs, l, made, located, solid, rfl⟩ := replaceFile_ok written
  have spares := makeDirectories_spares made
  rw [Path.parent, ← List.append_assoc, List.dropLast_concat] at made
  have prepares := makeDirectories_prepares formed bare
    (fun up => down (List.mem_append_left _ up)) made
  obtain rfl := rooted_followed prepares.rooted (.inl (by simp)) down located
  refine ⟨dirs.fresh, enters_after prepares.upholds spares (fun l _ => prepares.entries l) ?_,
    content_putFile dirs _ bytes⟩
  exact entered_enters prepares.rooted formed' rfl (putFile_spares dirs _ bytes)
    (fun l => entryAt_putFile _ l bytes) solid

/-! ## Linking -/

theorem findEntry_without {l l' : Location} (es : List (Location × Entry)) :
    Table.findEntry l' (es.filter fun e => e.1 ≠ l)
      = if l = l' then none else Table.findEntry l' es := by
  induction es with
  | nil => simp [Table.findEntry]
  | cons e es ih =>
      by_cases dropped : e.1 = l
      · rw [List.filter_cons_of_neg (by simp [dropped]), ih]
        split
        · rfl
        · next other => rw [Table.findEntry, if_neg fun same => other (dropped.symm.trans same)]
      · rw [List.filter_cons_of_pos (by simp [dropped]), Table.findEntry, Table.findEntry, ih]
        by_cases found : e.1 = l'
        · rw [if_pos found, if_neg fun same => dropped (found.trans same.symm), if_pos found]
        · rw [if_neg found, if_neg found]

theorem entryAt_dropEntry (l l' : Location) :
    (f.dropEntry l).entryAt? l' = if l = l' then none else f.entryAt? l' :=
  findEntry_without f.entries.entries

/-- What a path shows is cleared away, and nothing else. -/
structure FileSystem.Clears (f : FileSystem) (l : Location) (g : FileSystem) : Prop where
  formed : g.Formed
  upholds : f.Upholds g
  entry : g.entryAt? l = none
  elsewhere : ∀ l', l' ≠ l → g.entryAt? l' = f.entryAt? l'

/-- Without an entry that is no directory a file system is formed well. -/
theorem dropEntry_formed (formed : f.Formed) {l : Location}
    (solid : f.entryAt? l ≠ some .directory) : (f.dropEntry l).Formed := by
  have directory (l' : Location) (found : f.entryAt? l' = some .directory) :
      (f.dropEntry l).entryAt? l' = some .directory := by
    rw [entryAt_dropEntry, if_neg, found]
    rintro rfl
    exact solid found
  have entries {l' : Location} {e : Entry} (found : (f.dropEntry l).entryAt? l' = some e) :
      f.entryAt? l' = some e := by
    rw [entryAt_dropEntry] at found
    split at found
    · cases found
    · exact found
  refine ⟨directory _ formed.root, directory _ formed.here, fun above name present => ?_⟩
  obtain ⟨e, found⟩ := Option.ne_none_iff_exists'.mp present
  obtain ⟨there, valid⟩ := formed.placed above name (by simp [entries found])
  exact ⟨directory _ there, valid⟩

theorem dropEntry_clears (formed : f.Formed) {l : Location} {i : Nat}
    (file : f.entryAt? l = some (.file i)) : f.Clears l (f.dropEntry l) := by
  have others (l' : Location) (other : l' ≠ l) : (f.dropEntry l).entryAt? l' = f.entryAt? l' := by
    rw [entryAt_dropEntry, if_neg (Ne.symm other)]
  have dropped : (f.dropEntry l).entryAt? l = none := by rw [entryAt_dropEntry, if_pos rfl]
  have upholds : f.Upholds (f.dropEntry l) :=
    upholds_except rfl others (.inr ⟨i, file⟩) (.inl dropped)
  exact ⟨dropEntry_formed formed (by simp [file]), upholds, dropped, others⟩

section Clearing

variable {w v : World} (formed : w.files.Formed) (rooted : w.files.Rooted p)
  (more : names ≠ []) (down : ".." ∉ names)
include formed rooted more down

theorem remove_clears {g : FileSystem}
    (removed : w.files.remove ⟨p.anchor, p.names ++ names⟩ = .ok g) :
    w.files.Clears (w.files.resolve p ++ names) g := by
  obtain ⟨l, located, present, solid, rfl⟩ := remove_ok removed
  obtain rfl := rooted_followed rooted (.inl more) down located
  rcases entry : w.files.entryAt? (w.files.resolve p ++ names) with - | ⟨- | i | target⟩
  · exact absurd entry present
  · exact absurd entry solid
  · exact dropEntry_clears formed entry
  · exact absurd entry (rooted.bare _ target)

theorem clear_clears (cleared : (clear ⟨p.anchor, p.names ++ names⟩).perform w = (.ok (), v)) :
    w.files.Clears (w.files.resolve p ++ names) v.files := by
  obtain ⟨there, _, looked, cleared⟩ := perform_bind_ok.mp cleared
  obtain ⟨present, rfl⟩ := perform_inspect_ok.mp looked
  have removes (cleared : (Action.change fun fs =>
      fs.remove ⟨p.anchor, p.names ++ names⟩).perform w = (.ok (), v)) :
      w.files.Clears (w.files.resolve p ++ names) v.files := by
    obtain ⟨g, removed, rfl⟩ := perform_change_ok.mp cleared
    exact remove_clears formed rooted more down removed
  cases there with
  | true => exact removes cleared
  | false =>
      have absent : w.files.entryAt? (w.files.resolve p ++ names) = none := by
        by_contra found
        rw [rooted_pathExists rooted formed down found] at present
        cases present
      obtain ⟨linked, _, looked, cleared⟩ := perform_bind_ok.mp cleared
      obtain ⟨-, rfl⟩ := perform_inspect_ok.mp looked
      cases linked with
      | true => exact removes cleared
      | false =>
          cases cleared
          exact ⟨formed, upholds_refl _, absent, fun _ _ => rfl⟩

end Clearing

/-- A file gets a second name where there is nothing in a directory. -/
theorem hardLink_enters (formed : f.Formed) (rooted : f.Rooted p) (rooted' : f.Rooted q)
    {source : List String} {i : Nat} (down : ".." ∉ source) (down' : ".." ∉ above ++ [name])
    (file : f.Shows p source i)
    (directory : f.entryAt? (f.resolve q ++ above) = some .directory)
    (valid : nameFault? name = none)
    (absent : f.entryAt? (f.resolve q ++ (above ++ [name])) = none) :
    ∃ g, f.hardLink ⟨p.anchor, p.names ++ source⟩ ⟨q.anchor, q.names ++ (above ++ [name])⟩ = .ok g ∧
      f.Enters q (above ++ [name]) i g := by
  unfold FileSystem.Shows at file
  have more : source ≠ [] := by
    rintro rfl
    rw [List.append_nil, rooted.directory] at file
    cases file
  have located : f.locateEntry ⟨p.anchor, p.names ++ source⟩ = .ok (f.resolve p ++ source) :=
    rooted_present rooted formed down (.inl more) (by simp [file])
  have located' : f.locateEntry ⟨q.anchor, q.names ++ (above ++ [name])⟩
      = .ok (f.resolve q ++ (above ++ [name])) := rooted_free rooted' formed down' directory valid
  refine ⟨f.putEntry (f.resolve q ++ (above ++ [name])) (.file i), ?_, ?_⟩
  · rw [FileSystem.hardLink, located]
    dsimp only
    rw [file]
    dsimp only
    rw [located']
    dsimp only
    rw [absent]
  refine entered_enters rooted' ?_ rfl (putEntry_spares f _ _) (fun l => entryAt_putEntry _ l _)
    (by simp [absent])
  refine entered_formed (l := f.resolve q ++ above) (e := .file i) formed rfl (fun l => ?_)
    directory valid ?_
  · rw [List.append_assoc]
    exact entryAt_putEntry _ l _
  · rw [List.append_assoc, absent]
    simp

/-- What stood where something is linked to is removed, and it has a second name there, or, if that
cannot be, a link to it is there. -/
theorem linkFile_ok {source : Path} {w v : World} (formed : w.files.Formed)
    (bare : w.files.Bare (w.files.resolve q)) (down : ".." ∉ above ++ [name])
    (linked : (linkFile source ⟨q.anchor, q.names ++ (above ++ [name])⟩).perform w = (.ok (), v)) :
    ∃ dirs u : FileSystem, w.files.Prepares q above dirs ∧ w.files.Spares u ∧
      dirs.Clears (w.files.resolve q ++ (above ++ [name])) u ∧
      (u.hardLink source ⟨q.anchor, q.names ++ (above ++ [name])⟩ = .ok v.files ∨
        (∃ fault, u.hardLink source ⟨q.anchor, q.names ++ (above ++ [name])⟩ = .error fault) ∧
          ∃ target,
            u.symbolicLink target ⟨q.anchor, q.names ++ (above ++ [name])⟩ = .ok v.files) := by
  obtain ⟨_, _, changed, linked⟩ := perform_bind_ok.mp linked
  obtain ⟨dirs, made, rfl⟩ := perform_change_ok.mp changed
  have spares := makeDirectories_spares made
  rw [Path.parent, ← List.append_assoc, List.dropLast_concat] at made
  have prepares := makeDirectories_prepares formed bare
    (fun up => down (List.mem_append_left _ up)) made
  obtain ⟨_, u, cleared, linked⟩ := perform_bind_ok.mp linked
  have clears : dirs.Clears (dirs.resolve q ++ (above ++ [name])) u.files :=
    clear_clears prepares.formed prepares.rooted (by simp) down cleared
  rw [resolve_linked prepares.upholds.toLinked] at clears
  have spares' : dirs.Spares u.files := by
    have kept := clear_steps spares_placing ⟨q.anchor, q.names ++ (above ++ [name])⟩
      { w with files := dirs }
    rwa [cleared] at kept
  refine ⟨dirs, u.files, prepares, spares_trans spares spares', clears, ?_⟩
  obtain ⟨answer, _, tried, linked⟩ := perform_bind_ok.mp linked
  rw [Action.perform_result, Action.perform_change] at tried
  cases second : u.files.hardLink source ⟨q.anchor, q.names ++ (above ++ [name])⟩ with
  | ok g =>
      rw [second] at tried
      cases tried
      cases linked
      exact .inl rfl
  | error fault =>
      rw [second] at tried
      cases tried
      refine .inr ⟨⟨fault, rfl⟩, ?_⟩
      dsimp only at linked
      split at linked
      · obtain ⟨_, _, failed, -⟩ := perform_bind_ok.mp linked
        cases failed
      · obtain ⟨target, _, looked, linked⟩ := perform_bind_ok.mp linked
        obtain ⟨-, rfl⟩ := perform_inspect_ok.mp looked
        obtain ⟨_, _, named, linked⟩ := perform_bind_ok.mp linked
        obtain ⟨g, symbolic, rfl⟩ := perform_change_ok.mp named
        cases linked
        exact ⟨_, symbolic⟩

/-- A file is linked to a place below another directory by a second name. -/
theorem linkFile_enters {w v : World} (formed : w.files.Formed) (rooted : w.files.Rooted p)
    (bare : w.files.Bare (w.files.resolve q)) (down : ".." ∉ above ++ [name])
    (apart : w.files.resolve p ++ (above ++ [name]) ≠ w.files.resolve q ++ (above ++ [name]))
    {i : Nat} (file : w.files.Shows p (above ++ [name]) i)
    (linked : (linkFile ⟨p.anchor, p.names ++ (above ++ [name])⟩
      ⟨q.anchor, q.names ++ (above ++ [name])⟩).perform w = (.ok (), v)) :
    w.files.Enters q (above ++ [name]) i v.files := by
  obtain ⟨dirs, u, prepares, spares, clears, ways⟩ := linkFile_ok formed bare down linked
  have upholds := upholds_trans prepares.upholds clears.upholds
  have place := resolve_linked upholds.toLinked p
  have place' := resolve_linked upholds.toLinked q
  obtain ⟨directory, valid⟩ := formed.placed (w.files.resolve p ++ above) name
    (by rw [List.append_assoc, show w.files.entryAt? _ = _ from file]; simp)
  have there : u.entryAt? (w.files.resolve p ++ (above ++ [name])) = some (.file i) := by
    rw [clears.elsewhere _ apart]
    rcases prepares.entries (w.files.resolve p ++ (above ++ [name])) with same | ⟨absent, -⟩
    · rw [same, show w.files.entryAt? _ = _ from file]
    · rw [show w.files.entryAt? _ = _ from file] at absent
      cases absent
  obtain ⟨g, named, enters⟩ := hardLink_enters clears.formed (rooted_upholds upholds rooted)
    (rooted_upholds clears.upholds prepares.rooted) down down (place ▸ there)
    (place' ▸ clears.upholds.directory _ prepares.there) valid (place' ▸ clears.entry)
  obtain rfl : g = v.files := by
    rcases ways with second | ⟨⟨fault, failed⟩, -⟩
    · exact Except.ok.inj (named.symm.trans second)
    · rw [named] at failed
      cases failed
  refine enters_after upholds spares (fun l other => ?_) enters
  have prepared := prepares.entries l
  unfold FileSystem.NewDirectory at prepared ⊢
  rwa [clears.elsewhere l other]

end MavenImport
