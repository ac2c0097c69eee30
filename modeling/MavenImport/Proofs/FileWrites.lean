/-
# Proofs.FileWrites -- what writing a file changes

Making the directories of a path adds directories and changes nothing that was there
(`FileSystem.Grows`, `makeDirectories_grows`).  Replacing a file does this for the directories
above it and then enters the file where the path leads (`replaceFile_ok`).  So a file system that
a file was written to gains that file, and at most directories with it (`FileSystem.Gains`,
`replaceFile_gains`).

The path leads to the new file again, unless the file took the place of a link: a path may go
through the very link whose place its last name has.
-/
import MavenImport.Proofs.FilesAlike

namespace MavenImport

open Files (Cause)

set_option autoImplicit false

namespace FileSystem

/-- There may be more directories, and nothing else differs. -/
structure Grows (f g : FileSystem) : Prop where
  here : g.here = f.here
  seen : ∀ l, g.seen? l = f.seen? l ∨ f.seen? l = none ∧ g.seen? l = some .directory

/-- A file with the given content is at the end of a path, whose directories may be new; nothing
else differs.  If it is not a link that gave way to the file, the file can be read there. -/
structure Gains (f : FileSystem) (p : Path) (bytes : ByteArray) (g : FileSystem) : Prop where
  here : g.here = f.here
  file : ∃ dirs l, f.makeDirectories p.parent = .ok dirs ∧ dirs.locateEntry p = .ok l ∧
    g.seen? l = some (.file bytes) ∧
    (∀ l', l' ≠ l → g.seen? l' = f.seen? l' ∨
      f.seen? l' = none ∧ g.seen? l' = some .directory) ∧
    ((∀ target, f.seen? l ≠ some (.link target)) → g.readFile p = .ok bytes)

end FileSystem

open FileSystem (Grows Gains)

variable {f g h : FileSystem}

/-! ## Directories -/

theorem grows_refl (f : FileSystem) : f.Grows f := ⟨rfl, fun _ => .inl rfl⟩

theorem grows_trans (first : f.Grows g) (second : g.Grows h) : f.Grows h where
  here := second.here.trans first.here
  seen l := by
    rcases second.seen l with kept | ⟨absent, made⟩
    · rw [kept]
      exact first.seen l
    · rcases first.seen l with kept | ⟨_, made'⟩
      · exact .inr ⟨kept ▸ absent, made⟩
      · rw [made'] at absent
        cases absent

theorem seen?_eq_none {l : Location} (absent : f.entryAt? l = none) : f.seen? l = none := by
  rw [FileSystem.seen?, absent]
  rfl

theorem makeDirectory_grows {p : Path} (made : f.makeDirectory p = .ok g) : f.Grows g := by
  unfold FileSystem.makeDirectory at made
  split at made
  · cases made
  · rename_i l located
    split at made
    · rename_i absent
      cases made
      refine ⟨rfl, fun l' => ?_⟩
      rw [putEntry_seen]
      split
      · rename_i same
        subst same
        exact .inr ⟨seen?_eq_none absent, rfl⟩
      · exact .inl rfl
    · cases made

theorem orPresent_ok {p : Path} {fault : Files.Fault} (present : f.orPresent p fault = .ok g) :
    g = f := by
  unfold FileSystem.orPresent at present
  split at present <;> cases present
  rfl

/-- The one attempt at a directory is the last one already, or those above it are made before. -/
theorem makeParents_succ {n : Nat} {p : Path} (made : f.makeParents p (n + 1) = .ok g) :
    f.makeParents p 0 = .ok g ∨
      ∃ dirs, f.makeParents p.parent n = .ok dirs ∧ dirs.makeParents p 0 = .ok g := by
  rw [FileSystem.makeParents] at made
  cases first : f.makeDirectory p with
  | ok dirs =>
      rw [first] at made
      exact .inl (by rw [FileSystem.makeParents, first]; exact made)
  | error fault =>
      rw [first] at made
      dsimp only at made
      split at made
      · split at made
        · cases made
        · split at made
          · cases made
          · next dirs above => exact .inr ⟨dirs, above, by rw [FileSystem.makeParents]; exact made⟩
      · next other =>
          left
          rw [FileSystem.makeParents, first]
          dsimp only
          rw [if_neg other]
          exact made

section Directories

variable {R : FileSystem → FileSystem → Prop} (kept : ∀ f, R f f)
  (further : ∀ {f g h}, R f g → R g h → R f h)
  (one : ∀ {f g} {p : Path}, f.makeDirectory p = .ok g → R f g)
include kept one

/-- The last attempt at a directory, when those above it are there. -/
theorem makeParents_zero_relates {p : Path} (made : f.makeParents p 0 = .ok g) : R f g := by
  unfold FileSystem.makeParents at made
  split at made
  · rename_i dirs first
    cases made
    exact one first
  · split at made
    · cases made
    · rw [orPresent_ok made]
      exact kept f

include further

/-- What one directory that is made does to the files is what all of them do. -/
theorem makeParents_relates :
    ∀ (n : Nat) {f g : FileSystem} {p : Path}, f.makeParents p n = .ok g → R f g
  | 0, _, _, _, made => makeParents_zero_relates kept one made
  | n + 1, f, g, p, made => by
      rcases makeParents_succ made with last | ⟨dirs, above, last⟩
      · exact makeParents_zero_relates kept one last
      · exact further (makeParents_relates n above) (makeParents_zero_relates kept one last)

end Directories

theorem makeParents_grows (n : Nat) {p : Path} (made : f.makeParents p n = .ok g) : f.Grows g :=
  makeParents_relates grows_refl grows_trans makeDirectory_grows n made

theorem makeDirectories_grows {p : Path} (made : f.makeDirectories p = .ok g) : f.Grows g :=
  makeParents_grows _ made

/-! ## Files -/

/-- A file is replaced by making its directories and entering it where the path leads then. -/
theorem replaceFile_ok {p : Path} {bytes : ByteArray} (written : f.replaceFile p bytes = .ok g) :
    ∃ dirs l, f.makeDirectories p.parent = .ok dirs ∧ dirs.locateEntry p = .ok l ∧
      dirs.entryAt? l ≠ some .directory ∧ g = dirs.putFile l bytes := by
  unfold FileSystem.replaceFile at written
  simp only [bind, Except.bind] at written
  split at written
  · cases written
  · rename_i dirs made
    split at written
    · cases written
    · split at written
      · cases written
      · rename_i l located
        split at written
        · cases written
        · rename_i free
          cases written
          exact ⟨dirs, l, made, located, free, rfl⟩

/-- A walk that ends at a place without a link meets the same entries when that place has a
file: it cannot have gone through the place before. -/
theorem walk_putFile {dirs : FileSystem} {l : Location} {bytes : ByteArray} {stop : FileSystem.Stop}
    (free : dirs.entryAt? l = none ∨ ∃ inode, dirs.entryAt? l = some (.file inode))
    (there : ∀ l', stop = .arrived l' → l' = l) :
    ∀ (names : List String) (base : Location), dirs.walk false base names = .ok stop →
      (dirs.putFile l bytes).walk true base names = .ok stop
  | [], base, walked => walked
  | name :: rest, base, walked => by
      have later : ∀ base, dirs.walk false base rest = .ok stop →
          (dirs.putFile l bytes).walk true base rest = .ok stop := walk_putFile free there rest
      unfold FileSystem.walk at walked ⊢
      by_cases up : name = ".."
      · rw [if_pos up] at walked ⊢
        exact later base.dropLast walked
      rw [if_neg up] at walked ⊢
      cases fault : FileSystem.nameFault? name with
      | some cause =>
          rw [fault] at walked
          cases walked
      | none =>
          have entry : (dirs.putFile l bytes).entryAt? (base ++ [name])
              = if l = base ++ [name] then some (.file dirs.fresh)
                else dirs.entryAt? (base ++ [name]) := find?_put_entry dirs l _ _
          rw [fault] at walked
          dsimp only at walked ⊢
          rw [entry]
          by_cases same : l = base ++ [name]
          · rw [if_pos same]
            rw [← same] at walked ⊢
            by_cases last : rest = []
            · rcases free with absent | ⟨inode, present⟩
              · simpa [absent, last] using walked
              · simpa [present, last] using walked
            · rcases free with absent | ⟨inode, present⟩
              · simp [absent, last] at walked
              · simp [present, last] at walked
          · rw [if_neg same]
            rcases present : dirs.entryAt? (base ++ [name]) with - | ⟨- | inode | target⟩ <;>
              rw [present] at walked <;> dsimp only at walked ⊢
            · exact walked
            · exact later (base ++ [name]) walked
            · exact walked
            · by_cases last : rest = []
              · rw [if_pos ⟨last, rfl⟩] at walked
                cases walked
                exact absurd (there _ rfl).symm same
              · simpa [last] using walked

theorem follow_putFile {dirs : FileSystem} {l : Location} {bytes : ByteArray}
    (free : dirs.entryAt? l = none ∨ ∃ inode, dirs.entryAt? l = some (.file inode)) :
    ∀ (links : Nat) (base : Location) (names : List String),
      dirs.follow false links base names = .ok l →
        (dirs.putFile l bytes).follow true links base names = .ok l
  | 0, base, names, followed => by
      unfold FileSystem.follow at followed ⊢
      split at followed
      · cases followed
      · rename_i l' walked
        cases followed
        rw [walk_putFile free (by simp) names base walked]
      · cases followed
  | links + 1, base, names, followed => by
      unfold FileSystem.follow at followed ⊢
      split at followed
      · cases followed
      · rename_i l' walked
        cases followed
        rw [walk_putFile free (by simp) names base walked]
      · rename_i base' target rest walked
        rw [walk_putFile free (by simp) names base walked]
        exact follow_putFile free links _ _ followed

theorem content_putFile (fs : FileSystem) (l : Location) (bytes : ByteArray) :
    (fs.putFile l bytes).content fs.fresh = bytes := by
  unfold FileSystem.content FileSystem.putFile
  rw [Table.find?_put_self]
  rfl

/-- What was written where there was no link can be read there. -/
theorem readFile_putFile {dirs : FileSystem} {p : Path} {l : Location} {bytes : ByteArray}
    (located : dirs.locateEntry p = .ok l)
    (free : dirs.entryAt? l = none ∨ ∃ inode, dirs.entryAt? l = some (.file inode)) :
    (dirs.putFile l bytes).readFile p = .ok bytes := by
  have located' : (dirs.putFile l bytes).locate p = .ok l :=
    follow_putFile free FileSystem.maxLinks _ p.names located
  have entry : (dirs.putFile l bytes).entryAt? l = some (.file dirs.fresh) :=
    Table.find?_put_self _ _ _
  have found : (dirs.putFile l bytes).status p = .ok (.file dirs.fresh) := by
    rw [FileSystem.status, located']
    dsimp only
    rw [entry]
  rw [FileSystem.readFile, found]
  exact congrArg Except.ok (content_putFile dirs l bytes)

theorem replaceFile_gains {p : Path} {bytes : ByteArray} (written : f.replaceFile p bytes = .ok g) :
    f.Gains p bytes g := by
  obtain ⟨dirs, l, made, located, solid, rfl⟩ := replaceFile_ok written
  have grown := makeDirectories_grows made
  have seen := fun l' => putFile_seen (f := dirs) l l' bytes
  refine ⟨grown.here, dirs, l, made, located, ?_, fun l' elsewhere => ?_, fun unlinked => ?_⟩
  · rw [seen, if_pos rfl]
  · rw [seen, if_neg (Ne.symm elsewhere)]
    exact grown.seen l'
  · refine readFile_putFile located ?_
    rcases entry : dirs.entryAt? l with - | ⟨- | inode | target⟩
    · exact .inl rfl
    · exact absurd entry solid
    · exact .inr ⟨inode, rfl⟩
    · -- a link in the grown file system was there before
      have shown : dirs.seen? l = some (.link target) := by
        rw [FileSystem.seen?, entry]
        rfl
      rcases grown.seen l with kept | ⟨-, made⟩
      · exact absurd (kept ▸ shown) (unlinked target)
      · rw [shown] at made
        cases made

end MavenImport
