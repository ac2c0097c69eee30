/-
# Proofs.FilesAlike -- file systems that show the same

Two file systems are alike if they show the same at every location: a directory, a link with its
target, or a file with its content (`FileSystem.Alike`).  The numbers of files may differ, as
they do when files are made in another order.  No operation tells alike file systems apart, and
writing a file keeps them alike (`replaceFile_alike`).
-/
import MavenImport.Files.FileSystem

namespace MavenImport

open Files (Cause)

set_option autoImplicit false

/-- What an entry shows. -/
inductive Seen
  | directory
  | file (bytes : ByteArray)
  | link (target : String)

namespace FileSystem

def see (fs : FileSystem) : Entry → Seen
  | .directory => .directory
  | .file inode => .file (fs.content inode)
  | .link target => .link target

/-- What there is to see at a location. -/
def seen? (fs : FileSystem) (l : Location) : Option Seen := (fs.entryAt? l).map fs.see

structure Alike (f g : FileSystem) : Prop where
  here : f.here = g.here
  seen : ∀ l, f.seen? l = g.seen? l

end FileSystem

section Alike

variable {f g : FileSystem}

/-! ## Entries -/

theorem alike_refl (f : FileSystem) : f.Alike f := ⟨rfl, fun _ => rfl⟩

/-- Entries at one location are of one kind. -/
theorem entry_cases (alike : f.Alike g) (l : Location) :
    (f.entryAt? l = none ∧ g.entryAt? l = none) ∨
    (f.entryAt? l = some .directory ∧ g.entryAt? l = some .directory) ∨
    (∃ target, f.entryAt? l = some (.link target) ∧ g.entryAt? l = some (.link target)) ∨
    ∃ i j, f.entryAt? l = some (.file i) ∧ g.entryAt? l = some (.file j) ∧
      f.content i = g.content j := by
  have seen := alike.seen l
  unfold FileSystem.seen? at seen
  rcases one : f.entryAt? l with - | ⟨- | i | target⟩ <;>
    rcases other : g.entryAt? l with - | ⟨- | j | target'⟩ <;>
    simp_all [FileSystem.see]

theorem find?_put_entry (fs : FileSystem) (l l' : Location) (e : Entry) :
    (fs.entries.put l e).find? l' = if l = l' then some e else fs.entryAt? l' :=
  Table.find?_put _ _ _ _

theorem putEntry_seen (l l' : Location) :
    (f.putEntry l .directory).seen? l' = if l = l' then some .directory else f.seen? l' := by
  unfold FileSystem.seen? FileSystem.entryAt? FileSystem.putEntry
  rw [find?_put_entry]
  split <;> rfl

/-- A new file does not show anywhere else, since no entry has its number. -/
theorem putFile_seen (l l' : Location) (bytes : ByteArray) :
    (f.putFile l bytes).seen? l' = if l = l' then some (.file bytes) else f.seen? l' := by
  have content : ∀ inode, (f.putFile l bytes).content inode
      = if f.fresh = inode then bytes else f.content inode := by
    intro inode
    unfold FileSystem.content FileSystem.putFile
    rw [Table.find?_put]
    split <;> rfl
  have entry : (f.putFile l bytes).entryAt? l'
      = if l = l' then some (.file f.fresh) else f.entryAt? l' := find?_put_entry f l l' _
  unfold FileSystem.seen?
  rw [entry]
  split
  · simp [FileSystem.see, content]
  · cases found : f.entryAt? l' with
    | none => rfl
    | some e =>
        cases e with
        | directory => rfl
        | link target => rfl
        | file inode =>
            have less := FileSystem.inode_lt_fresh found
            have other : f.fresh ≠ inode := by omega
            simp [FileSystem.see, content, other]

/-! ## Following paths -/

theorem walk_alike (alike : f.Alike g) (followLast : Bool) :
    ∀ (names : List String) (base : Location),
      f.walk followLast base names = g.walk followLast base names
  | [], _ => rfl
  | name :: rest, base => by
      have later := walk_alike alike followLast rest
      unfold FileSystem.walk
      rcases entry_cases alike (base ++ [name]) with ⟨one, other⟩ | ⟨one, other⟩ |
        ⟨target, one, other⟩ | ⟨i, j, one, other, -⟩ <;>
        simp only [one, other, later]

theorem follow_alike (alike : f.Alike g) (followLast : Bool) :
    ∀ (links : Nat) (base : Location) (names : List String),
      f.follow followLast links base names = g.follow followLast links base names
  | 0, base, names => by
      unfold FileSystem.follow
      rw [walk_alike alike]
  | links + 1, base, names => by
      unfold FileSystem.follow
      rw [walk_alike alike]
      simp only [follow_alike alike followLast links]

theorem locate_alike (alike : f.Alike g) (p : Path) : f.locate p = g.locate p := by
  unfold FileSystem.locate FileSystem.start
  rw [alike.here, follow_alike alike]

theorem locateEntry_alike (alike : f.Alike g) (p : Path) : f.locateEntry p = g.locateEntry p := by
  unfold FileSystem.locateEntry FileSystem.start
  rw [alike.here, follow_alike alike]

theorem isDirectory_alike (alike : f.Alike g) (p : Path) : f.isDirectory p = g.isDirectory p := by
  unfold FileSystem.isDirectory FileSystem.status
  rw [locate_alike alike]
  cases g.locate p with
  | error cause => rfl
  | ok l =>
      rcases entry_cases alike l with ⟨one, other⟩ | ⟨one, other⟩ | ⟨target, one, other⟩ |
        ⟨i, j, one, other, -⟩ <;> simp [one, other]

/-! ## Changes -/

/-- Two changes end with the same fault or with file systems that are alike. -/
def ChangedAlike : Except Files.Fault FileSystem → Except Files.Fault FileSystem → Prop
  | .ok f, .ok g => f.Alike g
  | .error a, .error b => a = b
  | _, _ => False

theorem putEntry_alike (alike : f.Alike g) (l : Location) :
    (f.putEntry l .directory).Alike (g.putEntry l .directory) where
  here := alike.here
  seen l' := by rw [putEntry_seen, putEntry_seen, alike.seen]

theorem putFile_alike (alike : f.Alike g) (l : Location) (bytes : ByteArray) :
    (f.putFile l bytes).Alike (g.putFile l bytes) where
  here := alike.here
  seen l' := by rw [putFile_seen, putFile_seen, alike.seen]

theorem makeDirectory_alike (alike : f.Alike g) (p : Path) :
    ChangedAlike (f.makeDirectory p) (g.makeDirectory p) := by
  unfold FileSystem.makeDirectory
  rw [locateEntry_alike alike]
  cases g.locateEntry p with
  | error cause => exact rfl
  | ok l =>
      rcases entry_cases alike l with ⟨one, other⟩ | ⟨one, other⟩ | ⟨target, one, other⟩ |
        ⟨i, j, one, other, -⟩ <;> simp only [one, other]
      · exact putEntry_alike alike l
      all_goals exact rfl

theorem orPresent_alike (alike : f.Alike g) (p : Path) (fault : Files.Fault) :
    ChangedAlike (f.orPresent p fault) (g.orPresent p fault) := by
  unfold FileSystem.orPresent
  rw [isDirectory_alike alike]
  split
  · exact alike
  · exact rfl
  · exact rfl

theorem changed_cases {x y : Except Files.Fault FileSystem} (changed : ChangedAlike x y) :
    (∃ f g : FileSystem, x = .ok f ∧ y = .ok g ∧ f.Alike g) ∨
      ∃ fault, x = .error fault ∧ y = .error fault := by
  cases x with
  | ok f =>
      cases y with
      | ok g => exact .inl ⟨f, g, rfl, rfl, changed⟩
      | error fault => exact changed.elim
  | error fault =>
      cases y with
      | ok g => exact changed.elim
      | error fault' => exact .inr ⟨fault, rfl, congrArg _ (Eq.symm changed)⟩

theorem makeParents_zero_alike (alike : f.Alike g) (p : Path) :
    ChangedAlike (f.makeParents p 0) (g.makeParents p 0) := by
  unfold FileSystem.makeParents
  rcases changed_cases (makeDirectory_alike alike p) with ⟨f', g', one, other, after⟩ |
    ⟨fault, one, other⟩ <;> rw [one, other]
  · exact after
  · dsimp only
    split
    · exact rfl
    · exact orPresent_alike alike p fault

theorem makeParents_alike :
    ∀ (n : Nat) {f g : FileSystem} (p : Path), f.Alike g →
      ChangedAlike (f.makeParents p n) (g.makeParents p n)
  | 0, _, _, p, alike => makeParents_zero_alike alike p
  | n + 1, f, g, p, alike => by
      unfold FileSystem.makeParents
      rcases changed_cases (makeDirectory_alike alike p) with ⟨f', g', one, other, after⟩ |
        ⟨fault, one, other⟩ <;> rw [one, other]
      · exact after
      · dsimp only
        split
        · split
          · exact rfl
          · rcases changed_cases (makeParents_alike n p.parent alike) with
              ⟨f', g', one, other, after⟩ | ⟨fault, one, other⟩ <;> rw [one, other]
            · -- what is left is the attempt that `makeParents` makes without parents
              exact makeParents_zero_alike after p
            · exact rfl
        · exact orPresent_alike alike p fault

/-- Writing a file to alike file systems has the same outcome, and they stay alike. -/
theorem replaceFile_alike (alike : f.Alike g) (p : Path) (bytes : ByteArray) :
    ChangedAlike (f.replaceFile p bytes) (g.replaceFile p bytes) := by
  unfold FileSystem.replaceFile FileSystem.makeDirectories
  rcases changed_cases (makeParents_alike p.parent.names.length p.parent alike) with
    ⟨f', g', one, other, after⟩ | ⟨fault, one, other⟩ <;> rw [one, other]
  · simp only [bind, Except.bind]
    split
    · exact rfl
    · rw [locateEntry_alike after]
      cases g'.locateEntry p with
      | error cause => exact rfl
      | ok l =>
          rcases entry_cases after l with ⟨one, other⟩ | ⟨one, other⟩ | ⟨target, one, other⟩ |
            ⟨i, j, one, other, -⟩ <;> simp only [one, other]
          · exact putFile_alike after l bytes
          · exact rfl
          · exact putFile_alike after l bytes
          · exact putFile_alike after l bytes
  · exact rfl

end Alike

end MavenImport
