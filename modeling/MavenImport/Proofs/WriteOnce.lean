/-
# Proofs.WriteOnce -- the content of a file stays as it is

A file may have several names, and what is written to it shows under each of them.  So it is not
enough to ask which names an action gives or takes away.  This module is about the contents: new
files are written only and never one that is there (`FileSystem.Spares`).  This holds of calls to a
source, of runs and of placing files, whatever is answered and however they end, apart from one
thing.

The one thing is to unpack an Android library.  A member of its archive is written to the file
that has its name, under all the names that this file has (`member_overwrites`).  Since the POM
in the cache is given a second name in the directory that is unpacked into, it is such a file.
-/
import MavenImport.Proofs.OfflineReplay
import MavenImport.Proofs.Unpacking
import MavenImport.Proofs.WorldSteps

namespace MavenImport

set_option autoImplicit false

open MavenImport.Action (perform_bind perform_bind_ok perform_change_ok perform_inspect_ok
  perform_ofExcept_ok)

/-- The files of the first file system have the same contents in the second one. -/
structure FileSystem.Spares (f g : FileSystem) : Prop where
  fresh : f.fresh ≤ g.fresh
  content : ∀ i, i < f.fresh → g.content i = f.content i

/-- An action writes to no file that is there. -/
def Action.Spares {α : Type} (a : Action α) : Prop :=
  ∀ w : World, w.files.Spares (a.perform w).2.files

/-! ## Files -/

section Files

variable {f g h : FileSystem}

theorem spares_refl (f : FileSystem) : f.Spares f := ⟨Nat.le_refl _, fun _ _ => rfl⟩

theorem spares_trans (first : f.Spares g) (second : g.Spares h) : f.Spares h where
  fresh := Nat.le_trans first.fresh second.fresh
  content i old :=
    (second.content i (Nat.lt_of_lt_of_le old first.fresh)).trans (first.content i old)

/-- A change of entries is no change of contents. -/
theorem putEntry_spares (f : FileSystem) (l : Location) (e : Entry) : f.Spares (f.putEntry l e) :=
  ⟨e.le_next f.fresh, fun _ _ => rfl⟩

theorem dropEntry_spares (f : FileSystem) (l : Location) : f.Spares (f.dropEntry l) :=
  ⟨Nat.le_refl _, fun _ _ => rfl⟩

theorem putFile_spares (f : FileSystem) (l : Location) (bytes : ByteArray) :
    f.Spares (f.putFile l bytes) where
  fresh := Nat.le_succ _
  content i old := by
    unfold FileSystem.content FileSystem.putFile
    rw [Table.find?_put, if_neg (Nat.ne_of_gt old)]

theorem makeDirectory_spares {p : Path} (made : f.makeDirectory p = .ok g) : f.Spares g := by
  unfold FileSystem.makeDirectory at made
  split at made
  · cases made
  · split at made <;> cases made
    exact putEntry_spares f _ _

theorem makeDirectories_spares {p : Path} (made : f.makeDirectories p = .ok g) : f.Spares g :=
  makeParents_relates spares_refl spares_trans makeDirectory_spares _ made

/-- To replace a file is to enter a new one. -/
theorem replaceFile_spares {p : Path} {bytes : ByteArray}
    (written : f.replaceFile p bytes = .ok g) : f.Spares g := by
  obtain ⟨dirs, l, made, -, -, rfl⟩ := replaceFile_ok written
  exact spares_trans (makeDirectories_spares made) (putFile_spares dirs l bytes)

theorem remove_ok {p : Path} (removed : f.remove p = .ok g) :
    ∃ l, f.locateEntry p = .ok l ∧ f.entryAt? l ≠ none ∧ f.entryAt? l ≠ some .directory ∧
      g = f.dropEntry l := by
  unfold FileSystem.remove at removed
  split at removed
  · cases removed
  · next l located =>
      split at removed
      · cases removed
      · cases removed
      · next e solid found =>
          cases removed
          exact ⟨l, located, by simp [found], by simpa [found] using solid, rfl⟩

theorem remove_spares {p : Path} (removed : f.remove p = .ok g) : f.Spares g := by
  obtain ⟨l, -, -, -, rfl⟩ := remove_ok removed
  exact dropEntry_spares f l

theorem hardLink_ok {source destination : Path}
    (linked : f.hardLink source destination = .ok g) :
    ∃ l l' e, f.locateEntry source = .ok l ∧ f.entryAt? l = some e ∧
      f.locateEntry destination = .ok l' ∧ f.entryAt? l' = none ∧ g = f.putEntry l' e := by
  unfold FileSystem.hardLink at linked
  split at linked
  · cases linked
  · next l located =>
      split at linked
      · cases linked
      · cases linked
      · next e _ found =>
          split at linked
          · cases linked
          · next l' located' =>
              split at linked <;> cases linked
              next absent => exact ⟨l, l', e, located, found, located', absent, rfl⟩

theorem symbolicLink_ok {target : String} {destination : Path}
    (linked : f.symbolicLink target destination = .ok g) :
    ∃ l, f.locateEntry destination = .ok l ∧ f.entryAt? l = none ∧
      g = f.putEntry l (.link target) := by
  unfold FileSystem.symbolicLink at linked
  split at linked
  · cases linked
  · next l located =>
      split at linked <;> cases linked
      next absent => exact ⟨l, located, absent, rfl⟩

/-- A second name for a file is no other content of it. -/
theorem hardLink_spares {source destination : Path}
    (linked : f.hardLink source destination = .ok g) : f.Spares g := by
  obtain ⟨_, _, _, -, -, -, -, rfl⟩ := hardLink_ok linked
  exact putEntry_spares f _ _

theorem symbolicLink_spares {target : String} {destination : Path}
    (linked : f.symbolicLink target destination = .ok g) : f.Spares g := by
  obtain ⟨_, -, -, rfl⟩ := symbolicLink_ok linked
  exact putEntry_spares f _ _

/-- Whatever files are placed with, no file that is there is written to. -/
theorem edits_spares (edits : f.Edits g) : f.Spares g := by
  cases edits with
  | directories made => exact makeDirectories_spares made
  | removed removed => exact remove_spares removed
  | named linked => exact hardLink_spares linked
  | linked linked => exact symbolicLink_spares linked
  | written replaced => exact replaceFile_spares replaced

end Files

/-! ## Sources, runs and placements -/

section Steps

variable {s : Source}

theorem spares_relation : StepRelation fun w v => w.files.Spares v.files where
  refl w := spares_refl w.files
  trans := spares_trans
  printed w _ := spares_refl w.files

theorem spares_source (s : Source) :
    s.Steps (fun _ => True) fun w v => w.files.Spares v.files where
  toStepRelation := spares_relation
  kept w _ := spares_refl w.files
  asked w _ := spares_refl w.files
  stored _ _ _ _ _ _ _ _ _ _ _ written := replaceFile_spares written

theorem spares_placing : PlacingSteps fun w v => w.files.Spares v.files where
  toStepRelation := spares_relation
  edited _ _ := edits_spares

theorem spares_resolve (c : Coordinate) : (s.resolve c).Spares := fun _ =>
  resolve_steps (spares_source s) fun _ _ => trivial

theorem spares_download (a : ResolvedArtifact) : (s.download a).Spares := fun _ =>
  download_steps (spares_source s) fun _ _ => trivial

/-- Whatever a source answers and whoever's turn it is, generating a workspace writes to no file
that is there. -/
theorem spares_generateBy {plan : Plan} (source : plan.resolver = s.resolver)
    (schedule : List Turn) : (plan.generateBy schedule).Spares := fun _ =>
  generate_steps
    { toSteps := spares_source s
      made := fun _ _ made => makeDirectories_spares made
      written := fun _ _ _ _ _ written => replaceFile_spares written }
    source (fun _ _ => trivial) schedule

end Steps

/-! ## Unpacking -/

/-- Directories are made where there is nothing. -/
theorem makeDirectories_entry {f g : FileSystem} {p : Path} (made : f.makeDirectories p = .ok g) :
    ∀ {l : Location} {e : Entry}, f.entryAt? l = some e → g.entryAt? l = some e := by
  refine makeParents_relates
    (R := fun f g => ∀ {l : Location} {e : Entry}, f.entryAt? l = some e → g.entryAt? l = some e)
    (fun _ _ _ => id) (fun first second _ _ there => second (first there)) ?_ _ made
  intro f g p made l e there
  unfold FileSystem.makeDirectory at made
  split at made
  · cases made
  · split at made <;> cases made
    rename_i absent
    rw [entryAt_putEntry, if_neg, there]
    rintro rfl
    rw [absent] at there
    cases there

/-- Where a member's name leads to a file, that file has the content of the member, under every
name that it has. -/
theorem member_overwrites {w v : World} (plain : w.files.Plain) {z : Archive.Zip}
    {m : Archive.Member} {target : Path} (straight : target.Straight) {i start : Nat}
    (there : w.files.entryAt? (w.files.placeOf target) = some (.file i))
    (opened : z.dataStart m = .ok start) {bytes : ByteArray}
    (read : z.contents m start = (bytes, none))
    (written : (Archive.writeMember z m target).perform w = (.ok (), v)) :
    v.files.content i = bytes ∧
      ∀ {l e}, w.files.entryAt? l = some e → v.files.entryAt? l = some e := by
  unfold Archive.writeMember at written
  obtain ⟨_, _, made, written⟩ := perform_bind_ok.mp written
  obtain ⟨files, dirs, rfl⟩ := perform_change_ok.mp made
  obtain ⟨start', _, found, written⟩ := perform_bind_ok.mp written
  obtain ⟨opened', rfl⟩ := perform_ofExcept_ok.mp found
  obtain rfl : start' = start := Except.ok.inj (opened'.symm.trans opened)
  obtain ⟨⟨files', j⟩, _, opened, written⟩ := perform_bind_ok.mp written
  obtain ⟨truncated, rfl⟩ := perform_inspect_ok.mp opened
  have place := placeOf_lasts (grows_lasts (makeDirectories_grows dirs)) target
  obtain ⟨rfl, rfl⟩ : j = i ∧ files' = { files with contents := files.contents.put i .empty } := by
    unfold FileSystem.truncateFile at truncated
    split at truncated
    · cases truncated
    · rename_i l located
      have led := makeParents_leads _ plain (parent_straight straight) dirs
      obtain ⟨rfl, -⟩ := locate_through led.plain straight located
      rw [place, makeDirectories_entry dirs there] at truncated
      cases truncated
      exact ⟨rfl, rfl⟩
  obtain ⟨_, _, entered, written⟩ := perform_bind_ok.mp written
  cases entered
  rw [read] at written
  cases written
  refine ⟨?_, makeDirectories_entry dirs⟩
  unfold FileSystem.content
  dsimp only [FileSystem.writeContent]
  rw [Table.find?_put, if_pos rfl, Option.getD_some]

end MavenImport
