/-
# Proofs.LeftEntries -- what is left of the entries

Files are taken away, linked and written anew, so the entries of a file system are not there for
good.  Three relations say what is left of them.  A file system stays formed whatever files are
placed with (`FileSystem.StaysFormed`, `edits_staysFormed`).  To make directories, to enter a file
where there was nothing and to unpack an archive leaves all entries and makes no links
(`FileSystem.Accrues`, `unpackInto_accrues`).  And what is linked or written below a directory
leaves all entries outside of it (`FileSystem.Leaves`, `linkFile_leaves`, `replaceFile_leaves`),
however that ends: a file may have been taken away already when its place cannot be taken.

What is left is told by entries, not by contents: an archive may be unpacked to a file that is
there, which is left with another content.
-/
import MavenImport.Proofs.EnteredFiles

namespace MavenImport

open MavenImport.Action (perform_bind perform_change_ok perform_inspect_ok)

set_option autoImplicit false

namespace FileSystem

/-- What is formed well is so still. -/
structure StaysFormed (f g : FileSystem) : Prop where
  formed : f.Formed → g.Formed
  here : g.here = f.here

/-- All entries are left, and no link is new. -/
structure Accrues (f g : FileSystem) : Prop extends f.StaysFormed g where
  fresh : f.fresh ≤ g.fresh
  entry : ∀ l e, f.entryAt? l = some e → g.entryAt? l = some e
  linked : ∀ l target, g.entryAt? l = some (.link target) → f.entryAt? l = some (.link target)

/-- Outside of some places all entries are left and no link is new.  Directories are left
everywhere. -/
structure Leaves (f : FileSystem) (places : Location → Prop) (g : FileSystem) : Prop where
  formed : g.Formed
  here : g.here = f.here
  directory : ∀ l, f.entryAt? l = some .directory → g.entryAt? l = some .directory
  entry : ∀ l e, ¬ places l → f.entryAt? l = some e → g.entryAt? l = some e
  linked : ∀ l target, ¬ places l → g.entryAt? l = some (.link target) →
    f.entryAt? l = some (.link target)

/-- The places in a directory that a path leads to, with the directory itself. -/
def Below (f : FileSystem) (p : Path) (l : Location) : Prop := f.resolve p <+: l

end FileSystem

variable {f g h : FileSystem} {places : Location → Prop} {p q : Path} {names above : List String}
  {name : String}

/-! ## What stays formed -/

section Forming

theorem staysFormed_refl (f : FileSystem) : f.StaysFormed f := ⟨id, rfl⟩

theorem staysFormed_trans (first : f.StaysFormed g) (second : g.StaysFormed h) :
    f.StaysFormed h :=
  ⟨second.formed ∘ first.formed, second.here.trans first.here⟩

theorem makeDirectories_staysFormed (made : f.makeDirectories p = .ok g) : f.StaysFormed g :=
  ⟨fun formed => makeParents_formed _ formed made, (makeDirectories_linked made).here⟩

theorem replaceFile_staysFormed {bytes : ByteArray} (written : f.replaceFile p bytes = .ok g) :
    f.StaysFormed g := by
  refine ⟨fun formed => replaceFile_formed formed written, ?_⟩
  obtain ⟨dirs, l, made, -, -, rfl⟩ := replaceFile_ok written
  exact (makeDirectories_linked made).here

/-- Whatever files are placed with. -/
theorem edits_staysFormed (edits : f.Edits g) : f.StaysFormed g := by
  have put {l : Location} {e : Entry} {p : Path} (located : f.locateEntry p = .ok l)
      (absent : f.entryAt? l = none) : f.StaysFormed (f.putEntry l e) :=
    ⟨fun formed => followed_formed formed located (by simp [absent]) rfl (entryAt_putEntry _ · e),
      rfl⟩
  cases edits with
  | directories made => exact makeDirectories_staysFormed made
  | removed removed =>
      obtain ⟨l, -, -, solid, rfl⟩ := remove_ok removed
      exact ⟨fun formed => dropEntry_formed formed solid, rfl⟩
  | named linked =>
      obtain ⟨-, l', e, -, -, located, absent, rfl⟩ := hardLink_ok linked
      exact put located absent
  | linked linked =>
      obtain ⟨l, located, absent, rfl⟩ := symbolicLink_ok linked
      exact put located absent
  | written replaced => exact replaceFile_staysFormed replaced

theorem staysFormed_relation : StepRelation fun w v => w.files.StaysFormed v.files where
  refl w := staysFormed_refl w.files
  trans := staysFormed_trans
  printed w _ := staysFormed_refl w.files

theorem staysFormed_source (s : Source) :
    s.Steps (fun _ => True) fun w v => w.files.StaysFormed v.files where
  toStepRelation := staysFormed_relation
  kept w _ := staysFormed_refl w.files
  asked w _ := staysFormed_refl w.files
  stored _ _ _ _ _ _ _ _ _ _ _ written := replaceFile_staysFormed written

theorem staysFormed_placing : PlacingSteps fun w v => w.files.StaysFormed v.files where
  toStepRelation := staysFormed_relation
  edited _ _ := edits_staysFormed

end Forming

/-! ## What accrues -/

section Accruing

theorem accrues_refl (f : FileSystem) : f.Accrues f :=
  ⟨staysFormed_refl f, Nat.le_refl _, fun _ _ => id, fun _ _ => id⟩

theorem accrues_trans (first : f.Accrues g) (second : g.Accrues h) : f.Accrues h where
  toStaysFormed := staysFormed_trans first.toStaysFormed second.toStaysFormed
  fresh := Nat.le_trans first.fresh second.fresh
  entry l e := second.entry l e ∘ first.entry l e
  linked l target := first.linked l target ∘ second.linked l target

theorem makeDirectories_accrues (made : f.makeDirectories p = .ok g) : f.Accrues g where
  toStaysFormed := makeDirectories_staysFormed made
  fresh := (makeDirectories_spares made).fresh
  entry _ _ := makeDirectories_entry made
  linked l target := ((makeDirectories_linked made).link l target).mp

/-- A file is entered where there was nothing. -/
theorem putFile_accrues {followLast : Bool} {l : Location} {bytes : ByteArray}
    (located : f.follow followLast FileSystem.maxLinks (f.start p) p.names = .ok l)
    (absent : f.entryAt? l = none) : f.Accrues (f.putFile l bytes) where
  formed formed := followed_formed formed located (by simp [absent]) rfl
    (entryAt_putFile _ · bytes)
  here := rfl
  fresh := Nat.le_succ _
  entry l' e found := by
    rw [entryAt_putFile, if_neg, found]
    rintro rfl
    rw [absent] at found
    cases found
  linked l' target found := by
    rw [entryAt_putFile] at found
    split at found
    · cases found
    · exact found

/-- Other contents are no other entries. -/
theorem contents_accrues (f : FileSystem) (contents : Table Nat ByteArray) :
    f.Accrues { f with contents := contents } where
  formed formed := ⟨formed.root, formed.here, formed.placed⟩
  here := rfl
  fresh := Nat.le_refl _
  entry _ _ := id
  linked _ _ := id

theorem truncateFile_accrues {i : Nat} (opened : f.truncateFile p = .ok (g, i)) : f.Accrues g := by
  unfold FileSystem.truncateFile at opened
  cases located : f.locate p with
  | error cause =>
      rw [located] at opened
      cases opened
  | ok l =>
      rw [located] at opened
      dsimp only at opened
      rcases entry : f.entryAt? l with - | ⟨- | j | target⟩ <;> rw [entry] at opened <;>
        cases opened
      · exact putFile_accrues located entry
      · exact contents_accrues f _

theorem accrues_unpacking : UnpackingSteps fun w v => w.files.Accrues v.files where
  refl w := accrues_refl w.files
  trans := accrues_trans
  printed w _ := accrues_refl w.files
  made _ _ _ := makeDirectories_accrues
  opened _ _ _ _ := truncateFile_accrues
  filled w _ _ := contents_accrues w.files _

theorem unpackInto_accrues (directory file : Path) (w : World) :
    w.files.Accrues ((unpackInto directory file).perform w).2.files :=
  unpackInto_steps accrues_unpacking directory file w

theorem accrues_upholds (accrues : f.Accrues g) : f.Upholds g where
  here := accrues.here
  directory l := accrues.entry l _
  link l target := ⟨accrues.linked l target, accrues.entry l _⟩

end Accruing

/-! ## What is left -/

section Leaves

theorem leaves_refl (formed : f.Formed) : f.Leaves places f :=
  ⟨formed, rfl, fun _ => id, fun _ _ _ => id, fun _ _ _ => id⟩

theorem leaves_trans (first : f.Leaves places g) (second : g.Leaves places h) :
    f.Leaves places h where
  formed := second.formed
  here := second.here.trans first.here
  directory l := second.directory l ∘ first.directory l
  entry l e outside := second.entry l e outside ∘ first.entry l e outside
  linked l target outside := first.linked l target outside ∘ second.linked l target outside

theorem leaves_mono {places' : Location → Prop} (wider : ∀ l, places l → places' l)
    (leaves : f.Leaves places g) : f.Leaves places' g :=
  ⟨leaves.formed, leaves.here, leaves.directory,
    fun l e outside => leaves.entry l e (outside ∘ wider l),
    fun l target outside => leaves.linked l target (outside ∘ wider l)⟩

theorem accrues_leaves (formed : f.Formed) (accrues : f.Accrues g) : f.Leaves places g where
  formed := accrues.formed formed
  here := accrues.here
  directory l := accrues.entry l _
  entry l e _ := accrues.entry l e
  linked l target _ := accrues.linked l target

/-- Entries outside are the same, but for directories where there was nothing. -/
theorem leaves_of_entries (formed : g.Formed) (here : g.here = f.here)
    (directory : ∀ l, f.entryAt? l = some .directory → g.entryAt? l = some .directory)
    (entries : ∀ l, ¬ places l → g.entryAt? l = f.entryAt? l ∨
      f.entryAt? l = none ∧ g.entryAt? l = some .directory) : f.Leaves places g where
  formed := formed
  here := here
  directory := directory
  entry l e outside found := by
    rcases entries l outside with same | ⟨absent, -⟩
    · rw [same, found]
    · rw [absent] at found
      cases found
  linked l target outside found := by
    rcases entries l outside with same | ⟨-, made⟩
    · rw [← same, found]
    · rw [made] at found
      cases found

theorem enters_leaves {i : Nat} (enters : f.Enters p names i g) : f.Leaves (f.Below p) g := by
  refine leaves_of_entries enters.formed enters.upholds.here enters.upholds.directory
    fun l outside => ?_
  have other : l ≠ f.resolve p ++ names := by
    rintro rfl
    exact outside (List.prefix_append _ _)
  exact (enters.elsewhere l other).imp_right fun new => ⟨new.1, new.2.1⟩

theorem prepares_leaves (prepares : f.Prepares p names g) : f.Leaves places g :=
  leaves_of_entries prepares.formed prepares.upholds.here prepares.upholds.directory
    fun l _ => (prepares.entries l).imp_right fun new => ⟨new.1, new.2.1⟩

theorem clears_leaves {l : Location} (clears : f.Clears l g) (within : places l) :
    f.Leaves places g :=
  leaves_of_entries clears.formed clears.upholds.here clears.upholds.directory
    fun l' outside => .inl (clears.elsewhere l' fun same => outside (same ▸ within))

theorem below_linked (linked : f.Linked g) : g.Below p = f.Below p := by
  unfold FileSystem.Below
  rw [resolve_linked linked]

/-- Where the places had no links, all links are left. -/
theorem retains_leaves (free : ∀ l target, places l → f.entryAt? l ≠ some (.link target))
    (leaves : f.Leaves places g) : f.Retains g where
  here := leaves.here
  directory := leaves.directory
  link l target found := leaves.entry l _ (fun within => free l target within found) found

theorem bare_below (bare : f.Bare (f.resolve p)) (l : Location) (target : String)
    (within : f.Below p l) : f.entryAt? l ≠ some (.link target) := by
  obtain ⟨names, rfl⟩ := within
  exact bare names target

/-- A path that leads to a directory outside, without links below it, leads to it still. -/
theorem rooted_leaves (free : ∀ l target, places l → f.entryAt? l ≠ some (.link target))
    (leaves : f.Leaves places g) (rooted : f.Rooted p)
    (apart : ∀ names, ¬ places (f.resolve p ++ names)) :
    g.resolve p = f.resolve p ∧ g.Rooted p := by
  have located := locate_retains (retains_leaves free leaves) rooted.directory rooted.located
  have directory := leaves.directory _ rooted.directory
  have place : g.resolve p = f.resolve p := resolve_located located (by simp [directory])
  exact ⟨place, place ▸ located, place ▸ directory, place ▸ fun names target found =>
    rooted.bare names target (leaves.linked _ _ (apart names) found)⟩

end Leaves

/-! ## Links -/

section Actions

variable {α β : Type} {a : Action α} {k : α → Action β} {w : World}

theorem leaves_bind (first : f.Leaves places (a.perform w).2.files)
    (second : ∀ x v, a.perform w = (.ok x, v) → f.Leaves places v.files →
      f.Leaves places ((k x).perform v).2.files) :
    f.Leaves places ((a >>= k).perform w).2.files := by
  rw [perform_bind]
  rcases run : a.perform w with ⟨fault | x, v⟩ <;> rw [run] at first
  · exact first
  · exact second x v run first

theorem leaves_kept (left : f.Leaves places w.files) (kept : Action.Keeps World.files a) :
    f.Leaves places (a.perform w).2.files := by
  rwa [kept w]

theorem leaves_change {write : FileSystem → Except Files.Fault FileSystem}
    (left : f.Leaves places w.files)
    (changes : ∀ g, write w.files = .ok g → f.Leaves places g) :
    f.Leaves places ((Action.change write).perform w).2.files := by
  rw [Action.perform_change]
  cases written : write w.files with
  | ok g => exact changes g written
  | error fault => exact left

end Actions

section Links

variable (formed : f.Formed) (rooted : f.Rooted q) (more : names ≠ []) (down : ".." ∉ names)
include formed rooted more down

/-- An entry is put below a directory where there was none. -/
theorem putEntry_leaves {e : Entry} {l : Location}
    (located : f.locateEntry ⟨q.anchor, q.names ++ names⟩ = .ok l) (absent : f.entryAt? l = none) :
    f.Leaves (f.Below q) (f.putEntry l e) := by
  have within : f.Below q l := by
    rw [rooted_followed rooted (.inl more) down located]
    exact List.prefix_append _ _
  have solid : f.entryAt? l ≠ some .directory := by simp [absent]
  have others (l' : Location) (other : l ≠ l') : (f.putEntry l e).entryAt? l' = f.entryAt? l' := by
    rw [entryAt_putEntry, if_neg other]
  have formed' : (f.putEntry l e).Formed :=
    followed_formed formed located solid rfl (entryAt_putEntry _ · e)
  refine leaves_of_entries formed' rfl (fun l' found => ?_)
    fun l' outside => .inl (others l' fun same => outside (same ▸ within))
  rw [others l' fun same => solid (same ▸ found), found]

theorem hardLink_leaves {source : Path}
    (linked : f.hardLink source ⟨q.anchor, q.names ++ names⟩ = .ok g) :
    f.Leaves (f.Below q) g := by
  obtain ⟨-, l', e, -, -, located, absent, rfl⟩ := hardLink_ok linked
  exact putEntry_leaves formed rooted more down located absent

theorem symbolicLink_leaves {target : String}
    (linked : f.symbolicLink target ⟨q.anchor, q.names ++ names⟩ = .ok g) :
    f.Leaves (f.Below q) g := by
  obtain ⟨l, located, absent, rfl⟩ := symbolicLink_ok linked
  exact putEntry_leaves formed rooted more down located absent

end Links

/-- What stands in the place of a link is removed, however that ends. -/
theorem clear_leaves {w : World} (formed : w.files.Formed) (rooted : w.files.Rooted q)
    (more : names ≠ []) (down : ".." ∉ names) : w.files.Leaves (w.files.Below q)
      ((clear ⟨q.anchor, q.names ++ names⟩).perform w).2.files := by
  have removes : w.files.Leaves (w.files.Below q)
      ((Action.change fun fs => fs.remove ⟨q.anchor, q.names ++ names⟩).perform w).2.files :=
    leaves_change (leaves_refl formed) fun g removed =>
      clears_leaves (remove_clears formed rooted more down removed) (List.prefix_append _ _)
  unfold clear
  refine leaves_bind (leaves_kept (leaves_refl formed) (Action.keeps_inspect _))
    fun there v looked _ => ?_
  obtain ⟨-, rfl⟩ := perform_inspect_ok.mp looked
  cases there with
  | true => exact removes
  | false =>
      refine leaves_bind (leaves_kept (leaves_refl formed) (Action.keeps_inspect _))
        fun linked v looked _ => ?_
      obtain ⟨-, rfl⟩ := perform_inspect_ok.mp looked
      cases linked with
      | true => exact removes
      | false => exact leaves_refl formed

/-- A file is linked to a place below a directory, in one way or the other, or it is not. -/
theorem linkFile_leaves {w : World} (formed : w.files.Formed)
    (bare : w.files.Bare (w.files.resolve q)) (down : ".." ∉ above ++ [name]) (source : Path) :
    w.files.Leaves (w.files.Below q)
      ((linkFile source ⟨q.anchor, q.names ++ (above ++ [name])⟩).perform w).2.files := by
  have prepares {dirs : FileSystem} (made : w.files.makeDirectories
      (Path.parent ⟨q.anchor, q.names ++ (above ++ [name])⟩) = .ok dirs) :
      w.files.Prepares q above dirs := by
    rw [Path.parent, ← List.append_assoc, List.dropLast_concat] at made
    exact makeDirectories_prepares formed bare (fun up => down (List.mem_append_left _ up)) made
  unfold linkFile
  refine leaves_bind (leaves_change (leaves_refl formed) fun dirs made =>
    prepares_leaves (prepares made)) fun _ v made left => ?_
  obtain ⟨dirs, directories, rfl⟩ := perform_change_ok.mp made
  have made := prepares directories
  have more : above ++ [name] ≠ [] := by simp
  have below : dirs.Below q = w.files.Below q := below_linked made.upholds.toLinked
  refine leaves_bind (leaves_trans left (below ▸ clear_leaves made.formed made.rooted more down))
    fun _ u cleared left => ?_
  have clears := clear_clears made.formed made.rooted more down cleared
  have rooted := rooted_upholds clears.upholds made.rooted
  have below : u.files.Below q = w.files.Below q :=
    (below_linked clears.upholds.toLinked).trans below
  rw [← below] at left ⊢
  rw [perform_bind, Action.perform_result, Action.perform_change]
  cases second : u.files.hardLink source ⟨q.anchor, q.names ++ (above ++ [name])⟩ with
  | ok g => exact leaves_trans left (hardLink_leaves clears.formed rooted more down second)
  | error fault =>
      have linked : w.files.Leaves (u.files.Below q) ((do
          let target ← Action.inspect fun fs => fs.resolveStrictly source
          Action.change fun fs => fs.symbolicLink (Path.ofLocation target).text
            ⟨q.anchor, q.names ++ (above ++ [name])⟩
          liftM (Effect.detail ("Symbolic link created from " ++ source.text ++ " to "
            ++ Path.text ⟨q.anchor, q.names ++ (above ++ [name])⟩)) :
            Action PUnit).perform u).2.files := by
        refine leaves_bind (leaves_kept left (Action.keeps_inspect _)) fun target t looked _ => ?_
        obtain ⟨-, rfl⟩ := perform_inspect_ok.mp looked
        exact leaves_bind (leaves_change left fun g named =>
          leaves_trans left (symbolicLink_leaves clears.formed rooted more down named))
          fun _ _ _ left => left
      dsimp only
      split
      · exact leaves_bind left fun _ _ failed => by cases failed
      · exact linked

/-- What is linked to itself is a link then, and no file. -/
theorem linkFile_itself {w v : World} (formed : w.files.Formed) (rooted : w.files.Rooted q)
    (down : ".." ∉ above ++ [name])
    (linked : (linkFile ⟨q.anchor, q.names ++ (above ++ [name])⟩
      ⟨q.anchor, q.names ++ (above ++ [name])⟩).perform w = (.ok (), v)) :
    ∃ target, v.files.entryAt? (w.files.resolve q ++ (above ++ [name])) = some (.link target) := by
  obtain ⟨dirs, u, prepares, -, clears, ways⟩ := linkFile_ok formed rooted.bare down linked
  have place : u.resolve q = w.files.resolve q :=
    resolve_linked (linked_trans prepares.upholds.toLinked clears.upholds.toLinked) q
  have located {l : Location}
      (entry : u.locateEntry ⟨q.anchor, q.names ++ (above ++ [name])⟩ = .ok l) :
      l = w.files.resolve q ++ (above ++ [name]) :=
    place ▸ rooted_followed (rooted_upholds clears.upholds prepares.rooted) (.inl (by simp)) down
      entry
  rcases ways with second | ⟨-, target, symbolic⟩
  · -- nothing is left to be linked
    obtain ⟨l, -, e, entry, found, -⟩ := hardLink_ok second
    rw [located entry, clears.entry] at found
    cases found
  · obtain ⟨l, entry, -, same⟩ := symbolicLink_ok symbolic
    rw [same, located entry]
    exact ⟨target, by rw [entryAt_putEntry, if_pos rfl]⟩

/-! ## Files in a directory -/

/-- An entry in a directory is named by its path and a name. -/
theorem locateEntry_into {base l : Location} (directory : f.entryAt? base = some .directory)
    (located : f.locate p = .ok base) (down : name ≠ "..")
    (located' : f.locateEntry ⟨p.anchor, p.names ++ [name]⟩ = .ok l) : l = base ++ [name] := by
  have followed : f.follow false FileSystem.maxLinks (f.start p) (p.names ++ [name]) = .ok l :=
    located'
  cases walked : f.walk false base [name] with
  | error cause =>
      rw [follow_append directory (.inl (by simp)) (.error cause) walked _ _ _ located] at followed
      cases followed
  | ok stop =>
      obtain ⟨-, rfl⟩ := walk_entry down walked
      rw [follow_append directory (.inl (by simp)) (.ok _) walked _ _ _ located] at followed
      exact (Except.ok.inj followed).symm

/-- A file is written in a directory, whatever links there are below it. -/
theorem replaceFile_leaves (formed : f.Formed) (located : f.locate p = .ok (f.resolve p))
    (directory : f.entryAt? (f.resolve p) = some .directory) (down : name ≠ "..")
    {bytes : ByteArray} (written : f.replaceFile ⟨p.anchor, p.names ++ [name]⟩ bytes = .ok g) :
    f.Leaves (f.Below p) g := by
  have formed' := replaceFile_formed formed written
  obtain ⟨dirs, l, made, located', solid, rfl⟩ := replaceFile_ok written
  have accrues := makeDirectories_accrues made
  have retains := upholds_retains (accrues_upholds accrues)
  have within : f.Below p l := by
    rw [locateEntry_into (accrues.entry _ _ directory)
      (locate_retains retains directory located) down located']
    exact List.prefix_append _ _
  have others (l' : Location) (other : l ≠ l') :
      (dirs.putFile l bytes).entryAt? l' = dirs.entryAt? l' := by
    rw [entryAt_putFile, if_neg other]
  refine leaves_trans (accrues_leaves formed accrues) (leaves_of_entries formed' rfl
    (fun l' found => ?_) fun l' outside => .inl (others l' fun same => outside (same ▸ within)))
  rw [others l' fun same => solid (same ▸ found), found]

end MavenImport
