/-
# Proofs.Confinement -- unpacking stays in its directory

An archive is hostile: its members may have any names.  Before the first of them is written all
are followed from the destination, and if one leads out of it nothing is written at all.  What is
written then is written below the destination, since a name that is safe goes down and there are
no links (`FileSystem.ChangesBelow`), and this holds however far the extraction comes
(`unpack_confined`).

One thing goes further than the directory: a member may be written to a file that has a second
name outside.  The bytes of a file are the same under all its names, so what shows there changes
too (`member_reaches_out`).
-/
import MavenImport.Proofs.ResolvedPlaces
import MavenImport.Proofs.WriteOnce

namespace MavenImport

open MavenImport.Action (perform_bind perform_bind_ok perform_change_ok perform_inspect_ok
  perform_ofExcept_ok)
open Archive (Zip Member)

set_option autoImplicit false

namespace FileSystem

/-- The second file system comes from the first one by making directories and files below a
directory, the files at some locations there, and there are no links there. -/
structure ChangesBelow (f : FileSystem) (root : Location) (written : Location → Prop)
    (g : FileSystem) : Prop where
  formed : g.Formed
  bare : g.Bare root
  directory : g.entryAt? root = some .directory
  fresh : f.fresh ≤ g.fresh
  entry : ∀ l, ¬ root <+: l → g.entryAt? l = f.entryAt? l
  /-- A file at these locations is new or was at one of them. -/
  owned : ∀ l i, written l → g.entryAt? l = some (.file i) →
    f.fresh ≤ i ∨ ∃ l', written l' ∧ f.entryAt? l' = some (.file i)
  /-- A file without a name at these locations keeps its content. -/
  content : ∀ i, i < f.fresh → (∀ l, written l → f.entryAt? l ≠ some (.file i)) →
    g.content i = f.content i

/-- At a location there is what there was, or a directory that was made on the way of a path. -/
def KeptAt (f : FileSystem) (p : Path) (g : FileSystem) (l : Location) : Prop :=
  g.seen? l = f.seen? l ∨
    f.seen? l = none ∧ g.seen? l = some .directory ∧ f.OnTheWay p l

end FileSystem

open FileSystem (ChangesBelow)

/-- The locations below a directory to which the members of an archive are written. -/
def Archive.Zip.Fills (z : Zip) (root l : Location) : Prop :=
  ∃ m ∈ z.members, l = root ++ (Path.ofString m.name).names

variable {f g h : FileSystem} {root : Location} {written : Location → Prop}

/-! ## Changes below a directory -/

theorem below_refl (formed : f.Formed) (bare : f.Bare root)
    (directory : f.entryAt? root = some .directory) : f.ChangesBelow root written f where
  formed := formed
  bare := bare
  directory := directory
  fresh := Nat.le_refl _
  entry _ _ := rfl
  owned l _ own found := .inr ⟨l, own, found⟩
  content _ _ _ := rfl

theorem below_trans (first : f.ChangesBelow root written g)
    (second : g.ChangesBelow root written h) : f.ChangesBelow root written h where
  formed := second.formed
  bare := second.bare
  directory := second.directory
  fresh := Nat.le_trans first.fresh second.fresh
  entry l apart := (second.entry l apart).trans (first.entry l apart)
  owned l i own found := by
    rcases second.owned l i own found with new | ⟨l', own', found'⟩
    · exact .inl (Nat.le_trans first.fresh new)
    · exact first.owned l' i own' found'
  content i old unnamed := by
    refine (second.content i (Nat.lt_of_lt_of_le old first.fresh) fun l own found => ?_).trans
      (first.content i old unnamed)
    rcases first.owned l i own found with new | ⟨l', own', found'⟩
    · exact absurd old (Nat.not_lt.mpr new)
    · exact unnamed l' own' found'

/-- What shows outside the directory is the same, unless it is a file with a name where something is
written. -/
theorem below_seen (below : f.ChangesBelow root written g) {l : Location}
    (apart : ¬ root <+: l) : g.seen? l = f.seen? l ∨
      ∃ i l', f.entryAt? l = some (.file i) ∧ written l' ∧ f.entryAt? l' = some (.file i) := by
  unfold FileSystem.seen?
  rw [below.entry l apart]
  rcases entry : f.entryAt? l with - | ⟨- | i | target⟩
  · exact .inl rfl
  · exact .inl rfl
  · by_cases named : ∃ l', written l' ∧ f.entryAt? l' = some (.file i)
    · obtain ⟨l', own, found⟩ := named
      exact .inr ⟨i, l', rfl, own, found⟩
    · have same := below.content i (FileSystem.inode_lt_fresh entry) fun l' own found =>
        named ⟨l', own, found⟩
      exact .inl (by simp [FileSystem.see, same])
  · exact .inl rfl

section Steps

variable {names : List String} (formed : f.Formed) (bare : f.Bare root) (low : ".." ∉ root)
  (directory : f.entryAt? root = some .directory) (down : ".." ∉ names)
include formed bare low directory down

/-- Directories on the way to what is below are below too, or there already. -/
theorem makeDirectories_below {above : List String} (leading : above <+: root ++ names)
    (made : f.makeDirectories ⟨.root, above⟩ = .ok g) : f.ChangesBelow root written g := by
  have direct := direct_below formed low directory bare down
  have place (l : Location) (onTheWay : f.OnTheWay ⟨.root, above⟩ l)
      (absent : f.entryAt? l = none) : root <+: l := by
    obtain ⟨upper, further, rfl⟩ := onTheWay
    have whole := further.trans leading
    have spelled : f.resolve ⟨.root, upper⟩ = upper :=
      resolveFrom_unlinked _ upper [] (fun up => direct.down (whole.subset up))
        fun above leading => direct.unlinked above (leading.trans whole)
    rw [spelled] at absent ⊢
    rcases List.prefix_or_prefix_of_prefix whole (List.prefix_append root names) with
      ⟨rest, rfl⟩ | below
    · by_cases last : rest = []
      · simp [last]
      · rw [directory_above formed rest upper last (by simp [directory])] at absent
        cases absent
    · exact below
  have entries := makeDirectories_places made
  have kept (l : Location) (i : Nat) (found : g.entryAt? l = some (.file i)) :
      f.entryAt? l = some (.file i) := by
    rcases entries l with same | ⟨-, made', -⟩
    · exact same ▸ found
    · rw [made'] at found
      cases found
  exact
    { formed := makeParents_formed _ formed made
      bare := bare_linked (makeDirectories_linked made) bare
      directory := by
        rcases entries root with same | ⟨-, made', -⟩
        · rw [same, directory]
        · exact made'
      fresh := (makeDirectories_spares made).fresh
      entry := fun l apart => (entries l).resolve_right fun ⟨absent, _, onTheWay⟩ =>
        apart (place l onTheWay absent)
      owned := fun l i own found => .inr ⟨l, own, kept l i found⟩
      content := fun i _ _ => by
        unfold FileSystem.content
        rw [makeDirectories_contents made] }

omit low down in
/-- What is written to a file with a name at one of the locations changes no other file. -/
theorem writeContent_below {i : Nat} {l : Location} (own : written l)
    (entry : f.entryAt? l = some (.file i)) (bytes : ByteArray) :
    f.ChangesBelow root written (f.writeContent i bytes) where
  formed := ⟨formed.root, formed.here, formed.placed⟩
  bare := bare
  directory := directory
  fresh := Nat.le_refl _
  entry _ _ := rfl
  owned l _ own found := .inr ⟨l, own, found⟩
  content j _ unnamed := by
    have other : i ≠ j := fun same => unnamed l own (same ▸ entry)
    unfold FileSystem.content FileSystem.writeContent
    rw [Table.find?_put, if_neg other]

omit formed low down in
/-- A file is put below the directory where there is no other directory. -/
theorem putFile_below {l : Location} {bytes : ByteArray} (formed' : (f.putFile l bytes).Formed)
    (within : root <+: l) (solid : f.entryAt? l ≠ some .directory) :
    f.ChangesBelow root written (f.putFile l bytes) where
  formed := formed'
  bare below target := by
    rw [entryAt_putFile]
    split
    · simp
    · exact bare below target
  directory := by
    rw [entryAt_putFile, if_neg, directory]
    rintro rfl
    exact solid directory
  fresh := Nat.le_succ _
  entry l' apart := by
    rw [entryAt_putFile, if_neg]
    rintro rfl
    exact apart within
  owned l' i own found := by
    rw [entryAt_putFile] at found
    split at found
    · cases found
      exact .inl (Nat.le_refl _)
    · exact .inr ⟨l', own, found⟩
  content i old _ := (putFile_spares f _ _).content i old

/-- A file that is opened at one of the locations is one with a name there. -/
theorem truncateFile_below {i : Nat} (own : written (root ++ names))
    (opened : f.truncateFile ⟨.root, root ++ names⟩ = .ok (g, i)) :
    f.ChangesBelow root written g ∧ g.entryAt? (root ++ names) = some (.file i) := by
  have direct := direct_below formed low directory bare down
  have within : root <+: root ++ names := List.prefix_append root names
  unfold FileSystem.truncateFile at opened
  cases located : f.locate ⟨.root, root ++ names⟩ with
  | error cause => rw [located] at opened; cases opened
  | ok l =>
      obtain ⟨rfl, -⟩ := follow_direct direct located
      rw [located] at opened
      rw [List.nil_append] at opened located
      dsimp only at opened
      rcases entry : f.entryAt? (root ++ names) with - | ⟨- | j | target⟩ <;>
        rw [entry] at opened <;> simp only [Except.ok.injEq, Prod.mk.injEq, reduceCtorEq] at opened
      · obtain ⟨rfl, rfl⟩ := opened
        have other : f.entryAt? (root ++ names) ≠ some .directory := by simp [entry]
        have formed' : (f.putFile (root ++ names) .empty).Formed :=
          followed_formed formed located other rfl (entryAt_putFile _ · _)
        refine ⟨putFile_below bare directory formed' within other, ?_⟩
        rw [entryAt_putFile, if_pos rfl]
      · obtain ⟨rfl, rfl⟩ := opened
        exact ⟨writeContent_below formed bare directory own entry .empty, entry⟩

end Steps

/-! ## Members -/

section Members

variable {α β : Type} {w : World}

theorem below_bind {a : Action α} {k : α → Action β}
    (first : w.files.ChangesBelow root written (a.perform w).2.files)
    (second : ∀ x v, a.perform w = (.ok x, v) → w.files.ChangesBelow root written v.files →
      v.files.ChangesBelow root written ((k x).perform v).2.files) :
    w.files.ChangesBelow root written ((a >>= k).perform w).2.files := by
  rw [perform_bind]
  rcases run : a.perform w with ⟨fault | x, v⟩ <;> rw [run] at first
  · exact first
  · exact below_trans first (second x v run first)

variable (formed : w.files.Formed) (bare : w.files.Bare root) (low : ".." ∉ root)
  (directory : w.files.entryAt? root = some .directory)
include formed bare directory

theorem below_kept {a : Action α} (kept : Action.Keeps World.files a) :
    w.files.ChangesBelow root written (a.perform w).2.files := by
  rw [kept w]
  exact below_refl formed bare directory

theorem below_change {write : FileSystem → Except Files.Fault FileSystem}
    (changes : ∀ g, write w.files = .ok g → w.files.ChangesBelow root written g) :
    w.files.ChangesBelow root written ((Action.change write).perform w).2.files := by
  rw [Action.perform_change]
  cases written : write w.files with
  | ok g => exact changes g written
  | error fault => exact below_refl formed bare directory

include low

theorem writeMember_below {names : List String} (down : ".." ∉ names)
    (own : written (root ++ names)) (z : Zip) (m : Member) :
    w.files.ChangesBelow root written
      ((Archive.writeMember z m ⟨.root, root ++ names⟩).perform w).2.files := by
  unfold Archive.writeMember
  refine below_bind (below_change formed bare directory fun g made =>
    makeDirectories_below formed bare low directory down (List.dropLast_prefix _) made)
    fun _ v _ made => ?_
  refine below_bind (below_kept made.formed made.bare made.directory
    (Action.keeps_ofExcept _ _)) fun start u found there => ?_
  obtain ⟨-, rfl⟩ := perform_ofExcept_ok.mp found
  refine below_bind (below_kept there.formed there.bare there.directory
    (Action.keeps_inspect _)) fun opened u found _ => ?_
  obtain ⟨files, i⟩ := opened
  obtain ⟨truncated, rfl⟩ := perform_inspect_ok.mp found
  obtain ⟨emptied, entry⟩ :=
    truncateFile_below there.formed there.bare low there.directory down own truncated
  have write (bytes : ByteArray) : files.ChangesBelow root written (files.writeContent i bytes) :=
    writeContent_below emptied.formed emptied.bare emptied.directory own entry bytes
  dsimp only
  refine below_bind emptied fun _ u entered _ => ?_
  cases entered
  rcases z.contents m start with ⟨bytes, - | fault⟩
  · exact write bytes
  · exact write _

/-- However far the members are written, everything else stays. -/
theorem writeAll_below (z : Zip) (ms : List Member)
    (owns : ∀ m ∈ ms, written (root ++ (Path.ofString m.name).names)) : ∀ (count total : Nat),
    w.files.ChangesBelow root written
      ((Archive.writeAll z (Path.ofLocation root) count total ms).perform w).2.files := by
  induction ms generalizing w with
  | nil => exact fun _ _ => below_refl formed bare directory
  | cons m ms ih =>
      obtain ⟨own, owns⟩ := List.forall_mem_cons.mp owns
      intro count total
      unfold Archive.writeAll
      split
      · exact ih formed bare directory owns count total
      · dsimp only
        split
        · exact below_refl formed bare directory
        · next passed =>
            have safe : Archive.isUnsafeName m.name = false := by
              simp only [Bool.or_eq_true, not_or, Bool.not_eq_true] at passed
              exact passed.1.1.1
            obtain ⟨relative, down⟩ := safe_name safe
            have joined : (Path.ofLocation root).joinText m.name
                = ⟨.root, root ++ (Path.ofString m.name).names⟩ := by
              rw [Path.joinText, Path.join, if_pos relative, Path.ofLocation]
            rw [joined]
            split
            · refine below_bind (below_change formed bare directory fun g made =>
                makeDirectories_below formed bare low directory down List.prefix_rfl made)
                fun _ v _ there => ?_
              exact ih there.formed there.bare there.directory owns _ _
            · refine below_bind (writeMember_below formed bare low directory down own z m)
                fun _ v _ there => ?_
              exact ih there.formed there.bare there.directory owns _ _

end Members

/-! ## Archives -/

namespace Archive

/-- The two ways in which an archive file is unpacked: as it is, or as an Android library. -/
inductive Unpacking
  | whole
  | library

/-- Unpacks an archive file into a directory. -/
def Unpacking.run : Unpacking → Path → Path → Action Unit
  | whole => unzip
  | library => Aar.unpack

/-- The archive that is unpacked of one that was opened, and how it is called. -/
def Unpacking.picks (path : Path) (z : Zip) : Unpacking → Except Fault (Zip × String)
  | whole => .ok (z, path.text)
  | library => (Aar.nested? z).map fun
    | none => (z, path.text)
    | some (name, nested) => (nested, path.text ++ "!" ++ name)

/-- The archive that is unpacked of a file. -/
def Unpacking.pick (how : Unpacking) (f : FileSystem) (path : Path) :
    Except MavenImport.Fault (Zip × String) := do
  let bytes ← (f.readFile path).mapError .file
  let z ← (Zip.ofBytes bytes).mapError .archive
  (how.picks path z).mapError .archive

/-- An archive itself is unpacked under the name of its file. -/
theorem pick_whole {f : FileSystem} {path : Path} {bytes : ByteArray} {z : Zip}
    (readable : f.readFile path = .ok bytes) (opened : Zip.ofBytes bytes = .ok z) :
    Unpacking.whole.pick f path = .ok (z, path.text) := by
  unfold Unpacking.pick
  rw [readable]
  simp only [Except.mapError, bind, Except.bind, opened, Unpacking.picks]

/-- The name of a member leads out of a directory. -/
def Member.Escapes (f : FileSystem) (root : Location) (m : Member) : Prop :=
  ¬ root <+: targetOf f root m

end Archive

section Extraction

open Archive (Unpacking)

variable {w v : World} {destination : Path} {z : Zip} {source : String}

theorem keptAt_refl (f : FileSystem) (p : Path) (l : Location) : f.KeptAt p f l := .inl rfl

/-- To make the directories of a path is all that may show of it. -/
theorem makeDirectories_kept (made : f.makeDirectories destination = .ok g) (l : Location) :
    f.KeptAt destination g l := by
  have contents := makeDirectories_contents made
  unfold FileSystem.KeptAt FileSystem.seen?
  rcases makeDirectories_places made l with same | ⟨absent, directory, onTheWay⟩
  · left
    rw [same]
    congr 1
    funext e
    cases e <;> simp only [FileSystem.see, FileSystem.content, contents]
  · right
    rw [absent, directory]
    exact ⟨rfl, rfl, onTheWay⟩

/-- Which member leads out depends on the links only. -/
theorem escaping_linked (linked : f.Linked g) (root : Location) (ms : List Member) :
    Archive.escaping? g root ms = Archive.escaping? f root ms := by
  unfold Archive.escaping? Archive.targetOf
  simp only [resolve_linked linked]

/-- After the destination has been made, an archive is refused or its members are written. -/
theorem perform_extractTo_made (made : w.files.makeDirectories destination = .ok g) :
    (z.extractTo source destination).perform w
      = match Archive.escaping? w.files (w.files.resolve destination) z.members with
        | some m => (.error (.escapingMember m.name source), { w with files := g })
        | none => (Archive.writeAll z (Path.ofLocation (w.files.resolve destination)) 0 0
            z.members).perform { w with files := g } := by
  have linked := makeDirectories_linked made
  unfold Archive.Zip.extractTo
  rw [perform_bind, perform_change_ok.mpr ⟨g, made, rfl⟩]
  dsimp only
  rw [Action.perform_get_bind]
  dsimp only
  rw [resolve_linked linked, escaping_linked linked]
  cases Archive.escaping? w.files (w.files.resolve destination) z.members <;> rfl

/-- If the destination can be made, an archive is extracted below it. -/
theorem extractTo_below (z : Zip) (source : String) (formed : w.files.Formed)
    (low : ".." ∉ w.files.here)
    (bare : w.files.Bare (w.files.resolve destination)) :
    (∃ fault, (z.extractTo source destination).perform w = (.error fault, w)) ∨
      ∃ g, w.files.makeDirectories destination = .ok g ∧
        g.ChangesBelow (w.files.resolve destination) (z.Fills (w.files.resolve destination))
          ((z.extractTo source destination).perform w).2.files := by
  cases made : w.files.makeDirectories destination with
  | error fault =>
      refine .inl ⟨.file fault, ?_⟩
      unfold Archive.Zip.extractTo
      rw [perform_bind, Action.perform_change, made]
  | ok g =>
      refine .inr ⟨g, rfl, ?_⟩
      have formed' : g.Formed := makeParents_formed _ formed made
      have bare' := bare_linked (makeDirectories_linked made) bare
      have there := makeDirectories_there made
      rw [perform_extractTo_made made]
      cases Archive.escaping? w.files (w.files.resolve destination) z.members with
      | some m => exact below_refl formed' bare' there
      | none =>
          exact writeAll_below (w := { w with files := g }) formed' bare'
            (resolve_low low destination) there z z.members (fun m listed => ⟨m, listed, rfl⟩) 0 0

/-- Where there is a file when directories have been made, it was before. -/
theorem makeDirectories_file (made : f.makeDirectories destination = .ok g) {l : Location} {i : Nat}
    (found : g.entryAt? l = some (.file i)) : f.entryAt? l = some (.file i) := by
  rcases makeDirectories_places made l with same | ⟨-, directory, -⟩
  · exact same ▸ found
  · rw [directory] at found
    cases found

/-- A file without a name where members are written has its content when an archive is extracted. -/
theorem extractTo_content (z : Zip) (source : String) (formed : w.files.Formed)
    (low : ".." ∉ w.files.here)
    (bare : w.files.Bare (w.files.resolve destination)) {i : Nat} (old : i < w.files.fresh)
    (unnamed : ∀ l, z.Fills (w.files.resolve destination) l →
      w.files.entryAt? l ≠ some (.file i)) :
    ((z.extractTo source destination).perform w).2.files.content i = w.files.content i := by
  rcases extractTo_below z source formed low bare with
    ⟨fault, failed⟩ | ⟨g, made, below⟩
  · rw [failed]
  · have spares := makeDirectories_spares made
    exact (below.content i (Nat.lt_of_lt_of_le old spares.fresh) fun l own found =>
      unnamed l own (makeDirectories_file made found)).trans (spares.content i old)

/-- What is left outside the destination when an archive is extracted. -/
theorem extractTo_confined (formed : w.files.Formed) (low : ".." ∉ w.files.here)
    (bare : w.files.Bare (w.files.resolve destination)) {l : Location}
    (apart : ¬ w.files.resolve destination <+: l) :
    w.files.KeptAt destination ((z.extractTo source destination).perform w).2.files l ∨
      ∃ i l', w.files.entryAt? l = some (.file i) ∧ w.files.resolve destination <+: l' ∧
        w.files.entryAt? l' = some (.file i) := by
  rcases extractTo_below z source formed low bare with
    ⟨fault, failed⟩ | ⟨g, made, below⟩
  · rw [failed]
    exact .inl (keptAt_refl _ _ _)
  · rcases below_seen below apart with
      same | ⟨i, l', found, ⟨m, -, rfl⟩, found'⟩
    · left
      unfold FileSystem.KeptAt
      rw [same]
      exact makeDirectories_kept made l
    · exact .inr ⟨i, _, makeDirectories_file made found, List.prefix_append _ _,
        makeDirectories_file made found'⟩

/-- Unpacking extracts the archive that is picked.  If none can be, nothing changes. -/
theorem perform_unpacking (how : Unpacking) (path destination : Path) (w : World) :
    (how.run path destination).perform w = match how.pick w.files path with
      | .ok (z, source) => (z.extractTo source destination).perform w
      | .error fault => (.error fault, w) := by
  cases read : w.files.readFile path with
  | error fault =>
      have unread : (Zip.ofFile path).perform w = (.error (.file fault), w) := by
        simp [Archive.Zip.ofFile, perform_bind, read, Except.mapError]
      have none : how.pick w.files path = .error (.file fault) := by
        simp [Archive.Unpacking.pick, read, Except.mapError, bind, Except.bind]
      rw [none]
      cases how <;> simp [Archive.Unpacking.run, Archive.unzip, Aar.unpack, perform_bind, unread]
  | ok bytes => cases opened : Zip.ofBytes bytes with
    | error fault =>
        have unopened : (Zip.ofFile path).perform w = (.error (.archive fault), w) := by
          simp [Archive.Zip.ofFile, perform_bind, read, opened, Except.mapError,
            Action.perform_ofExcept]
        have none : how.pick w.files path = .error (.archive fault) := by
          simp [Archive.Unpacking.pick, read, opened, Except.mapError, bind, Except.bind]
        rw [none]
        cases how <;>
          simp [Archive.Unpacking.run, Archive.unzip, Aar.unpack, perform_bind, unopened]
    | ok z =>
        have opens : (Zip.ofFile path).perform w = (.ok z, w) := by
          simp [Archive.Zip.ofFile, perform_bind, read, opened, Except.mapError,
            Action.perform_ofExcept]
        have pick : how.pick w.files path = (how.picks path z).mapError .archive := by
          simp [Archive.Unpacking.pick, read, opened, Except.mapError, bind, Except.bind]
        rw [pick]
        cases how with
        | whole =>
            simp [Archive.Unpacking.run, Archive.unzip, perform_bind, opens,
              Archive.Unpacking.picks, Except.mapError]
        | library =>
            rcases nested : Aar.nested? z with fault | - | ⟨name, inner⟩ <;>
              simp [Archive.Unpacking.run, Aar.unpack, perform_bind, opens, nested,
                Archive.Unpacking.picks, Except.mapError, Except.map, Action.perform_ofExcept]

/-- A file without a name where members are written has its content when an archive is unpacked. -/
theorem unpacking_content (how : Unpacking) (path : Path) (formed : w.files.Formed)
    (low : ".." ∉ w.files.here) {i : Nat} (old : i < w.files.fresh)
    (spared : ∀ z source, how.pick w.files path = .ok (z, source) →
      w.files.Bare (w.files.resolve destination) ∧
        ∀ l, z.Fills (w.files.resolve destination) l → w.files.entryAt? l ≠ some (.file i)) :
    ((how.run path destination).perform w).2.files.content i = w.files.content i := by
  rw [perform_unpacking]
  cases picked : how.pick w.files path with
  | error fault => rfl
  | ok found =>
      obtain ⟨bare, unnamed⟩ := spared found.1 found.2 picked
      exact extractTo_content _ _ formed low bare old unnamed

/-- Whatever an archive holds and however unpacking it ends, outside the destination there is what
there was and the directories on the way there, apart from files that have a name within.  If the
archive that is picked has a member that leads out of the destination, then the first such member
is refused and there is nothing new at all but these directories, or the destination cannot be
made. -/
theorem unpack_confined (w : World) (formed : w.files.Formed) (low : ".." ∉ w.files.here)
    (how : Unpacking) (path destination : Path)
    (bare : w.files.Bare (w.files.resolve destination)) :
    (∀ l, ¬ w.files.resolve destination <+: l →
      w.files.KeptAt destination ((how.run path destination).perform w).2.files l ∨
        ∃ i l', w.files.entryAt? l = some (.file i) ∧ w.files.resolve destination <+: l' ∧
          w.files.entryAt? l' = some (.file i)) ∧
    ∀ z source, how.pick w.files path = .ok (z, source) →
      (∃ m ∈ z.members, m.Escapes w.files (w.files.resolve destination)) →
        (∃ fault, w.files.makeDirectories destination = .error fault ∧
          (how.run path destination).perform w = (.error (.file fault), w)) ∨
        ((∃ before m after, z.members = before ++ m :: after ∧
            (∀ other ∈ before, ¬ other.Escapes w.files (w.files.resolve destination)) ∧
            m.Escapes w.files (w.files.resolve destination) ∧
            ((how.run path destination).perform w).1 = .error (.escapingMember m.name source)) ∧
          ∀ l, w.files.KeptAt destination ((how.run path destination).perform w).2.files l) := by
  rw [perform_unpacking]
  refine ⟨fun l apart => ?_, fun z source picked => ?_⟩
  · cases how.pick w.files path with
    | error fault => exact .inl (keptAt_refl _ _ _)
    | ok picked => exact extractTo_confined formed low bare apart
  · rintro ⟨bad, listed, escapes⟩
    rw [picked]
    dsimp only
    cases made : w.files.makeDirectories destination with
    | error fault =>
        refine .inl ⟨fault, rfl, ?_⟩
        unfold Archive.Zip.extractTo
        rw [perform_bind, Action.perform_change, made]
    | ok g =>
        rw [perform_extractTo_made made]
        cases first : Archive.escaping? w.files (w.files.resolve destination) z.members with
        | none =>
            have inside := List.find?_eq_none.mp first bad listed
            rw [Bool.not_eq_true, Bool.not_eq_false', List.isPrefixOf_iff_prefix] at inside
            exact absurd inside escapes
        | some m =>
            obtain ⟨outside, before, after, split, inside⟩ := List.find?_eq_some_iff_append.mp first
            rw [Bool.not_eq_true', ← Bool.not_eq_true, List.isPrefixOf_iff_prefix] at outside
            refine .inr ⟨⟨before, m, after, split, fun other earlier => ?_, outside, rfl⟩,
              makeDirectories_kept made⟩
            have within := inside other earlier
            rw [Bool.not_not, List.isPrefixOf_iff_prefix] at within
            exact not_not_intro within

end Extraction

/-! ## A member that leads out -/

namespace Hostile

open Archive (Unpacking endRecord readDirectory withLimits)

/-- The bytes of an archive with one member, without content, beside the destination. -/
def bytes : ByteArray := ⟨#[
    80, 75, 3, 4, 20, 0, 0, 0, 0, 0, 0, 0, 33, 0, 0, 0, 0, 0, 0, 0, 0, 0, 0, 0, 0, 0, 4, 0, 0, 0,
    46, 46, 47, 98, 80, 75, 1, 2, 20, 0, 20, 0, 0, 0, 0, 0, 0, 0, 33, 0, 0, 0, 0, 0, 0, 0, 0, 0, 0,
    0, 0, 0, 4, 0, 0, 0, 0, 0, 0, 0, 0, 0, 0, 0, 0, 0, 0, 0, 0, 0, 46, 46, 47, 98, 80, 75, 5, 6, 0,
    0, 0, 0, 1, 0, 1, 0, 50, 0, 0, 0, 34, 0, 0, 0, 0, 0]⟩

def zip : Zip := ⟨bytes, [Bundle.member "../b" 0 0 0 34]⟩

theorem opened : Zip.ofBytes bytes = .ok zip := by
  have checked : (endRecord bytes).toOption.map
        (fun r => (r.position, r.directorySize, r.directoryOffset, r.wide))
        = some (34 + 50, 50, 34, false) ∧
      readDirectory (bytes.extract 34 (34 + 50)) 0 50 0
        ((bytes.extract 34 (34 + 50)).size + 1)
          = .ok (zip.members.map fun m => { m with limit := 0 }) := by
    decide +kernel
  have limited : withLimits 34 (zip.members.map fun m => { m with limit := 0 }) = zip.members := by
    unfold withLimits
    dsimp only
    rw [List.mergeSort_of_pairwise (by decide)]
    decide
  obtain ⟨found, listed⟩ := checked
  rcases ended : endRecord bytes with fault | ⟨position, directorySize, directoryOffset, wide⟩ <;>
    rw [ended] at found <;> cases found
  have members := ofBytes_ok ended listed
  rwa [show ((34 : Nat) : Int) = 34 from rfl, limited] at members

def files : FileSystem := (FileSystem.empty []).putFile ["a.zip"] bytes

def world : World := ⟨files, ⟨[]⟩, [], ⟨0, []⟩, ⟨[]⟩, "0"⟩

theorem plain : files.Plain :=
  entered_plain (l := []) (e := .file 0) empty_plain rfl (entryAt_putFile _ · _) nofun rfl
    (by decide) (by decide)

theorem picked : Unpacking.whole.pick files (.ofString "a.zip") = .ok (zip, "a.zip") := by
  have straight : (Path.ofString "a.zip").Straight := show ".." ∉ ["a.zip"] by decide
  have readable : files.readFile (.ofString "a.zip") = .ok bytes := by
    refine (readFile_plain plain straight).mpr ?_
    rw [show files.placeOf (.ofString "a.zip") = ["a.zip"] by decide]
    exact (putFile_seen _ _ _).trans (if_pos rfl)
  have called : (Path.ofString "a.zip").text = "a.zip" := by decide
  rw [Archive.pick_whole readable opened, called]

theorem place : files.resolve (.ofString "out") = ["out"] := by
  rw [resolve_plain plain Bundle.out_straight]
  decide

theorem escapes : (Bundle.member "../b" 0 0 0 34).Escapes files ["out"] := by
  have names : (Path.ofLocation ["out"]).joinText "../b" = ⟨.root, ["out", "..", "b"]⟩ := by decide
  have target : Archive.targetOf files ["out"] (Bundle.member "../b" 0 0 0 34) = ["b"] := by
    show files.resolve ((Path.ofLocation ["out"]).joinText "../b") = ["b"]
    rw [names]
    show files.resolveFrom _ [] ["out", "..", "b"] = ["b"]
    rw [resolveFrom_step (by decide) (plain.unlinked _), resolveFrom_up,
      resolveFrom_step (by decide) (plain.unlinked _), FileSystem.resolveFrom]
    rfl
  rw [Archive.Member.Escapes, target]
  decide

theorem makes : (files.makeDirectories (.ofString "out")).isOk = true := by decide

end Hostile

open Archive (Unpacking) in
/-- The member is refused by its name. -/
theorem hostile_refused :
    (Hostile.world.files.Formed ∧ ".." ∉ Hostile.world.files.here ∧
      Hostile.world.files.Bare (Hostile.world.files.resolve (.ofString "out"))) ∧
    ((Unpacking.whole.run (.ofString "a.zip") (.ofString "out")).perform Hostile.world).1
      = .error (.escapingMember "../b" "a.zip") := by
  have formed : Hostile.world.files.Formed := Hostile.plain.toFormed
  have low : ".." ∉ Hostile.world.files.here := List.not_mem_nil
  have bare : Hostile.world.files.Bare (Hostile.world.files.resolve (.ofString "out")) :=
    fun _ => Hostile.plain.unlinked _
  refine ⟨⟨formed, low, bare⟩, ?_⟩
  obtain ⟨-, refused⟩ := unpack_confined Hostile.world formed low .whole (.ofString "a.zip")
    (.ofString "out") bare
  rcases refused Hostile.zip "a.zip" Hostile.picked
      ⟨_, List.mem_cons_self, Hostile.place ▸ Hostile.escapes⟩ with
    ⟨fault, failed, -⟩ | ⟨⟨before, m, after, split, -, -, answer⟩, -⟩
  · have made := Hostile.makes
    rw [show Hostile.files.makeDirectories _ = _ from failed] at made
    cases made
  · have listed : m ∈ Hostile.zip.members := by rw [split]; simp
    obtain rfl := List.mem_singleton.mp listed
    exact answer

/-! ## A file with a name outside -/

namespace Shared

open Archive (Unpacking)

/-- A file outside the destination, and the destination. -/
def outside : FileSystem :=
  (Bundle.files.putFile ["kept"] "x".toUTF8).putEntry ["out"] .directory

/-- The file has a second name, that of a member in the destination. -/
def files : FileSystem := outside.putEntry ["out", "AndroidManifest.xml"] (.file 1)

def world : World := { Bundle.world with files := files }

theorem plain : files.Plain := by
  have kept : (Bundle.files.putFile ["kept"] "x".toUTF8).Plain :=
    entered_plain (l := []) Bundle.plain rfl (entryAt_putFile _ · _) nofun rfl (by decide)
      (by decide)
  have made : outside.Plain :=
    entered_plain (l := []) kept rfl (entryAt_putEntry _ · _) nofun rfl (by decide) (by decide)
  exact entered_plain (l := ["out"]) made rfl (entryAt_putEntry _ · _) nofun (by decide)
    (by decide) (by decide)

theorem picked : Unpacking.whole.pick files (.ofString "a.aar") = .ok (Bundle.zip, "a.aar") := by
  have straight : (Path.ofString "a.aar").Straight := show ".." ∉ ["a.aar"] by decide
  have readable : files.readFile (.ofString "a.aar") = .ok Bundle.bytes := by
    refine (readFile_plain plain straight).mpr ?_
    rw [show files.placeOf (.ofString "a.aar") = ["a.aar"] by decide]
    exact seen_file.mpr ⟨0, by decide, rfl⟩
  have called : (Path.ofString "a.aar").text = "a.aar" := by decide
  rw [Archive.pick_whole readable Bundle.opened, called]

theorem place : files.resolve (.ofString "out") = ["out"] := by
  rw [resolve_plain plain Bundle.out_straight]
  decide

theorem makes : files.makeDirectories (.ofString "out") = .ok files := by
  have located : files.locate (.ofString "out") = .ok ["out"] := by decide
  exact makeParents_there located (by decide) _

/-- What is left behind. -/
def unpacked : World :=
  ((Archive.writeAll Bundle.zip (Path.ofLocation ["out"]) 0 0 Bundle.zip.members).perform world).2

theorem unpacks :
    ((Unpacking.whole.run (.ofString "a.aar") (.ofString "out")).perform world).2 = unpacked := by
  have safe : ∀ m ∈ Bundle.zip.members, Archive.isUnsafeName m.name = false := by decide
  have inside : Archive.escaping? world.files (world.files.resolve (.ofString "out"))
      Bundle.zip.members = none := by
    rw [show world.files.resolve _ = _ from place]
    exact escaping_none plain (by decide) safe
  rw [perform_unpacking, show Unpacking.whole.pick world.files _ = _ from picked]
  dsimp only
  rw [perform_extractTo_made (w := world) makes, inside, show world.files.resolve _ = _ from place]
  rfl

end Shared

open Archive (Unpacking) in
/-- A member that is written to a file with a name outside changes what shows there. -/
theorem member_reaches_out :
    ¬ ∀ (w : World) (how : Unpacking) (path destination : Path), w.files.Formed →
      ".." ∉ w.files.here → w.files.Bare (w.files.resolve destination) →
      ∀ l, ¬ w.files.resolve destination <+: l →
        w.files.KeptAt destination ((how.run path destination).perform w).2.files l := by
  intro confined
  have apart : ¬ Shared.world.files.resolve (.ofString "out") <+: ["kept"] := by
    rw [show Shared.world.files.resolve _ = _ from Shared.place]
    decide
  have kept := confined Shared.world .whole (.ofString "a.aar") (.ofString "out")
    Shared.plain.toFormed List.not_mem_nil (fun _ => Shared.plain.unlinked _) ["kept"] apart
  have before : Shared.files.entryAt? ["kept"] = some (.file 1) ∧
      Shared.files.content 1 = "x".toUTF8 := by decide
  have after : Shared.unpacked.files.entryAt? ["kept"] = some (.file 1) ∧
      Shared.unpacked.files.content 1 ≠ "x".toUTF8 := by decide +kernel
  rw [Shared.unpacks] at kept
  have shows : Shared.world.files.seen? ["kept"] = some (.file "x".toUTF8) :=
    seen_file.mpr ⟨1, before⟩
  rcases kept with same | ⟨absent, -⟩
  · rw [shows] at same
    obtain ⟨i, there, content⟩ := seen_file.mp same
    rw [after.1] at there
    cases there
    exact after.2 content
  · rw [shows] at absent
    cases absent

end MavenImport
