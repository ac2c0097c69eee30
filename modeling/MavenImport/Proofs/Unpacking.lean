/-
# Proofs.Unpacking -- what is unpacked of an Android library

An Android library is looked at twice: when a workspace is generated it is inspected, and the
labels of its manifest and of its bundled libraries are written; and when it is fetched it is
unpacked, so that these labels lead to files.  Both take the same archive of those nested in each
other, and each member becomes a file where its name leads to (`writeAll_ok`).  So the manifest
and the bundled libraries are there (`bundled_unpacked`), in files without links.

The label of a library leaves out the directories between `libs/` and its last name.  It leads to
a file if the library lies in `libs/` itself, and otherwise it leads nowhere
(`deeper_mislabelled`).
-/
import Mathlib.Data.List.TakeWhile
import MavenImport.Bazel.Declaration
import MavenImport.Proofs.CacheGrowth

namespace MavenImport

open MavenImport.Action (perform_bind perform_bind_ok perform_change_ok perform_inspect_ok
  perform_ofExcept_ok)
open Archive (Zip Member)

set_option autoImplicit false

/-- A path leads to a file that can be read. -/
def FileSystem.HasFile (f : FileSystem) (p : Path) : Prop := ∃ bytes, f.readFile p = .ok bytes

namespace Archive

/-- A member is a file, as against a directory, and is not passed over. -/
def Member.IsFile (m : Member) : Prop :=
  (Text.trim m.name).isEmpty = false ∧ Text.endsWith "/" m.name = false

end Archive

variable {f g : FileSystem} {w v : World}

/-! ## Places -/

theorem resolveFrom_plain (plain : f.Plain) {links : Nat} :
    ∀ (names : List String) (base : Location), ".." ∉ names →
      f.resolveFrom links base names = base ++ names
  | [], base, _ => by rw [FileSystem.resolveFrom, List.append_nil]
  | name :: rest, base, down => by
      simp only [List.mem_cons, not_or] at down
      have later : f.resolveFrom links (base ++ [name]) rest = base ++ [name] ++ rest :=
        resolveFrom_plain plain rest _ down.2
      rw [FileSystem.resolveFrom, if_neg (Ne.symm down.1)]
      dsimp only
      rcases entry : f.entryAt? (base ++ [name]) with - | ⟨- | i | target⟩ <;> dsimp only
      · rw [later, List.append_assoc, List.singleton_append]
      · rw [later, List.append_assoc, List.singleton_append]
      · rw [later, List.append_assoc, List.singleton_append]
      · exact absurd entry (plain.unlinked _ _)

theorem resolve_plain (plain : f.Plain) {p : Path} (straight : p.Straight) :
    f.resolve p = f.placeOf p := resolveFrom_plain plain _ _ straight

/-- A path that can be followed and leads to nothing has a directory above it. -/
theorem locate_through (plain : f.Plain) {p : Path} (straight : p.Straight) {l : Location}
    (located : f.locate p = .ok l) : l = f.placeOf p ∧ ∀ above name, p.names = above ++ [name] →
      f.entryAt? (f.start p ++ above) = some .directory ∧ FileSystem.nameFault? name = none := by
  unfold FileSystem.locate at located
  cases walked : f.walk true (f.start p) p.names with
  | error cause =>
      rw [follow_error walked] at located
      cases located
  | ok stop =>
      obtain ⟨rfl, through⟩ :=
        walk_arrived p.names (f.start p) (direct_start plain straight) walked
      rw [follow_arrived walked] at located
      cases located
      exact ⟨rfl, through⟩

/-! ## Files that are opened -/

/-- What file systems with the same entries have in common. -/
theorem plain_contents (plain : f.Plain) (contents : Table Nat ByteArray) :
    { f with contents := contents }.Plain :=
  ⟨⟨plain.root, plain.here, plain.placed⟩, plain.unlinked⟩

theorem lasts_contents (f : FileSystem) (contents : Table Nat ByteArray) :
    f.Lasts { f with contents := contents } :=
  ⟨rfl, fun _ => id, fun _ i found => ⟨i, found⟩⟩

/-- Where a file is opened for writing there is a file then. -/
theorem truncateFile_ok (plain : f.Plain) {p : Path} (straight : p.Straight) {i : Nat}
    (opened : f.truncateFile p = .ok (g, i)) :
    g.Plain ∧ f.Lasts g ∧ g.entryAt? (f.placeOf p) = some (.file i) := by
  unfold FileSystem.truncateFile at opened
  cases located : f.locate p with
  | error cause =>
      rw [located] at opened
      cases opened
  | ok l =>
      obtain ⟨rfl, through⟩ := locate_through plain straight located
      rw [located] at opened
      dsimp only at opened
      rcases entry : f.entryAt? (f.placeOf p) with - | ⟨- | j | target⟩ <;>
        rw [entry] at opened <;> cases opened
      · have entries : ∀ l, (f.putFile (f.placeOf p) .empty).entryAt? l
            = if f.placeOf p = l then some (.file f.fresh) else f.entryAt? l :=
          fun l => entryAt_putFile _ l _
        have free : f.entryAt? (f.placeOf p) ≠ some .directory := by simp [entry]
        exact ⟨placed_plain plain rfl entries (by simp) through free, putFile_lasts free,
          by rw [entries, if_pos rfl]⟩
      · exact ⟨plain_contents plain _, lasts_contents f _, entry⟩

/-! ## Members that are written -/

section Members

variable {z : Zip}

theorem writeMember_ok (plain : w.files.Plain) {m : Member} {target : Path}
    (straight : target.Straight)
    (written : (Archive.writeMember z m target).perform w = (.ok (), v)) :
    v.files.Plain ∧ w.files.Lasts v.files ∧
      ∃ i, v.files.entryAt? (w.files.placeOf target) = some (.file i) := by
  unfold Archive.writeMember at written
  obtain ⟨_, _, made, written⟩ := perform_bind_ok.mp written
  obtain ⟨files, dirs, rfl⟩ := perform_change_ok.mp made
  obtain ⟨start, _, found, written⟩ := perform_bind_ok.mp written
  obtain ⟨-, rfl⟩ := perform_ofExcept_ok.mp found
  obtain ⟨⟨files', i⟩, _, opened, written⟩ := perform_bind_ok.mp written
  obtain ⟨truncated, rfl⟩ := perform_inspect_ok.mp opened
  have grown := grows_lasts (makeDirectories_grows dirs)
  have led := makeParents_leads _ plain (parent_straight straight) dirs
  obtain ⟨plain', lasts, there⟩ := truncateFile_ok led.plain straight truncated
  rw [placeOf_lasts grown] at there
  obtain ⟨_, _, entered, written⟩ := perform_bind_ok.mp written
  cases entered
  rcases contents : z.contents m start with ⟨bytes, - | fault⟩ <;> rw [contents] at written <;>
    cases written
  exact ⟨plain_contents plain' _, lasts_trans (lasts_trans grown lasts) (lasts_contents _ _),
    i, there⟩

/-- A name that is safe leads down from where it is joined. -/
theorem safe_name {name : String} (safe : Archive.isUnsafeName name = false) :
    (Path.ofString name).anchor = .here ∧ (Path.ofString name).Straight := by
  unfold Archive.isUnsafeName at safe
  simp only [Bool.or_eq_false_iff, decide_eq_false_iff_not, not_not] at safe
  exact ⟨safe.1.1, fun up => by simp [up] at safe⟩

theorem joined_straight {p : Path} (straight : p.Straight) {name : String}
    (safe : Archive.isUnsafeName name = false) : (p.joinText name).Straight := by
  obtain ⟨relative, down⟩ := safe_name safe
  unfold Path.joinText Path.join
  rw [if_pos relative]
  exact fun up => (List.mem_append.mp up).elim straight down

/-- When all members are written, each that is a file is one at its place. -/
theorem writeAll_ok {root : Path} (straight : root.Straight) (ms : List Member) :
    ∀ (count total : Nat) {w v : World}, w.files.Plain →
      (Archive.writeAll z root count total ms).perform w = (.ok (), v) →
        v.files.Plain ∧ w.files.Lasts v.files ∧ ∀ m ∈ ms, m.IsFile →
          Archive.isUnsafeName m.name = false ∧
            ∃ i, v.files.entryAt? (v.files.placeOf (root.joinText m.name)) = some (.file i) := by
  induction ms with
  | nil =>
      intro count total w v plain written
      cases written
      exact ⟨plain, lasts_refl _, fun _ listed => absurd listed List.not_mem_nil⟩
  | cons m ms ih =>
      intro count total w v plain written
      unfold Archive.writeAll at written
      by_cases blank : (Text.trim m.name).isEmpty = true
      · rw [if_pos blank] at written
        obtain ⟨plain', lasts, others⟩ := ih count total plain written
        refine ⟨plain', lasts, fun m' listed isFile => ?_⟩
        rcases List.mem_cons.mp listed with rfl | later
        · exact absurd blank (by rw [isFile.1]; simp)
        · exact others m' later isFile
      · rw [if_neg blank] at written
        dsimp only at written
        split at written
        · cases written
        · rename_i passed
          have safe : Archive.isUnsafeName m.name = false := by
            simp only [Bool.or_eq_true, not_or, Bool.not_eq_true] at passed
            exact passed.1.1.1
          have down := joined_straight straight safe
          obtain ⟨w₁, plain₁, lasts₁, first, written⟩ : ∃ w₁ : World, w₁.files.Plain ∧
              w.files.Lasts w₁.files ∧ (m.IsFile → ∃ i,
                w₁.files.entryAt? (w₁.files.placeOf (root.joinText m.name)) = some (.file i)) ∧
              (Archive.writeAll z root (count + 1) (total + m.size) ms).perform w₁
                = (.ok (), v) := by
            split at written
            · rename_i directory
              obtain ⟨_, _, made, written⟩ := perform_bind_ok.mp written
              obtain ⟨files, dirs, rfl⟩ := perform_change_ok.mp made
              refine ⟨_, (makeParents_leads _ plain down dirs).plain,
                grows_lasts (makeDirectories_grows dirs), fun isFile => ?_, written⟩
              exact absurd directory (by rw [isFile.2]; simp)
            · obtain ⟨_, w₁, made, written⟩ := perform_bind_ok.mp written
              obtain ⟨plain₁, lasts₁, i, there⟩ := writeMember_ok plain down made
              exact ⟨w₁, plain₁, lasts₁,
                fun _ => ⟨i, by rw [placeOf_lasts lasts₁]; exact there⟩, written⟩
          obtain ⟨plain', lasts, others⟩ := ih _ _ plain₁ written
          refine ⟨plain', lasts_trans lasts₁ lasts, fun m' listed isFile => ?_⟩
          rcases List.mem_cons.mp listed with rfl | later
          · obtain ⟨i, there⟩ := first isFile
            rw [placeOf_lasts lasts]
            exact ⟨safe, lasts.file _ i there⟩
          · exact others m' later isFile

end Members

/-! ## Archives that are extracted -/

theorem hasFile_iff (plain : f.Plain) {p : Path} (straight : p.Straight) :
    f.HasFile p ↔ ∃ i, f.entryAt? (f.placeOf p) = some (.file i) := by
  unfold FileSystem.HasFile
  simp only [readFile_plain plain straight, seen_file]
  constructor
  · rintro ⟨_, i, there, -⟩
    exact ⟨i, there⟩
  · rintro ⟨i, there⟩
    exact ⟨_, i, there, rfl⟩

/-- What is extracted to a place is extracted to a path that does not go up. -/
theorem place_straight (low : ".." ∉ f.here) {p : Path} (straight : p.Straight) :
    (Path.ofLocation (f.placeOf p)).Straight := by
  intro up
  rcases List.mem_append.mp up with above | below
  · unfold FileSystem.start at above
    split at above
    · exact low above
    · cases above
  · exact straight below

/-- The same place by the path of the directory and by that of its location. -/
theorem placeOf_joined (destination : Path) {name : String}
    (safe : Archive.isUnsafeName name = false) :
    f.placeOf ((Path.ofLocation (f.placeOf destination)).joinText name)
      = f.placeOf (destination.joinText name) := by
  unfold FileSystem.placeOf Path.joinText Path.join FileSystem.start Path.ofLocation
  rw [if_pos (safe_name safe).1, if_pos (safe_name safe).1]
  simp

/-- Where an archive was extracted, each member that is a file can be read. -/
theorem extractTo_ok (plain : w.files.Plain) (low : ".." ∉ w.files.here) {destination : Path}
    (straight : destination.Straight) {z : Zip} {source : String}
    (extracted : (z.extractTo source destination).perform w = (.ok (), v)) :
    ∀ m ∈ z.members, m.IsFile → v.files.HasFile (destination.joinText m.name) := by
  unfold Archive.Zip.extractTo at extracted
  obtain ⟨_, _, made, extracted⟩ := perform_bind_ok.mp extracted
  obtain ⟨files, dirs, rfl⟩ := perform_change_ok.mp made
  rw [Action.perform_get_bind] at extracted
  dsimp only at extracted
  have led := makeParents_leads _ plain straight dirs
  have grown := grows_lasts (makeDirectories_grows dirs)
  rw [← grown.here] at low
  split at extracted
  · cases extracted
  · rw [resolve_plain led.plain straight] at extracted
    obtain ⟨plain', lasts, all⟩ :=
      writeAll_ok (place_straight low straight) z.members 0 0 led.plain extracted
    intro m listed isFile
    obtain ⟨safe, there⟩ := all m listed isFile
    rw [placeOf_lasts lasts, placeOf_joined destination safe, ← placeOf_lasts lasts] at there
    exact (hasFile_iff plain' (joined_straight straight safe)).mpr ⟨_, there.choose_spec⟩

/-- A safe name does not lead out of a directory. -/
theorem escaping_none (plain : f.Plain) {root : Location} (straight : ".." ∉ root) {ms : List Member}
    (safe : ∀ m ∈ ms, Archive.isUnsafeName m.name = false) :
    Archive.escaping? f root ms = none := by
  refine List.find?_eq_none.mpr fun m listed => ?_
  have down : (Path.ofLocation root).Straight := straight
  have target : Archive.targetOf f root m = root ++ (Path.ofString m.name).names := by
    unfold Archive.targetOf
    rw [resolve_plain plain (joined_straight down (safe m listed))]
    unfold FileSystem.placeOf Path.joinText Path.join FileSystem.start Path.ofLocation
    rw [if_pos (safe_name (safe m listed)).1]
    rfl
  simp [target]

/-- An archive with safe names is extracted by writing its members below the directory. -/
theorem perform_extractTo (plain : w.files.Plain) (low : ".." ∉ w.files.here) {destination : Path}
    (straight : destination.Straight) {z : Zip} (source : String)
    (safe : ∀ m ∈ z.members, Archive.isUnsafeName m.name = false) {files : FileSystem}
    (made : w.files.makeDirectories destination = .ok files) :
    (z.extractTo source destination).perform w
      = (Archive.writeAll z (Path.ofLocation (files.placeOf destination)) 0 0 z.members).perform
          { w with files := files } := by
  have led := makeParents_leads _ plain straight made
  rw [← (grows_lasts (makeDirectories_grows made)).here] at low
  unfold Archive.Zip.extractTo
  rw [perform_bind, perform_change_ok.mpr ⟨files, made, rfl⟩]
  dsimp only
  rw [Action.perform_get_bind]
  dsimp only
  have inside : Archive.escaping? files (files.placeOf destination) z.members = none :=
    escaping_none led.plain (place_straight low straight) safe
  rw [resolve_plain led.plain straight, inside]

/-! ## Names of bundled libraries -/

section Names

/-- A character that is no blank is not trimmed away. -/
theorem trimChars_ne_nil {c : Char} {cs : List Char} (solid : Text.isBlank c = false)
    (held : c ∈ cs) : Text.trimChars cs ≠ [] := by
  have left : c ∈ cs.dropWhile Text.isBlank := by
    rw [← List.takeWhile_append_dropWhile (p := Text.isBlank) (l := cs)] at held
    refine (List.mem_append.mp held).resolve_left fun first => ?_
    rw [List.mem_takeWhile_imp first] at solid
    cases solid
  intro none
  rw [Text.trimChars, List.reverse_eq_nil_iff, List.dropWhile_eq_nil_iff] at none
  rw [none c (List.mem_reverse.mpr left)] at solid
  cases solid

/-- A bundled library lies below `libs/`. -/
theorem bundled_below {library : String} (bundled : Aar.isBundled library = true) :
    ∃ inner, library = "libs/" ++ inner := by
  unfold Aar.isBundled Text.startsWith at bundled
  rw [Bool.and_eq_true] at bundled
  obtain ⟨rest, found⟩ := Option.isSome_iff_exists.mp bundled.1
  refine ⟨String.ofList rest, String.toList_inj.mp ?_⟩
  rw [(Text.afterStart?_eq_some_iff _ _ _).mp found]
  simp

/-- A bundled library is a file and is not passed over. -/
theorem bundled_isFile {m : Member} (bundled : Aar.isBundled m.name = true) : m.IsFile := by
  obtain ⟨inner, below⟩ := bundled_below bundled
  unfold Aar.isBundled at bundled
  rw [Bool.and_eq_true] at bundled
  obtain ⟨rest, found⟩ := Option.isSome_iff_exists.mp bundled.2
  have last : m.name.toList.reverse = ".jar".toList.reverse ++ rest :=
    (Text.afterStart?_eq_some_iff _ _ _).mp found
  constructor
  · have held : 'l' ∈ m.name.toList := by simp [below]
    have kept := trimChars_ne_nil (by decide) held
    rw [Text.trim, Bool.eq_false_iff, ne_eq, String.isEmpty_iff]
    exact fun none => kept (by simpa using congrArg String.toList none)
  · unfold Text.endsWith
    rw [last]
    rfl

end Names

/-! ## The archive that is looked at -/

namespace Aar

/-- The archive that has the manifest: the nested one that was found, or else the outer one. -/
def holder (z : Zip) : Option (String × Zip) → Zip
  | some (_, inner) => inner
  | none => z

/-- What the details of a file are taken from. -/
structure Details (file : Except Files.Fault ByteArray) (details : AarDetails) (z : Zip)
    (inner : Option (String × Zip)) : Prop where
  opened : ∃ bytes, file = .ok bytes ∧ Zip.ofBytes bytes = .ok z
  nested : nested? z = .ok inner
  manifest : manifestName ∈ (holder z inner).names
  libraries : details.libraries = (holder z inner).names.filter isBundled

end Aar

theorem inspect_ok {file : Except Files.Fault ByteArray} {details : AarDetails}
    (inspected : Aar.inspect file = .ok (.ok details)) :
    ∃ z inner, Aar.Details file details z inner := by
  unfold Aar.inspect at inspected
  cases file with
  | error fault => dsimp only at inspected; split at inspected <;> cases inspected
  | ok bytes =>
      dsimp only at inspected
      split at inspected
      · split at inspected <;> cases inspected
      · cases inspected
      · rename_i manifest libraries parts
        have listed : details.libraries = libraries := by
          split at inspected
          · cases inspected
          · cases inspected
          · split at inspected <;> cases inspected
            rfl
        unfold Aar.parts? at parts
        simp only [bind, Except.bind] at parts
        split at parts
        · cases parts
        · rename_i z opened
          split at parts
          · cases parts
          · rename_i inner nested
            have has : Aar.hasManifest (Aar.holder z inner) = true ∧
                libraries = (Aar.holder z inner).names.filter Aar.isBundled := by
              rcases inner with - | ⟨name, inner⟩ <;> dsimp only [Aar.holder] at parts ⊢ <;>
                split at parts
              · rename_i has
                split at parts <;> cases parts
                exact ⟨has, rfl⟩
              · cases parts
              · rename_i has
                split at parts <;> cases parts
                exact ⟨has, rfl⟩
              · cases parts
            exact ⟨z, inner, ⟨bytes, rfl, opened⟩, nested, List.contains_iff_mem.mp has.1,
              listed.trans has.2⟩

/-- What is unpacked is the same archive. -/
theorem unpack_ok {path destination : Path} {z : Zip} {inner : Option (String × Zip)}
    {details : AarDetails} (inspected : Aar.Details (w.files.readFile path) details z inner)
    (unpacked : (Aar.unpack path destination).perform w = (.ok (), v)) :
    ∃ source, ((Aar.holder z inner).extractTo source destination).perform w = (.ok (), v) := by
  unfold Aar.unpack Archive.Zip.ofFile at unpacked
  obtain ⟨z', _, opened, unpacked⟩ := perform_bind_ok.mp unpacked
  obtain ⟨bytes, _, read, opened⟩ := perform_bind_ok.mp opened
  obtain ⟨readable, rfl⟩ := perform_inspect_ok.mp read
  obtain ⟨archive, rfl⟩ := perform_ofExcept_ok.mp opened
  obtain ⟨bytes', readable', archive'⟩ := inspected.opened
  obtain rfl : bytes = bytes' := Except.ok.inj (readable.symm.trans readable')
  obtain rfl : z' = z := Except.ok.inj (archive.symm.trans archive')
  obtain ⟨inner', _, looked, unpacked⟩ := perform_bind_ok.mp unpacked
  obtain ⟨nested, rfl⟩ := perform_ofExcept_ok.mp looked
  obtain rfl : inner' = inner := Except.ok.inj (nested.symm.trans inspected.nested)
  rcases inner' with - | ⟨name, inner⟩
  · exact ⟨_, unpacked⟩
  · exact ⟨_, unpacked⟩

/-- A name below `libs/` is one of the names of a path from there. -/
theorem ofString_below (inner : String) :
    Path.ofString ("libs/" ++ inner) = ⟨.here, "libs" :: Path.namesOf inner⟩ := by
  have names : Path.namesOf ("libs/" ++ inner) = "libs" :: Path.namesOf inner := by
    have split := splitAt_slash "libs" inner
    unfold Path.namesOf
    rw [show "libs/" ++ inner = "libs" ++ "/" ++ inner from rfl, split,
      splitAt_alone (by decide), List.filter_append]
    rfl
  have text : ("libs/" ++ inner).toList = 'l' :: 'i' :: 'b' :: 's' :: '/' :: inner.toList := by
    simp
  unfold Path.ofString
  rw [names, text]
  rfl

/-- The path that the label of a bundled library leads to. -/
def labelledPath (library : String) : String := "libs/" ++ Places.fileName library

/-- A library that lies in `libs/` itself is where its label leads to. -/
theorem labelled_direct {library : String} (bundled : Aar.isBundled library = true)
    (direct : (Path.ofString library).names.length = 2) :
    Path.ofString (labelledPath library) = Path.ofString library := by
  obtain ⟨inner, rfl⟩ := bundled_below bundled
  rw [ofString_below] at direct
  obtain ⟨name, alone⟩ := List.length_eq_one_iff.mp (Nat.succ.inj direct)
  have listed : name ∈ Path.namesOf inner := by rw [alone]; exact List.mem_cons_self
  obtain ⟨segment, solid⟩ := List.mem_filter.mp listed
  have own : Path.namesOf name = [name] := by
    unfold Path.namesOf
    rw [splitAt_alone (Text.not_mem_of_mem_splitAt segment)]
    exact List.filter_eq_self.mpr fun n among => List.mem_singleton.mp among ▸ solid
  unfold labelledPath Places.fileName
  rw [ofString_below inner, alone]
  show Path.ofString ("libs/" ++ name) = _
  rw [ofString_below, own]

/-- If an Android library is inspected and unpacked, there are its manifest and all bundled
libraries, and the label of one that lies in `libs/` itself leads to a file. -/
theorem bundled_unpacked (w v : World) (path destination : Path) (details : AarDetails)
    (plain : w.files.Plain) (low : ".." ∉ w.files.here) (straight : destination.Straight)
    (inspected : Aar.inspect (w.files.readFile path) = .ok (.ok details))
    (unpacked : (Aar.unpack path destination).perform w = (.ok (), v)) :
    v.files.HasFile (destination.joinText Aar.manifestName) ∧
      ∀ library ∈ details.libraries, v.files.HasFile (destination.joinText library) ∧
        ((Path.ofString library).names.length = 2 →
          v.files.HasFile (destination.joinText (labelledPath library))) := by
  obtain ⟨z, inner, found⟩ := inspect_ok inspected
  obtain ⟨source, extracted⟩ := unpack_ok found unpacked
  have files := extractTo_ok plain low straight extracted
  constructor
  · obtain ⟨m, listed, name⟩ := List.mem_map.mp found.manifest
    rw [← name]
    exact files m listed ⟨by rw [name]; decide, by rw [name]; decide⟩
  · intro library listed
    rw [found.libraries, List.mem_filter] at listed
    obtain ⟨among, bundled⟩ := listed
    obtain ⟨m, member, rfl⟩ := List.mem_map.mp among
    have there := files m member (bundled_isFile bundled)
    refine ⟨there, fun direct => ?_⟩
    unfold Path.joinText at there ⊢
    rwa [labelled_direct bundled direct]

/-- An archive is opened if it has nothing before its members and its end record after them. -/
theorem ofBytes_ok {bytes : ByteArray} {size offset : Nat} {ms : List Member}
    (ended : Archive.endRecord bytes = .ok ⟨offset + size, size, offset, false⟩)
    (listed : Archive.readDirectory (bytes.extract offset (offset + size)) 0 size 0
      ((bytes.extract offset (offset + size)).size + 1) = .ok ms) :
    Zip.ofBytes bytes = .ok ⟨bytes, Archive.withLimits offset ms⟩ := by
  have shift : ((offset + size : Nat) : Int) - size - offset - ((0 : Nat) : Int) = 0 := by omega
  have start : ¬ ((offset : Int) + 0 < 0) := by omega
  unfold Zip.ofBytes
  rw [ended]
  dsimp only [bind, Except.bind]
  rw [if_neg Bool.false_ne_true, shift, if_neg start, Int.add_zero, Int.toNat_natCast, listed]
  rfl

/-- What an archive with a manifest of its own says of itself. -/
theorem inspect_own {bytes manifest : ByteArray} {z : Zip} {package : String}
    (opened : Zip.ofBytes bytes = .ok z) (has : Aar.hasManifest z = true)
    (read : Aar.readNamed z Aar.manifestName = .ok manifest)
    (declared : Aar.manifestPackage manifest = .ok (some package)) (named : package ≠ "") :
    Aar.inspect (.ok bytes) = .ok (.ok ⟨package, z.names.filter Aar.isBundled⟩) := by
  have parts : Aar.parts? bytes = .ok (some (manifest, z.names.filter Aar.isBundled)) := by
    unfold Aar.parts? Aar.nested?
    rw [opened]
    dsimp only [bind, Except.bind]
    rw [if_pos has]
    dsimp only
    rw [if_pos has, read]
    rfl
  unfold Aar.inspect
  dsimp only
  rw [parts]
  dsimp only
  rw [declared]
  simp [given?, named]

/-! ### A bundled library that does not lie in `libs/` itself -/

namespace Bundle

open Archive (endRecord readDirectory withLimits)

/-- The bytes of an archive that lists its members from the last one to the first. -/
def bytes : ByteArray := ⟨#[
    80, 75, 3, 4, 20, 0, 0, 0, 0, 0, 0, 0, 33, 0, 255, 7, 251, 70, 23, 0, 0, 0, 23, 0, 0, 0, 19,
    0, 0, 0, 65, 110, 100, 114, 111, 105, 100, 77, 97, 110, 105, 102, 101, 115, 116, 46, 120,
    109, 108, 60, 109, 97, 110, 105, 102, 101, 115, 116, 32, 112, 97, 99, 107, 97, 103, 101, 61,
    34, 112, 34, 47, 62, 80, 75, 3, 4, 20, 0, 0, 0, 0, 0, 0, 0, 33, 0, 0, 0, 0, 0, 0, 0, 0, 0, 0,
    0, 0, 0, 12, 0, 0, 0, 108, 105, 98, 115, 47, 121, 47, 122, 46, 106, 97, 114, 80, 75, 1, 2,
    20, 0, 20, 0, 0, 0, 0, 0, 0, 0, 33, 0, 0, 0, 0, 0, 0, 0, 0, 0, 0, 0, 0, 0, 12, 0, 0, 0, 0, 0,
    0, 0, 0, 0, 0, 0, 0, 0, 72, 0, 0, 0, 108, 105, 98, 115, 47, 121, 47, 122, 46, 106, 97, 114,
    80, 75, 1, 2, 20, 0, 20, 0, 0, 0, 0, 0, 0, 0, 33, 0, 255, 7, 251, 70, 23, 0, 0, 0, 23, 0, 0,
    0, 19, 0, 0, 0, 0, 0, 0, 0, 0, 0, 0, 0, 0, 0, 0, 0, 0, 0, 65, 110, 100, 114, 111, 105, 100,
    77, 97, 110, 105, 102, 101, 115, 116, 46, 120, 109, 108, 80, 75, 5, 6, 0, 0, 0, 0, 2, 0, 2,
    0, 123, 0, 0, 0, 114, 0, 0, 0, 0, 0]⟩

theorem ended_ok {x : Except Fault Unit × World} (ok : x.1.isOk = true) : x = (.ok (), x.2) := by
  rcases x with ⟨fault | ⟨⟩, v⟩
  · cases ok
  · rfl

/-- A member that is neither compressed nor empty, unless its size is zero. -/
def member (name : String) (crc size : Nat) (offset limit : Int) : Member :=
  ⟨name, name, 0, 0, crc, size, size, offset, limit⟩

def zip : Zip := ⟨bytes, [member "libs/y/z.jar" 0 0 72 114,
  member "AndroidManifest.xml" 1190856703 23 0 72]⟩

theorem limited : withLimits 114 (zip.members.map fun m => { m with limit := 0 }) = zip.members := by
  unfold withLimits
  dsimp only
  rw [List.mergeSort_of_pairwise (by decide)]
  decide

theorem opened : Zip.ofBytes bytes = .ok zip := by
  have checked : (endRecord bytes).toOption.map
        (fun r => (r.position, r.directorySize, r.directoryOffset, r.wide))
        = some (114 + 123, 123, 114, false) ∧
      readDirectory (bytes.extract 114 (114 + 123)) 0 123 0
        ((bytes.extract 114 (114 + 123)).size + 1)
          = .ok (zip.members.map fun m => { m with limit := 0 }) := by
    decide +kernel
  obtain ⟨found, listed⟩ := checked
  rcases ended : endRecord bytes with fault | ⟨position, directorySize, directoryOffset, wide⟩ <;>
    rw [ended] at found <;> cases found
  have members := ofBytes_ok ended listed
  rwa [show ((114 : Nat) : Int) = 114 from rfl, limited] at members

def files : FileSystem := (FileSystem.empty []).putFile ["a.aar"] bytes

def world : World := ⟨files, ⟨[]⟩, [], ⟨0, []⟩, ⟨[]⟩, "0"⟩

def details : AarDetails := ⟨"p", ["libs/y/z.jar"]⟩

theorem plain : files.Plain :=
  entered_plain (l := []) (e := .file 0) empty_plain rfl (entryAt_putFile _ · _) nofun rfl
    (by decide) (by decide)

theorem low : ".." ∉ files.here := List.not_mem_nil

theorem file_straight : (Path.ofString "a.aar").Straight := show ".." ∉ ["a.aar"] by decide

theorem out_straight : (Path.ofString "out").Straight := show ".." ∉ ["out"] by decide

theorem readable : files.readFile (.ofString "a.aar") = .ok bytes := by
  refine (readFile_plain plain file_straight).mpr ?_
  rw [show files.placeOf (.ofString "a.aar") = ["a.aar"] by decide]
  exact (putFile_seen _ _ _).trans (if_pos rfl)

theorem inspected : Aar.inspect (files.readFile (.ofString "a.aar")) = .ok (.ok details) := by
  have checked : Aar.hasManifest zip = true ∧
      Aar.readNamed zip Aar.manifestName = .ok "<manifest package=\"p\"/>".toUTF8 ∧
      Aar.manifestPackage "<manifest package=\"p\"/>".toUTF8 = .ok (some "p") ∧
      zip.names.filter Aar.isBundled = ["libs/y/z.jar"] := by
    decide +kernel
  obtain ⟨has, read, package, bundled⟩ := checked
  rw [readable, inspect_own opened has read package (by decide), bundled]
  rfl

/-- The directory that the archive is unpacked into. -/
def made : FileSystem := files.putEntry ["out"] .directory

theorem makes : files.makeDirectories (.ofString "out") = .ok made := by
  have absent : files.entryAt? ["out"] = none := by decide
  have located : files.locateEntry (.ofString "out") = .ok ["out"] := by decide
  unfold FileSystem.makeDirectories
  rw [show (Path.ofString "out").names.length = 1 by decide, FileSystem.makeParents,
    FileSystem.makeDirectory, located]
  dsimp only
  rw [absent]
  rfl

def written : Except Fault Unit × World :=
  (Archive.writeAll zip ⟨.root, ["out"]⟩ 0 0 zip.members).perform { world with files := made }

/-- What is left behind there. -/
def unpacked : World := written.2

theorem extracted : (zip.extractTo (Path.ofString "a.aar").text (.ofString "out")).perform world
    = (.ok (), unpacked) := by
  have safe : ∀ m ∈ zip.members, Archive.isUnsafeName m.name = false := by decide +kernel
  have ok : written.1.isOk = true := by decide +kernel
  have place : made.placeOf (.ofString "out") = ["out"] := by decide
  rw [perform_extractTo (w := world) plain low out_straight _ safe makes, place]
  exact ended_ok ok

theorem unpacks :
    (Aar.unpack (.ofString "a.aar") (.ofString "out")).perform world = (.ok (), unpacked) := by
  have has : Aar.hasManifest zip = true := by decide +kernel
  have opens : (Zip.ofFile (.ofString "a.aar")).perform world = (.ok zip, world) :=
    perform_bind_ok.mpr ⟨bytes, world, perform_inspect_ok.mpr ⟨readable, rfl⟩,
      perform_ofExcept_ok.mpr ⟨opened, rfl⟩⟩
  have nested : Aar.nested? zip = .ok none := if_pos has
  exact perform_bind_ok.mpr ⟨zip, world, opens, perform_bind_ok.mpr
    ⟨none, world, perform_ofExcept_ok.mpr ⟨nested, rfl⟩, extracted⟩⟩

end Bundle

/-- The manifest and the library are unpacked. -/
theorem bundle_unpacked :
    Bundle.unpacked.files.HasFile (Path.ofString "out/AndroidManifest.xml") ∧
      Bundle.unpacked.files.HasFile (Path.ofString "out/libs/y/z.jar") := by
  obtain ⟨manifest, libraries⟩ := bundled_unpacked Bundle.world Bundle.unpacked (.ofString "a.aar")
    (.ofString "out") Bundle.details Bundle.plain Bundle.low Bundle.out_straight
    Bundle.inspected Bundle.unpacks
  exact ⟨manifest, (libraries "libs/y/z.jar" (by decide)).1⟩

/-- The label of the library leads to no file. -/
theorem deeper_mislabelled :
    Aar.inspect (Bundle.world.files.readFile (.ofString "a.aar")) = .ok (.ok Bundle.details) ∧
      (Aar.unpack (.ofString "a.aar") (.ofString "out")).perform Bundle.world
        = (.ok (), Bundle.unpacked) ∧
      "libs/y/z.jar" ∈ Bundle.details.libraries ∧ labelledPath "libs/y/z.jar" = "libs/z.jar" ∧
      ¬ Bundle.unpacked.files.HasFile (Path.ofString "out/libs/z.jar") := by
  have absent : (Bundle.unpacked.files.readFile (Path.ofString "out/libs/z.jar")).isOk = false := by
    decide +kernel
  refine ⟨Bundle.inspected, Bundle.unpacks, by decide, by decide, ?_⟩
  rintro ⟨bytes, read⟩
  rw [read] at absent
  cases absent

end MavenImport
