/-
# Proofs.UnsupportedBytes -- what readers of documents and archives do not answer for

Bytes that are no document, or no archive, have faults that are told as such.  Two readers know
faults of another kind.  A document may name a character set that no reader knows or reads; it is
read with that fault exactly if its declaration names such a set (`ofBytes_unread`).  An archive may
be well-formed and use a feature that is not supported, in its directory or in a member that is
read, or in an archive nested in it (`Aar.Unsupported`, `parts_error`).
-/
import MavenImport.Aar
import Mathlib.Logic.Basic

namespace MavenImport

set_option autoImplicit false

/-- A computation fails in its first part or in its second. -/
theorem except_bind_error {ε α β : Type} {x : Except ε α} {f : α → Except ε β} {e : ε} :
    (x >>= f) = .error e ↔ x = .error e ∨ ∃ a, x = .ok a ∧ f a = .error e := by
  cases x with
  | error e' => simp [bind, Except.bind]
  | ok a => simp [bind, Except.bind]

theorem except_bind_ok {ε α β : Type} {x : Except ε α} {f : α → Except ε β} {b : β} :
    (x >>= f) = .ok b ↔ ∃ a, x = .ok a ∧ f a = .ok b := by
  cases x with
  | error e => simp [bind, Except.bind]
  | ok a => simp [bind, Except.bind]

namespace Xml

/-! ## Character sets -/

/-- The fault of a document in a character set, by the name of the set. -/
def charsetFault? (name : String) : Option Fault := match Named.ofName name with
  | .unknown => some (.unknownCharset name)
  | .multiByte => some .multiByteCharset
  | _ => none

/-- The character set that a declaration at the front names. -/
def charsetIn? (cs : List Char) : Option String :=
  (splitDeclaration? cs).bind fun d => d.1.bind Declaration.charset

def charsetInUtf16? (bigEndian : Bool) (bytes : List UInt8) : Option String :=
  ((Charset.utf16 bigEndian).decode? bytes).bind fun cs => charsetIn? (lineFeeds cs)

def charsetInAscii? (bytes : List UInt8) : Option String := charsetIn? (declarationBytes bytes)

/-- The character set that a document names, which is told by its first bytes to be in units of
two bytes or of one. -/
def declaredCharset? (bytes : ByteArray) : Option String :=
  match bytes.toList with
  | 0xFE :: 0xFF :: rest => charsetInUtf16? true rest
  | 0xFF :: 0xFE :: rest => charsetInUtf16? false rest
  | 0xEF :: 0xBB :: 0xBF :: rest => charsetInAscii? rest
  | 0 :: b :: rest => charsetInUtf16? true (0 :: b :: rest)
  | a :: 0 :: rest => charsetInUtf16? false (a :: 0 :: rest)
  | all => charsetInAscii? all

/-- The fault of a document that names a character set that is not read. -/
def unread? (bytes : ByteArray) : Option Fault := (declaredCharset? bytes).bind charsetFault?

/-- Beside the fault of a document that is not well-formed, a reader has only the given one. -/
def Tells (x : Except Fault Element) (unread : Option Fault) : Prop :=
  ∀ f, x = .error f ∧ f ≠ .malformed ↔ unread = some f

theorem tells_malformed : Tells (.error .malformed) none := by
  intro f
  constructor
  · rintro ⟨failed, other⟩
    cases failed
    exact absurd rfl other
  · intro told
    cases told

theorem tells_readCharacters (d : Option Declaration) (cs : List Char) :
    Tells (readCharacters d cs) none := by
  rw [readCharacters]
  split
  · intro f
    constructor
    · rintro ⟨failed, -⟩
      cases failed
    · intro told
      cases told
  · exact tells_malformed

theorem tells_error {f : Fault} (other : f ≠ .malformed) : Tells (.error f) (some f) := by
  intro f'
  constructor
  · rintro ⟨failed, -⟩
    cases failed
    rfl
  · intro told
    cases told
    exact ⟨rfl, other⟩

theorem tells_utf16 (bigEndian : Bool) (bytes : List UInt8) :
    Tells (readUtf16 bigEndian bytes) ((charsetInUtf16? bigEndian bytes).bind charsetFault?) := by
  rw [readUtf16, charsetInUtf16?]
  cases (Charset.utf16 bigEndian).decode? bytes with
  | none => exact tells_malformed
  | some cs =>
      simp only [Option.bind_some, charsetIn?]
      rcases splitDeclaration? (lineFeeds cs) with - | ⟨d, rest⟩
      · exact tells_malformed
      · simp only [Option.bind_some]
        cases d.bind Declaration.charset with
        | none => exact tells_readCharacters d rest
        | some name =>
            simp only [Option.bind_some, charsetFault?]
            rcases Named.ofName name with (- | big | upper) | - | - | - <;> dsimp only
            · exact tells_malformed
            · split
              · exact tells_readCharacters d rest
              · exact tells_malformed
            · exact tells_malformed
            · exact tells_error (by simp)
            · exact tells_malformed
            · exact tells_error (by simp)

theorem tells_ascii (bytes : List UInt8) :
    Tells (readAsciiBased bytes) ((charsetInAscii? bytes).bind charsetFault?) := by
  unfold readAsciiBased
  extract_lets read
  have plain (c : Charset) : Tells (read c) none := by
    unfold read
    split
    · exact tells_malformed
    · split
      · exact tells_malformed
      · exact tells_readCharacters _ _
  rw [charsetInAscii?, charsetIn?]
  rcases splitDeclaration? (declarationBytes bytes) with - | ⟨d, rest⟩
  · exact tells_malformed
  · simp only [Option.bind_some]
    cases d.bind Declaration.charset with
    | none => exact plain .utf8
    | some name =>
        simp only [Option.bind_some, charsetFault?]
        rcases Named.ofName name with (- | big | upper) | - | - | - <;> dsimp only
        · exact plain .utf8
        · exact tells_malformed
        · exact plain (.bytes upper)
        · exact tells_error (by simp)
        · exact tells_malformed
        · exact tells_error (by simp)

/-- A document is read with another fault than that of its form exactly if it names a character
set that is not read. -/
theorem ofBytes_unread (bytes : ByteArray) : Tells (Element.ofBytes bytes) (unread? bytes) := by
  rw [Element.ofBytes, unread?, declaredCharset?]
  generalize bytes.toList = all
  split
  · exact tells_utf16 _ _
  · exact tells_utf16 _ _
  · exact tells_ascii _
  · exact tells_utf16 _ _
  · simp only [tells_utf16]
  · simp only [tells_ascii]

end Xml

namespace Archive

/-! ## Features of archives -/

/-- A name is marked as text and is none. -/
def Garbled (flags : Nat) (name : ByteArray) : Prop :=
  flags.testBit 11 = true ∧ ∃ malformed, Text.Utf8.decode name = .error malformed

/-- Where an entry of a directory starts: each one after the data that the one before announces. -/
inductive EntryAt (directory : ByteArray) : Nat → Prop
  | first : EntryAt directory 0
  | next {i : Nat} (before : EntryAt directory i) : EntryAt directory
      (i + directoryEntrySize + number directory (i + 28) 2 + number directory (i + 30) 2
        + number directory (i + 32) 2)

/-- An entry of a directory is of a newer version, or has a name that is marked as text and is
none. -/
inductive RejectsEntry (directory : ByteArray) : Fault → Prop
  | version {i : Nat} (entry : EntryAt directory i) (signed : number directory i 4 = 0x02014b50)
      (newer : newestVersion < number directory (i + 6) 1) :
      RejectsEntry directory (.version (number directory (i + 6) 1))
  | name {i : Nat} (entry : EntryAt directory i) (signed : number directory i 4 = 0x02014b50)
      (garbled : Garbled (number directory (i + 8) 2)
        (directory.extract (i + directoryEntrySize)
          (i + directoryEntrySize + number directory (i + 28) 2))) :
      RejectsEntry directory .nameNotText

/-- The directory of an archive, which ends where its end records start, has such an entry. -/
def RejectsDirectory (bytes : ByteArray) (f : Fault) : Prop :=
  ∃ record start, endRecord bytes = .ok record ∧
    start + record.directorySize + (if record.wide then wideRecordSize + wideLocatorSize else 0)
      = record.position ∧
    RejectsEntry (bytes.extract start (start + record.directorySize)) f

/-- A member is patched, encrypted or compressed in a way that is not supported, or what is
compressed in it is not valid, or its header has a name that is marked as text and is none. -/
inductive Zip.Rejects (z : Zip) (m : Member) : Fault → Prop
  | patched (flag : m.flags.testBit 5 = true) : Rejects z m .patchedData
  | strong (flag : m.flags.testBit 6 = true) : Rejects z m .strongEncryption
  | encrypted (flag : m.flags.testBit 0 = true) : Rejects z m (.encrypted m.name)
  | method (other : m.method ≠ 0 ∧ m.method ≠ 8) : Rejects z m (.method m.method)
  | name {h : Nat} (header : m.offset = h)
      (garbled : Garbled (number z.bytes (h + 6) 2)
        (z.bytes.extract (h + localHeaderSize)
          (h + localHeaderSize + number z.bytes (h + 26) 2))) :
      Rejects z m .nameNotText
  | data {start : Nat} (checked : z.dataStart m = .ok start) (deflated : m.method = 8)
      (invalid : (inflate (z.bytes.extract start (start + m.compressedSize))).2 = .invalid) :
      Rejects z m .compressedData

/-- All faults of a computation are damage. -/
def Damages {α : Type} (x : Except Fault α) : Prop := ∀ f, x = .error f → f.isDamage = true

section Damage

variable {α β : Type}

theorem damages_ok (a : α) : Damages (.ok a) := by
  intro f failed
  cases failed

theorem damages_error {f : Fault} (damage : f.isDamage = true) :
    Damages (.error f : Except Fault α) := by
  intro f' failed
  cases failed
  exact damage

theorem damages_bind {x : Except Fault α} {f : α → Except Fault β} (first : Damages x)
    (second : ∀ a, Damages (f a)) : Damages (x >>= f) := by
  intro e failed
  rcases except_bind_error.mp failed with failed | ⟨a, -, failed⟩
  · exact first e failed
  · exact second a e failed

theorem endRecord_damages (bytes : ByteArray) : Damages (endRecord bytes) := by
  simp only [endRecord]
  repeat' split
  all_goals first | exact damages_ok _ | exact damages_error rfl

theorem takeWide_damages (field : String) (needed : Bool) (old : Nat) (data : ByteArray) :
    Damages (takeWide field needed old data) := by
  simp only [takeWide]
  repeat' split
  all_goals first | exact damages_ok _ | exact damages_error rfl

theorem readExtra_damages (fuel : Nat) (e : Extent) (extra : ByteArray) :
    Damages (readExtra e extra fuel) := by
  induction fuel generalizing e extra with
  | zero => exact damages_ok e
  | succ fuel ih =>
      simp only [readExtra]
      split
      · exact damages_ok e
      split
      · exact damages_error rfl
      split
      · exact ih _ _
      refine damages_bind (takeWide_damages _ _ _ _) fun size => ?_
      refine damages_bind (takeWide_damages _ _ _ _) fun compressed => ?_
      exact damages_bind (takeWide_damages _ _ _ _) fun offset => ih _ _

end Damage

theorem readName_error {flags : Nat} {bytes : ByteArray} {f : Fault}
    (failed : readName flags bytes = .error f) : f = .nameNotText ∧ Garbled flags bytes := by
  simp only [readName] at failed
  split at failed
  · next flagged =>
      cases decoded : Text.Utf8.decode bytes with
      | ok s =>
          rw [decoded] at failed
          cases failed
      | error malformed =>
          rw [decoded] at failed
          cases failed
          exact ⟨rfl, flagged, malformed, decoded⟩
  · cases failed

/-- What is not damage in reading a directory is the matter of one of its entries. -/
theorem readDirectory_error {directory : ByteArray} {shift : Int} {size : Nat} {f : Fault}
    (other : f.isDamage = false) (fuel : Nat) {i : Nat} (entry : EntryAt directory i)
    (failed : readDirectory directory shift size i fuel = .error f) :
    RejectsEntry directory f := by
  have no_damage {α : Type} {x : Except Fault α} (damages : Damages x) (failed : x = .error f) :
      False := by
    rw [damages f failed] at other
    cases other
  induction fuel generalizing i with
  | zero => cases failed
  | succ fuel ih =>
      simp only [readDirectory] at failed
      split at failed
      · cases failed
      split at failed
      · exact absurd failed (no_damage (damages_error rfl))
      split at failed
      · exact absurd failed (no_damage (damages_error rfl))
      next unsigned =>
        have signed := not_not.mp unsigned
        rcases except_bind_error.mp failed with failed | ⟨spelled, -, failed⟩
        · obtain ⟨rfl, garbled⟩ := readName_error failed
          exact .name entry signed garbled
        split at failed
        · next newer =>
            cases failed
            exact .version entry signed newer
        rcases except_bind_error.mp failed with failed | ⟨extent, -, failed⟩
        · exact (no_damage (readExtra_damages _ _ _) failed).elim
        rcases except_bind_error.mp failed with failed | ⟨members, -, failed⟩
        · exact ih entry.next failed
        · cases failed

/-- Opening an archive reads its directory only. -/
theorem ofBytes_error {bytes : ByteArray} {f : Fault} (other : f.isDamage = false)
    (failed : Zip.ofBytes bytes = .error f) : RejectsDirectory bytes f := by
  rcases except_bind_error.mp failed with failed | ⟨record, found, failed⟩
  · rw [endRecord_damages bytes f failed] at other
    cases other
  rcases ite_eq_iff.mp failed with ⟨-, failed⟩ | ⟨inside, failed⟩
  · cases failed
    cases other
  rcases except_bind_error.mp failed with failed | ⟨members, -, failed⟩
  · refine ⟨record, _, found, ?_, readDirectory_error other _ .first failed⟩
    cases wide : record.wide <;> simp only [wide] at inside ⊢ <;> grind
  · cases failed

theorem undamaged {f : Fault} (other : Aar.isUnreadable f = false) : f.isDamage = false :=
  (Bool.or_eq_false_iff.mp other).1

theorem contents_error {z : Zip} {m : Member} {start : Nat} {out : ByteArray} {f : Fault}
    (other : f.isDamage = false) (checked : z.dataStart m = .ok start)
    (failed : z.contents m start = (out, some f)) : z.Rejects m f := by
  simp only [Zip.contents] at failed
  by_cases deflated : m.method = 8
  · simp only [if_pos deflated] at failed
    split at failed
    · next invalid =>
        cases failed
        exact .data checked deflated invalid
    · split at failed <;> cases failed
      cases other
  · simp only [if_neg deflated] at failed
    split at failed
    · next invalid => cases invalid
    · split at failed <;> cases failed
      cases other

/-- The header of a member is checked before its data is read. -/
theorem dataStart_error {z : Zip} {m : Member} {f : Fault} (other : Aar.isUnreadable f = false)
    (failed : z.dataStart m = .error f) : z.Rejects m f := by
  rcases ite_eq_iff.mp failed with ⟨-, failed⟩ | ⟨inside, failed⟩
  · cases failed
    cases other
  rcases ite_eq_iff.mp failed with ⟨-, failed⟩ | ⟨-, failed⟩
  · cases failed
    cases other
  rcases ite_eq_iff.mp failed with ⟨-, failed⟩ | ⟨-, failed⟩
  · cases failed
    cases other
  rcases ite_eq_iff.mp failed with ⟨flag, failed⟩ | ⟨-, failed⟩
  · cases failed
    exact .patched flag
  rcases ite_eq_iff.mp failed with ⟨flag, failed⟩ | ⟨-, failed⟩
  · cases failed
    exact .strong flag
  rcases except_bind_error.mp failed with failed | ⟨spelled, -, failed⟩
  · obtain ⟨rfl, garbled⟩ := readName_error failed
    exact .name (Int.toNat_of_nonneg (Int.not_lt.mp inside)).symm garbled
  rcases ite_eq_iff.mp failed with ⟨-, failed⟩ | ⟨-, failed⟩
  · cases failed
    cases other
  rcases ite_eq_iff.mp failed with ⟨-, failed⟩ | ⟨-, failed⟩
  · cases failed
    cases other
  rcases ite_eq_iff.mp failed with ⟨flag, failed⟩ | ⟨-, failed⟩
  · cases failed
    exact .encrypted flag
  rcases ite_eq_iff.mp failed with ⟨method, failed⟩ | ⟨-, failed⟩
  · cases failed
    exact .method method
  · cases failed

theorem read_error {z : Zip} {m : Member} {f : Fault} (other : Aar.isUnreadable f = false)
    (failed : z.read m = .error f) : z.Rejects m f := by
  rcases except_bind_error.mp failed with failed | ⟨start, checked, failed⟩
  · exact dataStart_error other failed
  · rcases read : z.contents m start with ⟨out, - | fault⟩
    · rw [read] at failed
      cases failed
    · rw [read] at failed
      cases failed
      exact contents_error (undamaged other) checked read

end Archive

/-! ## Android archives -/

namespace Aar

open Archive (Zip Member RejectsDirectory)

/-- A member that a name means is read from the members of the archive. -/
theorem readNamed_error {z : Zip} {name : String} {f : Archive.Fault}
    (other : isUnreadable f = false) (failed : readNamed z name = .error f) :
    ∃ m ∈ z.members, m.name = name ∧ z.Rejects m f := by
  simp only [readNamed] at failed
  split at failed
  · next m found =>
      have listed : m ∈ z.members := List.mem_reverse.mp (List.mem_of_find?_eq_some found)
      exact ⟨m, listed, by simpa using List.find?_some found, Archive.read_error other failed⟩
  · cases failed
    cases other

theorem readNamed_ok {z : Zip} {name : String} {bytes : ByteArray}
    (read : readNamed z name = .ok bytes) :
    ∃ m ∈ z.members, m.name = name ∧ z.read m = .ok bytes := by
  simp only [readNamed] at read
  split at read
  · next m found =>
      have listed : m ∈ z.members := List.mem_reverse.mp (List.mem_of_find?_eq_some found)
      exact ⟨m, listed, by simpa using List.find?_some found, read⟩
  · cases read

/-- An archive uses a feature that is not supported where an inspection looks: in its directory,
in its manifest, in an archive that is a member, or in the directory or the manifest of that. -/
inductive Unsupported (bytes : ByteArray) (f : Archive.Fault) : Prop
  | directory (rejects : RejectsDirectory bytes f)
  | member {z : Zip} {m : Member} (opened : Zip.ofBytes bytes = .ok z) (listed : m ∈ z.members)
      (wanted : m.name = manifestName ∨ Text.endsWith ".aar" m.name = true)
      (rejects : z.Rejects m f)
  | nested {z : Zip} {m : Member} {inner : ByteArray} (opened : Zip.ofBytes bytes = .ok z)
      (listed : m ∈ z.members) (named : Text.endsWith ".aar" m.name = true)
      (read : z.read m = .ok inner) (rejects : RejectsDirectory inner f)
  | manifest {z z' : Zip} {m m' : Member} {inner : ByteArray} (opened : Zip.ofBytes bytes = .ok z)
      (listed : m ∈ z.members) (named : Text.endsWith ".aar" m.name = true)
      (read : z.read m = .ok inner) (opened' : Zip.ofBytes inner = .ok z')
      (listed' : m' ∈ z'.members) (wanted : m'.name = manifestName) (rejects : z'.Rejects m' f)

section Nested

variable {bytes : ByteArray} {z : Zip} {f : Archive.Fault} (opened : Zip.ofBytes bytes = .ok z)
include opened

/-- Looking for a nested archive opens members that are named as such. -/
theorem nestedAmong_error (other : isUnreadable f = false) :
    ∀ names : List String, nestedAmong? z names = .error f → Unsupported bytes f
  | [], failed => by cases failed
  | name :: names, failed => by
      rw [nestedAmong?] at failed
      rcases ite_eq_iff.mp failed with ⟨named, failed⟩ | ⟨-, failed⟩
      · rcases except_bind_error.mp failed with failed | ⟨inner, read, failed⟩
        · obtain ⟨m, listed, same, rejects⟩ := readNamed_error other failed
          exact .member opened listed (.inr (same ▸ named)) rejects
        rcases except_bind_error.mp failed with failed | ⟨nested, -, failed⟩
        · obtain ⟨m, listed, same, content⟩ := readNamed_ok read
          exact .nested opened listed (same ▸ named) content
            (Archive.ofBytes_error (Archive.undamaged other) failed)
        rcases ite_eq_iff.mp failed with ⟨-, failed⟩ | ⟨-, failed⟩
        · cases failed
        · exact nestedAmong_error other names failed
      · exact nestedAmong_error other names failed

end Nested

/-- A nested archive that was found is a member that could be read and opened. -/
theorem nestedAmong_ok {z nested : Zip} {name : String} :
    ∀ names : List String, nestedAmong? z names = .ok (some (name, nested)) →
      ∃ m ∈ z.members, Text.endsWith ".aar" m.name = true ∧
        ∃ inner, z.read m = .ok inner ∧ Zip.ofBytes inner = .ok nested
  | [], found => by cases found
  | other :: names, found => by
      rw [nestedAmong?] at found
      rcases ite_eq_iff.mp found with ⟨named, found⟩ | ⟨-, found⟩
      · obtain ⟨inner, read, found⟩ := except_bind_ok.mp found
        obtain ⟨z', opened, found⟩ := except_bind_ok.mp found
        rcases ite_eq_iff.mp found with ⟨-, found⟩ | ⟨-, found⟩
        · cases found
          obtain ⟨m, listed, rfl, content⟩ := readNamed_ok read
          exact ⟨m, listed, named, inner, content, opened⟩
        · exact nestedAmong_ok names found
      · exact nestedAmong_ok names found

/-- What is wrong with the parts of an archive, and makes it not merely unreadable, is a feature
of it that is not supported. -/
theorem parts_error {bytes : ByteArray} {f : Archive.Fault} (other : isUnreadable f = false)
    (failed : parts? bytes = .error f) : Unsupported bytes f := by
  rcases except_bind_error.mp failed with failed | ⟨z, opened, failed⟩
  · exact .directory (Archive.ofBytes_error (Archive.undamaged other) failed)
  rcases except_bind_error.mp failed with failed | ⟨found, nested, failed⟩
  · rcases ite_eq_iff.mp failed with ⟨-, failed⟩ | ⟨-, failed⟩
    · cases failed
    · exact nestedAmong_error opened other _ failed
  rcases ite_eq_iff.mp failed with ⟨-, failed⟩ | ⟨-, failed⟩
  · rcases except_bind_error.mp failed with failed | ⟨manifest, -, failed⟩
    · obtain ⟨m, listed, same, rejects⟩ := readNamed_error other failed
      rcases found with - | ⟨name, inner⟩
      · exact .member opened listed (.inl same) rejects
      · rcases ite_eq_iff.mp nested with ⟨-, nested⟩ | ⟨-, nested⟩
        · cases nested
        · obtain ⟨m', listed', named, bytes', content, opened'⟩ := nestedAmong_ok _ nested
          exact .manifest opened listed' named content opened' listed same rejects
    · cases failed
  · cases failed

/-- Bytes whose inspection does not answer: an archive with a feature that is not supported, or
one whose manifest names a character set that is not read. -/
inductive Unanswered (bytes : ByteArray) : Fault → Prop
  | archive {f : Archive.Fault} (unsupported : Unsupported bytes f) : Unanswered bytes (.archive f)
  | manifest {manifest : ByteArray} {libraries : List String} {f : Xml.Fault}
      (parts : parts? bytes = .ok (some (manifest, libraries)))
      (unread : Xml.unread? manifest = some f) : Unanswered bytes (.xml f)

/-- An inspection answers, or the file is such that it does not. -/
theorem inspect_answers (file : Except Files.Fault ByteArray) :
    (∃ answer, inspect file = .ok answer) ∨ (∃ f, file = .error f ∧ f.isRefusal = false) ∨
      ∃ bytes fault, file = .ok bytes ∧ inspect file = .error fault ∧ Unanswered bytes fault := by
  cases file with
  | error f =>
      simp only [inspect]
      by_cases refusal : f.isRefusal = true
      · rw [if_pos refusal]
        exact .inl ⟨_, rfl⟩
      · exact .inr (.inl ⟨f, rfl, by simpa using refusal⟩)
  | ok bytes =>
      simp only [inspect]
      rcases parts : parts? bytes with f | - | ⟨manifest, libraries⟩ <;> dsimp only
      · by_cases unreadable : isUnreadable f = true
        · rw [if_pos unreadable]
          exact .inl ⟨_, rfl⟩
        · rw [if_neg unreadable]
          have unsupported := parts_error (by simpa using unreadable) parts
          exact .inr (.inr ⟨bytes, _, rfl, rfl, .archive unsupported⟩)
      · exact .inl ⟨_, rfl⟩
      · cases read : Xml.Element.ofBytes manifest with
        | ok e =>
            simp only [manifestPackage, read, Except.map]
            split <;> exact .inl ⟨_, rfl⟩
        | error f =>
            simp only [manifestPackage, read, Except.map]
            by_cases malformed : f = .malformed
            · rw [malformed]
              exact .inl ⟨_, rfl⟩
            · have unread := (Xml.ofBytes_unread manifest f).mp ⟨read, malformed⟩
              refine .inr (.inr ⟨bytes, .xml f, rfl, ?_, .manifest parts unread⟩)
              cases f with
              | malformed => exact absurd rfl malformed
              | unknownCharset name => rfl
              | multiByteCharset => rfl

end Aar

end MavenImport
