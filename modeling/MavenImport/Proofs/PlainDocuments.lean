/-
# Proofs.PlainDocuments -- documents of ASCII characters without a declaration

The bytes of a document are read in the set of characters that its mark, its first bytes or its
declaration names.  Where all characters are ASCII, with neither a NUL nor a carriage return among
them, and no declaration comes first, these are detours: the root is what its characters are read
as (`Xml.ofBytes_plain`).
-/
import MavenImport.Maven.Pom

namespace MavenImport

set_option autoImplicit false

/-! ## Bytes of a text -/

theorem toList_data (bytes : ByteArray) : bytes.toList = bytes.data.toList := by
  have loop : ∀ (i : Nat) (acc : List UInt8),
      ByteArray.toList.loop bytes i acc = acc.reverse ++ bytes.data.toList.drop i := by
    intro i acc
    fun_induction ByteArray.toList.loop bytes i acc with
    | case1 i acc less ih =>
        have within : i < bytes.data.toList.length := by simpa using less
        rw [ih, List.drop_eq_getElem_cons within]
        simp [ByteArray.get!, less]
    | case2 i acc past =>
        rw [List.drop_eq_nil_of_le (by simpa using past)]
        simp
  simp [ByteArray.toList, loop]

theorem toUTF8_bytes (t : String) : t.toUTF8.toList = t.toList.flatMap String.utf8EncodeChar := by
  have whole : t.toUTF8 = t.toList.utf8Encode := by
    rw [String.toUTF8_eq_toByteArray, ← String.toByteArray_ofList, String.ofList_toList]
  rw [whole, toList_data, List.utf8Encode, List.toList_data_toByteArray]

namespace Xml

/-- An ASCII character that stands for itself: neither NUL nor a carriage return. -/
def isPlain (c : Char) : Bool := c.toNat ≠ 0 && c.toNat < 128 && c ≠ '\r'

section Characters

variable {c : Char} {cs : List Char}

theorem isPlain_iff : isPlain c = true ↔ c.toNat ≠ 0 ∧ c.toNat < 128 ∧ c ≠ '\r' := by
  simp [isPlain, and_assoc]

theorem toNat_toUInt8 (plain : isPlain c = true) : c.toUInt8.toNat = c.toNat := by
  have small := (isPlain_iff.mp plain).2.1
  show c.toNat % 256 = c.toNat
  omega

theorem utf8Encode_plain (plain : ∀ c ∈ cs, isPlain c = true) :
    cs.flatMap String.utf8EncodeChar = cs.map Char.toUInt8 := by
  induction cs with
  | nil => rfl
  | cons c cs ih =>
      obtain ⟨first, rest⟩ := List.forall_mem_cons.mp plain
      have single : c.utf8Size = 1 := by
        rw [Char.utf8Size_eq_one_iff, UInt32.le_iff_toNat_le]
        exact Nat.le_of_lt_succ (isPlain_iff.mp first).2.1
      rw [List.flatMap_cons, String.utf8EncodeChar_eq_singleton single, ih rest]
      rfl

theorem decode_plain (plain : ∀ c ∈ cs, isPlain c = true) (position : Nat) (acc : List Char) :
    Text.Utf8.decodeFrom position 0 acc (cs.map Char.toUInt8) = .ok (acc.reverse ++ cs) := by
  induction cs generalizing position acc with
  | nil => simp [Text.Utf8.decodeFrom]
  | cons c cs ih =>
      obtain ⟨first, rest⟩ := List.forall_mem_cons.mp plain
      have below : c.toUInt8 < 0x80 := by
        rw [UInt8.lt_iff_toNat_lt, toNat_toUInt8 first]
        exact (isPlain_iff.mp first).2.1
      have read : Text.Utf8.readChar c.toUInt8 (cs.map Char.toUInt8) = .ok (c, 1) := by
        simp [Text.Utf8.readChar, Text.Utf8.shape?, below, Text.Utf8.readTail,
          toNat_toUInt8 first, Except.map]
      rw [List.map_cons, Text.Utf8.decodeFrom, read]
      dsimp only
      rw [ih rest]
      simp

theorem lineFeeds_plain (plain : ∀ c ∈ cs, isPlain c = true) : lineFeeds cs = cs := by
  induction cs with
  | nil => rfl
  | cons c cs ih =>
      obtain ⟨first, rest⟩ := List.forall_mem_cons.mp plain
      have feed : c ≠ '\r' := (isPlain_iff.mp first).2.2
      rw [lineFeeds, ih rest]
      · rintro cs rfl
        exact absurd rfl feed
      · exact feed

/-- No mark of a set of characters is at the front. -/
theorem ofBytes_asciiBased {bytes : ByteArray}
    (plain : ∀ b ∈ bytes.toList, b ≠ 0 ∧ b < 128) :
    Element.ofBytes bytes = readAsciiBased bytes.toList := by
  unfold Element.ofBytes
  split
  case h_6 => rfl
  all_goals
    next shape =>
      rw [shape] at plain
      simp at plain

theorem readAsciiBased_plain (plain : ∀ c ∈ cs, isPlain c = true)
    (undeclared : Text.afterStart? "<?xml".toList cs = none) :
    readAsciiBased (cs.map Char.toUInt8) = readCharacters none cs := by
  have same : (cs.map Char.toUInt8).map (fun b => Char.ofNat b.toNat) = cs := by
    rw [List.map_map]
    refine (List.map_congr_left fun c listed => ?_).trans (List.map_id cs)
    simp [toNat_toUInt8 (plain c listed)]
  have apart : "<?xml".toList.isPrefixOf cs = false := by
    rw [Bool.eq_false_iff]
    intro begins
    obtain ⟨rest, whole⟩ := List.isPrefixOf_iff_prefix.mp begins
    rw [(Text.afterStart?_eq_some_iff _ _ rest).mpr whole.symm] at undeclared
    cases undeclared
  have decoded : Charset.utf8.decode? (cs.map Char.toUInt8) = some cs := by
    simp [Charset.decode?, decode_plain plain]
  have whole : splitDeclaration? cs = some (none, cs) := by
    rw [splitDeclaration?, undeclared]
  simp only [readAsciiBased, declarationBytes, same, apart, decoded, lineFeeds_plain plain, whole]
  rfl

end Characters

/-- The bytes of a plain text without a declaration are read as its characters are. -/
theorem ofBytes_plain {t : String} (plain : ∀ c ∈ t.toList, isPlain c = true)
    (undeclared : Text.afterStart? "<?xml".toList t.toList = none) :
    Element.ofBytes t.toUTF8 = readCharacters none t.toList := by
  have bytes : t.toUTF8.toList = t.toList.map Char.toUInt8 := by
    rw [toUTF8_bytes, utf8Encode_plain plain]
  rw [ofBytes_asciiBased, bytes, readAsciiBased_plain plain undeclared]
  intro b listed
  rw [bytes] at listed
  obtain ⟨c, among, rfl⟩ := List.mem_map.mp listed
  obtain ⟨nonzero, small, -⟩ := isPlain_iff.mp (plain c among)
  have same := toNat_toUInt8 (plain c among)
  constructor
  · rintro zero
    rw [zero] at same
    exact nonzero same.symm
  · rw [UInt8.lt_iff_toNat_lt, same]
    exact small

/-- The root of a plain text, from its characters. -/
theorem ofBytes_read {t : String} {cs : List Char} {e : Element} (same : t = String.ofList cs)
    (plain : cs.all isPlain = true) (undeclared : Text.afterStart? "<?xml".toList cs = none)
    (read : readDocument? false cs = some e) : Element.ofBytes t.toUTF8 = .ok e := by
  subst same
  rw [List.all_eq_true] at plain
  rw [ofBytes_plain (by simpa using plain) (by simpa using undeclared), String.toList_ofList,
    readCharacters, lineFeeds_plain plain]
  simp only [Option.map_none, Option.getD_none, read]

end Xml

/-! ## POMs -/

theorem ofList_pieces {s t : String} {cs ds : List Char} (first : s = String.ofList cs)
    (second : t = String.ofList ds) : s ++ t = String.ofList (cs ++ ds) := by
  rw [first, second, String.ofList_append]

/-- The POM of a plain text, from its characters. -/
theorem Pom.ofBytes_plain {t : String} {cs : List Char} {pom : Pom} (same : t = String.ofList cs)
    (plain : cs.all Xml.isPlain = true) (undeclared : Text.afterStart? "<?xml".toList cs = none)
    (read : (Xml.readDocument? false cs).map Pom.ofElement = some pom) :
    Pom.ofBytes t.toUTF8 = .ok pom := by
  obtain ⟨e, found, rfl⟩ := Option.map_eq_some_iff.mp read
  rw [Pom.ofBytes, Xml.ofBytes_read same plain undeclared found]
  rfl

end MavenImport
