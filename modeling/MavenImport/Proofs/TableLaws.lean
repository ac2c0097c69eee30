/-
# Proofs.TableLaws -- keys and values of tables

A table that was made by writing has each key once, in the order in which the keys first came
(`keys_putAll`), and under a key the value that was written last (`find?_putAll`).
-/
import Mathlib.Data.List.Nodup
import MavenImport.Table

namespace MavenImport

set_option autoImplicit false

universe u v

/-! ## First occurrences -/

section Firsts

variable {α : Type u} [DecidableEq α]

theorem eraseDups_nodup : (as : List α) → as.eraseDups.Nodup
  | [] => List.nodup_nil
  | a :: as => by
      rw [List.eraseDups_cons, List.nodup_cons]
      constructor
      · intro again
        rw [List.mem_eraseDups, List.mem_filter] at again
        simp at again
      · exact eraseDups_nodup _
termination_by as => as.length
decreasing_by
  have shorter := List.length_filter_le (fun b => !b == a) as
  rw [List.length_cons]
  omega

theorem eraseDups_of_nodup {as : List α} (nodup : as.Nodup) : as.eraseDups = as := by
  induction as with
  | nil => rfl
  | cons a as ih =>
      obtain ⟨new, later⟩ := List.nodup_cons.mp nodup
      have kept : as.filter (fun b => !b == a) = as := by
        rw [List.filter_eq_self]
        intro b among
        have ne : b ≠ a := fun same => new (same ▸ among)
        simpa using ne
      rw [List.eraseDups_cons, kept, ih later]

/-- What was already there in the first part is left out of the second. -/
theorem eraseDups_append_left (as bs : List α) :
    (as.eraseDups ++ bs).eraseDups = (as ++ bs).eraseDups := by
  have same : bs.removeAll as.eraseDups = bs.removeAll as := by
    apply List.filter_congr
    intro b _
    simp [List.mem_eraseDups]
  rw [List.eraseDups_append, List.eraseDups_append, same, eraseDups_of_nodup (eraseDups_nodup as)]

end Firsts

/-! ## Entries -/

section Entries

variable {κ : Type u} {ν : Type v} [DecidableEq κ]

theorem findEntry_isSome (k : κ) :
    ∀ entries : List (κ × ν),
      (Table.findEntry k entries).isSome ↔ k ∈ entries.map Prod.fst
  | [] => by simp [Table.findEntry]
  | e :: entries => by
      unfold Table.findEntry
      by_cases same : e.1 = k
      · simp [same]
      · simp [same, Ne.symm same, findEntry_isSome k entries]

theorem findEntry_append (k : κ) (es fs : List (κ × ν)) :
    Table.findEntry k (es ++ fs) = (Table.findEntry k es).or (Table.findEntry k fs) := by
  induction es with
  | nil => rfl
  | cons e es ih =>
      by_cases same : e.1 = k
      · simp [Table.findEntry, same]
      · simp [Table.findEntry, same, ih]

/-- A new key comes last. -/
theorem putEntry_keys (k : κ) (v : ν) :
    ∀ es : List (κ × ν), (Table.putEntry k v es).map Prod.fst
      = if k ∈ es.map Prod.fst then es.map Prod.fst else es.map Prod.fst ++ [k]
  | [] => rfl
  | e :: es => by
      unfold Table.putEntry
      by_cases same : e.1 = k
      · simp [same]
      · rw [if_neg same, List.map_cons, List.map_cons, putEntry_keys k v es]
        by_cases later : k ∈ es.map Prod.fst
        · rw [if_pos later, if_pos (List.mem_cons_of_mem _ later)]
        · have new : k ∉ e.1 :: es.map Prod.fst := by
            rw [List.mem_cons]
            rintro (first | among)
            · exact same first.symm
            · exact later among
          rw [if_neg later, if_neg new, List.cons_append]

/-- Before the entry that is found there are other keys. -/
theorem findEntry_split {k : κ} {v : ν} :
    ∀ {es : List (κ × ν)}, Table.findEntry k es = some v →
      ∃ pre post, es = pre ++ (k, v) :: post ∧ k ∉ pre.map Prod.fst
  | e :: es, found => by
      unfold Table.findEntry at found
      split at found
      · next same =>
          cases found
          exact ⟨[], es, same ▸ rfl, List.not_mem_nil⟩
      · next other =>
          obtain ⟨pre, post, rfl, new⟩ := findEntry_split found
          refine ⟨e :: pre, post, rfl, ?_⟩
          rw [List.map_cons, List.mem_cons]
          rintro (first | among)
          · exact other first.symm
          · exact new among

theorem findEntry_map {μ : Type v} (f : ν → μ) (k : κ) (es : List (κ × ν)) :
    Table.findEntry k (es.map fun e => (e.1, f e.2)) = (Table.findEntry k es).map f := by
  induction es with
  | nil => rfl
  | cons e es ih =>
      by_cases same : e.1 = k
      · simp [Table.findEntry, same]
      · simp [Table.findEntry, same, ih]

/-- A key is written where it first stands. -/
theorem putEntry_split {k : κ} {pre : List (κ × ν)} (new : k ∉ pre.map Prod.fst) (v w : ν)
    (post : List (κ × ν)) :
    Table.putEntry k w (pre ++ (k, v) :: post) = pre ++ (k, w) :: post := by
  induction pre with
  | nil => simp [Table.putEntry]
  | cons e pre ih =>
      rw [List.map_cons, List.mem_cons, not_or] at new
      simp [Table.putEntry, Ne.symm new.1, ih new.2]

theorem putEntry_new {k : κ} {es : List (κ × ν)} (new : k ∉ es.map Prod.fst) (v : ν) :
    Table.putEntry k v es = es ++ [(k, v)] := by
  induction es with
  | nil => rfl
  | cons e es ih =>
      rw [List.map_cons, List.mem_cons, not_or] at new
      simp [Table.putEntry, Ne.symm new.1, ih new.2]

theorem putEntry_putEntry (k : κ) (v w : ν) (es : List (κ × ν)) :
    Table.putEntry k w (Table.putEntry k v es) = Table.putEntry k w es := by
  induction es with
  | nil => simp [Table.putEntry]
  | cons e es ih =>
      by_cases same : e.1 = k
      · simp [Table.putEntry, same]
      · simp [Table.putEntry, same, ih]

/-- A key has one value if no key is repeated. -/
theorem mem_entries_iff {k : κ} {v : ν} :
    ∀ {es : List (κ × ν)}, (es.map Prod.fst).Nodup →
      ((k, v) ∈ es ↔ Table.findEntry k es = some v)
  | [], _ => by simp [Table.findEntry]
  | e :: es, nodup => by
      rw [List.map_cons, List.nodup_cons] at nodup
      obtain ⟨new, later⟩ := nodup
      unfold Table.findEntry
      rw [List.mem_cons]
      by_cases same : e.1 = k
      · rw [if_pos same, Option.some.injEq]
        constructor
        · rintro (rfl | listed)
          · rfl
          · exact absurd (same ▸ List.mem_map_of_mem listed) new
        · rintro rfl
          exact .inl (by rw [← same])
      · rw [if_neg same, ← mem_entries_iff later]
        constructor
        · rintro (rfl | listed)
          · exact absurd rfl same
          · exact listed
        · exact .inr

/-- It does not matter from which end a key is looked for if no key is repeated. -/
theorem findEntry_reverse {es : List (κ × ν)} (nodup : (es.map Prod.fst).Nodup) (k : κ) :
    Table.findEntry k es.reverse = Table.findEntry k es := by
  have nodup' : (es.reverse.map Prod.fst).Nodup := by
    rw [List.map_reverse]
    exact List.nodup_reverse.mpr nodup
  apply Option.ext
  intro v
  rw [← mem_entries_iff nodup', ← mem_entries_iff nodup, List.mem_reverse]

end Entries

/-! ## Tables -/

section Tables

variable {κ : Type u} {ν : Type v} [DecidableEq κ] {t : Table κ ν}

theorem keys_put (t : Table κ ν) (k : κ) (v : ν) :
    (t.put k v).keys = if k ∈ t.keys then t.keys else t.keys ++ [k] :=
  putEntry_keys k v t.entries

theorem keys_put_nodup (nodup : t.keys.Nodup) (k : κ) (v : ν) : (t.put k v).keys.Nodup := by
  rw [keys_put]
  split
  · exact nodup
  · next new => exact nodup.append (List.nodup_singleton k) (by simpa using new)

/-- Writing what is there already changes nothing. -/
theorem put_found {k : κ} {v : ν} (found : t.find? k = some v) : t.put k v = t := by
  obtain ⟨pre, post, split, new⟩ := findEntry_split found
  rw [Table.put, split, putEntry_split new, ← split]

/-- What was written before under a key is forgotten. -/
theorem put_put (t : Table κ ν) (k : κ) (v w : ν) : (t.put k v).put k w = t.put k w :=
  congrArg Table.mk (putEntry_putEntry k v w t.entries)

/-- The last of the entries that are written under a key counts. -/
theorem find?_putAll (t : Table κ ν) (es : List (κ × ν)) (k : κ) :
    (t.putAll es).find? k = (Table.findEntry k es.reverse).or (t.find? k) := by
  induction es generalizing t with
  | nil => rfl
  | cons e es ih =>
      have later : (t.putAll (e :: es)).find? k = ((t.put e.1 e.2).putAll es).find? k := rfl
      rw [later, ih, List.reverse_cons, findEntry_append, Table.find?_put, Option.or_assoc]
      by_cases same : e.1 = k
      · simp [Table.findEntry, same]
      · simp [Table.findEntry, same]

/-- Keys keep the order in which they first came. -/
theorem keys_putAll (nodup : t.keys.Nodup) (es : List (κ × ν)) :
    (t.putAll es).keys = (t.keys ++ es.map Prod.fst).eraseDups := by
  induction es generalizing t with
  | nil =>
      rw [List.map_nil, List.append_nil, eraseDups_of_nodup nodup]
      rfl
  | cons e es ih =>
      have later : (t.putAll (e :: es)).keys = ((t.put e.1 e.2).putAll es).keys := rfl
      rw [later, ih (keys_put_nodup nodup e.1 e.2), keys_put, List.map_cons]
      split
      · next old =>
          have again : (e.1 :: es.map Prod.fst).removeAll t.keys
              = (es.map Prod.fst).removeAll t.keys := by
            simp [List.removeAll, old]
          rw [List.eraseDups_append, List.eraseDups_append, again]
      · rw [List.append_assoc, List.singleton_append]

theorem keys_putAll_nodup (nodup : t.keys.Nodup) (es : List (κ × ν)) :
    (t.putAll es).keys.Nodup := by
  rw [keys_putAll nodup]
  exact eraseDups_nodup _

theorem keys_ofList (es : List (κ × ν)) :
    (Table.ofList es).keys = (es.map Prod.fst).eraseDups :=
  keys_putAll (t := ⟨[]⟩) List.nodup_nil es

end Tables

end MavenImport
