/-
# Table -- a finite map whose entries keep the order in which their keys first came

Writing an old key changes its value in place, and writing a new key appends an entry.  The
view is `find?`; the operations are described through it (`find?_put`).
-/
namespace MavenImport

set_option autoImplicit false

universe u v

/-- Keys with values, in the order in which the keys were first written. -/
structure Table (κ : Type u) (ν : Type v) where
  entries : List (κ × ν) := []
deriving Repr, DecidableEq

namespace Table

variable {κ : Type u} {ν : Type v} [DecidableEq κ]

instance : Inhabited (Table κ ν) := ⟨⟨[]⟩⟩

/-- Writes a key in a list of entries: in place if it is there, else at the end. -/
def putEntry (k : κ) (v : ν) : List (κ × ν) → List (κ × ν)
  | [] => [(k, v)]
  | e :: es => if e.1 = k then (k, v) :: es else e :: putEntry k v es

/-- The value of a key in a list of entries. -/
def findEntry (k : κ) : List (κ × ν) → Option ν
  | [] => none
  | e :: es => if e.1 = k then some e.2 else findEntry k es

def find? (t : Table κ ν) (k : κ) : Option ν := findEntry k t.entries

def contains (t : Table κ ν) (k : κ) : Bool := (t.find? k).isSome

def put (t : Table κ ν) (k : κ) (v : ν) : Table κ ν := ⟨putEntry k v t.entries⟩

/-- Writes a key only if it is new. -/
def putNew (t : Table κ ν) (k : κ) (v : ν) : Table κ ν := if t.contains k then t else t.put k v

/-- Writes entries one after the other, so that the last of a repeated key counts. -/
def putAll (t : Table κ ν) (es : List (κ × ν)) : Table κ ν :=
  es.foldl (fun t e => t.put e.1 e.2) t

def ofList (es : List (κ × ν)) : Table κ ν := putAll ⟨[]⟩ es

def keys (t : Table κ ν) : List κ := t.entries.map Prod.fst

def values (t : Table κ ν) : List ν := t.entries.map Prod.snd

@[simp] theorem findEntry_putEntry (k k' : κ) (v : ν) (es : List (κ × ν)) :
    findEntry k' (putEntry k v es) = if k = k' then some v else findEntry k' es := by
  induction es with
  | nil => simp [putEntry, findEntry]
  | cons e es ih =>
    by_cases h : e.1 = k
    · subst h; by_cases h' : e.1 = k' <;> simp [putEntry, findEntry, h']
    · by_cases h' : e.1 = k'
      · subst h'; simp [putEntry, findEntry, h, Ne.symm h]
      · simp [putEntry, findEntry, h, h', ih]

theorem find?_put (t : Table κ ν) (k k' : κ) (v : ν) :
    (t.put k v).find? k' = if k = k' then some v else t.find? k' := by
  simp [put, find?]

@[simp] theorem find?_put_self (t : Table κ ν) (k : κ) (v : ν) :
    (t.put k v).find? k = some v := by simp [find?_put]

theorem findEntry_mem {k : κ} {v : ν} :
    ∀ {es : List (κ × ν)}, findEntry k es = some v → (k, v) ∈ es
  | e :: es, found => by
      unfold findEntry at found
      split at found
      · next same =>
          cases found
          exact same ▸ List.mem_cons_self
      · exact List.mem_cons_of_mem e (findEntry_mem found)

theorem mem_of_mem_putEntry {k : κ} {v : ν} {e : κ × ν} :
    ∀ {es : List (κ × ν)}, e ∈ putEntry k v es → e = (k, v) ∨ e ∈ es
  | [], listed => .inl (List.mem_singleton.mp listed)
  | d :: es, listed => by
      unfold putEntry at listed
      split at listed
      · rcases List.mem_cons.mp listed with here | later
        · exact .inl here
        · exact .inr (List.mem_cons_of_mem d later)
      · rcases List.mem_cons.mp listed with here | later
        · exact .inr (here ▸ List.mem_cons_self)
        · rcases mem_of_mem_putEntry later with written | old
          · exact .inl written
          · exact .inr (List.mem_cons_of_mem d old)

theorem mem_of_mem_putAll {e : κ × ν} {es : List (κ × ν)} {t : Table κ ν}
    (listed : e ∈ (t.putAll es).entries) : e ∈ t.entries ∨ e ∈ es := by
  induction es generalizing t with
  | nil => exact .inl listed
  | cons d es ih =>
      rcases ih listed with before | later
      · rcases mem_of_mem_putEntry before with rfl | old
        · exact .inr List.mem_cons_self
        · exact .inl old
      · exact .inr (List.mem_cons_of_mem d later)

end Table

end MavenImport
