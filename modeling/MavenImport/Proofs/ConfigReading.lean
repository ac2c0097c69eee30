/-
# Proofs.ConfigReading -- reading configuration of any content

A configuration file may have any bytes, and the value in it any shape.  To load it is to read a
value off the files (`jsonAt`): nothing changes but that the file is announced (`perform_loadJson`),
and there are three ways in which a file has no value (`Fault.OfFile`).

A value is then taken apart in several steps, each of which fails in its own way.  `FailsAs` bounds
the faults of a computation by a property.  It is closed under sequences and lists, and there is a
rule for each way to look into a value, so a bound for a whole reading follows its definition.
-/
import MavenImport.Config.Load
import MavenImport.Proofs.ActionLaws
import MavenImport.Proofs.UnsupportedBytes

namespace MavenImport

set_option autoImplicit false

/-! ## Bounds on faults -/

theorem except_ok_bind {ε α β : Type} (x : α) (g : α → Except ε β) :
    (Except.ok x >>= g) = g x := rfl

/-- A computation fails in no way that does not have a property. -/
def FailsAs {ε α : Type} (kind : ε → Prop) (x : Except ε α) : Prop := ∀ f, x = .error f → kind f

section FailsAs

variable {ε α β : Type} {kind : ε → Prop}

theorem failsAs_ok (x : α) : FailsAs kind (.ok x : Except ε α) := fun _ failed => by cases failed

theorem failsAs_error {f : ε} (allowed : kind f) : FailsAs kind (.error f : Except ε α) := by
  intro _ failed
  cases failed
  exact allowed

theorem failsAs_any (x : Except ε α) : FailsAs (fun _ => True) x := fun _ _ => trivial

theorem failsAs_bind {x : Except ε α} {g : α → Except ε β} (first : FailsAs kind x)
    (second : ∀ y, x = .ok y → FailsAs kind (g y)) : FailsAs kind (x >>= g) := by
  intro f failed
  rcases except_bind_error.mp failed with failed | ⟨y, made, failed⟩
  · exact first f failed
  · exact second y made f failed

theorem failsAs_map {x : Except ε α} (first : FailsAs kind x) (g : α → β) :
    FailsAs kind (x.map g) := by
  cases x with
  | error f => exact failsAs_error (first f rfl)
  | ok y => exact failsAs_ok (g y)

theorem failsAs_mapError {ε' : Type} {kind' : ε' → Prop} {x : Except ε α} {fault : ε → ε'}
    (first : FailsAs kind x) (each : ∀ f, kind f → kind' (fault f)) :
    FailsAs kind' (x.mapError fault) := by
  cases x with
  | error f => exact failsAs_error (each f (first f rfl))
  | ok y => exact failsAs_ok y

theorem failsAs_mapM {g : α → Except ε β} :
    ∀ {xs : List α}, (∀ x ∈ xs, FailsAs kind (g x)) → FailsAs kind (xs.mapM g)
  | [], _ => failsAs_ok []
  | x :: xs, each => by
      obtain ⟨first, rest⟩ := List.forall_mem_cons.mp each
      rw [List.mapM_cons]
      refine failsAs_bind first fun y _ => failsAs_bind (failsAs_mapM rest) ?_
      exact fun ys _ => failsAs_ok (y :: ys)

end FailsAs

/-! ## Looking into values -/

namespace Json

def IsObject (v : Json) : Prop := ∃ fields, v = .obj fields

variable {kind : Fault → Prop} {v : Json}

theorem field?_object (object : v.IsObject) (key : String) : ∃ found, v.field? key = .ok found := by
  obtain ⟨fields, rfl⟩ := object
  exact ⟨_, rfl⟩

theorem field?_plain (plain : ¬ v.IsObject) (key : String) :
    v.field? key = .error (.lacks v.kind "get") := by
  cases v with
  | obj fields => exact absurd ⟨fields, rfl⟩ plain
  | _ => rfl

theorem field?_failsAs (lacks : ∀ v : Json, kind (.lacks v.kind "get")) (v : Json) (key : String) :
    FailsAs kind (v.field? key) := by
  by_cases object : v.IsObject
  · obtain ⟨found, looked⟩ := field?_object object key
    rw [looked]
    exact failsAs_ok found
  · rw [field?_plain object]
    exact failsAs_error (lacks v)

theorem fieldOrNull_failsAs (lacks : ∀ v : Json, kind (.lacks v.kind "get")) (v : Json)
    (key : String) : FailsAs kind (v.fieldOrNull key) :=
  failsAs_map (field?_failsAs lacks v key) _

/-- A key is taken only from an object. -/
theorem member_object {key : String} {x : Json} (taken : v.member key = .ok x) : v.IsObject := by
  cases v with
  | obj fields => exact ⟨fields, rfl⟩
  | _ => cases taken

theorem member_failsAs (missing : ∀ key, kind (.missingKey key))
    (positional : ∀ v : Json, kind (.positional v.kind))
    (notSubscriptable : ∀ v : Json, kind (.notSubscriptable v.kind)) (v : Json) (key : String) :
    FailsAs kind (v.member key) := by
  cases v with
  | obj fields =>
      rw [member]
      cases findField key fields with
      | some found => exact failsAs_ok found
      | none => exact failsAs_error (missing key)
  | str s => exact failsAs_error (positional (.str s))
  | arr items => exact failsAs_error (positional (.arr items))
  | _ => exact failsAs_error (notSubscriptable _)

theorem elements_failsAs (notIterable : ∀ v : Json, kind (.notIterable v.kind)) (v : Json) :
    FailsAs kind v.elements := by
  cases v with
  | arr items => exact failsAs_ok items
  | str s => exact failsAs_ok _
  | obj fields => exact failsAs_ok _
  | _ => exact failsAs_error (notIterable _)

theorem elementsOrNone_failsAs (notIterable : ∀ v : Json, kind (.notIterable v.kind)) (v : Json) :
    FailsAs kind v.elementsOrNone := by
  rw [elementsOrNone]
  split
  · exact elements_failsAs notIterable v
  · exact failsAs_ok []

theorem entries_failsAs (lacks : ∀ v : Json, kind (.lacks v.kind "items")) (v : Json) :
    FailsAs kind v.entries := by
  cases v with
  | obj fields => exact failsAs_ok fields
  | _ => exact failsAs_error (lacks _)

theorem distinctScalars_failsAs (unhashable : ∀ v : Json, kind (.unhashable v.kind))
    (vs : List Json) : FailsAs kind (distinctScalars vs) := by
  rw [distinctScalars]
  split
  · next v _ => exact failsAs_error (unhashable v)
  · exact failsAs_ok _

end Json

/-! ## The value of a file -/

/-- Why a file has no value: it cannot be read, or it holds no text, or none that is a value. -/
inductive Fault.OfFile : Fault → Prop
  | unread (f : Files.Fault) : OfFile (.file f)
  | notText (position : Nat) (m : Text.Utf8.Malformed) (first : UInt8) :
      OfFile (.notText position m first)
  | malformed (path : Path) : OfFile (.malformedJson path)

/-- The value that the files have at a path. -/
def jsonAt (fs : FileSystem) (path : Path) : Except Fault Json := do
  let bytes ← (fs.readFile path).mapError .file
  jsonOfBytes path bytes

theorem jsonOfBytes_failsAs (path : Path) (bytes : ByteArray) :
    FailsAs Fault.OfFile (jsonOfBytes path bytes) := by
  rw [jsonOfBytes]
  refine failsAs_bind ?_ fun s _ => ?_
  · rw [textOfBytes]
    split
    · exact failsAs_ok _
    · exact failsAs_error (.notText _ _ _)
  · split
    · exact failsAs_ok _
    · exact failsAs_error (.malformed path)

theorem jsonAt_failsAs (fs : FileSystem) (path : Path) : FailsAs Fault.OfFile (jsonAt fs path) := by
  refine failsAs_bind ?_ fun bytes _ => jsonOfBytes_failsAs path bytes
  exact failsAs_mapError (failsAs_any (fs.readFile path)) fun f _ => .unread f

/-- The world after a file was announced. -/
def World.parsing (w : World) (path : Path) : World :=
  { w with console := w.console.print .info ("Parsing " ++ path.text) true }

@[simp] theorem parsing_files (w : World) (path : Path) : (w.parsing path).files = w.files := rfl

/-- To load a file is to announce it, and to read its value. -/
theorem perform_loadJson (path : Path) (w : World) :
    (loadJson path).perform w = (jsonAt w.files path, w.parsing path) := by
  show ((do
    let bytes ← Action.inspect fun fs => fs.readFile path
    Action.ofExcept id (jsonOfBytes path bytes) : Action Json).perform (w.parsing path)) = _
  rw [Action.perform_bind, Action.perform_inspect, parsing_files, jsonAt]
  cases w.files.readFile path with
  | error f => rfl
  | ok bytes =>
      dsimp only [Action.mapError_ok]
      rw [Action.perform_ofExcept]
      cases made : jsonOfBytes path bytes <;> simp [made, bind, Except.bind]

/-- What is made of the value of a file. -/
theorem perform_loadJson_bind {α : Type} (read : Json → Except Json.Fault α) (path : Path)
    (w : World) : (loadJson path >>= fun v => Action.ofExcept .value (read v)).perform w
      = (jsonAt w.files path >>= fun v => (read v).mapError .value, w.parsing path) := by
  rw [Action.perform_bind, perform_loadJson]
  cases jsonAt w.files path with
  | error f => rfl
  | ok v => exact Action.perform_ofExcept _ _ _

end MavenImport
