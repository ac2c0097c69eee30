/-
# Proofs.RefusedWrites -- what can go wrong with a write

A write that fails is either refused by the system, which the run tells and survives, or its path
has a name that holds a NUL, which no system takes.  Where neither the path nor the target of any
link holds one, nothing but a refusal is possible (`replaceFile_refuses`), and writing keeps it so
(`replaceFile_nulFree`).  The other way round, a directory that could be made has a path without a
NUL (`makeDirectories_checked`).
-/
import MavenImport.Proofs.FileWrites
import MavenImport.Proofs.TextLaws

namespace MavenImport

open Files (Cause)

set_option autoImplicit false

/-! ## Names without a NUL -/

/-- A name that some file may have. -/
def NulFree (name : String) : Prop := Char.ofNat 0 ∉ name.toList

instance (name : String) : Decidable (NulFree name) :=
  inferInstanceAs (Decidable (Char.ofNat 0 ∉ name.toList))

def Path.NulFree (p : Path) : Prop := ∀ name ∈ p.names, MavenImport.NulFree name

/-- No link has a target that cannot be followed. -/
def FileSystem.NulFree (fs : FileSystem) : Prop :=
  ∀ l target, fs.entryAt? l = some (.link target) → (Path.ofString target).NulFree

/-- The system itself gives such a cause. -/
def Files.Cause.Refuses (c : Cause) : Prop := c.errno?.isSome = true

section Names

variable {name s : String} {p q : Path} {cause : Cause}

theorem nameFault_refuses (free : NulFree name) (fault : FileSystem.nameFault? name = some cause) :
    cause.Refuses := by
  unfold FileSystem.nameFault? at fault
  rw [if_neg (by simpa [NulFree] using free)] at fault
  split at fault
  · cases fault
    rfl
  · cases fault

theorem nameFault_none (fine : FileSystem.nameFault? name = none) : NulFree name := by
  unfold FileSystem.nameFault? at fine
  split at fine
  · cases fine
  · next free => simpa [NulFree] using free

theorem parent_nulFree (free : p.NulFree) : p.parent.NulFree :=
  fun name listed => free name ((List.dropLast_sublist _).mem listed)

theorem join_nulFree (free : p.NulFree) (free' : q.NulFree) : (p.join q).NulFree := by
  intro name listed
  unfold Path.join at listed
  split at listed
  · rcases List.mem_append.mp listed with first | second
    · exact free name first
    · exact free' name second
  · exact free' name listed

/-- What a text does not hold, no name between its slashes does. -/
theorem ofString_nulFree (free : NulFree s) : (Path.ofString s).NulFree := by
  intro name listed holds
  obtain ⟨piece, cut, rfl⟩ := List.mem_map.mp (List.mem_filter.mp listed).1
  rw [String.toList_ofList] at holds
  exact free (Text.mem_of_mem_pieces cut holds)

theorem joinText_nulFree (free : p.NulFree) (free' : NulFree s) : (p.joinText s).NulFree :=
  join_nulFree free (ofString_nulFree free')

end Names

/-! ## Following paths -/

section Follow

variable {fs g : FileSystem} {followLast : Bool} {p : Path} {cause : Cause}

/-- Names are left for later only behind a link. -/
def FileSystem.Stop.rest : FileSystem.Stop → List String
  | arrived _ => []
  | atLink _ _ rest => rest

/-- A walk that ends has looked at all names but those that it leaves. -/
theorem walk_checked {stop : FileSystem.Stop} :
    ∀ {names : List String} {base : Location}, fs.walk followLast base names = .ok stop →
      ∀ name ∈ names, NulFree name ∨ name ∈ stop.rest
  | [], _, _, _, listed => absurd listed List.not_mem_nil
  | first :: rest, base, walked, name, listed => by
      unfold FileSystem.walk at walked
      by_cases up : first = ".."
      · rw [if_pos up] at walked
        rcases List.mem_cons.mp listed with rfl | later
        · exact .inl (up ▸ by decide)
        · exact walk_checked walked name later
      · rw [if_neg up] at walked
        cases fault : FileSystem.nameFault? first with
        | some cause =>
            rw [fault] at walked
            cases walked
        | none =>
            rw [fault] at walked
            dsimp only at walked
            rcases List.mem_cons.mp listed with rfl | later
            · exact .inl (nameFault_none fault)
            · have some : rest ≠ [] := List.ne_nil_of_mem later
              split at walked
              · rw [if_neg some] at walked
                cases walked
              · exact walk_checked walked name later
              · rw [if_neg some] at walked
                cases walked
              · rw [if_neg fun last => some last.1] at walked
                cases walked
                exact .inr later

/-- A walk along names without a NUL ends with nothing but a refusal. -/
theorem walk_refuses :
    ∀ {names : List String} {base : Location}, (∀ name ∈ names, NulFree name) →
      fs.walk followLast base names = .error cause → cause.Refuses
  | [], _, _, failed => by cases failed
  | first :: rest, base, names, failed => by
      have later := fun name listed => names name (List.mem_cons_of_mem first listed)
      unfold FileSystem.walk at failed
      split at failed
      · exact walk_refuses later failed
      · split at failed
        · next fault =>
            cases failed
            exact nameFault_refuses (names first List.mem_cons_self) fault
        · dsimp only at failed
          split at failed
          · split at failed <;> cases failed
            rfl
          · exact walk_refuses later failed
          · split at failed <;> cases failed
            rfl
          · split at failed <;> cases failed

/-- What is left behind a link holds no NUL, and neither does the link. -/
theorem walk_links (free : fs.NulFree) {base' : Location} {target : String} {rest' : List String} :
    ∀ {names : List String} {base : Location}, (∀ name ∈ names, NulFree name) →
      fs.walk followLast base names = .ok (.atLink base' target rest') →
        (Path.ofString target).NulFree ∧ ∀ name ∈ rest', NulFree name
  | [], _, _, stopped => by cases stopped
  | first :: rest, base, names, stopped => by
      have later := fun name listed => names name (List.mem_cons_of_mem first listed)
      unfold FileSystem.walk at stopped
      split at stopped
      · exact walk_links free later stopped
      · split at stopped
        · cases stopped
        · dsimp only at stopped
          split at stopped
          · split at stopped <;> cases stopped
          · exact walk_links free later stopped
          · split at stopped <;> cases stopped
          · next entry =>
              split at stopped <;> cases stopped
              exact ⟨free _ target entry, later⟩

/-- Where a path leads, none of its names holds a NUL. -/
theorem follow_checked {l : Location} :
    ∀ {links : Nat} {base : Location} {names : List String},
      fs.follow followLast links base names = .ok l → ∀ name ∈ names, NulFree name
  | 0, base, names, followed, name, listed => by
      unfold FileSystem.follow at followed
      split at followed
      · cases followed
      · next walked =>
          exact (walk_checked walked name listed).resolve_right List.not_mem_nil
      · cases followed
  | links + 1, base, names, followed, name, listed => by
      unfold FileSystem.follow at followed
      split at followed
      · cases followed
      · next walked =>
          exact (walk_checked walked name listed).resolve_right List.not_mem_nil
      · next walked =>
          rcases walk_checked walked name listed with free | later
          · exact free
          · exact follow_checked followed name (List.mem_append_right _ later)

theorem follow_refuses (free : fs.NulFree) :
    ∀ {links : Nat} {base : Location} {names : List String}, (∀ name ∈ names, NulFree name) →
      fs.follow followLast links base names = .error cause → cause.Refuses
  | 0, base, names, each, failed => by
      unfold FileSystem.follow at failed
      split at failed
      · next walked =>
          cases failed
          exact walk_refuses each walked
      · cases failed
      · cases failed
        rfl
  | links + 1, base, names, each, failed => by
      unfold FileSystem.follow at failed
      split at failed
      · next walked =>
          cases failed
          exact walk_refuses each walked
      · cases failed
      · next walked =>
          obtain ⟨target, rest⟩ := walk_links free each walked
          refine follow_refuses free (fun name listed => ?_) failed
          exact (List.mem_append.mp listed).elim (target name) (rest name)

theorem status_refuses (free : fs.NulFree) (path : p.NulFree) {fault : Files.Fault}
    (failed : fs.status p = .error fault) : fault.cause.Refuses := by
  unfold FileSystem.status at failed
  split at failed
  · next located =>
      cases failed
      exact follow_refuses free path located
  · split at failed
    · cases failed
    · cases failed
      rfl

theorem readFile_refuses (free : fs.NulFree) (path : p.NulFree) {fault : Files.Fault}
    (failed : fs.readFile p = .error fault) : fault.cause.Refuses := by
  rw [FileSystem.readFile] at failed
  split at failed
  · next shown =>
      cases failed
      exact status_refuses free path shown
  · cases failed
    rfl
  · cases failed
  · cases failed
    rfl

/-! ## Making directories and files -/

theorem makeDirectory_refuses (free : fs.NulFree) (path : p.NulFree) {fault : Files.Fault}
    (failed : fs.makeDirectory p = .error fault) : fault.cause.Refuses := by
  unfold FileSystem.makeDirectory at failed
  split at failed
  · next located =>
      cases failed
      exact follow_refuses free path located
  · split at failed
    · cases failed
    · cases failed
      rfl

theorem makeDirectory_nulFree (free : fs.NulFree) (made : fs.makeDirectory p = .ok g) :
    g.NulFree := by
  unfold FileSystem.makeDirectory at made
  split at made
  · cases made
  · split at made
    · cases made
      intro l target found
      rw [FileSystem.entryAt?, FileSystem.putEntry, find?_put_entry] at found
      split at found
      · cases found
      · exact free l target found
    · cases made

theorem makeParents_nulFree (n : Nat) (free : fs.NulFree) (made : fs.makeParents p n = .ok g) :
    g.NulFree :=
  makeParents_relates (R := fun f g => f.NulFree → g.NulFree) (fun _ => id)
    (fun first second => second ∘ first) (fun made free => makeDirectory_nulFree free made) n made
    free

theorem orPresent_refuses (free : fs.NulFree) (path : p.NulFree) {fault fault' : Files.Fault}
    (refuses : fault.cause.Refuses) (failed : fs.orPresent p fault = .error fault') :
    fault'.cause.Refuses := by
  unfold FileSystem.orPresent at failed
  split at failed
  · cases failed
  · cases failed
    exact refuses
  · next looked =>
      cases failed
      unfold FileSystem.isDirectory at looked
      split at looked
      · cases looked
      · next missed =>
          split at looked
          · cases looked
          · cases looked
            exact status_refuses free path missed

theorem makeParents_refuses :
    ∀ (n : Nat) {fs : FileSystem} {p : Path} {fault : Files.Fault}, fs.NulFree → p.NulFree →
      fs.makeParents p n = .error fault → fault.cause.Refuses
  | 0, fs, p, fault, free, path, failed => by
      unfold FileSystem.makeParents at failed
      split at failed
      · cases failed
      · next missed =>
          have refuses := makeDirectory_refuses free path missed
          split at failed
          · cases failed
            exact refuses
          · exact orPresent_refuses free path refuses failed
  | n + 1, fs, p, fault, free, path, failed => by
      unfold FileSystem.makeParents at failed
      split at failed
      · cases failed
      · next missed =>
          have refuses := makeDirectory_refuses free path missed
          split at failed
          · split at failed
            · cases failed
              exact refuses
            · split at failed
              · next above =>
                  cases failed
                  exact makeParents_refuses n free (parent_nulFree path) above
              · next above =>
                  have free' := makeParents_nulFree n free above
                  split at failed
                  · cases failed
                  · next missed' =>
                      have refuses' := makeDirectory_refuses free' path missed'
                      split at failed
                      · cases failed
                        exact refuses'
                      · exact orPresent_refuses free' path refuses' failed
          · exact orPresent_refuses free path refuses failed

/-- The system may refuse a file, and nothing else can go wrong with it. -/
theorem replaceFile_refuses (free : fs.NulFree) (path : p.NulFree) {bytes : ByteArray}
    {fault : Files.Fault} (failed : fs.replaceFile p bytes = .error fault) :
    fault.isRefusal = true := by
  show fault.cause.Refuses
  unfold FileSystem.replaceFile at failed
  simp only [bind, Except.bind] at failed
  split at failed
  · next above =>
      cases failed
      exact makeParents_refuses _ free (parent_nulFree path) above
  · next dirs above =>
      have free' : dirs.NulFree := makeParents_nulFree _ free above
      split at failed
      · cases failed
        rfl
      · split at failed
        · next located =>
            cases failed
            exact follow_refuses free' path located
        · split at failed
          · cases failed
            rfl
          · cases failed

theorem replaceFile_nulFree (free : fs.NulFree) {bytes : ByteArray}
    (written : fs.replaceFile p bytes = .ok g) : g.NulFree := by
  obtain ⟨dirs, l, made, -, -, rfl⟩ := replaceFile_ok written
  intro l' target found
  rw [FileSystem.entryAt?, FileSystem.putFile, find?_put_entry] at found
  split at found
  · cases found
  · exact makeParents_nulFree _ free made l' target found

/-! ## Paths of directories -/

theorem makeDirectory_checked (made : fs.makeDirectory p = .ok g) : p.NulFree := by
  unfold FileSystem.makeDirectory at made
  split at made
  · cases made
  · next located => exact follow_checked located

theorem orPresent_checked {fault : Files.Fault} (present : fs.orPresent p fault = .ok g) :
    p.NulFree := by
  unfold FileSystem.orPresent at present
  split at present
  · next looked =>
      unfold FileSystem.isDirectory at looked
      split at looked
      · next found =>
          unfold FileSystem.status at found
          split at found
          · cases found
          · next located => exact follow_checked located
      · split at looked <;> cases looked
  · cases present
  · cases present

theorem makeParents_zero_checked {fs : FileSystem} (made : fs.makeParents p 0 = .ok g) :
    p.NulFree := by
  unfold FileSystem.makeParents at made
  split at made
  · next first => exact makeDirectory_checked first
  · split at made
    · cases made
    · exact orPresent_checked made

theorem makeParents_checked (n : Nat) (made : fs.makeParents p n = .ok g) : p.NulFree := by
  cases n with
  | zero => exact makeParents_zero_checked made
  | succ n =>
      rcases makeParents_succ made with only | ⟨dirs, _, last⟩
      · exact makeParents_zero_checked only
      · exact makeParents_zero_checked last

/-- A directory that can be made has a path without a NUL. -/
theorem makeDirectories_checked (made : fs.makeDirectories p = .ok g) : p.NulFree :=
  makeParents_checked _ made

end Follow

end MavenImport
