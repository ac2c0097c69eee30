/-
# Proofs.Rewriting -- writing the same files again

Writing files changes nothing but what is at their places and on the way there
(`FileSystem.Fills`).  So when a list of files has been written, and each has a place of its own,
everything is settled for a second time: a file that was written has its content and its
directory, and what barred a file still bars it.  Writing the list once more ends in the same
way, be it with a fault, and shows nothing new (`echoes_writeGroups`).
-/
import MavenImport.Proofs.PlainWrites
import MavenImport.Proofs.RunFiles

namespace MavenImport

open MavenImport.Action (Agree agree_refl)
open Files (Cause)
open FileSystem (nameFault? maxNameBytes temporaryNameBytes)

set_option autoImplicit false

/-- Files have come to some places, with the directories above them; apart from that nothing has
changed. -/
structure FileSystem.Fills (f : FileSystem) (places : List Location) (g : FileSystem) : Prop where
  plain : g.Plain
  lasts : f.Lasts g
  /-- A file elsewhere is what it was. -/
  kept : ∀ l ∉ places, ∀ bytes, f.seen? l = some (.file bytes) → g.seen? l = some (.file bytes)
  /-- Off the way there is nothing new. -/
  apart : ∀ l, (∀ place ∈ places, ¬ l <+: place) → g.seen? l = f.seen? l

variable {f g h e : FileSystem}

/-! ## Filling places -/

section Fills

variable {places more : List Location}

theorem fills_refl (plain : f.Plain) : f.Fills places f :=
  ⟨plain, lasts_refl f, fun _ _ _ => id, fun _ _ => rfl⟩

theorem fills_trans (first : f.Fills places g) (second : g.Fills places h) :
    f.Fills places h where
  plain := second.plain
  lasts := lasts_trans first.lasts second.lasts
  kept l off bytes there := second.kept l off bytes (first.kept l off bytes there)
  apart l off := (second.apart l off).trans (first.apart l off)

theorem fills_mono (fills : f.Fills places g) (within : ∀ l ∈ places, l ∈ more) :
    f.Fills more g where
  plain := fills.plain
  lasts := fills.lasts
  kept l off := fills.kept l fun listed => off (within l listed)
  apart l off := fills.apart l fun place listed => off place (within place listed)

theorem makeDirectories_fills (plain : f.Plain) {p : Path} (straight : p.Straight)
    (made : f.makeDirectories p = .ok g) : f.Fills [f.placeOf p] g := by
  have led := makeParents_leads _ plain straight made
  have grown := makeDirectories_grows made
  refine ⟨led.plain, grows_lasts grown, fun l _ bytes there => ?_, fun l off => ?_⟩
  · rcases grown.seen l with same | ⟨none, -⟩
    · rw [same, there]
    · rw [there] at none
      cases none
  · rcases grown.seen l with same | ⟨none, directory⟩
    · exact same
    · have entry := led.elsewhere l (off _ List.mem_cons_self)
      rw [seen_none] at none
      rw [seen_directory, entry, none] at directory
      cases directory

theorem replaceFile_fills (plain : f.Plain) {p : Path} (straight : p.Straight) {bytes : ByteArray}
    (written : f.replaceFile p bytes = .ok g) : f.Fills [f.placeOf p] g := by
  obtain ⟨plain', -, -, others, -⟩ := replaceFile_plain plain straight written
  obtain ⟨dirs, l₀, made, located, -, rfl⟩ := replaceFile_ok written
  have first := makeDirectories_fills plain (parent_straight straight) made
  have place : l₀ = f.placeOf p := by
    rw [← placeOf_lasts first.lasts p]
    exact (locateEntry_arrived first.plain straight located).1
  refine ⟨plain', replaceFile_lasts written, fun l off bytes there => ?_, fun l off => ?_⟩
  · rcases others l (fun same => off (same ▸ List.mem_cons_self)) with same | ⟨none, -⟩
    · rw [same, there]
    · rw [there] at none
      cases none
  · have ahead : ¬ l <+: f.placeOf p.parent := fun above =>
      off _ List.mem_cons_self (above.trans
        ((List.prefix_append_right_inj _).mpr (List.dropLast_prefix _)))
    have other : l₀ ≠ l := fun same =>
      off _ List.mem_cons_self (same ▸ place ▸ List.prefix_refl _)
    rw [putFile_seen, if_neg other]
    exact first.apart l fun place listed => List.mem_singleton.mp listed ▸ ahead

end Fills

/-! ## What bars a file the second time -/

theorem bar_none {p : Path} : f.bar? p = none ↔
    f.hitch? (f.start p) p.parent.names = none ∧
      ¬ maxNameBytes < p.name.utf8ByteSize + temporaryNameBytes ∧ nameFault? p.name = none ∧
        f.entryAt? (f.placeOf p) ≠ some .directory := by
  unfold FileSystem.bar?
  simp only [Option.or_eq_none_iff, ite_eq_right_iff, reduceCtorEq, imp_false]

theorem parent_directory (plain : f.Plain) {p : Path} (named : p.names ≠ [])
    (there : f.entryAt? (f.placeOf p) ≠ none) :
    f.entryAt? (f.placeOf p.parent) = some .directory := by
  rw [place_parent named] at there
  exact (plain.placed _ _ there).1

/-- Where a file could be written and there is one, nothing bars it. -/
theorem bar_filled {p : Path} (free : f.bar? p = none) (plain : g.Plain) (named : p.names ≠ [])
    {i : Nat} (there : g.entryAt? (g.placeOf p) = some (.file i)) : g.bar? p = none := by
  obtain ⟨-, short, valid, -⟩ := bar_none.mp free
  refine bar_none.mpr ⟨?_, short, valid, by simp [there]⟩
  exact hitch_directory plain _ _ (parent_directory plain named (by simp [there]))

theorem alike_trans (first : f.Alike g) (second : g.Alike h) : f.Alike h :=
  ⟨first.here.trans second.here, fun l => (first.seen l).trans (second.seen l)⟩

/-! ## Replacing a file again -/

section Again

variable {p : Path} {bytes : ByteArray} (straight : p.Straight) (named : p.names ≠ [])
include straight named

/-- A file that was written is there, and it is written again without a change. -/
theorem written_again (plain : f.Plain) (written : f.replaceFile p bytes = .ok g) (plain' : e.Plain)
    (lasts : g.Lasts e) (kept : ∀ bytes, g.seen? (f.placeOf p) = some (.file bytes) →
      e.seen? (f.placeOf p) = some (.file bytes)) :
    ∃ e', e.replaceFile p bytes = .ok e' ∧ e.Alike e' := by
  obtain ⟨-, -, seen, -, -⟩ := replaceFile_plain plain straight written
  have place : e.placeOf p = f.placeOf p := by
    rw [placeOf_lasts lasts, placeOf_lasts (replaceFile_lasts written)]
  have there : e.seen? (e.placeOf p) = some (.file bytes) := place ▸ kept bytes seen
  obtain ⟨i, entry, -⟩ := seen_file.mp there
  have free := bar_filled (free_of_written plain straight named written) plain' named entry
  obtain ⟨e', rewritten⟩ := replaceFile_free plain' straight named free bytes
  obtain ⟨-, here, seen', -, still⟩ := replaceFile_plain plain' straight rewritten
  refine ⟨e', rewritten, here.symm, fun l => ?_⟩
  by_cases own : l = e.placeOf p
  · rw [own, there, seen']
  · exact (still (parent_directory plain' named (by simp [entry])) l own).symm

/-- A file that was refused is refused again. -/
theorem refused_again (plain : f.Plain) {fault : Files.Fault}
    (refused : f.replaceFile p bytes = .error fault) (refusal : fault.isRefusal = true)
    (plain' : e.Plain) (lasts : f.Lasts e) :
    ∃ fault', e.replaceFile p bytes = .error fault' ∧ fault'.isRefusal = true := by
  cases barred : f.bar? p with
  | none =>
      obtain ⟨g, written⟩ := replaceFile_free plain straight named barred bytes
      rw [written] at refused
      cases refused
  | some cause =>
      obtain ⟨fault₁, refused₁, kind⟩ := replaceFile_barred plain straight named barred bytes
      rw [refused] at refused₁
      cases refused₁
      obtain ⟨cause', barred', lasting⟩ := bar_lasts lasts barred
      obtain ⟨fault', refused', kind'⟩ := replaceFile_barred plain' straight named barred' bytes
      exact ⟨fault', refused', kind'.mpr (lasting (kind.mp refusal))⟩

end Again

/-! ## Writing again -/

section Write

variable {w u v : World} {path : Path} {text : String} {fault : Files.Fault}

theorem write_made {files : FileSystem} (made : w.files.replaceFile path text.toUTF8 = .ok files) :
    (Plan.write path text).perform w = (.ok ⟨path, text, true⟩, { w with files := files }) := by
  unfold Plan.write
  rw [Action.perform_bind, Action.perform_result, Action.perform_change, made]
  rfl

theorem write_refused (refused : w.files.replaceFile path text.toUTF8 = .error fault)
    (refusal : fault.isRefusal = true) : ∃ console, (Plan.write path text).perform w
      = (.ok ⟨path, text, false⟩, { w with console := console }) := by
  unfold Plan.write
  rw [Action.perform_bind, Action.perform_result, Action.perform_change, refused]
  dsimp only
  rw [if_pos refusal]
  exact ⟨_, rfl⟩

theorem write_stopped (refused : w.files.replaceFile path text.toUTF8 = .error fault)
    (other : fault.isRefusal = false) :
    (Plan.write path text).perform w = (.error (.file fault), w) := by
  unfold Plan.write
  rw [Action.perform_bind, Action.perform_result, Action.perform_change, refused]
  dsimp only
  rw [other]
  rfl

theorem write_fills (plain : w.files.Plain) (straight : path.Straight) :
    w.files.Fills [w.files.placeOf path] ((Plan.write path text).perform w).2.files := by
  cases made : w.files.replaceFile path text.toUTF8 with
  | ok files =>
      rw [write_made made]
      exact replaceFile_fills plain straight made
  | error fault =>
      cases refusal : fault.isRefusal with
      | true =>
          obtain ⟨_, ran⟩ := write_refused made refusal
          rw [ran]
          exact fills_refl plain
      | false =>
          rw [write_stopped made refusal]
          exact fills_refl plain

/-- A file system is what comes of an action in the end, as far as some places are concerned: no
entry is lost, the files at the places are there, and if the action ends with a fault it is the end
itself. -/
structure FileSystem.Settles {α : Type} (ran : Except Fault α × World) (places : List Location)
    (e : FileSystem) : Prop where
  plain : e.Plain
  lasts : ran.2.files.Lasts e
  filled : ∀ l ∈ places, ∀ bytes, ran.2.files.seen? l = some (.file bytes) →
    e.seen? l = some (.file bytes)
  stopped : ∀ fault, ran.1 = .error fault → ran.2.files.Alike e

/-- A file is written again as it was, over what has come of it in the end. -/
theorem write_again (plain : w.files.Plain) (straight : path.Straight) (named : path.names ≠ [])
    (settles : e.Settles ((Plan.write path text).perform w) [w.files.placeOf path])
    (alike : e.Alike u.files) :
    ((Plan.write path text).perform u).1 = ((Plan.write path text).perform w).1 ∧
      e.Alike ((Plan.write path text).perform u).2.files := by
  have changed := replaceFile_alike alike path text.toUTF8
  cases made : w.files.replaceFile path text.toUTF8 with
  | ok files =>
      rw [write_made made] at settles ⊢
      obtain ⟨e', again, still⟩ := written_again straight named plain made settles.plain
        settles.lasts (settles.filled _ List.mem_cons_self)
      rw [again] at changed
      rcases changed_cases changed with ⟨_, files', same, made', after⟩ | ⟨_, other, -⟩
      · cases same
        rw [write_made made']
        exact ⟨rfl, alike_trans still after⟩
      · cases other
  | error fault =>
      cases refusal : fault.isRefusal with
      | true =>
          obtain ⟨console, ran⟩ := write_refused made refusal
          rw [ran] at settles ⊢
          obtain ⟨fault', again, refusal'⟩ :=
            refused_again straight named plain made refusal settles.plain settles.lasts
          rw [again] at changed
          rcases changed_cases changed with ⟨_, _, other, -⟩ | ⟨_, same, made'⟩
          · cases other
          · cases same
            obtain ⟨console', ran'⟩ := write_refused made' refusal'
            rw [ran']
            exact ⟨rfl, alike⟩
      | false =>
          -- nothing has changed since then, so the fault is the same
          rw [write_stopped made refusal] at settles ⊢
          have changed := replaceFile_alike (alike_trans (settles.stopped _ rfl) alike) path
            text.toUTF8
          rw [made] at changed
          rcases changed_cases changed with ⟨_, _, other, -⟩ | ⟨_, same, made'⟩
          · cases other
          · cases same
            rw [write_stopped made' refusal]
            exact ⟨rfl, alike⟩

end Write

/-! ## Actions that are repeated -/

/-- The place of a path for a working directory. -/
def Path.placeFrom (here : Location) (p : Path) : Location :=
  (if p.anchor = .here then here else []) ++ p.names

/-- An action fills some places, and over what has come of it in the end another action gives an
answer that agrees and shows nothing new. -/
structure Action.Echoes {α β : Type} (here : Location) (places : List Location) (R : α → β → Prop)
    (a : Action α) (b : Action β) : Prop where
  fills : ∀ w : World, w.files.Plain → w.files.here = here →
    w.files.Fills places (a.perform w).2.files
  again : ∀ (w u : World) (e : FileSystem), w.files.Plain → w.files.here = here →
    e.Settles (a.perform w) places → e.Alike u.files →
      Agree R (a.perform w).1 (b.perform u).1 ∧ e.Alike (b.perform u).2.files

section Echoes

variable {α β α' β' : Type} {here : Location} {places more : List Location} {R : α → β → Prop}
  {R' : α' → β' → Prop}

theorem echoes_mono {a : Action α} {b : Action β} (echoes : a.Echoes here places R b)
    (within : ∀ l ∈ places, l ∈ more) : a.Echoes here more R b where
  fills w plain from' := fills_mono (echoes.fills w plain from') within
  again w u e plain from' settles alike :=
    echoes.again w u e plain from' ⟨settles.plain, settles.lasts,
      fun l listed => settles.filled l (within l listed), settles.stopped⟩ alike

/-- Actions that leave the files as they are need only agree in their answers. -/
theorem echoes_still {a : Action α} {b : Action β}
    (answers : ∀ w u, Agree R (a.perform w).1 (b.perform u).1)
    (keeps : Action.Keeps World.files a) (keeps' : Action.Keeps World.files b) :
    a.Echoes here [] R b where
  fills w plain _ := by
    rw [keeps w]
    exact fills_refl plain
  again w u e _ _ _ alike := ⟨answers w u, by rw [keeps' u]; exact alike⟩

theorem echoes_pure {x : α} {y : β} (related : R x y) :
    (pure x : Action α).Echoes here [] R (pure y) :=
  echoes_still (fun _ _ => .value related) (Action.keeps_pure x) (Action.keeps_pure y)

theorem echoes_print (level : Level) (message : String) :
    (liftM (Effect.print level message) : Action PUnit).Echoes here [] Eq
      (liftM (Effect.print level message)) :=
  echoes_still (fun _ _ => .value rfl) (fun _ => rfl) fun _ => rfl

theorem echoes_ofExcept {ε : Type} (fault : ε → Fault) (x : Except ε α) :
    (Action.ofExcept fault x).Echoes here [] Eq (Action.ofExcept fault x) :=
  echoes_still (fun _ _ => by simp only [Action.perform_ofExcept]; exact agree_refl _)
    (Action.keeps_ofExcept fault x) (Action.keeps_ofExcept fault x)

/-- What has come of a sequence in the end is what has come of its first part, if the second one
fills other places. -/
theorem settles_first {a : Action α} {k : α → Action α'} {w v : World} {x : α} {e : FileSystem}
    (ran : a.perform w = (.ok x, v)) (fills : v.files.Fills more ((k x).perform v).2.files)
    (apart : ∀ l ∈ places, l ∉ more)
    (settles : e.Settles ((a >>= k).perform w) (places ++ more)) :
    e.Settles (a.perform w) places ∧ e.Settles ((k x).perform v) more := by
  rw [Action.perform_bind, ran] at settles
  rw [ran]
  refine ⟨⟨settles.plain, lasts_trans fills.lasts settles.lasts, fun l listed bytes there => ?_,
    fun fault other => by cases other⟩, settles.plain, settles.lasts,
    fun l listed => settles.filled l (List.mem_append_right _ listed), settles.stopped⟩
  exact settles.filled l (List.mem_append_left _ listed) bytes
    (fills.kept l (apart l listed) bytes there)

/-- Sequences agree if their first parts do, and then what follows on related values. -/
theorem echoes_bind {a : Action α} {b : Action β} {k : α → Action α'} {k' : β → Action β'}
    (first : a.Echoes here places R b) (second : ∀ x y, R x y → (k x).Echoes here more R' (k' y))
    (total : ∀ x, ∃ y, R x y) (apart : ∀ l ∈ places, l ∉ more) :
    (a >>= k).Echoes here (places ++ more) R' (b >>= k') where
  fills w plain from' := by
    have filled := first.fills w plain from'
    have left : w.files.Fills (places ++ more) (a.perform w).2.files :=
      fills_mono filled fun _ => List.mem_append_left _
    rw [Action.perform_bind]
    rcases ran : a.perform w with ⟨fault | x, v⟩ <;> rw [ran] at left
    · exact left
    · obtain ⟨y, related⟩ := total x
      exact fills_trans left (fills_mono ((second x y related).fills v left.plain
        (left.lasts.here.trans from')) fun _ => List.mem_append_right _)
  again w u e plain from' settles alike := by
    have filled := first.fills w plain from'
    rcases ran : a.perform w with ⟨fault | x, v⟩
    · -- with a fault in the first part it ends there both times
      have whole : (a >>= k).perform w = (.error fault, v) := by rw [Action.perform_bind, ran]
      rw [whole] at settles ⊢
      have own : e.Settles (a.perform w) places := by
        rw [ran]
        exact ⟨settles.plain, settles.lasts,
          fun l listed => settles.filled l (List.mem_append_left _ listed),
          fun _ _ => settles.stopped fault rfl⟩
      obtain ⟨same, still⟩ := first.again w u e plain from' own alike
      rw [ran] at same
      rw [Action.perform_bind]
      rcases ran' : b.perform u with ⟨answer, v'⟩
      rw [ran'] at same still
      cases same
      exact ⟨.fault fault, still⟩
    · rw [ran] at filled
      have here' := filled.lasts.here.trans from'
      obtain ⟨y, related⟩ := total x
      obtain ⟨own, rest⟩ := settles_first ran ((second x y related).fills v filled.plain here')
        apart settles
      obtain ⟨same, still⟩ := first.again w u e plain from' own alike
      rw [ran] at same
      rw [Action.perform_bind, Action.perform_bind, ran]
      rcases ran' : b.perform u with ⟨answer, v'⟩
      rw [ran'] at same still
      cases same with
      | value related => exact (second x _ related).again v v' e filled.plain here' rest still

/-- Sequences agree if their first parts give the same and what follows on it agrees. -/
theorem echoes_same {a b : Action α} {k : α → Action α'} {k' : α → Action β'}
    (first : a.Echoes here places Eq b) (second : ∀ x, (k x).Echoes here more R' (k' x))
    (apart : ∀ l ∈ places, l ∉ more) : (a >>= k).Echoes here (places ++ more) R' (b >>= k') :=
  echoes_bind first (fun x _ same => same ▸ second x) (fun x => ⟨x, rfl⟩) apart

theorem echoes_after {a b : Action α} {k : α → Action α'} {k' : α → Action β'}
    (first : a.Echoes here [] Eq b) (second : ∀ x, (k x).Echoes here places R' (k' x)) :
    (a >>= k).Echoes here places R' (b >>= k') :=
  echoes_same first second fun _ none => absurd none List.not_mem_nil

theorem echoes_before {a b : Action α} {k : α → Action α'} {k' : α → Action β'}
    (first : a.Echoes here places Eq b) (second : ∀ x, (k x).Echoes here [] R' (k' x)) :
    (a >>= k).Echoes here places R' (b >>= k') := by
  rw [← List.append_nil places]
  exact echoes_same first second fun _ _ => List.not_mem_nil

theorem echoes_write {path : Path} (straight : path.Straight) (named : path.names ≠ [])
    (text : String) :
    (Plan.write path text).Echoes here [path.placeFrom here] Eq (Plan.write path text) where
  fills w plain from' := by
    subst from'
    exact write_fills plain straight
  again w u e plain from' settles alike := by
    subst from'
    obtain ⟨same, still⟩ := write_again plain straight named settles alike
    exact ⟨same ▸ agree_refl _, still⟩

end Echoes

section Files

variable {plan : Plan} {here : Location}

theorem echoes_writeGroup {path : Path} (straight : path.Straight) (named : path.names ≠ [])
    (declared : List Declared) :
    (plan.writeGroup path declared).Echoes here [path.placeFrom here] Eq
      (plan.writeGroup path declared) := by
  refine echoes_after (echoes_ofExcept _ _) fun text => ?_
  refine echoes_before (echoes_write straight named text) fun output => ?_
  dsimp only
  split
  · exact echoes_after (echoes_print _ _) fun _ => echoes_pure rfl
  · exact echoes_pure rfl

/-- Build files that have places of their own are written again as they were. -/
theorem echoes_writeGroups :
    ∀ groups : List (Path × List Declared), (∀ g ∈ groups, g.1.Straight ∧ g.1.names ≠ []) →
      (groups.map fun g => g.1.placeFrom here).Nodup →
        (plan.writeGroups groups).Echoes here (groups.map fun g => g.1.placeFrom here) Eq
          (plan.writeGroups groups)
  | [], _, _ => echoes_pure rfl
  | (path, declared) :: groups, proper, once => by
      obtain ⟨straight, named⟩ := proper _ List.mem_cons_self
      obtain ⟨own, once⟩ := List.nodup_cons.mp once
      have later := echoes_writeGroups groups
        (fun g listed => proper g (List.mem_cons_of_mem _ listed)) once
      rw [List.map_cons, ← List.singleton_append]
      refine echoes_same (echoes_writeGroup straight named declared) (fun output => ?_)
        (by simpa using own)
      exact echoes_before later fun _ => echoes_pure rfl

theorem echoes_writeAliases (straight : (plan.workspace.joinText buildFileName).Straight)
    (named : (plan.workspace.joinText buildFileName).names ≠ []) (declared : List Declared) :
    (plan.writeAliases declared).Echoes here
      [(plan.workspace.joinText buildFileName).placeFrom here] Eq (plan.writeAliases declared) := by
  unfold Plan.writeAliases
  dsimp only
  split
  · exact echoes_mono (echoes_pure rfl) (by simp)
  · refine echoes_before (echoes_write straight named _) fun output => ?_
    split
    · exact echoes_after (echoes_print _ _) fun _ => echoes_pure rfl
    · exact echoes_pure rfl

end Files

end MavenImport
