/-
# Proofs.ActionLaws -- what it means to perform an action

An action is performed on a world and gives an answer, or a fault, and the world that it leaves.
The laws say this of each way to put an action together (`perform_bind` of a sequence), and turn
a run that ended well back into the runs of its parts (`perform_bind_ok`).

Answers of two actions are compared by `Agree`.  `Keeps view a` says that an action leaves some
view of the world as it is, and `Meets` bounds the answers of an action from both sides while an
invariant lasts: an answer is one that may be given, and an answer that must be given is given.
What goes through sequences in this way is a `Judgement`, so that a program is walked through once
for all of them.
-/
import MavenImport.Maven.Fetch

namespace MavenImport.Action

set_option autoImplicit false

variable {α β γ : Type}

/-! ## Performing -/

@[simp] theorem perform_pure (x : α) (w : World) : (pure x : Action α).perform w = (.ok x, w) :=
  rfl

/-- The second part of a sequence is performed on the world that the first one leaves, unless
that ended with a fault. -/
theorem perform_bind (a : Action α) (f : α → Action β) (w : World) :
    (a >>= f).perform w = match a.perform w with
      | (.ok x, v) => (f x).perform v
      | (.error e, v) => (.error e, v) := by
  simp only [perform, ExceptT.run_bind, StateT.run_bind]
  rcases (ExceptT.run a).run w with ⟨answer | x, v⟩ <;> rfl

theorem perform_bind_answer {a : Action α} {f : α → Action β} {w : World} {x : α}
    (answered : (a.perform w).1 = .ok x) : (a >>= f).perform w = (f x).perform (a.perform w).2 := by
  rw [perform_bind]
  rcases run : a.perform w with ⟨answer, v⟩
  rw [run] at answered
  cases answered
  rfl

theorem perform_bind_fault {a : Action α} {f : α → Action β} {w : World} {fault : Fault}
    (failed : (a.perform w).1 = .error fault) :
    (a >>= f).perform w = (.error fault, (a.perform w).2) := by
  rw [perform_bind]
  rcases run : a.perform w with ⟨answer, v⟩
  rw [run] at failed
  cases failed
  rfl

theorem perform_answered {a : Action α} {w : World} {answer : Except Fault α}
    (answered : (a.perform w).1 = answer) : a.perform w = (answer, (a.perform w).2) := by
  rw [← answered]

@[simp] theorem perform_get (w : World) : (get : Action World).perform w = (.ok w, w) := rfl

theorem perform_get_bind (f : World → Action β) (w : World) :
    (get >>= f : Action β).perform w = (f w).perform w := rfl

@[simp] theorem mapError_ok {ε : Type} (fault : ε → Fault) (x : α) :
    (Except.ok x : Except ε α).mapError fault = .ok x := rfl

@[simp] theorem mapError_error {ε : Type} (fault : ε → Fault) (e : ε) :
    (Except.error e : Except ε α).mapError fault = .error (fault e) := rfl

/-- An effect in front of an action has its value and leaves its world. -/
theorem perform_lift_bind (e : Effect α) (f : α → Action β) (w : World) :
    ((liftM e : Action α) >>= f).perform w = (f (e.run w).1).perform (e.run w).2 := rfl

@[simp] theorem perform_result (a : Action α) (w : World) :
    (result a).perform w = (.ok (a.perform w).1, (a.perform w).2) := rfl

@[simp] theorem perform_ofExcept {ε : Type} (fault : ε → Fault) (x : Except ε α) (w : World) :
    (ofExcept fault x).perform w = (x.mapError fault, w) := by
  cases x <;> rfl

@[simp] theorem perform_inspect (read : FileSystem → Except Files.Fault α) (w : World) :
    (inspect read).perform w = ((read w.files).mapError .file, w) := by
  simp only [inspect, perform_bind, perform_get, perform_ofExcept]

@[simp] theorem perform_request (url : String) (w : World) :
    (request url).perform w
      = (.ok (w.web.reply url), { w with requested := Web.target url :: w.requested }) := rfl

theorem perform_change (write : FileSystem → Except Files.Fault FileSystem) (w : World) :
    (change write).perform w = match write w.files with
      | .ok files => (.ok (), { w with files := files })
      | .error f => (.error (.file f), w) := by
  simp only [change, perform_bind, perform_inspect]
  cases write w.files <;> rfl

/-- An attempt goes on with the way the action ended. -/
theorem run_attempt_bind (a : Action α) (f : Except Fault α → Effect β) (w : World) :
    (attempt a >>= f).run w = (f (a.perform w).1).run (a.perform w).2 := rfl

/-- A sequence ends well exactly if both parts do, one after the other. -/
theorem perform_bind_ok {a : Action α} {f : α → Action β} {w u : World} {y : β} :
    (a >>= f).perform w = (.ok y, u) ↔
      ∃ x v, a.perform w = (.ok x, v) ∧ (f x).perform v = (.ok y, u) := by
  rw [perform_bind]
  constructor
  · intro ended
    rcases first : a.perform w with ⟨fault | x, v⟩ <;> rw [first] at ended
    · cases ended
    · exact ⟨x, v, rfl, ended⟩
  · rintro ⟨x, v, first, second⟩
    rw [first]
    exact second

theorem perform_ofExcept_ok {ε : Type} {fault : ε → Fault} {x : Except ε α} {y : α} {w v : World} :
    (ofExcept fault x).perform w = (.ok y, v) ↔ x = .ok y ∧ w = v := by
  rw [perform_ofExcept]
  cases x <;> simp

theorem perform_inspect_ok {read : FileSystem → Except Files.Fault α} {y : α} {w v : World} :
    (inspect read).perform w = (.ok y, v) ↔ read w.files = .ok y ∧ w = v := by
  rw [perform_inspect]
  cases read w.files <;> simp

theorem perform_change_ok {write : FileSystem → Except Files.Fault FileSystem} {w v : World} :
    (change write).perform w = (.ok (), v) ↔
      ∃ files, write w.files = .ok files ∧ { w with files := files } = v := by
  rw [perform_change]
  cases write w.files <;> simp

/-- Two answers agree: they are the same fault, or values that are related. -/
inductive Agree (R : α → β → Prop) : Except Fault α → Except Fault β → Prop
  | fault (fault : Fault) : Agree R (.error fault) (.error fault)
  | value {x : α} {y : β} (related : R x y) : Agree R (.ok x) (.ok y)

theorem agree_refl (answer : Except Fault α) : Agree Eq answer answer := by
  cases answer with
  | error fault => exact .fault fault
  | ok x => exact .value rfl

/-- Values that look the same are the same to whoever only sees their looks. -/
theorem agree_map {f : α → γ} {g : β → γ} {answer : Except Fault α} {answer' : Except Fault β}
    (agree : Agree (fun x y => f x = g y) answer answer') : answer.map f = answer'.map g := by
  cases agree with
  | fault => rfl
  | value same => exact congrArg Except.ok same

/-! ## What an action keeps -/

/-- An action leaves a view of the world as it is. -/
def Keeps (view : World → γ) (a : Action α) : Prop := ∀ w, view (a.perform w).2 = view w

section Keeps

variable {view : World → γ}

theorem keeps_pure (x : α) : Keeps view (pure x : Action α) := fun _ => rfl

theorem keeps_fail (f : Fault) : Keeps view (fail f : Action α) := fun _ => rfl

theorem keeps_bind {a : Action α} {f : α → Action β} (first : Keeps view a)
    (second : ∀ x, Keeps view (f x)) : Keeps view (a >>= f) := by
  intro w
  have left := first w
  rw [perform_bind]
  rcases run : a.perform w with ⟨fault | x, v⟩ <;> rw [run] at left
  · exact left
  · exact (second x v).trans left

theorem keeps_result {a : Action α} (keeps : Keeps view a) : Keeps view (result a) := keeps

/-- Changing the files does not show in a view of something else. -/
theorem keeps_change (apart : ∀ (w : World) files, view { w with files := files } = view w)
    (write : FileSystem → Except Files.Fault FileSystem) : Keeps view (change write) := by
  intro w
  rw [perform_change]
  cases write w.files with
  | error f => rfl
  | ok files => exact apart w files

theorem keeps_ofExcept {ε : Type} (fault : ε → Fault) (x : Except ε α) :
    Keeps view (ofExcept fault x) := by
  intro w
  rw [perform_ofExcept]

theorem keeps_inspect (read : FileSystem → Except Files.Fault α) : Keeps view (inspect read) := by
  intro w
  rw [perform_inspect]

end Keeps

/-! ## What an action may and must answer -/

/-- What the failures that an action answers with may be, and the faults that it ends with in a
world. -/
structure Losses (ε : Type) where
  fails : ε → Prop
  stops : Fault → World → Prop

/-- Every failure and every fault may be. -/
def Losses.any {ε : Type} : Losses ε := ⟨fun _ => True, fun _ _ => True⟩

/-- From worlds with a property an action leads to worlds with that property.  What it answers
is something that it may answer, and what it must answer is its answer; its failures and its
faults are some that may be. -/
structure Meets {ε : Type} (good : World → Prop) (lost : Losses ε) (a : Action (Except ε α))
    (may must : α → Prop) : Prop where
  keeps : ∀ w, good w → good (a.perform w).2
  sound : ∀ w, good w → ∀ x, (a.perform w).1 = .ok (.ok x) → may x
  complete : ∀ w, good w → ∀ x, must x → (a.perform w).1 = .ok (.ok x)
  fails : ∀ w, good w → ∀ e, (a.perform w).1 = .ok (.error e) → lost.fails e
  stops : ∀ w, good w → ∀ fault, (a.perform w).1 = .error fault → lost.stops fault (a.perform w).2

section Meets

variable {ε : Type} {good : World → Prop} {lost : Losses ε} {may must : α → Prop}

theorem meets_pure {x : α} (allowed : may x) (only : ∀ y, must y → y = x) :
    Meets good lost (pure (.ok x) : Action (Except ε α)) may must where
  keeps _ started := started
  sound _ _ y answered := by
    rw [perform_pure] at answered
    cases answered
    exact allowed
  complete _ _ y required := by rw [only y required, perform_pure]
  fails _ _ _ failed := by cases failed
  stops _ _ _ stopped := by cases stopped

theorem meets_failure {e : ε} (known : lost.fails e) :
    Meets good lost (pure (.error e) : Action (Except ε α)) may fun _ => False where
  keeps _ started := started
  sound _ _ _ answered := by cases answered
  complete _ _ _ required := required.elim
  fails _ _ _ failed := by
    cases failed
    exact known
  stops _ _ _ stopped := by cases stopped

/-- A failure in the first part is a failure of the whole, and otherwise the second part goes on
with what the first one answered. -/
theorem meets_bind {may' must' : β → Prop} {a : Action (Except ε α)}
    {f : Except ε α → Action (Except ε β)} (first : Meets good lost a may must)
    (fails : ∀ e, f (.error e) = pure (.error e))
    (second : ∀ x, may x → Meets good lost (f (.ok x)) may' fun y => must x ∧ must' y)
    (needs : ∀ y, must' y → ∃ x, must x) : Meets good lost (a >>= f) may' must' := by
  have ends : ∀ w, good w →
      (∃ fault, (a.perform w).1 = .error fault ∧ (a >>= f).perform w = (.error fault, (a.perform w).2))
      ∨ (∃ e, (a.perform w).1 = .ok (.error e)
          ∧ (a >>= f).perform w = (.ok (.error e), (a.perform w).2))
      ∨ ∃ x, (a.perform w).1 = .ok (.ok x) ∧ may x
          ∧ (a >>= f).perform w = (f (.ok x)).perform (a.perform w).2 := by
    intro w started
    have said := first.sound w started
    rw [perform_bind]
    rcases run : a.perform w with ⟨fault | e | x, v⟩ <;> rw [run] at said
    · exact .inl ⟨fault, rfl, rfl⟩
    · refine .inr (.inl ⟨e, rfl, ?_⟩)
      dsimp only
      rw [fails e, perform_pure]
    · exact .inr (.inr ⟨x, rfl, said x rfl, rfl⟩)
  constructor
  case keeps =>
    intro w started
    have left := first.keeps w started
    obtain ⟨_, _, ended⟩ | ⟨_, _, ended⟩ | ⟨x, _, allowed, ended⟩ := ends w started <;> rw [ended]
    · exact left
    · exact left
    · exact (second x allowed).keeps _ left
  case sound =>
    intro w started y answered
    obtain ⟨_, _, ended⟩ | ⟨_, _, ended⟩ | ⟨x, _, allowed, ended⟩ := ends w started <;>
      rw [ended] at answered
    · cases answered
    · cases answered
    · exact (second x allowed).sound _ (first.keeps w started) y answered
  case complete =>
    intro w started y required
    obtain ⟨x, asked⟩ := needs y required
    have answered := first.complete w started x asked
    rw [perform_bind_answer answered]
    exact (second x (first.sound w started x answered)).complete _ (first.keeps w started) y
      ⟨asked, required⟩
  case fails =>
    intro w started e failed
    obtain ⟨_, _, ended⟩ | ⟨e', own, ended⟩ | ⟨x, _, allowed, ended⟩ := ends w started <;>
      rw [ended] at failed
    · cases failed
    · cases failed
      exact first.fails w started e own
    · exact (second x allowed).fails _ (first.keeps w started) e failed
  case stops =>
    intro w started fault stopped
    obtain ⟨_, own, ended⟩ | ⟨_, _, ended⟩ | ⟨x, _, allowed, ended⟩ := ends w started <;>
      rw [ended] at stopped ⊢
    · cases stopped
      exact first.stops w started fault own
    · cases stopped
    · exact (second x allowed).stops _ (first.keeps w started) fault stopped

theorem meets_mono {may' must' : α → Prop} {a : Action (Except ε α)}
    (meets : Meets good lost a may must) (allowed : ∀ x, may x → may' x)
    (required : ∀ x, must' x → must x) : Meets good lost a may' must' where
  keeps := meets.keeps
  sound w started x answered := allowed x (meets.sound w started x answered)
  complete w started x asked := meets.complete w started x (required x asked)
  fails := meets.fails
  stops := meets.stops

theorem meets_any {a : Action (Except ε α)} (meets : Meets good lost a may must) :
    Meets good .any a may must where
  keeps := meets.keeps
  sound := meets.sound
  complete := meets.complete
  fails _ _ _ _ := trivial
  stops _ _ _ _ := trivial

/-- A further property of worlds may be carried along. -/
theorem meets_and {more : World → Prop} {a : Action (Except ε α)}
    (meets : Meets good lost a may must)
    (keeps : ∀ w, good w → more w → more (a.perform w).2) :
    Meets (fun w => good w ∧ more w) lost a may must where
  keeps w started := ⟨meets.keeps w started.1, keeps w started.1 started.2⟩
  sound w started := meets.sound w started.1
  complete w started := meets.complete w started.1
  fails w started := meets.fails w started.1
  stops w started := meets.stops w started.1

end Meets

/-! ## Judgements -/

/-- A judgement on an action and another one beside it, about the values that may be answered and
the one that must be.  It holds of an action that is nothing but an allowed value, and it goes
through a sequence whose second part passes failures on.  A judgement on one action alone says
nothing of the other one. -/
structure Judgement (ε : Type) where
  Holds {α : Type} (a a' : Action (Except ε α)) (may must : α → Prop) : Prop
  value {α : Type} {x : α} {may must : α → Prop} (allowed : may x) (only : ∀ y, must y → y = x) :
    Holds (pure (.ok x)) (pure (.ok x)) may must
  sequence {α β : Type} {a a' : Action (Except ε α)} {f f' : Except ε α → Action (Except ε β)}
    {may must : α → Prop} {may' must' : β → Prop} (first : Holds a a' may must)
    (fails : ∀ e, f (.error e) = pure (.error e)) (fails' : ∀ e, f' (.error e) = pure (.error e))
    (second : ∀ x, may x → Holds (f (.ok x)) (f' (.ok x)) may' fun y => must x ∧ must' y)
    (needs : ∀ y, must' y → ∃ x, must x) : Holds (a >>= f) (a' >>= f') may' must'
  weaken {α : Type} {a a' : Action (Except ε α)} {may must may' must' : α → Prop}
    (holds : Holds a a' may must) (allowed : ∀ x, may x → may' x)
    (required : ∀ x, must' x → must x) : Holds a a' may' must'

/-- What an action may and must answer, as a judgement on it alone. -/
def Judgement.meets {ε : Type} (good : World → Prop) (lost : Losses ε) : Judgement ε where
  Holds a _ may must := Meets good lost a may must
  value := meets_pure
  sequence first fails _ second needs := meets_bind first fails second needs
  weaken := meets_mono

namespace Judgement

variable {ε : Type} (J : Judgement ε) {a a' : Action (Except ε α)} {may must : α → Prop}

/-- An answer may be changed after the fact. -/
theorem map (holds : J.Holds a a' may must) (unique : ∀ x y, must x → must y → x = y) (f : α → β) :
    J.Holds (a >>= fun answer => pure (answer.map f)) (a' >>= fun answer => pure (answer.map f))
      (fun y => ∃ x, may x ∧ y = f x) fun y => ∃ x, must x ∧ y = f x := by
  refine J.sequence holds (fun _ => rfl) (fun _ => rfl) (fun x allowed => ?_) ?_
  · refine J.value ⟨x, allowed, rfl⟩ ?_
    rintro y ⟨asked, x', asked', rfl⟩
    rw [unique x x' asked asked']
  · rintro y ⟨x, asked, -⟩
    exact ⟨x, asked⟩

end Judgement

end MavenImport.Action
