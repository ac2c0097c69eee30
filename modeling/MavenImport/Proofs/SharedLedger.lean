/-
# Proofs.SharedLedger -- a shared ledger loses nothing

Any number of callers use one ledger, and their steps come in any order; in between, those who
were given copies of the entries change them as they like.  Memory holds the ledger all the time,
behind a fence (`Guarded`), and this is kept by every step (`guarded_move`).  So whatever the
schedule is (`Lossless`)

* every call is answered once, in the order of its caller, and no schedule keeps a call from
  being answered later;
* all entries are answered as the ledger in which just that was recorded which had been recorded
  before, a slug is found just if it had been recorded, and the slugs that had been are counted
  once each;
* without the changes that were made to copies the answers would have been the same.

What is recorded in a ledger is what it holds, each slug, version and dependant once
(`holds_recordThese`); neither the order of the recordings nor their number counts.
-/
import Mathlib.Data.List.Dedup
import MavenImport.Proofs.LedgerCalls
import MavenImport.Proofs.MissingArtifacts

namespace MavenImport

set_option autoImplicit false

/-! ## What a ledger holds -/

/-- A ledger holds just what was recorded, each thing once. -/
structure Ledger.Holds (l : Ledger) (records : List Recording) : Prop where
  slugs : ∀ slug, l.contains slug = true ↔ ∃ r ∈ records, r.1 = slug
  versions : ∀ slug version, version ∈ l.versionsOf slug ↔
    ∃ r ∈ records, r.1 = slug ∧ r.2.1 = version
  dependants : ∀ slug owner, owner ∈ l.dependantsOf slug ↔
    ∃ r ∈ records, r.1 = slug ∧ r.2.2 = some owner
  slugsOnce : l.keys.Nodup
  versionsOnce : ∀ slug, (l.versionsOf slug).Nodup
  dependantsOnce : ∀ slug, (l.dependantsOf slug).Nodup

theorem tidy_recordThese (records : List Recording) : (Ledger.empty.recordThese records).Tidy :=
  recordThese_tidy records ⟨List.nodup_nil, fun _ _ found => by cases found⟩

theorem versionsOf_recordThese_nodup (slug : String) :
    ∀ (records : List Recording) {l : Ledger}, (l.versionsOf slug).Nodup →
      ((l.recordThese records).versionsOf slug).Nodup
  | [], _, once => once
  | r :: records, l, once => by
      refine versionsOf_recordThese_nodup slug records (l := l.record r.1 r.2.1 r.2.2) ?_
      rw [Ledger.versionsOf, Ledger.find?_record]
      split
      · next same =>
          subst same
          rw [Ledger.versionsOf] at once
          apply addOnce_nodup
          cases known : l.find? r.1 with
          | none => exact List.nodup_nil
          | some e => simpa [known] using once
      · exact once

theorem holds_recordThese (records : List Recording) :
    (Ledger.empty.recordThese records).Holds records where
  slugs slug := by
    rw [Table.contains, Ledger.find?_recordThese]
    exact or_iff_right (by simp [Ledger.empty, Table.find?, Table.findEntry])
  versions slug version := by
    rw [Ledger.versionsOf_recordThese]
    exact or_iff_right List.not_mem_nil
  dependants slug owner := by
    rw [Ledger.dependantsOf_recordThese]
    exact or_iff_right List.not_mem_nil
  slugsOnce := (tidy_recordThese records).slugs
  versionsOnce slug := versionsOf_recordThese_nodup slug records List.nodup_nil
  dependantsOnce slug := by
    rw [Ledger.dependantsOf]
    cases known : (Ledger.empty.recordThese records).find? slug with
    | none => exact List.nodup_nil
    | some e => exact (tidy_recordThese records).dependants slug e known

theorem holds_length {l : Ledger} {records : List Recording} (holds : l.Holds records) :
    l.entries.length = (records.map Prod.fst).dedup.length := by
  have slugs : ∀ slug, slug ∈ l.keys ↔ slug ∈ (records.map Prod.fst).dedup := by
    intro slug
    rw [List.mem_dedup, List.mem_map, ← holds.slugs slug]
    exact (findEntry_isSome slug l.entries).symm
  rw [← ((List.perm_ext_iff_of_nodup holds.slugsOnce (List.nodup_dedup _)).mpr slugs).length_eq,
    Table.keys, List.length_map]

/-- Neither the order of recordings counts nor their number. -/
theorem holds_alike {l l' : Ledger} {records records' : List Recording} (holds : l.Holds records)
    (holds' : l'.Holds records') (same : ∀ r, r ∈ records ↔ r ∈ records') : l.Alike l' where
  slugs slug := by
    refine (holds.slugs slug).trans (Iff.trans ?_ (holds'.slugs slug).symm)
    simp only [same]
  versions slug version := by
    rw [holds.versions, holds'.versions]
    simp only [same]
  dependants slug owner := by
    rw [holds.dependants, holds'.dependants]
    simp only [same]

namespace SharedLedger

/-! ## Logs -/

/-- The ledger in which what a log says was recorded. -/
def ledgerAfter (log : List Event) : Ledger := Ledger.empty.recordThese (recordings log)

/-- What a call makes of a ledger. -/
def Request.effect (l : Ledger) : Request → Ledger
  | record r => l.record r.1 r.2.1 r.2.2
  | _ => l

theorem recordings_append (log log' : List Event) :
    recordings (log ++ log') = recordings log ++ recordings log' :=
  List.filterMap_append

theorem ledgerAfter_append (log : List Event) (e : Event) :
    ledgerAfter (log ++ [e]) = e.request.effect (ledgerAfter log) := by
  rw [ledgerAfter, recordings_append, Ledger.recordThese, List.foldl_append]
  obtain ⟨i, request, answer⟩ := e
  cases request <;> rfl

/-- A call is answered in keeping with what had been recorded. -/
def Event.Agrees (records : List Recording) (e : Event) : Prop := match e.request, e.answer with
  | .record _, .done => True
  | .entries, .listed seen => seen = some (Ledger.empty.recordThese records)
  | .contains slug, .told found => found = true ↔ ∃ r ∈ records, r.1 = slug
  | .size, .counted slugs => slugs = (records.map Prod.fst).dedup.length
  | _, _ => False

section Answers

variable {m : Memory} {l : Ledger} {w : Work} {held own : List Address} {answer : Answer}

theorem start_fits {rows : List (String × Spot)} (lying : Lying m l rows own) (q : Request) :
    Fits m l q.start own := by
  cases q with
  | record r => exact .seeking lying
  | entries => exact .opening lying
  | contains slug => exact .asking lying
  | size => exact .counting lying

theorem request_start (q : Request) : q.start.request = q := by
  cases q <;> rfl

/-- At the end of a call memory holds what the call has made of the ledger, and nothing that is
handed out leads there. -/
theorem fits_end (fits : Fits m l w own) (fence : Fenced m held own)
    (ended : w.reply? l = some answer) :
    ∃ rows own', Lying m (w.request.effect l) rows own' ∧ Fenced m (w.handed ++ held) own' := by
  cases fits with
  | recorded lying => exact ⟨_, own, lying, fence⟩
  | told lying => exact ⟨_, own, lying, fence⟩
  | counted lying => exact ⟨_, own, lying, fence⟩
  | copied copied all =>
      refine ⟨_, _, copied.lying, fenced_release fence ?_ ?_⟩
      · exact lies_refs copied.copy
      · intro a handed
        rw [List.mem_singleton.mp handed]
        exact List.mem_cons_self
  | _ => cases ended

theorem fits_agrees {log : List Event} (fits : Fits m (ledgerAfter log) w own)
    (ended : w.reply? (ledgerAfter log) = some answer) (i : Nat) :
    Event.Agrees (recordings log) ⟨i, w.request, answer⟩ := by
  cases fits with
  | recorded _ =>
      cases ended
      trivial
  | copied _ _ =>
      cases ended
      rfl
  | told _ =>
      cases ended
      exact (holds_recordThese (recordings log)).slugs _
  | counted _ =>
      cases ended
      exact holds_length (holds_recordThese (recordings log))
  | _ => cases ended

end Answers

/-! ## Steps -/

def Caller.isWaiting : Caller → Bool
  | waiting _ => true
  | inside _ _ => false

/-- Memory holds the ledger behind a fence: either the lock is free and nobody makes a call, or one
caller has the lock, and what it has come to is in memory too. -/
inductive Guarded (s : State) : Prop
  | free {rows own} (unlocked : s.locked = false)
      (idle : ∀ (j : Nat) (c : Caller), s.callers[j]? = some c → c.isWaiting = true)
      (lying : Lying s.memory (ledgerAfter s.log) rows own)
      (fence : Fenced s.memory s.held own)
  | busy {i w later own} (locked : s.locked = true)
      (inside : s.callers[i]? = some (.inside w later))
      (alone : ∀ (j : Nat) (c : Caller), j ≠ i → s.callers[j]? = some c → c.isWaiting = true)
      (fits : Fits s.memory (ledgerAfter s.log) w own) (fence : Fenced s.memory s.held own)

/-- What a step of a caller can be. -/
inductive Called (s : State) (i : Nat) : State → Prop
  /-- It has no call to make, or waits for the lock. -/
  | rests (outside : ∀ w later, s.callers[i]? ≠ some (.inside w later))
      (waits : ∀ q later, s.callers[i]? = some (.waiting (q :: later)) → s.locked = true) :
      Called s i s
  | enters {q later rows own} (waiting : s.callers[i]? = some (.waiting (q :: later)))
      (unlocked : s.locked = false)
      (idle : ∀ (j : Nat) (c : Caller), s.callers[j]? = some c → c.isWaiting = true)
      (lying : Lying s.memory (ledgerAfter s.log) rows own)
      (fence : Fenced s.memory s.held own) :
      Called s i
        { s with locked := true, callers := s.callers.set i (.inside q.start later) }
  | advances {w later w' m' own} (inside : s.callers[i]? = some (.inside w later))
      (locked : s.locked = true)
      (alone : ∀ (j : Nat) (c : Caller), j ≠ i → s.callers[j]? = some c → c.isWaiting = true)
      (going : w.reply? (ledgerAfter s.log) = none)
      (advance : Advance s.memory (ledgerAfter s.log) s.held w w' m' own) :
      Called s i { s with memory := m', callers := s.callers.set i (.inside w' later) }
  | leaves {w later own answer} (inside : s.callers[i]? = some (.inside w later))
      (alone : ∀ (j : Nat) (c : Caller), j ≠ i → s.callers[j]? = some c → c.isWaiting = true)
      (fits : Fits s.memory (ledgerAfter s.log) w own) (fence : Fenced s.memory s.held own)
      (ended : w.reply? (ledgerAfter s.log) = some answer) :
      Called s i
        { s with
          locked := false
          callers := s.callers.set i (.waiting later)
          held := w.handed ++ s.held
          log := s.log ++ [⟨i, w.request, answer⟩] }

section Step

variable {s : State} {i : Nat}

theorem called (guarded : Guarded s) (i : Nat) : Called s i (s.call i) := by
  unfold State.call
  split
  · next q later waiting =>
      split
      · next locked =>
          refine .rests ?_ fun _ _ _ => locked
          rw [waiting]
          exact fun _ _ same => by cases same
      · next unlocked =>
          cases guarded with
          | free unlocked idle lying fence => exact .enters waiting unlocked idle lying fence
          | busy locked _ _ _ _ => exact absurd locked unlocked
  · next w later inside =>
      cases guarded with
      | free _ idle _ _ => cases idle i _ inside
      | @busy k w' later' own locked there alone fits fence =>
          have same : i = k := by
            by_contra other
            cases alone i _ other inside
          subst same
          obtain ⟨rfl, rfl⟩ : w = w' ∧ later = later' := by
            rw [inside] at there
            cases there
            exact ⟨rfl, rfl⟩
          rw [fits_answer fits]
          split
          · next answer ended => exact .leaves inside alone fits fence ended
          · next going =>
              obtain ⟨w', m', own', advance⟩ :=
                fits_next (tidy_recordThese (recordings s.log)).slugs fits fence going
              rw [advance.next]
              exact .advances inside locked alone going advance
  · next unlike unlike' =>
      exact .rests unlike' fun q later waiting => (unlike q later waiting).elim

theorem guarded_call (guarded : Guarded s) (i : Nat) : Guarded (s.call i) := by
  have others : ∀ {c : Caller}, s.callers[i]? = some c → ∀ (d : Caller) (j : Nat), j ≠ i →
      (s.callers.set i d)[j]? = s.callers[j]? := fun _ d j other =>
    List.getElem?_set_ne (Ne.symm other)
  have own : ∀ {c : Caller}, s.callers[i]? = some c → ∀ d : Caller,
      (s.callers.set i d)[i]? = some d := fun there d =>
    List.getElem?_set_self (List.getElem?_eq_some_iff.mp there).1
  have step := called guarded i
  generalize s.call i = t at step
  cases step with
  | rests _ _ => exact guarded
  | @enters q later rows cells waiting unlocked idle lying fence =>
      refine .busy rfl (own waiting _) ?_ (start_fits lying q) fence
      intro j c other there
      rw [others waiting _ j other] at there
      exact idle j c there
  | advances inside locked alone going advance =>
      refine .busy locked (own inside _) ?_ advance.fits advance.fence
      intro j c other there
      rw [others inside _ j other] at there
      exact alone j c other there
  | leaves inside alone fits fence ended =>
      obtain ⟨rows, own', lying, fence'⟩ := fits_end fits fence ended
      refine @Guarded.free _ rows own' rfl ?_ ?_ fence'
      · intro j c there
        by_cases same : j = i
        · subst same
          rw [own inside] at there
          cases there
          rfl
        · rw [others inside _ j same] at there
          exact alone j c same there
      · rw [ledgerAfter_append]
        exact lying

/-- What those do who were given copies: cells outside change, and new ones are made, but the fence
stays. -/
theorem moved_elsewhere {move : Move} (other : move.isCall = false) :
    ∃ m held, s.move move = { s with memory := m, held := held } ∧
      ∀ own, Fenced s.memory s.held own → s.memory.Keeps m own ∧ Fenced m held own := by
  have still : ∀ own, Fenced s.memory s.held own →
      s.memory.Keeps s.memory own ∧ Fenced s.memory s.held own :=
    fun _ fence => ⟨fun _ _ _ there => there, fence⟩
  cases move with
  | call i => cases other
  | read a b =>
      simp only [State.move]
      split
      · next allowed =>
          refine ⟨s.memory, b :: s.held, rfl, fun own fence => ⟨(still own fence).1, ?_⟩⟩
          cases there : s.memory[a]? with
          | none => simp [State.refsAt, there] at allowed
          | some c =>
              have referred : b ∈ c.refs := by simpa [State.refsAt, there] using allowed.2
              exact fenced_read fence allowed.1 there referred
      · exact ⟨s.memory, s.held, rfl, still⟩
  | write a c =>
      simp only [State.move]
      split
      · next allowed =>
          refine ⟨s.memory.set a c, s.held, rfl, fun own fence => ⟨?_, ?_⟩⟩
          · exact keeps_set (fence.held a allowed.1).other c
          · exact fenced_write fence allowed.2
      · exact ⟨s.memory, s.held, rfl, still⟩
  | make c =>
      simp only [State.move]
      split
      · next refs =>
          exact ⟨s.memory.place c, s.memory.length :: s.held, rfl,
            fun own fence => ⟨keeps_place s.memory c own, fenced_make fence refs⟩⟩
      · exact ⟨s.memory, s.held, rfl, still⟩

theorem guarded_move (guarded : Guarded s) (move : Move) : Guarded (s.move move) := by
  cases whose : move.isCall with
  | true => cases move with
    | call i => exact guarded_call guarded i
    | _ => cases whose
  | false =>
      obtain ⟨m, held, same, keeps⟩ := moved_elsewhere (s := s) whose
      rw [same]
      cases guarded with
      | free unlocked idle lying fence =>
          obtain ⟨kept, fence'⟩ := keeps _ fence
          exact .free unlocked idle (lying_kept lying kept) fence'
      | busy locked inside alone fits fence =>
          obtain ⟨kept, fence'⟩ := keeps _ fence
          exact .busy locked inside alone (fits_kept fits kept) fence'

end Step

/-! ## Runs -/

theorem guarded_start (programs : List (List Request)) : Guarded (State.start programs) := by
  have lying : Lying (State.start programs).memory .empty [] [home] :=
    ⟨⟨rfl, fun _ listed => absurd listed List.not_mem_nil⟩, rfl, rfl⟩
  refine .free rfl ?_ lying ⟨List.nodup_singleton _, ?_, fun _ given => ?_, ?_⟩
  · intro j c there
    have listed := List.mem_of_getElem? there
    obtain ⟨calls, -, rfl⟩ := List.mem_map.mp listed
    rfl
  · intro a own
    rw [List.mem_singleton.mp own]
    exact Nat.zero_lt_one
  · cases given
  · intro a c there other
    -- the index of the ledger is the only cell
    cases a with
    | zero => exact absurd List.mem_cons_self other
    | succ a => cases there

theorem guarded_follow {s : State} (guarded : Guarded s) (schedule : List Move) :
    Guarded (s.follow schedule) := by
  induction schedule generalizing s with
  | nil => exact guarded
  | cons move schedule ih => exact ih (guarded_move guarded move)

/-- The calls of a caller that are not answered yet. -/
def State.pending (s : State) (i : Nat) : List Request := (s.callers[i]?.map Caller.calls).getD []

/-- The calls of a caller that were answered. -/
def answered (log : List Event) (i : Nat) : List Request :=
  (log.filter fun e => e.caller = i).map Event.request

/-- What a run has answered is in keeping with what was recorded, and with what was called. -/
structure Accurate (programs : List (List Request)) (s : State) : Prop where
  agrees : ∀ (n : Nat) (e : Event), s.log[n]? = some e → e.Agrees (recordings (s.log.take n))
  ordered : ∀ i, answered s.log i ++ s.pending i = (programs[i]?).getD []

section Logs

variable {s : State} {programs : List (List Request)}

theorem pending_set {i : Nat} {c : Caller} (there : s.callers[i]? = some c) (d : Caller) (j : Nat) :
    (((s.callers.set i d)[j]?).map Caller.calls).getD []
      = if j = i then d.calls else s.pending j := by
  split
  · next same =>
      subst same
      rw [List.getElem?_set_self (List.getElem?_eq_some_iff.mp there).1]
      rfl
  · next other =>
      rw [List.getElem?_set_ne (Ne.symm other)]
      rfl

theorem pending_of {i : Nat} {c : Caller} (there : s.callers[i]? = some c) :
    s.pending i = c.calls := by
  rw [State.pending, there]
  rfl

theorem accurate_call (guarded : Guarded s) (accurate : Accurate programs s) (i : Nat) :
    Accurate programs (s.call i) := by
  -- a step that is not answered leaves the log and the calls to be made as they are
  have unanswered : ∀ {c d : Caller} (m : Memory) (b : Bool), s.callers[i]? = some c →
      d.calls = c.calls →
      Accurate programs { s with memory := m, locked := b, callers := s.callers.set i d } := by
    intro c d m b there same
    refine ⟨accurate.agrees, fun j => ?_⟩
    rw [State.pending, pending_set there]
    split
    · next own =>
        subst own
        rw [same, ← pending_of there]
        exact accurate.ordered j
    · exact accurate.ordered j
  have step := called guarded i
  generalize s.call i = t at step
  cases step with
  | rests _ _ => exact accurate
  | enters waiting _ _ _ _ =>
      exact unanswered _ _ waiting (congrArg (· :: _) (request_start _))
  | advances inside _ _ _ advance =>
      exact unanswered _ _ inside (congrArg (· :: _) advance.request)
  | @leaves w later own answer inside _ fits _ ended =>
      refine ⟨?_, fun j => ?_⟩
      · intro n e there
        dsimp only at there ⊢
        rw [List.getElem?_append] at there
        split at there
        · next earlier =>
            rw [List.take_append_of_le_length (Nat.le_of_lt earlier)]
            exact accurate.agrees n e there
        · next later =>
            rw [List.getElem?_singleton] at there
            split at there
            · next last =>
                cases there
                have all : n = s.log.length := by omega
                rw [all, List.take_left']
                · exact fits_agrees fits ended i
                · rfl
            · cases there
      · have before := accurate.ordered j
        dsimp only
        rw [State.pending, pending_set inside, answered, List.filter_append, List.map_append]
        split
        · next own =>
            subst own
            rw [pending_of inside] at before
            simpa [answered, Caller.calls] using before
        · next other =>
            have ne : ¬ i = j := fun same => other same.symm
            simpa [answered, ne] using before

theorem accurate_move (guarded : Guarded s) (accurate : Accurate programs s) (move : Move) :
    Accurate programs (s.move move) := by
  cases whose : move.isCall with
  | true => cases move with
    | call i => exact accurate_call guarded accurate i
    | _ => cases whose
  | false =>
      obtain ⟨m, held, same, -⟩ := moved_elsewhere (s := s) whose
      rw [same]
      exact ⟨accurate.agrees, accurate.ordered⟩

theorem accurate_follow (guarded : Guarded s) (accurate : Accurate programs s)
    (schedule : List Move) : Accurate programs (s.follow schedule) := by
  induction schedule generalizing s with
  | nil => exact accurate
  | cons move schedule ih =>
      exact ih (guarded_move guarded move) (accurate_move guarded accurate move)

theorem accurate_start (programs : List (List Request)) :
    Accurate programs (State.start programs) where
  agrees n e there := by cases there
  ordered i := by
    rw [State.pending, State.start, List.getElem?_map]
    cases programs[i]? <;> rfl

end Logs

/-! ## Runs without changes -/

/-- What is seen of a state without looking into memory. -/
structure View where
  locked : Bool
  callers : List Caller
  log : List Event

/-- A caller without its addresses. -/
def Caller.bare : Caller → Caller
  | waiting calls => waiting calls
  | inside w later => inside w.bare later

def State.view (s : State) : View := ⟨s.locked, s.callers.map Caller.bare, s.log⟩

/-- A step of a caller, as the ledger says. -/
def View.call (v : View) (i : Nat) : View := match v.callers[i]? with
  | some (.waiting (q :: later)) =>
    if v.locked then v
    else { v with locked := true, callers := v.callers.set i (.inside q.start later) }
  | some (.inside w later) => match w.reply? (ledgerAfter v.log) with
    | some answer =>
      ⟨false, v.callers.set i (.waiting later), v.log ++ [⟨i, w.request, answer⟩]⟩
    | none => { v with callers := v.callers.set i (.inside (w.after (ledgerAfter v.log)) later) }
  | _ => v

section Views

variable {s t : State}

theorem bare_start (q : Request) : q.start.bare = q.start := by
  cases q <;> rfl

theorem callers_view (i : Nat) : s.view.callers[i]? = s.callers[i]?.map Caller.bare :=
  List.getElem?_map ..

/-- What a step of a caller does is seen without looking into memory. -/
theorem view_call (guarded : Guarded s) (i : Nat) : (s.call i).view = s.view.call i := by
  have there := callers_view (s := s) i
  have step := called guarded i
  generalize s.call i = t at step
  cases step with
  | rests outside waits =>
      unfold View.call
      rw [there]
      cases found : s.callers[i]? with
      | none => rfl
      | some c => cases c with
        | inside w later => exact absurd found (outside w later)
        | waiting calls => cases calls with
          | nil => rfl
          | cons q later => exact (if_pos (waits q later found)).symm
  | enters waiting unlocked _ _ _ =>
      rw [waiting, Option.map_some, Caller.bare] at there
      have unlocked' : s.view.locked = false := unlocked
      unfold View.call
      rw [there]
      dsimp only
      rw [unlocked', if_neg Bool.false_ne_true]
      simp [State.view, List.map_set, Caller.bare, bare_start]
  | @advances w later w' m' own inside _ _ going advance =>
      rw [inside, Option.map_some, Caller.bare] at there
      have going' : w.bare.reply? (ledgerAfter s.view.log) = none :=
        (reply?_bare _ w).trans going
      unfold View.call
      rw [there]
      dsimp only
      rw [going']
      simp [State.view, List.map_set, Caller.bare, after_bare, advance.bare]
  | @leaves w later own answer inside _ _ _ ended =>
      rw [inside, Option.map_some, Caller.bare] at there
      have ended' : w.bare.reply? (ledgerAfter s.view.log) = some answer :=
        (reply?_bare _ w).trans ended
      unfold View.call
      rw [there]
      dsimp only
      rw [ended']
      simp [State.view, List.map_set, Caller.bare, request_bare]

theorem view_elsewhere {move : Move} (other : move.isCall = false) :
    (s.move move).view = s.view := by
  obtain ⟨m, held, same, -⟩ := moved_elsewhere (s := s) other
  rw [same]
  rfl

/-- What is seen of a run depends on the steps of the callers alone. -/
theorem view_follow (guarded : Guarded s) (guarded' : Guarded t) (same : s.view = t.view)
    (schedule : List Move) :
    (s.follow schedule).view = (t.follow (schedule.filter Move.isCall)).view := by
  induction schedule generalizing s t with
  | nil => exact same
  | cons move schedule ih =>
      cases called : move.isCall with
      | false =>
          rw [List.filter_cons_of_neg (by simp [called])]
          exact ih (guarded_move guarded move) guarded' ((view_elsewhere called).trans same)
      | true =>
          rw [List.filter_cons_of_pos called]
          refine ih (guarded_move guarded move) (guarded_move guarded' move) ?_
          cases move with
          | call i =>
              show (s.call i).view = (t.call i).view
              rw [view_call guarded, view_call guarded', same]
          | _ => cases called

end Views

/-! ## Ends of runs -/

section Ends

variable {s : State}

/-- A caller that has the lock comes to the end of its call by steps of its own. -/
theorem finishes {s : State} {i : Nat} {w : Work} {later : List Request} (guarded : Guarded s)
    (inside : s.callers[i]? = some (.inside w later)) :
    ∃ schedule, (s.follow schedule).callers = s.callers.set i (.waiting later) := by
  have less := (List.getElem?_eq_some_iff.mp inside).1
  have guarded' := guarded_call guarded i
  have step := called guarded i
  have follows : ∀ schedule, s.follow (.call i :: schedule) = (s.call i).follow schedule :=
    fun _ => rfl
  generalize s.call i = t at step guarded' follows
  cases step with
  | rests outside _ => exact absurd inside (outside w later)
  | enters waiting _ _ _ _ =>
      rw [inside] at waiting
      cases waiting
  | @advances w₁ later₁ w' m' own inside' _ _ _ advance =>
      obtain ⟨rfl, rfl⟩ : w = w₁ ∧ later = later₁ := by
        rw [inside] at inside'
        cases inside'
        exact ⟨rfl, rfl⟩
      have closer := advance.left
      obtain ⟨schedule, ends⟩ := finishes guarded' (List.getElem?_set_self less)
      exact ⟨.call i :: schedule, by rw [follows, ends, List.set_set]⟩
  | leaves inside' _ _ _ _ =>
      rw [inside] at inside'
      cases inside'
      exact ⟨[.call i], by rw [follows]; rfl⟩
termination_by w.left (ledgerAfter s.log).entries.length
decreasing_by exact closer

/-- Some call that is not answered yet can be answered, as long as there are any. -/
theorem progresses (guarded : Guarded s) (open' : ¬ s.Done) :
    ∃ schedule i c later, s.callers[i]? = some c ∧ later.length < c.calls.length ∧
      (s.follow schedule).callers = s.callers.set i (.waiting later) := by
  cases guarded with
  | @busy i w later own locked inside alone fits fence =>
      obtain ⟨schedule, ends⟩ := finishes (.busy locked inside alone fits fence) inside
      exact ⟨schedule, i, _, later, inside, Nat.lt_succ_self _, ends⟩
  | free unlocked idle lying fence =>
      obtain ⟨c, listed, unlike⟩ : ∃ c ∈ s.callers, c ≠ .waiting [] := by
        simpa [State.Done] using open'
      obtain ⟨i, there⟩ := List.getElem?_of_mem listed
      have less := (List.getElem?_eq_some_iff.mp there).1
      cases c with
      | inside w later => cases idle i _ there
      | waiting calls => cases calls with
        | nil => exact absurd rfl unlike
        | cons q later =>
            -- it takes the lock first
            have enters : s.call i
                = { s with locked := true, callers := s.callers.set i (.inside q.start later) } := by
              simp [State.call, there, unlocked]
            have guarded' := guarded_call (.free unlocked idle lying fence) i
            rw [enters] at guarded'
            obtain ⟨schedule, ends⟩ := finishes guarded' (List.getElem?_set_self less)
            refine ⟨.call i :: schedule, i, _, later, there, Nat.lt_succ_self _, ?_⟩
            show ((s.call i).follow schedule).callers = _
            rw [enters, ends, List.set_set]

/-- How many calls are not answered yet. -/
def State.remaining (s : State) : Nat := (s.callers.flatMap Caller.calls).length

theorem remaining_less {t : State} {i : Nat} {c d : Caller} (there : s.callers[i]? = some c)
    (less : d.calls.length < c.calls.length) (set : t.callers = s.callers.set i d) :
    t.remaining < s.remaining := by
  obtain ⟨bound, rfl⟩ := List.getElem?_eq_some_iff.mp there
  have before := (List.getElem_cons_eraseIdx_perm bound).symm.flatMap_right Caller.calls
  have after := (List.set_perm_cons_eraseIdx bound d).flatMap_right Caller.calls
  rw [State.remaining, State.remaining, set, before.length_eq, after.length_eq]
  simpa using less

/-- However a run has come to be where it is, all calls can be answered from there. -/
theorem completes {s : State} (guarded : Guarded s) : ∃ more, (s.follow more).Done := by
  by_cases done : s.Done
  · exact ⟨[], done⟩
  · obtain ⟨schedule, i, c, later, there, less, ends⟩ := progresses guarded done
    have fewer := remaining_less (d := .waiting later) there less ends
    obtain ⟨more, done⟩ := completes (guarded_follow guarded schedule)
    refine ⟨schedule ++ more, ?_⟩
    rw [State.follow, List.foldl_append]
    exact done
termination_by s.remaining

end Ends

/-! ## What a shared ledger gives -/

/-- Callers share a ledger, and make their steps by some schedule. -/
structure Lossless (programs : List (List Request)) (schedule : List Move) : Prop where
  /-- Each caller's calls are answered in their order, once each. -/
  ordered : ∀ i program, programs[i]? = some program →
    answered ((State.start programs).follow schedule).log i
      ++ ((State.start programs).follow schedule).pending i = program
  /-- Answers say what had been recorded, all of it and nothing else. -/
  agrees : ∀ (n : Nat) (e : Event), ((State.start programs).follow schedule).log[n]? = some e →
    e.Agrees (recordings (((State.start programs).follow schedule).log.take n))
  /-- Entries are alike if the same was recorded, in whatever order and how often, by whomever. -/
  alike : ∀ programs' schedule' (n n' : Nat) (e e' : Event) (l l' : Ledger),
    ((State.start programs).follow schedule).log[n]? = some e →
    ((State.start programs').follow schedule').log[n']? = some e' →
    e.answer = .listed (some l) → e'.answer = .listed (some l') →
    (∀ r, r ∈ recordings (((State.start programs).follow schedule).log.take n) ↔
      r ∈ recordings (((State.start programs').follow schedule').log.take n')) →
    l.Alike l'
  /-- Without what was done to copies the answers are the same. -/
  unaltered : ((State.start programs).follow (schedule.filter Move.isCall)).log
    = ((State.start programs).follow schedule).log
  /-- All calls can still be answered. -/
  completes : ∃ more, ((State.start programs).follow (schedule ++ more)).Done

theorem accurate_reached (programs : List (List Request)) (schedule : List Move) :
    Accurate programs ((State.start programs).follow schedule) :=
  accurate_follow (guarded_start programs) (accurate_start programs) schedule

/-- The entries that are answered hold what had been recorded. -/
theorem listed_holds {programs : List (List Request)} {s : State} {n : Nat} {e : Event}
    {l : Ledger} (accurate : Accurate programs s) (there : s.log[n]? = some e)
    (listed : e.answer = .listed (some l)) : l.Holds (recordings (s.log.take n)) := by
  have agrees := accurate.agrees n e there
  obtain ⟨i, q, answer⟩ := e
  dsimp only at listed
  subst listed
  cases q with
  | entries =>
      cases agrees
      exact holds_recordThese _
  | record r => cases agrees
  | contains slug => cases agrees
  | size => cases agrees

/-- **No update is lost.**  A ledger holds what was recorded in it, and a shared ledger answers as
such a ledger, whatever the schedule is and whatever is done to its copies. -/
theorem updates_kept :
    (∀ records : List Recording, (Ledger.empty.recordThese records).Holds records) ∧
      ∀ programs schedule, Lossless programs schedule := by
  refine ⟨holds_recordThese, fun programs schedule => ⟨?_, ?_, ?_, ?_, ?_⟩⟩
  · intro i program called
    rw [(accurate_reached programs schedule).ordered i, called]
    rfl
  · exact (accurate_reached programs schedule).agrees
  · intro programs' schedule' n n' e e' l l' there there' listed listed' same
    exact holds_alike (listed_holds (accurate_reached programs schedule) there listed)
      (listed_holds (accurate_reached programs' schedule') there' listed') same
  · have start := guarded_start programs
    exact (congrArg View.log (view_follow start start rfl schedule)).symm
  · obtain ⟨more, done⟩ := completes (guarded_follow (guarded_start programs) schedule)
    refine ⟨more, ?_⟩
    rw [State.follow, List.foldl_append]
    exact done

example :
    let s := (State.start [[.record ("g:a", "1", none), .entries],
        [.record ("g:a", "2", some "g:b:1"), .entries]]).follow
      -- the second waits until the first has recorded, records too and gets a copy
      ((List.replicate 7 [Move.call 0, .call 1]).flatten ++ List.replicate 12 (.call 1)
        -- the copy loses its versions, and then the first gets one
        ++ [.read 4 7, .read 7 6, .write 6 (.members [])] ++ List.replicate 8 (.call 0))
    s.memory.ledger? 4 = some ⟨[("g:a", ⟨["g:b:1"], []⟩)]⟩ ∧
      s.log = [⟨0, .record ("g:a", "1", none), .done⟩,
        ⟨1, .record ("g:a", "2", some "g:b:1"), .done⟩,
        ⟨1, .entries, .listed (some ⟨[("g:a", ⟨["g:b:1"], ["1", "2"]⟩)]⟩)⟩,
        ⟨0, .entries, .listed (some ⟨[("g:a", ⟨["g:b:1"], ["1", "2"]⟩)]⟩)⟩] := by
  decide

end SharedLedger

end MavenImport
