/-
# Proofs.Expansion -- references are replaced until none with a value is left

A text of letters and references is a template (`Template`), and what it stands for is told by
recursion: a reference with a value stands for what its value stands for, one without a value
for itself (`Template.Expands`).  Replacement knows nothing of this.  It goes over the whole
text once and again, and stops when a pass changes nothing or eleven have been made.

The two agree because a pass on the text follows every reference by one step
(`Template.pass_follows`), so that as many passes as references are followed leave the
expansion.  Stopping early loses nothing: after a pass that changed nothing all the others
change nothing either, so the result is that of eleven passes in every case
(`Properties.resolve_eq_iterate`).
-/
import Mathlib.Logic.Function.Iterate
import MavenImport.Maven.Property
import MavenImport.Proofs.TextLaws

namespace MavenImport

set_option autoImplicit false

/-! ## Templates -/

/-- A character that takes no part in the spelling of a reference. -/
def IsLetter (c : Char) : Prop := c ≠ '$' ∧ c ≠ '\x7b' ∧ c ≠ '\x7d'

instance (c : Char) : Decidable (IsLetter c) := inferInstanceAs (Decidable (_ ∧ _))

/-- The name of a reference: some letters. -/
structure ReferenceName where
  letters : List Char
  named : letters ≠ []
  plain : ∀ c ∈ letters, IsLetter c

/-- What a template is made of. -/
inductive TemplatePart where
  | letter (c : Char) (plain : IsLetter c)
  | reference (name : ReferenceName)

/-- A text as letters and references. -/
abbrev Template := List TemplatePart

namespace ReferenceName

/-- The name as a text. -/
def text (name : ReferenceName) : String := String.ofList name.letters

theorem text_injective {a b : ReferenceName} (same : a.letters = b.letters) : a = b := by
  cases a; cases b; congr

theorem closing_absent (name : ReferenceName) : '\x7d' ∉ name.letters :=
  fun held => (name.plain _ held).2.2 rfl

end ReferenceName

namespace TemplatePart

/-- The characters of a part. -/
def chars : TemplatePart → List Char
  | letter c _ => [c]
  | reference name => Properties.referenceText name.letters

end TemplatePart

namespace Template

/-- The characters of a template. -/
def chars (t : Template) : List Char := t.flatMap TemplatePart.chars

/-- The text of a template. -/
def text (t : Template) : String := String.ofList t.chars

@[simp] theorem chars_nil : chars [] = [] := rfl

@[simp] theorem chars_letter (c : Char) (plain : IsLetter c) (rest : Template) :
    chars (.letter c plain :: rest) = c :: chars rest := rfl

@[simp] theorem chars_reference (name : ReferenceName) (rest : Template) :
    chars (.reference name :: rest)
      = '$' :: '\x7b' :: (name.letters ++ '\x7d' :: chars rest) := by
  simp [chars, TemplatePart.chars, Properties.referenceText]

@[simp] theorem chars_append (t u : Template) : chars (t ++ u) = chars t ++ chars u := by
  simp [chars]

@[simp] theorem text_toList (t : Template) : t.text.toList = t.chars := by simp [text]

/-- A text is read as a template in one way only. -/
theorem chars_injective : ∀ {t u : Template}, t.chars = u.chars → t = u
  | [], [], _ => rfl
  | [], .letter .. :: _, same => by simp at same
  | [], .reference _ :: _, same => by simp at same
  | .letter .. :: _, [], same => by simp at same
  | .reference _ :: _, [], same => by simp at same
  | .letter c _ :: t, .letter c' _ :: u, same => by
      simp only [chars_letter, List.cons.injEq] at same
      obtain ⟨rfl, rest⟩ := same
      rw [chars_injective rest]
  | .letter c plain :: t, .reference name :: u, same => by
      simp only [chars_letter, chars_reference, List.cons.injEq] at same
      exact absurd same.1 plain.1
  | .reference name :: t, .letter c plain :: u, same => by
      simp only [chars_letter, chars_reference, List.cons.injEq] at same
      exact absurd same.1.symm plain.1
  | .reference a :: t, .reference b :: u, same => by
      simp only [chars_reference, List.cons.injEq, true_and] at same
      obtain ⟨names, rest⟩ :=
        Text.append_separator_inj a.closing_absent b.closing_absent same
      rw [ReferenceName.text_injective names, chars_injective rest]

/-! ## What a template stands for -/

/-- The references of a template have no value. -/
def Settled (properties : Properties) (t : Template) : Prop :=
  ∀ name, .reference name ∈ t → properties.lookup? name.text = none

/-- Following the references of a template, and those of the values met, ends after at most so
many steps, and the values met are templates. -/
def FollowedWithin (properties : Properties) : Nat → Template → Prop
  | 0, t => Settled properties t
  | steps + 1, t => ∀ name, .reference name ∈ t → ∀ value,
      properties.lookup? name.text = some value →
        ∃ v : Template, v.text = value ∧ FollowedWithin properties steps v

/-- The full expansion: a reference with a value gives the expansion of its value, and what has
no value is left. -/
inductive Expands (properties : Properties) : Template → Template → Prop where
  | nil : Expands properties [] []
  | letter {c : Char} {plain : IsLetter c} {rest rest' : Template}
      (later : Expands properties rest rest') :
      Expands properties (.letter c plain :: rest) (.letter c plain :: rest')
  | unknown {name : ReferenceName} {rest rest' : Template}
      (missing : properties.lookup? name.text = none)
      (later : Expands properties rest rest') :
      Expands properties (.reference name :: rest) (.reference name :: rest')
  | known {name : ReferenceName} {v v' rest rest' : Template}
      (found : properties.lookup? name.text = some v.text)
      (followed : Expands properties v v') (later : Expands properties rest rest') :
      Expands properties (.reference name :: rest) (v' ++ rest')

variable {properties : Properties} {t u e : Template}

/-- A template has one expansion at most. -/
theorem Expands.unique (one : Expands properties t e) :
    ∀ {e' : Template}, Expands properties t e' → e = e' := by
  induction one with
  | nil => rintro _ ⟨⟩; rfl
  | letter _ ih =>
      rintro _ (_ | later)
      rw [ih later]
  | unknown missing _ ih =>
      rintro _ (_ | _ | ⟨-, later⟩ | ⟨found, -, -⟩)
      · rw [ih later]
      · rw [missing] at found; cases found
  | @known _ v _ _ _ found _ _ ihv ih =>
      rintro _ (_ | _ | ⟨missing, -⟩ | @⟨_, w, _, _, _, found', followed, later⟩)
      · rw [missing] at found; cases found
      · rw [found, Option.some.injEq] at found'
        obtain rfl : v = w := chars_injective (by simpa using congrArg String.toList found')
        rw [ihv followed, ih later]

/-- What an expansion leaves has no value. -/
theorem Expands.settled (expands : Expands properties t e) : Settled properties e := by
  induction expands with
  | nil => intro _ held; cases held
  | letter _ ih =>
      intro name held
      rcases List.mem_cons.mp held with here | later
      · cases here
      · exact ih name later
  | unknown missing _ ih =>
      intro name held
      rcases List.mem_cons.mp held with here | later
      · cases here; exact missing
      · exact ih name later
  | known _ _ _ ihv ih =>
      intro name held
      exact (List.mem_append.mp held).elim (ihv name) (ih name)

/-- The expansion of two templates on end is that of each. -/
theorem Expands.split : ∀ {t e : Template}, Expands properties (t ++ u) e →
    ∃ t' u', e = t' ++ u' ∧ Expands properties t t' ∧ Expands properties u u'
  | [], e, expands => ⟨[], e, rfl, .nil, expands⟩
  | .letter c plain :: rest, e, expands => by
      obtain _ | later := expands
      obtain ⟨t', u', rfl, first, second⟩ := Expands.split later
      exact ⟨_, u', rfl, .letter first, second⟩
  | .reference name :: rest, e, expands => by
      obtain _ | _ | ⟨missing, later⟩ | ⟨found, followed, later⟩ := expands
      · obtain ⟨t', u', rfl, first, second⟩ := Expands.split later
        exact ⟨_, u', rfl, .unknown missing first, second⟩
      · obtain ⟨t', u', rfl, first, second⟩ := Expands.split later
        exact ⟨_, u', (List.append_assoc ..).symm, .known found followed first, second⟩

/-- A settled template stands for itself. -/
theorem Settled.expands : ∀ {t : Template}, Settled properties t → Expands properties t t
  | [], _ => .nil
  | .letter .. :: _, settled =>
      .letter (Settled.expands fun name held => settled name (List.mem_cons_of_mem _ held))
  | .reference name :: _, settled =>
      .unknown (settled name List.mem_cons_self)
        (Settled.expands fun name held => settled name (List.mem_cons_of_mem _ held))

theorem FollowedWithin.succ : ∀ {steps : Nat} {t : Template},
    FollowedWithin properties steps t → FollowedWithin properties (steps + 1) t
  | 0, _, within => fun name held value found => by
      rw [within name held] at found
      cases found
  | _ + 1, _, within => fun name held value found => by
      obtain ⟨v, written, deeper⟩ := within name held value found
      exact ⟨v, written, deeper.succ⟩

theorem FollowedWithin.mono {steps more : Nat} (fewer : steps ≤ more)
    (within : FollowedWithin properties steps t) : FollowedWithin properties more t := by
  induction fewer with
  | refl => exact within
  | step _ ih => exact ih.succ

theorem FollowedWithin.append {steps : Nat} (first : FollowedWithin properties steps t)
    (second : FollowedWithin properties steps u) :
    FollowedWithin properties steps (t ++ u) := by
  cases steps <;> exact fun name held => (List.mem_append.mp held).elim (first name) (second name)

end Template

/-! ## One pass -/

namespace Properties

/-- The value of a reference, or its own text. -/
def standing (properties : Properties) (name : List Char) : List Char :=
  ((properties.lookup? (String.ofList name)).map String.toList).getD (referenceText name)

/-- What a pass does at a character that does not open a reference. -/
theorem substituteFrom_letter (properties : Properties) {c : Char} (plain : c ≠ '$')
    (fuel : Nat) (cs : List Char) :
    substituteFrom properties (fuel + 1) (c :: cs) = c :: substituteFrom properties fuel cs := by
  simp [substituteFrom, plain]

/-- What a pass does at a reference. -/
theorem substituteFrom_reference (properties : Properties) {name : List Char} (named : name ≠ [])
    (closing : '\x7d' ∉ name) (fuel : Nat) (rest : List Char) :
    substituteFrom properties (fuel + 1) ('$' :: '\x7b' :: (name ++ '\x7d' :: rest))
      = standing properties name ++ substituteFrom properties fuel rest := by
  obtain ⟨c, cs, rfl⟩ := List.exists_cons_of_ne_nil named
  have read : referenceName? (c :: (cs ++ '\x7d' :: rest)) = some (c :: cs, rest) := by
    rw [← List.cons_append, referenceName?, Text.cut?_append rest closing]
  simp [substituteFrom, read, standing]

end Properties

namespace Template

variable {properties : Properties}

/-- A pass follows every reference by one step: it leaves the text of a template that has the
same expansion. -/
theorem pass_follows {steps : Nat} : ∀ {t : Template} {fuel : Nat}, t.chars.length ≤ fuel →
    FollowedWithin properties (steps + 1) t →
    ∃ t' : Template, Properties.substituteFrom properties fuel t.chars = t'.chars ∧
      FollowedWithin properties steps t' ∧
      ∀ e, Expands properties t' e → Expands properties t e
  | [], fuel, _, _ => by
      refine ⟨[], ?_, by cases steps <;> exact fun _ held => (nomatch held), fun _ => id⟩
      cases fuel <;> rfl
  | .letter c plain :: rest, 0, fits, _ => absurd fits (by simp)
  | .letter c plain :: rest, fuel + 1, fits, within => by
      have shorter : (chars rest).length ≤ fuel := by simpa using fits
      obtain ⟨rest', passed, deeper, expands⟩ :=
        pass_follows shorter fun name held => within name (List.mem_cons_of_mem _ held)
      refine ⟨.letter c plain :: rest', ?_, ?_, ?_⟩
      · rw [chars_letter, Properties.substituteFrom_letter properties plain.1, passed,
          chars_letter]
      · cases steps <;> exact fun name held =>
          deeper name (List.mem_of_ne_of_mem (by simp) held)
      · rintro _ (_ | later)
        exact .letter (expands _ later)
  | .reference name :: rest, 0, fits, _ => absurd fits (by simp)
  | .reference name :: rest, fuel + 1, fits, within => by
      have shorter : (chars rest).length ≤ fuel := by simp at fits; omega
      obtain ⟨rest', passed, deeper, expands⟩ :=
        pass_follows shorter fun name held => within name (List.mem_cons_of_mem _ held)
      have replaced := Properties.substituteFrom_reference properties name.named
        name.closing_absent fuel (chars rest)
      rw [passed] at replaced
      cases found : properties.lookup? name.text with
      | none =>
          refine ⟨.reference name :: rest', ?_, ?_, ?_⟩
          · rw [ReferenceName.text] at found
            simp [replaced, Properties.standing, found, Properties.referenceText]
          · have unknown : FollowedWithin properties steps [.reference name] := by
              cases steps with
              | zero =>
                  intro other held
                  obtain rfl := by simpa using held
                  exact found
              | succ =>
                  intro other held value found'
                  obtain rfl := by simpa using held
                  rw [found] at found'
                  cases found'
            exact unknown.append deeper
          · rintro _ (_ | _ | ⟨missing, later⟩ | ⟨found', -, -⟩)
            · exact .unknown missing (expands _ later)
            · rw [found] at found'; cases found'
      | some value =>
          obtain ⟨v, rfl, followed⟩ := within name List.mem_cons_self value found
          refine ⟨v ++ rest', ?_, followed.append deeper, fun e expanded => ?_⟩
          · rw [ReferenceName.text] at found
            simp [replaced, Properties.standing, found]
          · obtain ⟨v', r, rfl, first, second⟩ := expanded.split
            exact .known found first (expands r second)

/-- As many passes as references are followed leave the expansion. -/
theorem passes_expand : ∀ {steps : Nat} {t : Template}, FollowedWithin properties steps t →
    ∃ e, Expands properties t e ∧ properties.substitute^[steps] t.text = e.text
  | 0, t, settled => ⟨t, Settled.expands settled, rfl⟩
  | steps + 1, t, within => by
      obtain ⟨t', passed, deeper, expands⟩ := pass_follows (Nat.le_refl _) within
      obtain ⟨e, expanded, reached⟩ := passes_expand deeper
      have first : properties.substitute t.text = t'.text := by
        rw [Properties.substitute, text_toList, passed, text]
      exact ⟨e, expands e expanded, by rw [Function.iterate_succ_apply, first, reached]⟩

end Template

/-! ## Passes until nothing changes -/

namespace Properties

variable (properties : Properties)

/-- A pass over a text without the opening of a reference changes nothing. -/
theorem substituteFrom_unopened : ∀ (fuel : Nat) {cs : List Char}, hasReference cs = false →
    substituteFrom properties fuel cs = cs
  | 0, _, _ => rfl
  | _ + 1, [], _ => rfl
  | fuel + 1, c :: cs, closed => by
      have unopened : ¬ (c = '$' ∧ cs.head? = some '\x7b') := by
        rintro ⟨rfl, brace⟩
        obtain ⟨cs', rfl⟩ := List.head?_eq_some_iff.mp brace
        simp [hasReference] at closed
      have later : hasReference cs = false := by
        rw [hasReference] at closed
        · exact closed
        · rintro cs' rfl rfl
          exact unopened ⟨rfl, rfl⟩
      rw [substituteFrom, if_neg unopened, substituteFrom_unopened fuel later]

theorem substitute_unopened {s : String} (none : hasReference s.toList = false) :
    properties.substitute s = s := by
  rw [substitute, substituteFrom_unopened properties _ none, String.ofList_toList]

/-- How many passes are made, the last one with them when it changes nothing. -/
def passesWithin : (passes : Nat) → String → Nat
  | 0, _ => 0
  | passes + 1, s =>
    if !hasReference s.toList then 0
    else
      let t := properties.substitute s
      if t = s then 1 else passesWithin passes t + 1

theorem passesWithin_le : ∀ (passes : Nat) (s : String),
    properties.passesWithin passes s ≤ passes
  | 0, _ => Nat.le_refl 0
  | passes + 1, s => by
      rw [passesWithin]
      have fewer := passesWithin_le passes (properties.substitute s)
      split
      · omega
      · dsimp only; split <;> omega

/-- The result is what so many passes leave. -/
theorem resolveWithin_eq_iterate : ∀ (passes : Nat) (s : String),
    properties.resolveWithin passes s
      = properties.substitute^[properties.passesWithin passes s] s
  | 0, _ => rfl
  | passes + 1, s => by
      rw [resolveWithin, passesWithin]
      split
      · rfl
      · dsimp only
        split
        · next same => exact same.symm
        · rw [resolveWithin_eq_iterate passes, Function.iterate_succ_apply]

/-- When fewer passes are made than allowed, another one changes nothing. -/
theorem settled_of_fewer : ∀ {passes : Nat} {s : String},
    properties.passesWithin passes s < passes →
      properties.substitute (properties.resolveWithin passes s)
        = properties.resolveWithin passes s
  | 0, _, fewer => absurd fewer (Nat.not_lt_zero _)
  | passes + 1, s, fewer => by
      rw [passesWithin] at fewer
      rw [resolveWithin]
      split at fewer
      · next unopened =>
          rw [if_pos unopened]
          exact substitute_unopened properties (by simpa using unopened)
      · next opened =>
          rw [if_neg opened]
          dsimp only at fewer ⊢
          split at fewer
          · next same => rw [if_pos same, same]
          · next changed =>
              rw [if_neg changed]
              exact settled_of_fewer (Nat.lt_of_succ_lt_succ fewer)

/-- Replacement gives what all eleven passes would, though it may stop before. -/
theorem resolve_eq_iterate (s : String) :
    properties.resolve s = properties.substitute^[maxPasses] s := by
  obtain fewer | all := Nat.lt_or_eq_of_le (properties.passesWithin_le maxPasses s)
  · have settled : properties.substitute (properties.resolve s) = properties.resolve s :=
      properties.settled_of_fewer fewer
    have made := properties.resolveWithin_eq_iterate maxPasses s
    obtain ⟨more, counted⟩ := Nat.exists_eq_add_of_le' (Nat.le_of_lt fewer)
    rw [counted, Function.iterate_add_apply, ← made]
    exact (Function.iterate_fixed settled more).symm
  · rw [resolve, resolveWithin_eq_iterate, all]

/-- A text that a pass leaves as it is has been resolved. -/
theorem resolve_fixed {s : String} (settled : properties.substitute s = s) :
    properties.resolve s = s := by
  rw [resolve_eq_iterate, Function.iterate_fixed settled]

/-- Where references are followed eleven steps at most, replacement gives the full expansion,
in which no reference with a value is left, and changes nothing when it is made again.  In
every other text too it stops after eleven passes, and before only when a pass changes
nothing. -/
theorem resolve_expands (s : String) :
    (∀ (t : Template) (steps : Nat), t.text = s → steps ≤ maxPasses →
      t.FollowedWithin properties steps →
      ∃ e : Template, t.Expands properties e ∧ e.Settled properties ∧
        properties.resolve s = e.text ∧
        properties.resolve (properties.resolve s) = properties.resolve s) ∧
    ∃ passes ≤ 11, passes = properties.passesWithin maxPasses s ∧
      properties.resolve s = properties.substitute^[passes] s ∧
      (passes < 11 →
        properties.substitute (properties.resolve s) = properties.resolve s) := by
  refine ⟨?_, _, properties.passesWithin_le maxPasses s, rfl,
    properties.resolveWithin_eq_iterate maxPasses s, properties.settled_of_fewer⟩
  rintro t steps rfl bounded within
  obtain ⟨e, expands, reached⟩ := Template.passes_expand (within.mono bounded)
  rw [← resolve_eq_iterate] at reached
  have left := expands.settled
  have settled : Template.FollowedWithin properties maxPasses e :=
    Template.FollowedWithin.mono (Nat.zero_le _) left
  obtain ⟨e', again, same⟩ := Template.passes_expand settled
  obtain rfl := left.expands.unique again
  exact ⟨e, expands, left, reached, by rw [reached, resolve_eq_iterate, same]⟩

/-- A version of two numbers, one of which has no value. -/
def versions : Properties := ⟨[("major", "1"), ("version", "$\x7bmajor\x7d.$\x7bminor\x7d")]⟩

theorem letters_checked {letters : List Char}
    (checked : letters.all (fun c => decide (IsLetter c)) = true) : ∀ c ∈ letters, IsLetter c :=
  fun c held => of_decide_eq_true (List.all_eq_true.mp checked c held)

def major : ReferenceName := ⟨"major".toList, by decide, letters_checked (by decide)⟩

def minor : ReferenceName := ⟨"minor".toList, by decide, letters_checked (by decide)⟩

def projectVersion : ReferenceName :=
  ⟨"project.version".toList, by decide, letters_checked (by decide)⟩

/-- A letter and a reference to the version of the project. -/
def tag : Template := [.letter 'v' (by decide), .reference projectVersion]

/-- The value of the version. -/
def numbers : Template := [.reference major, .letter '.' (by decide), .reference minor]

theorem numbers_followed : numbers.FollowedWithin versions 1 := by
  intro name held value found
  simp only [numbers, List.mem_cons, TemplatePart.reference.injEq, reduceCtorEq, false_or,
    List.not_mem_nil, or_false] at held
  obtain rfl | rfl := held
  · have one : versions.lookup? major.text = some "1" := by decide +kernel
    obtain rfl := Option.some.inj (one.symm.trans found)
    exact ⟨[.letter '1' (by decide)], by decide +kernel, fun _ held => by simp at held⟩
  · have unknown : versions.lookup? minor.text = none := by decide +kernel
    cases unknown.symm.trans found

theorem tag_followed : tag.FollowedWithin versions 2 := by
  intro name held value found
  simp only [tag, List.mem_cons, TemplatePart.reference.injEq, reduceCtorEq, false_or,
    List.not_mem_nil, or_false] at held
  subst held
  have stripped : versions.lookup? projectVersion.text = some numbers.text := by decide +kernel
  obtain rfl := Option.some.inj (stripped.symm.trans found)
  exact ⟨numbers, rfl, numbers_followed⟩

theorem tag_expands :
    (tag.text = "v$\x7bproject.version\x7d" ∧ 2 ≤ maxPasses ∧ tag.FollowedWithin versions 2) ∧
      ∃ e : Template, tag.Expands versions e ∧ e.Settled versions ∧
        versions.resolve "v$\x7bproject.version\x7d" = e.text ∧
        versions.resolve (versions.resolve "v$\x7bproject.version\x7d")
          = versions.resolve "v$\x7bproject.version\x7d" :=
  have written : tag.text = "v$\x7bproject.version\x7d" := by decide +kernel
  ⟨⟨written, by decide, tag_followed⟩,
    (resolve_expands versions _).1 tag 2 written (by decide) tag_followed⟩

example : versions.resolve "v$\x7bproject.version\x7d" = "v1.$\x7bminor\x7d" := by decide +kernel

end Properties

end MavenImport
