/-
# Proofs.ResolvedPlaces -- where paths lead through links

`FileSystem.resolve` tells where a path leads without asking whether there is anything.  An
operation that is carried out works at just that place, unless a link is there
(`resolveFrom_followed`), and the place does not move while no links come or go
(`resolve_linked`).  So the directories that are made for a path are made where the path and
those above it lead to (`makeDirectories_places`), and the path leads to a directory then
(`makeDirectories_there`).

At a directory below which there are no links (`FileSystem.Bare`), names that do not go up lead
further down and nowhere else.
-/
import MavenImport.Proofs.OpenPaths

namespace MavenImport

open Files (Cause)
open FileSystem (nameFault? Stop maxLinks)

set_option autoImplicit false

namespace FileSystem

/-- A location that a path or one of those above it leads to. -/
def OnTheWay (f : FileSystem) (p : Path) (l : Location) : Prop :=
  ∃ names, names <+: p.names ∧ l = f.resolve ⟨p.anchor, names⟩

/-- There is no link at a location or below it. -/
def Bare (f : FileSystem) (l : Location) : Prop :=
  ∀ names target, f.entryAt? (l ++ names) ≠ some (.link target)

/-- Links are at the same locations and lead to the same targets. -/
structure Linked (f g : FileSystem) : Prop where
  here : g.here = f.here
  link : ∀ l target, g.entryAt? l = some (.link target) ↔ f.entryAt? l = some (.link target)

end FileSystem

variable {f g h : FileSystem}

/-! ## Links that stay -/

theorem linked_refl (f : FileSystem) : f.Linked f := ⟨rfl, fun _ _ => Iff.rfl⟩

theorem linked_trans (first : f.Linked g) (second : g.Linked h) : f.Linked h :=
  ⟨second.here.trans first.here, fun l target => (second.link l target).trans (first.link l target)⟩

theorem grows_linked (grows : f.Grows g) : f.Linked g where
  here := grows.here
  link l target := by
    rw [← seen_link, ← seen_link]
    rcases grows.seen l with same | ⟨absent, directory⟩
    · rw [same]
    · simp [absent, directory]

theorem bare_linked (linked : f.Linked g) {l : Location} (bare : f.Bare l) : g.Bare l :=
  fun names target found => bare names target ((linked.link _ target).mp found)

theorem bare_end {l : Location} (bare : f.Bare l) (target : String) :
    f.entryAt? l ≠ some (.link target) := by
  simpa using bare [] target

/-- Where nothing stands in for a link, a step leads to the name itself. -/
theorem resolveFrom_step {links : Nat} {base : Location} {name : String} {rest : List String}
    (down : name ≠ "..") (solid : ∀ target, f.entryAt? (base ++ [name]) ≠ some (.link target)) :
    f.resolveFrom links base (name :: rest) = f.resolveFrom links (base ++ [name]) rest := by
  rw [FileSystem.resolveFrom, if_neg down]
  dsimp only
  rcases entry : f.entryAt? (base ++ [name]) with - | ⟨- | i | target⟩
  · rfl
  · rfl
  · rfl
  · exact absurd entry (solid target)

theorem resolveFrom_up {links : Nat} {base : Location} {rest : List String} :
    f.resolveFrom links base (".." :: rest) = f.resolveFrom links base.dropLast rest := by
  rw [FileSystem.resolveFrom, if_pos rfl]

/-- A link is followed while links are left, and is passed as it stands then. -/
theorem resolveFrom_link {base : Location} {name target : String} {rest : List String}
    (down : name ≠ "..") (entry : f.entryAt? (base ++ [name]) = some (.link target)) (n : Nat) :
    f.resolveFrom (n + 1) base (name :: rest)
      = f.resolveFrom n (if (Path.ofString target).anchor = .here then base else [])
          ((Path.ofString target).names ++ rest) := by
  rw [FileSystem.resolveFrom, if_neg down]
  dsimp only
  rw [entry]

theorem resolveFrom_spent {base : Location} {name : String} {rest : List String}
    (down : name ≠ "..") :
    f.resolveFrom 0 base (name :: rest) = f.resolveFrom 0 (base ++ [name]) rest := by
  rw [FileSystem.resolveFrom, if_neg down]
  dsimp only
  rcases f.entryAt? (base ++ [name]) with - | ⟨- | i | target⟩ <;> rfl

/-- A path leads to the same place while links stay as they are. -/
theorem resolveFrom_linked (linked : f.Linked g) (links : Nat) (names : List String)
    (base : Location) : g.resolveFrom links base names = f.resolveFrom links base names := by
  induction links, base, names using FileSystem.resolveFrom.induct f with
  | case1 links base => rw [FileSystem.resolveFrom, FileSystem.resolveFrom]
  | case2 links base rest ih => rw [resolveFrom_up, resolveFrom_up, ih]
  | case3 base name rest up l target entry ih => rw [resolveFrom_spent up, resolveFrom_spent up, ih]
  | case4 base name rest up l target entry n p ih =>
      rw [resolveFrom_link up entry, resolveFrom_link up ((linked.link _ _).mpr entry)]
      exact ih
  | case5 links base name rest up l solid ih =>
      have solid' : ∀ target, g.entryAt? (base ++ [name]) ≠ some (.link target) :=
        fun target => mt (linked.link _ target).mp (solid target)
      rw [resolveFrom_step up solid, resolveFrom_step up solid', ih]

theorem resolve_linked (linked : f.Linked g) (p : Path) : g.resolve p = f.resolve p := by
  unfold FileSystem.resolve FileSystem.start
  rw [linked.here, resolveFrom_linked linked]

/-! ## Paths that can be followed -/

theorem resolveFrom_walked {l : Location} (links : Nat)
    (solid : ∀ target, f.entryAt? l ≠ some (.link target)) {followLast : Bool} :
    ∀ (names : List String) (base : Location),
      f.walk followLast base names = .ok (.arrived l) → f.resolveFrom links base names = l
  | [], base, walked => by
      cases walked
      rw [FileSystem.resolveFrom]
  | name :: rest, base, walked => by
      rw [FileSystem.walk] at walked
      by_cases up : name = ".."
      · rw [if_pos up] at walked
        rw [up, resolveFrom_up, resolveFrom_walked links solid rest _ walked]
      · rw [if_neg up] at walked
        cases valid : nameFault? name with
        | some cause => rw [valid] at walked; cases walked
        | none =>
            rw [valid] at walked
            dsimp only at walked
            rcases entry : f.entryAt? (base ++ [name]) with - | ⟨- | i | target⟩ <;>
              rw [entry] at walked <;> dsimp only at walked
            · split at walked
              · next last =>
                  cases walked
                  rw [last, resolveFrom_step up solid, FileSystem.resolveFrom]
              · cases walked
            · rw [resolveFrom_step up (by simp [entry]),
                resolveFrom_walked links solid rest _ walked]
            · split at walked
              · next last =>
                  cases walked
                  rw [last, resolveFrom_step up solid, FileSystem.resolveFrom]
              · cases walked
            · split at walked <;> cases walked
              exact absurd entry (solid target)

theorem resolveFrom_atLink {base' : Location} {target : String} {left : List String} (n : Nat)
    {followLast : Bool} :
    ∀ (names : List String) (base : Location),
      f.walk followLast base names = .ok (.atLink base' target left) →
        f.resolveFrom (n + 1) base names
          = f.resolveFrom n (if (Path.ofString target).anchor = .here then base' else [])
              ((Path.ofString target).names ++ left)
  | [], base, walked => by cases walked
  | name :: rest, base, walked => by
      rw [FileSystem.walk] at walked
      by_cases up : name = ".."
      · rw [if_pos up] at walked
        rw [up, resolveFrom_up, resolveFrom_atLink n rest _ walked]
      · rw [if_neg up] at walked
        cases valid : nameFault? name with
        | some cause => rw [valid] at walked; cases walked
        | none =>
            rw [valid] at walked
            dsimp only at walked
            rcases entry : f.entryAt? (base ++ [name]) with - | ⟨- | i | target'⟩ <;>
              rw [entry] at walked <;> dsimp only at walked
            · split at walked <;> cases walked
            · rw [resolveFrom_step up (by simp [entry]), resolveFrom_atLink n rest _ walked]
            · split at walked <;> cases walked
            · split at walked <;> cases walked
              rw [resolveFrom_link up entry]

/-- A path that can be followed leads to its place, unless a link is there. -/
theorem resolveFrom_followed {followLast : Bool} {l : Location}
    (solid : ∀ target, f.entryAt? l ≠ some (.link target)) :
    ∀ (links : Nat) (names : List String) (base : Location),
      f.follow followLast links base names = .ok l → f.resolveFrom links base names = l := by
  intro links
  induction links with
  | zero =>
      intro names base followed
      rw [FileSystem.follow] at followed
      rcases walked : f.walk followLast base names with cause | ⟨l' | ⟨base', target, rest⟩⟩ <;>
        rw [walked] at followed <;> cases followed
      exact resolveFrom_walked 0 solid names base walked
  | succ n ih =>
      intro names base followed
      rw [FileSystem.follow] at followed
      rcases walked : f.walk followLast base names with cause | ⟨l' | ⟨base', target, rest⟩⟩ <;>
        rw [walked] at followed
      · cases followed
      · cases followed
        exact resolveFrom_walked (n + 1) solid names base walked
      · rw [resolveFrom_atLink n names base walked]
        exact ih _ _ followed

section Paths

variable {p : Path} {l : Location}

theorem resolve_located (located : f.locate p = .ok l)
    (solid : ∀ target, f.entryAt? l ≠ some (.link target)) : f.resolve p = l :=
  resolveFrom_followed solid _ _ _ located

theorem resolve_locatedEntry (located : f.locateEntry p = .ok l)
    (solid : ∀ target, f.entryAt? l ≠ some (.link target)) : f.resolve p = l :=
  resolveFrom_followed solid _ _ _ located

/-! ## Directories that are made -/

/-- A directory is made at the place of its path, where there was nothing. -/
theorem makeDirectory_ok (made : f.makeDirectory p = .ok g) :
    f.locateEntry p = .ok (f.resolve p) ∧ f.entryAt? (f.resolve p) = none ∧
      g = f.putEntry (f.resolve p) .directory := by
  unfold FileSystem.makeDirectory at made
  split at made
  · cases made
  · next l located =>
      split at made
      · next absent =>
          cases made
          rw [resolve_locatedEntry located (by simp [absent])]
          exact ⟨located, absent, rfl⟩
      · cases made

/-- What a path shows is the entry at its place, unless a link is there. -/
theorem status_resolved {e : Entry} (shown : f.status p = .ok e)
    (solid : ∀ target, e ≠ .link target) :
    f.locate p = .ok (f.resolve p) ∧ f.entryAt? (f.resolve p) = some e := by
  unfold FileSystem.status at shown
  cases located : f.locate p with
  | error cause => rw [located] at shown; cases shown
  | ok l =>
      rw [located] at shown
      dsimp only at shown
      cases entry : f.entryAt? l with
      | none => rw [entry] at shown; cases shown
      | some e' =>
          rw [entry] at shown
          cases shown
          rw [resolve_located located (by simpa [entry] using solid)]
          exact ⟨rfl, entry⟩

theorem isDirectory_resolved (directory : f.isDirectory p = .ok true) :
    f.locate p = .ok (f.resolve p) ∧ f.entryAt? (f.resolve p) = some .directory := by
  unfold FileSystem.isDirectory at directory
  split at directory
  · next e shown =>
      obtain rfl : e = .directory := by simpa using directory
      exact status_resolved shown (by simp)
  · split at directory <;> cases directory

/-- Where a directory passes for made, there is one. -/
theorem orPresent_there {fault : Files.Fault} (present : f.orPresent p fault = .ok g) :
    g = f ∧ f.locate p = .ok (f.resolve p) ∧ f.entryAt? (f.resolve p) = some .directory := by
  refine ⟨orPresent_ok present, ?_⟩
  unfold FileSystem.orPresent at present
  split at present
  · next directory => exact isDirectory_resolved directory
  · cases present
  · cases present

end Paths

/-- After the last attempt a directory is at the place of the path, and it is all that can be
new. -/
theorem makeParents_zero_places {p : Path} (made : f.makeParents p 0 = .ok g) :
    g.entryAt? (f.resolve p) = some .directory ∧ g.contents = f.contents ∧
      ∀ l, g.entryAt? l = f.entryAt? l ∨ f.entryAt? l = none ∧
        g.entryAt? l = some .directory ∧ l = f.resolve p := by
  rw [FileSystem.makeParents] at made
  split at made
  · next dirs first =>
      cases made
      obtain ⟨-, absent, rfl⟩ := makeDirectory_ok first
      refine ⟨by rw [entryAt_putEntry, if_pos rfl], rfl, fun l => ?_⟩
      rw [entryAt_putEntry]
      split
      · next same => subst same; exact .inr ⟨absent, rfl, rfl⟩
      · exact .inl rfl
  · split at made
    · cases made
    · obtain ⟨rfl, -, directory⟩ := orPresent_there made
      exact ⟨directory, rfl, fun _ => .inl rfl⟩

theorem onTheWay_self (f : FileSystem) (p : Path) : f.OnTheWay p (f.resolve p) :=
  ⟨p.names, List.prefix_rfl, rfl⟩

theorem onTheWay_parent {p : Path} {l : Location} (above : f.OnTheWay p.parent l) :
    f.OnTheWay p l := by
  obtain ⟨names, leading, rfl⟩ := above
  exact ⟨names, leading.trans (List.dropLast_prefix _), rfl⟩

/-- The directories that are made for a path are on its way, its own place is one, and nothing
else is other than it was. -/
theorem makeParents_places : ∀ (n : Nat) {f g : FileSystem} {p : Path},
    f.makeParents p n = .ok g →
      g.entryAt? (f.resolve p) = some .directory ∧ g.contents = f.contents ∧
        ∀ l, g.entryAt? l = f.entryAt? l ∨ f.entryAt? l = none ∧
          g.entryAt? l = some .directory ∧ f.OnTheWay p l := by
  have whole {f g : FileSystem} {p : Path} (made : f.makeParents p 0 = .ok g) :
      g.entryAt? (f.resolve p) = some .directory ∧ g.contents = f.contents ∧
        ∀ l, g.entryAt? l = f.entryAt? l ∨ f.entryAt? l = none ∧
          g.entryAt? l = some .directory ∧ f.OnTheWay p l := by
    obtain ⟨there, contents, entries⟩ := makeParents_zero_places made
    refine ⟨there, contents, fun l => (entries l).imp_right ?_⟩
    rintro ⟨absent, directory, rfl⟩
    exact ⟨absent, directory, onTheWay_self f p⟩
  intro n
  induction n with
  | zero => exact whole
  | succ n ih =>
      intro f g p made
      rcases makeParents_succ made with last | ⟨dirs, above, last⟩
      · exact whole last
      · have linked := grows_linked (makeParents_grows n above)
        obtain ⟨-, contents, entries⟩ := ih above
        obtain ⟨there, contents', entries'⟩ := makeParents_zero_places last
        rw [resolve_linked linked] at there entries'
        refine ⟨there, contents'.trans contents, fun l => ?_⟩
        rcases entries' l with same | ⟨absent, directory, rfl⟩
        · rw [same]
          refine (entries l).imp_right ?_
          rintro ⟨absent, directory, onTheWay⟩
          exact ⟨absent, directory, onTheWay_parent onTheWay⟩
        · rcases entries (f.resolve p) with same | ⟨-, made', -⟩
          · exact .inr ⟨same ▸ absent, directory, onTheWay_self f p⟩
          · rw [made'] at absent
            cases absent

section Directories

variable {p : Path} (made : f.makeDirectories p = .ok g)
include made

theorem makeDirectories_linked : f.Linked g := grows_linked (makeDirectories_grows made)

theorem makeDirectories_contents : g.contents = f.contents := (makeParents_places _ made).2.1

theorem makeDirectories_there : g.entryAt? (f.resolve p) = some .directory :=
  (makeParents_places _ made).1

theorem makeDirectories_places (l : Location) : g.entryAt? l = f.entryAt? l ∨
    f.entryAt? l = none ∧ g.entryAt? l = some .directory ∧ f.OnTheWay p l :=
  (makeParents_places _ made).2.2 l

end Directories

/-! ## Names that go down -/

/-- Names that go down past no link lead to where they spell. -/
theorem resolveFrom_unlinked (links : Nat) : ∀ (names : List String) (base : Location),
    ".." ∉ names →
    (∀ above, above <+: names → ∀ target, f.entryAt? (base ++ above) ≠ some (.link target)) →
    f.resolveFrom links base names = base ++ names
  | [], base, _, _ => by rw [FileSystem.resolveFrom, List.append_nil]
  | name :: rest, base, down, unlinked => by
      simp only [List.mem_cons, not_or] at down
      rw [resolveFrom_step (Ne.symm down.1) (unlinked [name] (List.prefix_append [name] rest)),
        resolveFrom_unlinked links rest _ down.2, List.append_assoc, List.singleton_append]
      intro above leading target
      have further := unlinked (name :: above) ((List.prefix_cons_inj name).mpr leading) target
      simpa using further

/-- A path leads to names that do not go up. -/
theorem resolveFrom_low (links : Nat) (names : List String) (base : Location)
    (low : ".." ∉ base) : ".." ∉ f.resolveFrom links base names := by
  have further {base : Location} {name : String} (low : ".." ∉ base) (down : name ≠ "..") :
      ".." ∉ base ++ [name] := by
    simp [low, Ne.symm down]
  induction links, base, names using FileSystem.resolveFrom.induct f with
  | case1 links base => rwa [FileSystem.resolveFrom]
  | case2 links base rest ih =>
      rw [resolveFrom_up]
      exact ih fun held => low ((List.dropLast_prefix _).subset held)
  | case3 base name rest up l target entry ih =>
      rw [resolveFrom_spent up]
      exact ih (further low up)
  | case4 base name rest up l target entry n p ih =>
      rw [resolveFrom_link up entry]
      refine ih ?_
      split
      · exact low
      · simp
  | case5 links base name rest up l solid ih =>
      rw [resolveFrom_step up solid]
      exact ih (further low up)

theorem resolve_low (low : ".." ∉ f.here) (p : Path) : ".." ∉ f.resolve p := by
  refine resolveFrom_low _ _ _ ?_
  unfold FileSystem.start
  split
  · exact low
  · simp

theorem follow_direct {followLast : Bool} {base l : Location} {names : List String}
    (direct : f.Direct base names) {links : Nat}
    (followed : f.follow followLast links base names = .ok l) :
    l = base ++ names ∧ ∀ above name, names = above ++ [name] →
      f.entryAt? (base ++ above) = some .directory ∧ nameFault? name = none := by
  cases walked : f.walk followLast base names with
  | error cause =>
      rw [follow_error walked] at followed
      cases followed
  | ok stop =>
      obtain ⟨rfl, through⟩ := walk_arrived names base direct walked
      rw [follow_arrived walked] at followed
      cases followed
      exact ⟨rfl, through⟩

section Below

variable {root : Location} (formed : f.Formed) (low : ".." ∉ root)
  (directory : f.entryAt? root = some .directory) (bare : f.Bare root)
include formed low directory bare

/-- From the root of all files down to a directory there are directories, and below it there are
no links. -/
theorem direct_below {names : List String} (down : ".." ∉ names) : f.Direct [] (root ++ names) where
  directory := formed.root
  down up := (List.mem_append.mp up).elim low down
  unlinked above leading target := by
    rw [List.nil_append]
    rcases List.prefix_or_prefix_of_prefix leading (List.prefix_append root names) with
      ⟨rest, rfl⟩ | ⟨below, rfl⟩
    · by_cases whole : rest = []
      · simpa [whole] using bare_end bare target
      · rw [directory_above formed rest above whole (by simp [directory])]
        simp
    · exact bare below target

end Below

end MavenImport
