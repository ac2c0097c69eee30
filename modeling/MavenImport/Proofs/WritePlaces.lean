/-
# Proofs.WritePlaces -- where files are written

Without links a path leads to the location that its names spell out, where `..` takes the last name
away again (`Path.target`).  Whatever is resolved, downloaded and generated, a file that was not
there before lies in the cache or in the workspace, but for two things (`works_confined`).  The
file of an artifact may have a path that is absolute or goes up (`IsLoose`), and a group may begin
with a point or a slash, so that the path of its package is absolute.

The names of artifacts come from specifications and from POMs, and nothing keeps them from being
such.  A valid specification can name an artifact whose POM is stored outside (`climbing_escapes`).
No path is loose that is made of names as they should be (`proper_tight`).
-/
import MavenImport.Proofs.WriteOnce

namespace MavenImport

set_option autoImplicit false

/-! ## Where paths lead -/

/-- Where a path leads from a working directory, if there are no links. -/
def Path.target (here : Location) (p : Path) : Location :=
  along (if p.anchor = .here then here else []) p.names

/-- A location in a directory. -/
def Within (directory l : Location) : Prop := directory <+: l ∧ l ≠ directory

instance (directory l : Location) : Decidable (Within directory l) :=
  inferInstanceAs (Decidable (_ ∧ _))

/-- A text that is no relative path or goes up. -/
def IsLoose (text : String) : Prop :=
  (Path.ofString text).anchor ≠ .here ∨ ".." ∈ (Path.ofString text).names

instance (text : String) : Decidable (IsLoose text) := inferInstanceAs (Decidable (_ ∨ _))

def FileSystem.Unlinked (f : FileSystem) : Prop := ∀ l target, f.entryAt? l ≠ some (.link target)

/-- The place of a file with a loose path that repositories are asked for, and one of them was. -/
def Source.Strays (s : Source) (asked : ArtifactFile → Prop) (here : Location)
    (requested : List String) (l : Location) : Prop :=
  ∃ x : ArtifactFile, asked x ∧ IsLoose x.path ∧ l = (s.localFile x.path).target here ∧
    ∃ r ∈ s.repositories, ∃ url, Source.address r x.path = .ok url ∧ Web.target url ∈ requested

/-- The place of the build file of a group that begins with a point or a slash, and that some key
names. -/
def StraysFrom (workspace : Path) (keys : List String) (here l : Location) : Prop :=
  ∃ key ∈ keys, ∃ c, Coordinate.ofString? key = some c ∧
    (c.group.toList.head? = some '.' ∨ c.group.toList.head? = some '/') ∧
    l = (buildFilePath workspace c.group).target here

/-- Where files may come to be: in the cache, in the workspace, or at a place that strays. -/
def Source.Places (s : Source) (workspace : Path) (keys : List String)
    (asked : ArtifactFile → Prop) (here : Location) (requested : List String) (l : Location) :
    Prop :=
  Within (s.cache.target here) l ∨ Within (workspace.target here) l ∨
    s.Strays asked here requested l ∨ StraysFrom workspace keys here l

/-- Calls and runs one after the other, the keys of the specifications of the runs, and the files
that may be asked for. -/
inductive Source.Works (s : Source) (workspace : Path) (w : World) :
    List String → (ArtifactFile → Prop) → World → Prop
  | start : Works s workspace w [] (fun _ => False) w
  | resolve {keys : List String} {asked : ArtifactFile → Prop} {v : World}
      (before : Works s workspace w keys asked v) (c : Coordinate) :
      Works s workspace w keys (fun x => asked x ∨ s.Wants v (.resolve c) x)
        ((s.resolve c).perform v).2
  | download {keys : List String} {asked : ArtifactFile → Prop} {v : World}
      (before : Works s workspace w keys asked v) (a : ResolvedArtifact) :
      Works s workspace w keys (fun x => asked x ∨ s.Wants v (.download a) x)
        ((s.download a).perform v).2
  | generate {keys : List String} {asked : ArtifactFile → Prop} {v : World}
      (before : Works s workspace w keys asked v) (plan : Plan)
      (source : plan.resolver = s.resolver) (there : plan.workspace = workspace)
      (schedule : List Turn) :
      Works s workspace w (keys ++ plan.specification.artifacts.map Prod.fst)
        (fun x => asked x ∨ plan.Wants s (plan.prepare.perform v).2 x)
        ((plan.generateBy schedule).perform v).2

section Along

variable {here : Location} {p : Path} {text : String}

/-- What is joined to a path and is not loose goes down from it. -/
theorem joinText_tight (tight : ¬ IsLoose text) :
    p.joinText text = ⟨p.anchor, p.names ++ (Path.ofString text).names⟩ ∧
      ".." ∉ (Path.ofString text).names := by
  simp only [IsLoose, not_or, not_not] at tight
  refine ⟨?_, tight.2⟩
  rw [Path.joinText, Path.join, if_pos tight.1]

/-- What is joined to a path and is not loose leads further down from where the path leads. -/
theorem target_joinText (tight : ¬ IsLoose text) :
    (p.joinText text).target here = p.target here ++ (Path.ofString text).names := by
  obtain ⟨joined, down⟩ := joinText_tight (p := p) tight
  rw [joined, Path.target, Path.target, along_append]
  exact along_down down

theorem within_joinText (tight : ¬ IsLoose text) (named : (Path.ofString text).names ≠ []) :
    Within (p.target here) ((p.joinText text).target here) := by
  rw [target_joinText tight]
  exact ⟨List.prefix_append _ _, by simpa using named⟩

end Along

/-! ## Texts that are paths -/

section Texts

theorem anchor_here {text : String} (relative : text.toList.head? ≠ some '/') :
    (Path.ofString text).anchor = .here := by
  simp only [Path.ofString]
  split
  · next whole => simp [whole] at relative
  · next whole => simp [whole] at relative
  · next whole => simp [whole] at relative
  · rfl

/-- No name in the path of a group is `..`, since points are where its names end. -/
theorem groupPath_down (group : String) : ".." ∉ (Path.ofString (groupPath group)).names := by
  intro up
  simp only [Path.ofString, Path.namesOf] at up
  have piece : ".." ∈ Text.splitAt '/' (groupPath group) := List.mem_of_mem_filter up
  obtain ⟨cs, listed, same⟩ := List.mem_map.mp piece
  have point : '.' ∈ cs := by
    have chars : cs = "..".toList := by rw [← same, String.toList_ofList]
    rw [chars]
    decide
  have within := Text.mem_of_mem_pieces listed point
  simp only [groupPath, Text.replaceChar, String.toList_ofList, List.mem_map] at within
  obtain ⟨c, -, replaced⟩ := within
  split at replaced
  · exact absurd replaced (by decide)
  · next other => exact other replaced

/-- The path of a package is loose only if its group begins with a point or a slash. -/
theorem groupPath_loose {group : String} (loose : IsLoose (groupPath group)) :
    group.toList.head? = some '.' ∨ group.toList.head? = some '/' := by
  have first : (groupPath group).toList.head? = some '/' := by
    by_contra relative
    rcases loose with anchored | up
    · exact anchored (anchor_here relative)
    · exact groupPath_down group up
  simp only [groupPath, Text.replaceChar, String.toList_ofList, List.head?_map] at first
  obtain ⟨c, head, slash⟩ := Option.map_eq_some_iff.mp first
  split at slash
  · next point => exact .inl (point ▸ head)
  · exact .inr (slash ▸ head)

/-- A text with a dash has a name in it. -/
theorem ofString_named {text : String} (dash : '-' ∈ text.toList) :
    (Path.ofString text).names ≠ [] := by
  obtain ⟨cs, listed, within⟩ := Text.mem_pieces_of_mem (· == '/') dash (by rfl)
  have piece : String.ofList cs ∈ Text.splitAt '/' text := List.mem_map_of_mem listed
  have solid : String.ofList cs ≠ "" ∧ String.ofList cs ≠ "." := by
    constructor
    all_goals
      intro same
      have chars := congrArg String.toList same
      rw [String.toList_ofList] at chars
      rw [chars] at within
      exact absurd within (by decide)
  have name : String.ofList cs ∈ (Path.ofString text).names := by
    simp only [Path.ofString, Path.namesOf, List.mem_filter]
    exact ⟨piece, by simpa using solid⟩
  exact List.ne_nil_of_mem name

theorem path_named (x : ArtifactFile) : (Path.ofString x.path).names ≠ [] :=
  ofString_named (by simp [ArtifactFile.path, artifactPath])

/-- A path that is made of proper names is not loose. -/
theorem proper_tight {x : ArtifactFile} (proper : x.Proper) : ¬ IsLoose x.path := by
  simp only [IsLoose, ofString_path proper, ne_eq, not_true_eq_false, false_or]
  exact fun up => (names_solid proper _ up).2.2 rfl

end Texts

/-! ## Files that are written -/

namespace FileSystem

/-- New entries are directories, and files at places that are allowed; those files may also take
the place of others. -/
structure Confined (f : FileSystem) (ok : Location → Prop) (g : FileSystem) : Prop where
  here : g.here = f.here
  placed : ∀ l, g.entryAt? l = f.entryAt? l ∨
    (f.entryAt? l = none ∧ g.entryAt? l = some .directory) ∨
    (ok l ∧ ∃ i, g.entryAt? l = some (.file i))

end FileSystem

section Files

variable {f g h : FileSystem} {ok : Location → Prop}

/-- A walk that ends well arrives where the names lead. -/
theorem walk_along (unlinked : f.Unlinked) {followLast : Bool} {stop : FileSystem.Stop} :
    ∀ (names : List String) (base : Location), f.walk followLast base names = .ok stop →
      stop = .arrived (Path.along base names)
  | [], base, walked => by
      cases walked
      rfl
  | name :: rest, base, walked => by
      rw [FileSystem.walk] at walked
      by_cases up : name = ".."
      · rw [if_pos up] at walked
        rw [walk_along unlinked rest _ walked, along_cons, up, along_up]
      · have step : Path.along base (name :: rest) = Path.along (base ++ [name]) rest := by
          rw [along_cons, along_one up]
        rw [if_neg up] at walked
        cases valid : FileSystem.nameFault? name with
        | some cause =>
            rw [valid] at walked
            cases walked
        | none =>
            rw [valid] at walked
            dsimp only at walked
            rcases entry : f.entryAt? (base ++ [name]) with - | ⟨- | i | target⟩ <;>
              rw [entry] at walked <;> dsimp only at walked
            · split at walked <;> cases walked
              next last => rw [step, last]; rfl
            · rw [step]
              exact walk_along unlinked rest _ walked
            · split at walked <;> cases walked
              next last => rw [step, last]; rfl
            · exact absurd entry (unlinked _ _)

theorem locateEntry_target (unlinked : f.Unlinked) {p : Path} {l : Location}
    (located : f.locateEntry p = .ok l) : l = p.target f.here := by
  simp only [FileSystem.locateEntry] at located
  cases walked : f.walk false (f.start p) p.names with
  | error cause =>
      rw [follow_error walked] at located
      cases located
  | ok stop =>
      obtain rfl := walk_along unlinked _ _ walked
      rw [follow_arrived walked] at located
      cases located
      rfl

theorem confined_refl (f : FileSystem) : f.Confined ok f := ⟨rfl, fun _ => .inl rfl⟩

theorem confined_trans (first : f.Confined ok g) (second : g.Confined ok h) : f.Confined ok h where
  here := second.here.trans first.here
  placed l := by
    rcases second.placed l with kept | ⟨absent, made⟩ | file
    · rw [kept]
      exact first.placed l
    · rcases first.placed l with kept | ⟨-, directory⟩ | ⟨-, i, there⟩
      · exact .inr (.inl ⟨kept ▸ absent, made⟩)
      · rw [directory] at absent
        cases absent
      · rw [there] at absent
        cases absent
    · exact .inr (.inr file)

theorem confined_mono {more : Location → Prop} (wider : ∀ l, ok l → more l)
    (confined : f.Confined ok g) : f.Confined more g where
  here := confined.here
  placed l := by
    rcases confined.placed l with kept | made | ⟨allowed, file⟩
    · exact .inl kept
    · exact .inr (.inl made)
    · exact .inr (.inr ⟨wider l allowed, file⟩)

theorem confined_unlinked (unlinked : f.Unlinked) (confined : f.Confined ok g) : g.Unlinked := by
  intro l target found
  rcases confined.placed l with kept | ⟨-, made⟩ | ⟨-, i, there⟩
  · exact unlinked l target (kept.symm.trans found)
  · rw [made] at found
    cases found
  · rw [there] at found
    cases found

theorem makeDirectories_confined {p : Path} (made : f.makeDirectories p = .ok g) :
    f.Confined ok g := by
  refine makeParents_relates (R := fun f g => f.Confined ok g) confined_refl confined_trans ?_ _ made
  intro f g p made
  simp only [FileSystem.makeDirectory] at made
  split at made
  · cases made
  · split at made
    · next absent =>
        cases made
        refine ⟨rfl, fun l => ?_⟩
        rw [entryAt_putEntry]
        split
        · next same => exact .inr (.inl ⟨same ▸ absent, rfl⟩)
        · exact .inl rfl
    · cases made

theorem replaceFile_confined (unlinked : f.Unlinked) {p : Path} {bytes : ByteArray}
    (allowed : ok (p.target f.here)) (written : f.replaceFile p bytes = .ok g) :
    f.Confined ok g := by
  obtain ⟨dirs, l, made, located, -, rfl⟩ := replaceFile_ok written
  have confined : f.Confined ok dirs := makeDirectories_confined made
  have place : l = p.target dirs.here :=
    locateEntry_target (confined_unlinked unlinked confined) located
  rw [confined.here] at place
  refine confined_trans confined ⟨rfl, fun l' => ?_⟩
  rw [entryAt_putFile]
  split
  · next same => exact .inr (.inr ⟨same ▸ place ▸ allowed, _, rfl⟩)
  · exact .inl rfl

end Files

/-! ## Worlds -/

section Worlds

variable {s : Source} {workspace : Path} {keys : List String} {asked : ArtifactFile → Prop}
  {here : Location}

theorem places_mono {keys' requested requested' : List String} {asked' : ArtifactFile → Prop}
    {l : Location} (sent : ∀ url ∈ requested, url ∈ requested')
    (named : ∀ key ∈ keys, key ∈ keys') (wider : ∀ x, asked x → asked' x)
    (places : s.Places workspace keys asked here requested l) :
    s.Places workspace keys' asked' here requested' l := by
  rcases places with cached | generated | ⟨x, own, loose, there, r, known, url, located, listed⟩ |
    ⟨key, listed, rest⟩
  · exact .inl cached
  · exact .inr (.inl generated)
  · exact .inr (.inr (.inl ⟨x, wider x own, loose, there, r, known, url, located,
      sent _ listed⟩))
  · exact .inr (.inr (.inr ⟨key, named key listed, rest⟩))

/-- What was requested stays so, and files come to be only where they may. -/
def Source.Confines (s : Source) (workspace : Path) (keys : List String)
    (asked : ArtifactFile → Prop) (w v : World) : Prop :=
  (∀ url ∈ w.requested, url ∈ v.requested) ∧
  (w.files.Unlinked →
    w.files.Confined (s.Places workspace keys asked w.files.here v.requested) v.files)

theorem confines_trans {w v u : World} (first : s.Confines workspace keys asked w v)
    (second : s.Confines workspace keys asked v u) : s.Confines workspace keys asked w u := by
  obtain ⟨sent, confined⟩ := first
  obtain ⟨sent', confined'⟩ := second
  refine ⟨fun url listed => sent' url (sent url listed), fun unlinked => ?_⟩
  have before := confined unlinked
  have after := confined' (confined_unlinked unlinked before)
  rw [before.here] at after
  exact confined_trans
    (confined_mono (fun _ => places_mono sent' (fun _ => id) fun _ => id) before) after

/-- The file of an artifact goes to the cache or strays. -/
theorem places_stored {x : ArtifactFile} {r : Repository} {url : String} {requested : List String}
    (own : asked x) (known : r ∈ s.repositories) (located : Source.address r x.path = .ok url)
    (sent : Web.target url ∈ requested) :
    s.Places workspace keys asked here requested ((s.localFile x.path).target here) := by
  by_cases loose : IsLoose x.path
  · exact .inr (.inr (.inl ⟨x, own, loose, rfl, r, known, url, located, sent⟩))
  · exact .inl (within_joinText loose (path_named x))

/-- A build file goes to the workspace or strays. -/
theorem places_written {plan : Plan} {path : Path} {requested : List String}
    (writes : plan.WritesTo path) :
    s.Places plan.workspace (plan.specification.artifacts.map Prod.fst) asked here requested
      (path.target here) := by
  have tight : ¬ IsLoose buildFileName := by decide
  have named : (Path.ofString buildFileName).names ≠ [] := by decide
  rcases writes with rfl | ⟨e, listed, c, parsed, rfl⟩
  · exact .inr (.inl (within_joinText tight named))
  · by_cases loose : IsLoose (groupPath c.group)
    · exact .inr (.inr (.inr ⟨e.1, List.mem_map_of_mem listed, c, parsed, groupPath_loose loose,
        rfl⟩))
    · refine .inr (.inl ?_)
      rw [buildFilePath, Within, target_joinText tight, target_joinText loose, List.append_assoc]
      exact ⟨List.prefix_append _ _, by simp [named]⟩

theorem confines_source (s : Source) (workspace : Path) (keys : List String)
    (asked : ArtifactFile → Prop) : s.Steps asked (s.Confines workspace keys asked) where
  refl w := ⟨fun _ => id, fun _ => confined_refl w.files⟩
  trans := confines_trans
  printed w _ := ⟨fun _ => id, fun _ => confined_refl w.files⟩
  kept w _ := ⟨fun _ => id, fun _ => confined_refl w.files⟩
  asked w url := ⟨fun _ => List.mem_cons_of_mem url, fun _ => confined_refl w.files⟩
  stored _ _ _ _ _ _ own known located sent _ stored :=
    ⟨fun _ => id, fun unlinked =>
      replaceFile_confined unlinked (places_stored own known located sent) stored⟩

theorem confines_plan (s : Source) (plan : Plan) (asked : ArtifactFile → Prop) :
    plan.Steps s asked
      (s.Confines plan.workspace (plan.specification.artifacts.map Prod.fst) asked) where
  toSteps := confines_source s _ _ _
  made _ _ made := ⟨fun _ => id, fun _ => makeDirectories_confined made⟩
  written _ _ _ _ writes written :=
    ⟨fun _ => id, fun unlinked => replaceFile_confined unlinked (places_written writes) written⟩

theorem confines_mono {keys' : List String} {asked' : ArtifactFile → Prop}
    (named : ∀ key ∈ keys, key ∈ keys') (wider : ∀ x, asked x → asked' x) {w v : World}
    (confines : s.Confines workspace keys asked w v) : s.Confines workspace keys' asked' w v :=
  ⟨confines.1, fun unlinked =>
    confined_mono (fun _ => places_mono (fun _ => id) named wider) (confines.2 unlinked)⟩

theorem works_confines {w v : World} (works : s.Works workspace w keys asked v) :
    s.Confines workspace keys asked w v := by
  induction works with
  | start => exact (confines_source s workspace [] _).refl w
  | resolve _ c ih =>
      exact confines_trans (confines_mono (fun _ => id) (fun _ => .inl) ih)
        (resolve_steps (confines_source s _ _ _) fun _ => .inr)
  | download _ a ih =>
      exact confines_trans (confines_mono (fun _ => id) (fun _ => .inl) ih)
        (download_steps (confines_source s _ _ _) fun _ => .inr)
  | @generate named _ v _ plan source there schedule ih =>
      subst there
      have run := generate_steps (confines_plan s plan _) source (fun _ wants => wants)
        (w := v) schedule
      exact confines_trans (confines_mono (fun _ => List.mem_append_left _) (fun _ => .inl) ih)
        (confines_mono (fun _ => List.mem_append_right _) (fun _ => .inr) run)

theorem works_spares {w v : World} (works : s.Works workspace w keys asked v) :
    w.files.Spares v.files := by
  induction works with
  | start => exact spares_refl _
  | resolve _ c ih => exact spares_trans ih (spares_resolve c _)
  | download _ a ih => exact spares_trans ih (spares_download a _)
  | generate _ plan source _ schedule ih =>
      exact spares_trans ih (spares_generateBy source schedule _)

/-- After any calls and runs, in whatever order and however they ended, every file is one that was
there, with the content that it had, or it lies in the cache or in the workspace, or at one of the
places that stray: that of the file of an artifact with a loose path, for which a repository was
asked, or that of the build file of a group that begins with a point or a slash. -/
theorem works_confined (s : Source) (workspace : Path) (w v : World) (keys : List String)
    (asked : ArtifactFile → Prop) (unlinked : w.files.Unlinked)
    (works : s.Works workspace w keys asked v) (l : Location) (i : Nat)
    (there : v.files.entryAt? l = some (.file i)) :
    (w.files.entryAt? l = some (.file i) ∧ v.files.content i = w.files.content i) ∨
      Within (s.cache.target w.files.here) l ∨ Within (workspace.target w.files.here) l ∨
      s.Strays asked w.files.here v.requested l ∨ StraysFrom workspace keys w.files.here l := by
  rcases ((works_confines works).2 unlinked).placed l with kept | ⟨-, made⟩ | ⟨places, -⟩
  · rw [there] at kept
    exact .inl ⟨kept.symm,
      (works_spares works).content i (FileSystem.inode_lt_fresh kept.symm)⟩
  · rw [there] at made
    cases made
  · exact .inr places

end Worlds

/-- The POM of the child lies in the cache. -/
theorem child_confined :
    let v := ((Offline.source.resolve Offline.child).perform Offline.world).2
    let l := ["cache", "g", "a", "1", "a-1.pom"]
    (Offline.world.files.Unlinked ∧ v.files.entryAt? l = some (.file 0)) ∧
    ((Offline.world.files.entryAt? l = some (.file 0) ∧
        v.files.content 0 = Offline.world.files.content 0) ∨
      Within ["cache"] l ∨ Within ["ws"] l ∨
      Offline.source.Strays (Offline.source.Wants Offline.world (.resolve Offline.child)) []
        v.requested l ∨ StraysFrom (.ofString "/ws") [] [] l) := by
  have unlinked : Offline.world.files.Unlinked := Offline.plain.unlinked
  have there : ((Offline.source.resolve Offline.child).perform Offline.world).2.files.entryAt?
      ["cache", "g", "a", "1", "a-1.pom"] = some (.file 0) := by
    decide +kernel
  have places := works_confined Offline.source (.ofString "/ws") Offline.world _ [] _ unlinked
    (.resolve .start Offline.child) _ 0 there
  simp only [false_or] at places
  exact ⟨⟨unlinked, there⟩, places⟩

namespace Climbing

/-- A specification with one artifact, whose id goes up. -/
def specification : Specification :=
  ⟨.str "maven", [("g:../../x:1", Pair.config)], .obj [], false, [], [], [], .str "rules", false,
    false⟩

def coordinate : Coordinate := ⟨"g", "../../x", "1"⟩

/-- The server of its POM. -/
def outside : World :=
  { Offline.world with
    web := ⟨[("http://r/x-1.pom", .response 200 "OK" "<project/>".toUTF8)]⟩ }

end Climbing

/-- A valid specification names an artifact whose POM is stored outside of the cache and of the
workspace. -/
theorem climbing_escapes :
    Climbing.specification.problems = [] ∧ Climbing.outside.files.Unlinked ∧
    Climbing.specification.artifacts.map (fun e => Coordinate.ofString? e.1)
      = [some Climbing.coordinate] ∧
    Climbing.outside.files.entryAt? ["x-1.pom"] = none ∧
    ((Offline.source.resolve Climbing.coordinate).perform Climbing.outside).2.files.entryAt?
      ["x-1.pom"] = some (.file 0) ∧
    ¬ Within (Offline.source.cache.target []) ["x-1.pom"] ∧
    ¬ Within ((Path.ofString "/ws").target []) ["x-1.pom"] := by
  refine ⟨by decide +kernel, Offline.plain.unlinked, ?_⟩
  decide +kernel

end MavenImport
