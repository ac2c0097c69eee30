/-
# Proofs.GrowingCache -- what taking files into a cache does to all other places

Taking files into the cache adds them below the place of its path, and with them directories there
and on the way (`FileSystem.GrowsAt`).  So what is apart from the cache, and needed by no name on
the way to it, shows what it showed (`growsAt_seen`), and once the cache is a directory, what is in
it stays there.

To resolve a coordinate does no more than this (`resolve_grows`) as long as the coordinates that
are referred to are proper, and leaves its POM in the cache (`resolve_holds`).
-/
import MavenImport.Proofs.EnteredFiles
import MavenImport.Proofs.OfflineReplay

namespace MavenImport

open FileSystem (Enters)
open MavenImport.Action (perform_bind_ok perform_change_ok perform_inspect_ok perform_ofExcept_ok)

set_option autoImplicit false

namespace FileSystem

/-- Files are added below the place of a path, with directories on the way.  From when the path
leads to a directory, nothing there gives way to a file. -/
structure GrowsAt (f : FileSystem) (p : Path) (g : FileSystem) : Prop where
  formed : g.Formed
  upholds : f.Upholds g
  spares : f.Spares g
  places : ∀ l, ¬ f.resolve p <+: l → g.entryAt? l = f.entryAt? l ∨ f.NewDirectory p g l
  lasts : f.Rooted p → ∀ l e, f.entryAt? l = some e → g.entryAt? l = some e

/-- The way to a path needs no directory that is missing at a location or below it. -/
def Bypasses (f : FileSystem) (p : Path) (l : Location) : Prop :=
  ∀ m, f.OnTheWay p m → l <+: m → f.entryAt? m = some .directory

end FileSystem

/-- Neither of two places is in the other one. -/
def Apart (l m : Location) : Prop := ¬ l <+: m ∧ ¬ m <+: l

variable {f g h : FileSystem} {p q : Path} {names : List String}

/-! ## Growing below a path -/

theorem apart_below {l m : Location} (apart : Apart l m) (below below' : List String) :
    l ++ below ≠ m ++ below' := by
  intro same
  have within : m <+: l ++ below := same ▸ List.prefix_append m below'
  exact (List.prefix_or_prefix_of_prefix (List.prefix_append l below) within).elim apart.1 apart.2

section Growing

theorem growsAt_refl (formed : f.Formed) : f.GrowsAt p f :=
  ⟨formed, upholds_refl f, spares_refl f, fun _ _ => .inl rfl, fun _ _ _ => id⟩

theorem growsAt_trans (first : f.GrowsAt p g) (second : g.GrowsAt p h) : f.GrowsAt p h where
  formed := second.formed
  upholds := upholds_trans first.upholds second.upholds
  spares := spares_trans first.spares second.spares
  places l outside := entries_trans first.upholds.toLinked (first.places l outside)
    (second.places l (resolve_linked first.upholds.toLinked p ▸ outside))
  lasts rooted l e found :=
    second.lasts (rooted_upholds first.upholds rooted) l e (first.lasts rooted l e found)

theorem growsAt_bare (grows : f.GrowsAt p g) (bare : f.Bare (f.resolve q)) :
    g.Bare (g.resolve q) :=
  resolve_linked grows.upholds.toLinked q ▸ bare_linked grows.upholds.toLinked bare

/-- A file that is entered where there was nothing makes what is below a path grow. -/
theorem enters_growsAt {i : Nat} (enters : f.Enters p names i g)
    (absent : f.Rooted p → f.entryAt? (f.resolve p ++ names) = none) : f.GrowsAt p g where
  formed := enters.formed
  upholds := enters.upholds
  spares := enters.spares
  places l outside := enters.elsewhere l fun same => outside (same ▸ List.prefix_append _ _)
  lasts rooted l e found := by
    have other : l ≠ f.resolve p ++ names := by
      rintro rfl
      rw [absent rooted] at found
      cases found
    rcases enters.elsewhere l other with same | ⟨none, -, -⟩
    · rw [same, found]
    · rw [none] at found
      cases found

theorem growsAt_shows (grows : f.GrowsAt p g) (rooted : f.Rooted p) {i : Nat}
    (file : f.Shows p names i) : g.Shows p names i := by
  rw [FileSystem.Shows, resolve_linked grows.upholds.toLinked]
  exact grows.lasts rooted _ _ file

/-- What is the same entry shows the same. -/
theorem seen_spared (spares : f.Spares g) {l : Location} (same : g.entryAt? l = f.entryAt? l) :
    g.seen? l = f.seen? l := by
  unfold FileSystem.seen?
  rw [same]
  rcases entry : f.entryAt? l with - | ⟨- | i | target⟩
  · rfl
  · rfl
  · simp [FileSystem.see, spares.content i (FileSystem.inode_lt_fresh entry)]
  · rfl

/-- What is apart from a path and its way shows what it showed. -/
theorem growsAt_seen (grows : f.GrowsAt p g) {l : Location}
    (apart : Apart (f.resolve p) l) (bypasses : f.Bypasses p l) {m : Location} (below : l <+: m) :
    g.seen? m = f.seen? m := by
  have outside : ¬ f.resolve p <+: m := fun within =>
    (List.prefix_or_prefix_of_prefix within below).elim apart.1 apart.2
  refine seen_spared grows.spares ?_
  rcases grows.places m outside with same | ⟨absent, -, onTheWay | within⟩
  · exact same
  · rw [bypasses m onTheWay below] at absent
    cases absent
  · exact absurd within outside

end Growing

/-! ## Files taken into the cache -/

section Cache

variable {s : Source} {x : ArtifactFile} {c : Coordinate} {v w : World}

theorem names_split (x : ArtifactFile) : ∃ above, x.names = above ++ [x.name] :=
  ⟨Text.splitAt '.' x.coordinate.group ++ [x.coordinate.artifact, x.coordinate.version],
    by simp [ArtifactFile.names]⟩

theorem names_down (proper : x.Proper) : ".." ∉ x.names := fun up =>
  (names_solid proper _ up).2.2 rfl

theorem fetch_grows (proper : x.Proper) (formed : v.files.Formed)
    (bare : v.files.Bare (v.files.resolve s.cache)) (snapshot : Bool) :
    v.files.GrowsAt s.cache ((s.fetch x.path snapshot).perform v).2.files := by
  rw [fetch_eq]
  split
  · exact growsAt_refl formed
  · exact growsAt_refl formed
  · next absent =>
      cases (s.inquire v.web x.path [] (s.admitted snapshot)).delivery with
      | nothing status => exact growsAt_refl formed
      | broken fault => exact growsAt_refl formed
      | content r body =>
          rw [Source.receive, Action.perform_bind, Action.perform_change]
          dsimp only
          cases written : v.files.replaceFile (s.localFile x.path) body with
          | error fault => exact growsAt_refl formed
          | ok files =>
              have down := names_down proper
              obtain ⟨above, split⟩ := names_split x
              rw [localFile_eq proper] at absent written
              rw [split] at down absent written
              obtain ⟨i, enters, -⟩ := replaceFile_enters formed bare down written
              refine enters_growsAt enters fun rooted => ?_
              by_contra present
              rw [rooted_pathExists rooted formed down present] at absent
              cases absent

theorem loadPom_grows (proper : c.Proper) (formed : v.files.Formed)
    (bare : v.files.Bare (v.files.resolve s.cache)) :
    v.files.GrowsAt s.cache ((s.loadPom c).perform v).2.files := by
  rw [Source.loadPom_leaves, show artifactPath c "pom" none = c.pomFile.path from rfl]
  exact fetch_grows (pomFile_proper proper) formed bare c.isSnapshot

theorem download_grows {a : ResolvedArtifact} (proper : a.mainFile.Proper)
    (formed : v.files.Formed) (bare : v.files.Bare (v.files.resolve s.cache)) :
    v.files.GrowsAt s.cache ((s.download a).perform v).2.files := by
  rw [Source.download, show a.mainPath = a.mainFile.path from rfl]
  exact fetch_grows proper formed bare a.coordinate.isSnapshot

/-- A POM that was loaded can be read in the cache. -/
theorem loadPom_readable {pom : Pom} {u : World}
    (loaded : (s.loadPom c).perform v = (.ok (.ok pom), u)) :
    ∃ bytes, u.files.readFile (s.localFile c.pomFile.path) = .ok bytes := by
  obtain ⟨status, file, bytes, fetched, found, readable, -⟩ := loadPom_ok loaded
  have place : file = s.localFile c.pomFile.path := fetch_place fetched found
  exact ⟨bytes, place ▸ readable⟩

/-- To resolve a coordinate takes POMs into the cache. -/
theorem grows_guards (proper : ∀ d, s.Refers w c d → d.Proper)
    (bare : v.files.Bare (v.files.resolve s.cache)) :
    s.Guards w c fun u => v.files.GrowsAt s.cache u.files where
  loads d _ refers _ grows :=
    growsAt_trans grows (loadPom_grows (proper d refers) grows.formed (growsAt_bare grows bare))
  keeps _ _ grows := grows

section Resolve

variable (formed : w.files.Formed) (bare : w.files.Bare (w.files.resolve s.cache))
  (proper : ∀ d, s.Refers w c d → d.Proper)
include formed bare proper

theorem resolve_grows : w.files.GrowsAt s.cache ((s.resolve c).perform w).2.files :=
  Source.resolve_guarded (grows_guards proper bare) (growsAt_refl formed)

/-- The POM of what was resolved is in the cache, whatever was loaded after it. -/
theorem resolve_holds (fresh : w.models = ⟨[]⟩) {a : ResolvedArtifact} {u : World}
    (resolved : (s.resolve c).perform w = (.ok (.ok a), u)) :
    u.files.Rooted s.cache ∧ ∃ i, u.files.Shows s.cache c.pomFile.names i := by
  have own := pomFile_proper (proper c (Source.refers_self s w c))
  have grows := loadPom_grows (proper c (Source.refers_self s w c)) formed bare
  have bare' := growsAt_bare grows bare
  obtain ⟨pom, v, loaded, keeps⟩ := Source.resolve_guarded_from (grows_guards proper bare')
    (by rw [fresh]; rfl) resolved
  have left : ((s.loadPom c).perform w).2 = v := by rw [loaded]
  rw [left] at grows bare' keeps
  have later := keeps (growsAt_refl grows.formed)
  obtain ⟨bytes, readable⟩ := loadPom_readable loaded
  rw [localFile_eq own] at readable
  have more : c.pomFile.names ≠ [] := by simp [ArtifactFile.names]
  obtain ⟨rooted, i, entry, -⟩ :=
    readFile_below grows.formed bare' more (names_down own) readable
  exact ⟨rooted_upholds later.upholds rooted, i, growsAt_shows later rooted entry⟩

end Resolve

/-- Where no POM names another one, a coordinate refers to nothing else. -/
theorem refers_alone (silent : ∀ url reason body, w.web.reply url ≠ .response 200 reason body)
    (alone : ∀ i pom, Pom.ofBytes (w.files.content i) = .ok pom →
      pom.parent? = none ∧ pom.managed = []) {d : Coordinate} (refers : s.Refers w c d) : d = c := by
  refine refers (· = c) rfl ?_
  rintro d d' - ⟨pom, ⟨-, v, comes, loaded⟩, names⟩
  have visits := Source.comesTo_mono (fun _ _ => trivial) comes
  rw [Source.serves_of_silent silent v visits d] at loaded
  obtain ⟨i, read⟩ := Source.readable_of_loaded silent loaded
  obtain ⟨orphan, managed⟩ := alone i pom read
  cases names with
  | parent named =>
      rw [orphan] at named
      cases named
  | imported _ listed _ =>
      rw [managed] at listed
      cases listed

end Cache

end MavenImport
