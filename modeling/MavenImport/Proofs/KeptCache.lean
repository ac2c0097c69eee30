/-
# Proofs.KeptCache -- a file in the cache is what it was

What is in the cache is used without another look, so a file that is there must stay there as it
is.  Calls to resolve and to download artifacts, to generate workspaces and to fetch artifacts may
come in any order, each with servers of its own (`CacheCall`).

Nothing that a call writes goes to a file that is there, unless it unpacks an Android library into
a directory where that file has a name that a member of the archive has too (`Demand.Exposes`,
`demand_content`).  The POM of the library has been given one there, and what was fetched into the
same package before has one.

But a name may come to stand for another file.  A call makes entries in its cache only where there
was nothing, and otherwise in one directory, that of its workspace or of its package.  If no name is
such that it leads elsewhere (`Demand.Respects`), all entries outside of that directory are left
(`FileSystem.Leaves`, `demand_leaves`), and so a file in the cache can be read after any number of
calls as it could be before (`cache_kept`).

It takes all of this: names that go up lead from one file of the cache to another one
(`climbing_replaces`), and where a package is the cache, a file is removed to be linked to itself
(`linkFile_itself`).
-/
import MavenImport.Command.Run
import MavenImport.Proofs.Confinement
import MavenImport.Proofs.DigestGate
import MavenImport.Proofs.LeftEntries
import MavenImport.Proofs.WritePlaces

namespace MavenImport

open MavenImport.Action (perform_bind perform_bind_ok perform_ofExcept_ok)

set_option autoImplicit false

namespace FileSystem

/-- The file of some number has the same content in both file systems. -/
def SparesFile (f : FileSystem) (i : Nat) (g : FileSystem) : Prop :=
  i < f.fresh → i < g.fresh ∧ g.content i = f.content i

/-- Below a path there are no links, and the file of some number has no name there to which a member
of the archive is written. -/
structure Lacks (f : FileSystem) (p : Path) (z : Archive.Zip) (i : Nat) : Prop where
  bare : f.Bare (f.resolve p)
  unnamed : ∀ l, z.Fills (f.resolve p) l → f.entryAt? l ≠ some (.file i)

end FileSystem

variable {f g : FileSystem} {names : List String}

/-! ## Files of artifacts -/

namespace Source

/-- No file that was there is written to, and all entries are left. -/
structure AccruesFrom (s : Source) (w v : World) : Prop where
  spares : w.files.Spares v.files
  accrues : w.files.Formed → w.files.Rooted s.cache → w.files.Accrues v.files

end Source

/-- A file of an artifact whose path is neither absolute nor goes up. -/
def ArtifactFile.Tight (x : ArtifactFile) : Prop := ¬ IsLoose x.path

namespace Plan

/-- No group of a key has a path that is absolute. -/
def Tight (plan : Plan) : Prop :=
  ∀ e ∈ plan.specification.artifacts, ∀ c, Coordinate.ofString? e.1 = some c →
    ¬ IsLoose (groupPath c.group)

/-- All is left outside of a workspace without links. -/
def LeavesFrom (plan : Plan) (s : Source) (w v : World) : Prop :=
  w.files.Formed → w.files.Rooted s.cache → w.files.Bare (w.files.resolve plan.workspace) →
    w.files.Upholds v.files ∧ w.files.Leaves (w.files.Below plan.workspace) v.files

end Plan

section Source

variable {s : Source} {plan : Plan} {w v u : World}

/-- If contents are left too, everything is. -/
theorem accrues_keeps (formed : f.Formed) (accrues : f.Accrues g) (spares : f.Spares g) :
    f.Keeps g where
  formed := accrues.formed formed
  here := accrues.here
  linked := accrues.linked
  seen l e shown := by
    obtain ⟨e', found, -⟩ := Option.map_eq_some_iff.mp shown
    rw [seen_spared spares ((accrues.entry l e' found).trans found.symm), shown]

/-- A file of an artifact is stored in the cache where there was nothing. -/
theorem store_accrues {x : ArtifactFile} {bytes : ByteArray} (formed : f.Formed)
    (rooted : f.Rooted s.cache) (tight : x.Tight)
    (absent : f.pathExists (s.localFile x.path) = .ok false)
    (written : f.replaceFile (s.localFile x.path) bytes = .ok g) : f.Accrues g := by
  obtain ⟨joined, down⟩ := joinText_tight (p := s.cache) tight
  have clear : f.Clear (s.localFile x.path) :=
    ⟨s.cache.names, _, f.resolve s.cache, by rw [Source.localFile, joined],
      by rw [Source.localFile, joined]; exact rooted.located, rooted_direct rooted down⟩
  obtain ⟨dirs, l, made, located, free, rfl⟩ := replaceFile_adds formed clear absent written
  exact accrues_trans (makeDirectories_accrues made) (putFile_accrues located free)

theorem accruesFrom_same (files : v.files = w.files) : s.AccruesFrom w v :=
  ⟨files ▸ spares_refl _, fun _ _ => files ▸ accrues_refl _⟩

theorem accruesFrom_trans (first : s.AccruesFrom w v) (second : s.AccruesFrom v u) :
    s.AccruesFrom w u where
  spares := spares_trans first.spares second.spares
  accrues formed rooted :=
    have accrues := first.accrues formed rooted
    accrues_trans accrues
      (second.accrues (accrues.formed formed) (rooted_upholds (accrues_upholds accrues) rooted))

theorem accruesFrom_source (s : Source) : s.Steps ArtifactFile.Tight s.AccruesFrom where
  refl _ := accruesFrom_same rfl
  trans := accruesFrom_trans
  printed _ _ := accruesFrom_same rfl
  kept _ _ := accruesFrom_same rfl
  asked _ _ := accruesFrom_same rfl
  stored _ _ _ _ _ _ tight _ _ _ absent written :=
    ⟨replaceFile_spares written, fun formed rooted =>
      store_accrues formed rooted tight absent written⟩

theorem leavesFrom_accrues (accrues : s.AccruesFrom w v) : plan.LeavesFrom s w v :=
  fun formed rooted _ =>
    have added := accrues.accrues formed rooted
    ⟨accrues_upholds added, accrues_leaves formed added⟩

theorem leavesFrom_trans (first : plan.LeavesFrom s w v) (second : plan.LeavesFrom s v u) :
    plan.LeavesFrom s w u := by
  intro formed rooted bare
  obtain ⟨upholds, leaves⟩ := first formed rooted bare
  obtain ⟨upholds', leaves'⟩ := second leaves.formed (rooted_upholds upholds rooted)
    (resolve_linked upholds.toLinked plan.workspace ▸ bare_linked upholds.toLinked bare)
  rw [below_linked upholds.toLinked] at leaves'
  exact ⟨upholds_trans upholds upholds', leaves_trans leaves leaves'⟩

/-- A path to which a run writes lies below its workspace, if no path of a group is loose. -/
theorem writesTo_below {path : Path} (tight : plan.Tight) (writes : plan.WritesTo path) :
    ∃ above, ".." ∉ above ++ [buildFileName] ∧
      path = ⟨plan.workspace.anchor, plan.workspace.names ++ (above ++ [buildFileName])⟩ := by
  rcases writes with rfl | ⟨e, listed, c, parsed, rfl⟩
  · exact ⟨[], by decide, joinText_buildFile _⟩
  · obtain ⟨joined, down⟩ := joinText_tight (p := plan.workspace) (tight e listed c parsed)
    refine ⟨(Path.ofString (groupPath c.group)).names, ?_, ?_⟩
    · rw [List.mem_append, List.mem_singleton, not_or]
      exact ⟨down, by decide⟩
    · rw [buildFilePath, joined, joinText_buildFile, List.append_assoc]

theorem leavesFrom_plan (s : Source) (tight : plan.Tight) :
    plan.Steps s ArtifactFile.Tight (plan.LeavesFrom s) where
  refl w := leavesFrom_accrues ((accruesFrom_source s).refl w)
  trans := leavesFrom_trans
  printed w console := leavesFrom_accrues ((accruesFrom_source s).printed w console)
  kept w models := leavesFrom_accrues ((accruesFrom_source s).kept w models)
  asked w url := leavesFrom_accrues ((accruesFrom_source s).asked w url)
  stored w files x r url body own known located sent absent written := leavesFrom_accrues
    ((accruesFrom_source s).stored w files x r url body own known located sent absent written)
  made _ _ made := leavesFrom_accrues
    ⟨makeDirectories_spares made, fun _ _ => makeDirectories_accrues made⟩
  written _ _ _ _ writes written := by
    intro formed _ bare
    obtain ⟨above, down, rfl⟩ := writesTo_below tight writes
    obtain ⟨i, enters, -⟩ := replaceFile_enters formed bare down written
    exact ⟨enters.upholds, enters_leaves enters⟩

end Source

/-! ## Packages -/

section Place

variable {s : Source} {w u : World} {directory : Path}

/-- A file of the repository is linked into a package, or it is not. -/
theorem linkInto_leaves {path : String} (formed : w.files.Formed)
    (bare : w.files.Bare (w.files.resolve directory)) (tight : ¬ IsLoose path)
    (named : (Path.ofString path).names ≠ []) :
    w.files.Leaves (w.files.Below directory)
      ((linkInto s directory path).perform w).2.files := by
  obtain ⟨joined, down⟩ := joinText_tight (p := directory) tight
  have split := names_parent named
  rw [linkInto, joined, split]
  exact linkFile_leaves formed bare (split ▸ down) _

/-- A file that can be read in the cache is linked by a second name. -/
theorem linkInto_second {path : String} {v : World} {bytes : ByteArray} (formed : w.files.Formed)
    (bare : w.files.Bare (w.files.resolve s.cache))
    (bare' : w.files.Bare (w.files.resolve directory))
    (apart : Apart (w.files.resolve s.cache) (w.files.resolve directory)) (tight : ¬ IsLoose path)
    (named : (Path.ofString path).names ≠ [])
    (readable : w.files.readFile (s.localFile path) = .ok bytes)
    (linked : (linkInto s directory path).perform w = (.ok (), v)) :
    ∃ i, w.files.Enters directory (Path.ofString path).names i v.files := by
  obtain ⟨joined, down⟩ := joinText_tight (p := directory) tight
  have cached : s.localFile path = ⟨s.cache.anchor, s.cache.names ++ (Path.ofString path).names⟩ :=
    (joinText_tight tight).1
  have split := names_parent named
  rw [cached, split] at readable
  rw [linkInto, cached, joined, split] at linked
  rw [split] at down ⊢
  obtain ⟨rooted, i, entry, -⟩ := readFile_below formed bare (by simp) down readable
  exact ⟨i, linkFile_enters formed rooted bare' down (apart_below apart _ _) entry linked⟩

/-- A build file is written in a directory that has been there. -/
theorem writeBuildFile_leaves (rooted : w.files.Rooted directory)
    (leaves : w.files.Leaves (w.files.Below directory) u.files) (content : String) :
    w.files.Leaves (w.files.Below directory)
      ((writeText (directory.joinText buildFileName) content).perform u).2.files := by
  have located := locate_retains (retains_leaves (bare_below rooted.bare) leaves)
    rooted.directory rooted.located
  have there := leaves.directory _ rooted.directory
  have place : u.files.resolve directory = w.files.resolve directory :=
    resolve_located located (by simp [there])
  refine leaves_change leaves fun g written => leaves_trans leaves ?_
  rw [joinText_buildFile] at written
  have below :=
    replaceFile_leaves leaves.formed (place ▸ located) (place ▸ there) (by decide) written
  unfold FileSystem.Below at below ⊢
  rwa [place] at below

/-- What is placed goes to its package. -/
theorem place_leaves {workspace : Path} {package : String} {a : ResolvedArtifact}
    {pom : ByteArray} (formed : w.files.Formed) (bare : w.files.Bare (w.files.resolve s.cache))
    (bare' : w.files.Bare (w.files.resolve (workspace.joinText package)))
    (apart : Apart (w.files.resolve s.cache) (w.files.resolve (workspace.joinText package)))
    (tightPom : ¬ IsLoose a.pomPath) (tightMain : ¬ IsLoose a.mainPath)
    (readable : w.files.readFile (s.localFile a.pomPath) = .ok pom) :
    w.files.Leaves (w.files.Below (workspace.joinText package))
      ((place s workspace package a).perform w).2.files := by
  have namedPom : (Path.ofString a.pomPath).names ≠ [] := path_named a.coordinate.pomFile
  have namedMain : (Path.ofString a.mainPath).names ≠ [] := path_named a.mainFile
  unfold place
  dsimp only
  generalize workspace.joinText package = directory at bare' apart ⊢
  refine leaves_bind (linkInto_leaves formed bare' tightPom namedPom) fun _ t first left => ?_
  obtain ⟨i, enters⟩ := linkInto_second formed bare bare' apart tightPom namedPom readable first
  rw [← below_linked enters.upholds.toLinked] at left ⊢
  split
  · have accrues := unpackInto_accrues directory (s.localFile a.mainPath) t
    have unpacked : t.files.Leaves (t.files.Below directory) _ :=
      accrues_leaves enters.formed accrues
    refine leaves_bind (leaves_trans left unpacked) fun answer u ended _ => ?_
    rw [ended] at unpacked
    split
    · exact leaves_trans left unpacked
    · exact leaves_bind (leaves_trans left (writeBuildFile_leaves enters.rooted unpacked _))
        fun _ _ _ left => left
  · have linked := linkInto_leaves (s := s) enters.formed enters.rooted.bare tightMain namedMain
    refine leaves_bind (leaves_trans left linked) fun _ u ended _ => ?_
    rw [ended] at linked
    exact leaves_bind (leaves_trans left (writeBuildFile_leaves enters.rooted linked _))
      fun _ _ _ left => left

end Place

/-! ## Fetching -/

section Fetch

variable {s : Source} {w u : World} {spec : String} {expected : Option String}
  {a : ResolvedArtifact} {status : FetchStatus}

theorem checkDigest_stays (file : Path) (expected : Option String) :
    ((checkDigest file expected).perform w).2 = w := by
  unfold checkDigest
  split
  · rfl
  · rw [perform_bind, Action.perform_inspect]
    cases w.files.readFile file <;> rfl

/-- What is accepted was resolved and downloaded. -/
theorem accept_ok (accepted : (accept s spec expected).perform w = (.ok (.ok (a, status)), u)) :
    ∃ c t, Coordinate.ofString? spec = some c ∧ (s.resolve c).perform w = (.ok (.ok a), t) ∧
      (s.download a).perform t = (.ok status, u) := by
  obtain ⟨urls, _, listed, accepted⟩ := perform_bind_ok.mp accepted
  obtain ⟨-, rfl⟩ := perform_ofExcept_ok.mp listed
  split at accepted
  · cases accepted
  · next c parsed =>
      obtain ⟨answer, t, resolved, accepted⟩ := perform_bind_ok.mp accepted
      cases answer with
      | error failure => cases accepted
      | ok a' =>
          obtain ⟨status', v, asked, accepted⟩ := perform_bind_ok.mp accepted
          split at accepted
          · cases accepted
          · obtain ⟨checked, v', compared, accepted⟩ := perform_bind_ok.mp accepted
            obtain rfl : v' = v := by
              have stays := checkDigest_stays (w := v) (s.localFile a'.mainPath) expected
              rwa [compared] at stays
            cases checked with
            | error refusal => cases accepted
            | ok _ =>
                cases accepted
                exact ⟨c, t, parsed, resolved, asked⟩

/-- The POM of what is accepted can be read in the cache. -/
theorem accept_readable (formed : w.files.Formed) (rooted : w.files.Rooted s.cache)
    (fresh : w.models = ⟨[]⟩) (tight : ∀ x, s.Seeks w spec x → x.Tight)
    (accepted : (accept s spec expected).perform w = (.ok (.ok (a, status)), u)) :
    ∃ pom, u.files.readFile (s.localFile a.pomPath) = .ok pom := by
  have steps := accruesFrom_source s
  obtain ⟨c, t, parsed, resolved, asked⟩ := accept_ok accepted
  have named : a.coordinate = c := resolve_coordinate resolved
  have tightPoms : ∀ x, s.Wants w (.resolve c) x → x.Tight := fun x wants =>
    tight x (.resolving parsed wants)
  obtain ⟨_, v, loaded, resolving⟩ :=
    resolve_after_pom steps tightPoms (by rw [fresh]; rfl) resolved
  have loading := loadPom_steps steps (w := w) fun requests =>
    tightPoms _ (.pom (Source.refers_self s w c) .start requests)
  rw [loaded] at loading
  have downloading := download_steps steps (a := a) (w := t) fun x wants =>
    tight x (.downloading parsed resolved wants)
  rw [asked] at downloading
  have later := accruesFrom_trans resolving downloading
  have accrues := loading.accrues formed rooted
  have formed' := accrues.formed formed
  have keeps := accrues_keeps formed'
    (later.accrues formed' (rooted_upholds (accrues_upholds accrues) rooted)) later.spares
  obtain ⟨pom, readable⟩ := loadPom_readable loaded
  rw [show a.pomPath = a.coordinate.pomFile.path from rfl, named]
  exact ⟨pom, readFile_keeps keeps readable⟩

/-- To tell how a fetch ended changes no file. -/
theorem fetchArtifact_files (workspace : Path) (package : String) :
    ((fetchArtifact s spec workspace package expected).perform w).2.files
      = match (accept s spec expected).perform w with
        | (.ok (.ok (a, _)), u) => ((place s workspace package a).perform u).2.files
        | (_, u) => u.files := by
  rw [fetchArtifact, perform_bind]
  rcases (accept s spec expected).perform w with ⟨fault | refusal | ⟨a, status⟩, u⟩
  · rfl
  · rfl
  · dsimp only
    rw [perform_bind]
    rcases (place s workspace package a).perform u with ⟨fault | refusal | _, t⟩ <;> rfl

/-- What is fetched goes to its package, besides the cache. -/
theorem fetch_leaves {workspace : Path} {package : String} (formed : w.files.Formed)
    (rooted : w.files.Rooted s.cache) (fresh : w.models = ⟨[]⟩)
    (bare : w.files.Bare (w.files.resolve (workspace.joinText package)))
    (apart : Apart (w.files.resolve s.cache) (w.files.resolve (workspace.joinText package)))
    (named : ∀ a status, ((accept s spec expected).perform w).1 = .ok (.ok (a, status)) →
      ¬ IsLoose a.pomPath ∧ ¬ IsLoose a.mainPath)
    (tight : ∀ x, s.Seeks w spec x → x.Tight) :
    w.files.Leaves (w.files.Below (workspace.joinText package))
      ((fetchArtifact s spec workspace package expected).perform w).2.files := by
  have accepting := accept_steps (accruesFrom_source s) tight expected
  have accrues := accepting.accrues formed rooted
  rw [fetchArtifact_files]
  rcases accepted : (accept s spec expected).perform w with ⟨fault | refusal | ⟨a, status⟩, u⟩ <;>
    rw [accepted] at accrues
  · exact accrues_leaves formed accrues
  · exact accrues_leaves formed accrues
  · obtain ⟨tightPom, tightMain⟩ := named a status (by rw [accepted])
    dsimp only at accrues ⊢
    have upholds := accrues_upholds accrues
    obtain ⟨pom, readable⟩ := accept_readable formed rooted fresh tight accepted
    have placed := resolve_linked upholds.toLinked (workspace.joinText package)
    have placing := place_leaves (accrues.formed formed) (rooted_upholds upholds rooted).bare
      (placed ▸ bare_linked upholds.toLinked bare)
      (by rwa [placed, resolve_linked upholds.toLinked]) tightPom tightMain readable
    rw [below_linked upholds.toLinked] at placing
    exact leaves_trans (accrues_leaves formed accrues) placing

end Fetch

/-! ## Contents -/

section Contents

variable {s : Source} {w u : World} {i : Nat}

theorem spares_file (spares : f.Spares g) : f.SparesFile i g := fun old =>
  ⟨Nat.lt_of_lt_of_le old spares.fresh, spares.content i old⟩

theorem sparesFile_relation (i : Nat) : StepRelation fun w v => w.files.SparesFile i v.files where
  refl _ old := ⟨old, rfl⟩
  trans first second old :=
    have kept := first old
    ⟨(second kept.1).1, (second kept.1).2.trans kept.2⟩
  printed _ _ old := ⟨old, rfl⟩

/-- Unpacking writes to no file without a name that a member of the archive has in the directory. -/
theorem unpackInto_content {directory file : Path} (formed : w.files.Formed)
    (low : ".." ∉ w.files.here)
    (lacks : ∀ z source, Archive.Unpacking.library.pick w.files file = .ok (z, source) →
      w.files.Lacks directory z i) :
    w.files.SparesFile i ((unpackInto directory file).perform w).2.files := by
  intro old
  refine ⟨Nat.lt_of_lt_of_le old (unpackInto_accrues directory file w).fresh, ?_⟩
  have content : ((Aar.unpack file directory).perform w).2.files.content i = w.files.content i :=
    unpacking_content .library file formed low old fun z source picked =>
      ⟨(lacks z source picked).bare, (lacks z source picked).unnamed⟩
  unfold unpackInto
  rw [perform_bind, Action.perform_result]
  rcases unpacked : (Aar.unpack file directory).perform w with ⟨fault | _, v⟩ <;>
    rw [unpacked] at content
  · dsimp only
    split
    · exact content
    · exact content
    · split <;> exact content
    · exact content
  · exact content

/-- To place an artifact writes to no file that is there, but to those that have a name where an
Android library is unpacked. -/
theorem place_content {workspace : Path} {package : String} {a : ResolvedArtifact}
    (formed : w.files.Formed) (low : ".." ∉ w.files.here)
    (lacks : Text.trim a.packaging = "aar" → ∀ v,
      (linkInto s (workspace.joinText package) a.pomPath).perform w = (.ok (), v) →
        ∀ z source, Archive.Unpacking.library.pick v.files (s.localFile a.mainPath)
          = .ok (z, source) → v.files.Lacks (workspace.joinText package) z i) :
    w.files.SparesFile i ((place s workspace package a).perform w).2.files := by
  have src := sparesFile_relation i
  have links (path : String) : Action.Relates (fun w v => w.files.SparesFile i v.files)
      (linkInto s (workspace.joinText package) path) := fun w =>
    spares_file (linkFile_steps spares_placing _ _ w)
  have writes (content : String) : Action.Relates (fun w v => w.files.SparesFile i v.files)
      (writeText ((workspace.joinText package).joinText buildFileName) content) :=
    relates_change src fun _ _ written => spares_file (replaceFile_spares written)
  unfold place
  dsimp only
  refine relates_bind_at src (links a.pomPath w) fun _ v linked => ?_
  split
  · next aar =>
      have stays : w.files.StaysFormed v.files := by
        have linking := linkFile_steps staysFormed_placing (s.localFile a.pomPath)
          ((workspace.joinText package).joinText a.pomPath) w
        rwa [show (linkFile _ _).perform w = _ from linked] at linking
      have low' : ".." ∉ v.files.here := by rwa [stays.here]
      have unpacked := unpackInto_content (stays.formed formed) low' (lacks aar v linked)
      refine relates_bind_at src unpacked fun answer t _ => ?_
      split
      · exact src.refl t
      · exact relates_bind src (writes _) (fun _ => relates_pure src _) t
  · exact relates_bind src (links _) (fun _ => relates_bind src (writes _)
      fun _ => relates_pure src _) v

end Contents

/-! ## Demands -/

/-- What is asked for over a cache. -/
inductive Demand
  | resolve (c : Coordinate)
  | download (a : ResolvedArtifact)
  | generate (plan : Plan) (schedule : List Turn)
  | fetch (o : FetchOptions)

namespace Demand

/-- The world after a source has done what is asked for, or has failed to. -/
def perform (s : Source) (w : World) : Demand → World
  | resolve c => ((s.resolve c).perform w).2
  | download a => ((s.download a).perform w).2
  | generate plan schedule =>
      (({ plan with resolver := s.resolver }.generateBy schedule).perform w).2
  | fetch o => ((fetchArtifact s o.artifact o.workspace o.package o.sha256).perform w).2

/-- The directory that a demand is for, besides the cache. -/
def directory? : Demand → Option Path
  | resolve _ | download _ => none
  | generate plan _ => some plan.workspace
  | fetch o => some (o.workspace.joinText o.package)

/-- It comes to unpacking an Android library where a file has a name that a member of the archive
has too, or where there are links. -/
def Exposes (i : Nat) (s : Source) (w : World) : Demand → Prop
  | fetch o => ∃ a status u v z source,
      (accept s o.artifact o.sha256).perform w = (.ok (.ok (a, status)), u) ∧
      Text.trim a.packaging = "aar" ∧
      (linkInto s (o.workspace.joinText o.package) a.pomPath).perform u = (.ok (), v) ∧
      Archive.Unpacking.library.pick v.files (s.localFile a.mainPath) = .ok (z, source) ∧
      ¬ v.files.Lacks (o.workspace.joinText o.package) z i
  | _ => False

/-- Requests may be sent for the file of an artifact. -/
def Wants (s : Source) (w : World) : Demand → ArtifactFile → Prop
  | resolve c => s.Wants w (.resolve c)
  | download a => s.Wants w (.download a)
  | generate plan _ => { plan with resolver := s.resolver }.Wants s
      (Plan.prepare { plan with resolver := s.resolver } |>.perform w).2
  | fetch o => s.Seeks w o.artifact

/-- The paths of what is written to the directory of a demand are not loose. -/
def PlacesTightly (s : Source) (w : World) : Demand → Prop
  | resolve _ | download _ => True
  | generate plan _ => plan.Tight
  | fetch o => ∀ a status, ((accept s o.artifact o.sha256).perform w).1 = .ok (.ok (a, status)) →
      ¬ IsLoose a.pomPath ∧ ¬ IsLoose a.mainPath

/-- A demand is made to a source over a cache, and no path leads from the cache or from its
directory to elsewhere.  Its directory is apart from the cache and without links.  An artifact is
fetched by a source that has kept no models. -/
structure Respects (cache : Path) (s : Source) (w : World) (demand : Demand) : Prop where
  shared : s.cache = cache
  requests : ∀ x, demand.Wants s w x → x.Tight
  places : demand.PlacesTightly s w
  apart : ∀ directory, demand.directory? = some directory →
    w.files.Bare (w.files.resolve directory) ∧
      Apart (w.files.resolve cache) (w.files.resolve directory)
  fresh : ∀ o, demand = fetch o → w.models = ⟨[]⟩

end Demand

/-- A file can be found below a path. -/
structure FileSystem.Holds (f : FileSystem) (p : Path) (names : List String) (i : Nat) : Prop where
  formed : f.Formed
  rooted : f.Rooted p
  file : f.Shows p names i

section Demands

variable {s : Source} {w : World} {cache : Path} {demand : Demand} {i : Nat}

theorem demand_staysFormed (demand : Demand) :
    w.files.StaysFormed (demand.perform s w).files := by
  have steps := staysFormed_source s
  cases demand with dsimp only [Demand.perform]
  | resolve c => exact resolve_steps steps fun _ _ => trivial
  | download a => exact download_steps steps fun _ _ => trivial
  | generate plan schedule =>
      have run : Plan.Steps { plan with resolver := s.resolver } s (fun _ => True)
          fun w v => w.files.StaysFormed v.files :=
        { toSteps := steps
          made := fun _ _ made => makeDirectories_staysFormed made
          written := fun _ _ _ _ _ written => replaceFile_staysFormed written }
      exact generate_steps run rfl (fun _ _ => trivial) schedule
  | fetch o =>
      have unpacking : UnpackingSteps fun w v => w.files.StaysFormed v.files :=
        { toStepRelation := staysFormed_relation
          made := fun _ _ _ made => makeDirectories_staysFormed made
          opened := fun _ _ _ _ opened => (truncateFile_accrues opened).toStaysFormed
          filled := fun w _ _ => (contents_accrues w.files _).toStaysFormed }
      exact fetchArtifact_steps staysFormed_placing steps (fun _ _ => trivial)
        fun _ _ _ _ => unpackInto_steps unpacking _ _

/-- A file has the content that it had, whatever is answered and however it ends. -/
theorem demand_content (formed : w.files.Formed) (low : ".." ∉ w.files.here)
    (apart : ¬ demand.Exposes i s w) : w.files.SparesFile i (demand.perform s w).files := by
  cases demand with dsimp only [Demand.perform]
  | resolve c => exact spares_file (spares_resolve c w)
  | download a => exact spares_file (spares_download a w)
  | generate plan schedule => exact spares_file (spares_generateBy rfl schedule w)
  | fetch o =>
      have spares : w.files.Spares ((accept s o.artifact o.sha256).perform w).2.files :=
        accept_steps (spares_source s) (fun _ _ => trivial) o.sha256
      have stays : w.files.StaysFormed ((accept s o.artifact o.sha256).perform w).2.files :=
        accept_steps (staysFormed_source s) (fun _ _ => trivial) o.sha256
      rw [fetchArtifact_files]
      rcases accepted : (accept s o.artifact o.sha256).perform w with
        ⟨fault | refusal | ⟨a, status⟩, u⟩ <;> rw [accepted] at spares stays
      · exact spares_file spares
      · exact spares_file spares
      · have low' : ".." ∉ u.files.here := by rwa [stays.here]
        have lacks (aar : Text.trim a.packaging = "aar") (v : World)
            (linked : (linkInto s (o.workspace.joinText o.package) a.pomPath).perform u
              = (.ok (), v)) (z : Archive.Zip) (source : String)
            (picked : Archive.Unpacking.library.pick v.files (s.localFile a.mainPath)
              = .ok (z, source)) : v.files.Lacks (o.workspace.joinText o.package) z i :=
          not_not.mp fun named =>
            apart ⟨a, status, u, v, z, source, accepted, aar, linked, picked, named⟩
        exact (sparesFile_relation i).trans (v := u) (spares_file spares)
          (place_content (stays.formed formed) low' lacks)

/-- Everything outside of the directory of a demand is left, whatever is answered and however it
ends. -/
theorem demand_leaves (formed : w.files.Formed) (rooted : w.files.Rooted cache)
    (respects : demand.Respects cache s w) :
    w.files.Leaves (fun l => ∃ directory, demand.directory? = some directory ∧
      w.files.Below directory l) (demand.perform s w).files := by
  obtain ⟨rfl, requests, places, apart, fresh⟩ := respects
  have steps := accruesFrom_source s
  cases demand with dsimp only [Demand.perform]
  | resolve c =>
      exact accrues_leaves formed ((resolve_steps steps requests).accrues formed rooted)
  | download a =>
      exact accrues_leaves formed ((download_steps steps requests).accrues formed rooted)
  | generate plan schedule =>
      have tight : Plan.Tight { plan with resolver := s.resolver } := places
      have run := generate_steps (leavesFrom_plan s tight) rfl requests schedule
      obtain ⟨bare, -⟩ := apart plan.workspace rfl
      exact leaves_mono (fun l below => ⟨plan.workspace, rfl, below⟩)
        (run formed rooted bare).2
  | fetch o =>
      obtain ⟨bare, beside⟩ := apart (o.workspace.joinText o.package) rfl
      exact leaves_mono (fun l below => ⟨o.workspace.joinText o.package, rfl, below⟩)
        (fetch_leaves formed rooted (fresh o rfl) bare beside places requests)

/-- A file in the cache is left. -/
theorem demand_holds (respects : demand.Respects cache s w) (holds : w.files.Holds cache names i) :
    (demand.perform s w).files.Holds cache names i := by
  have leaves := demand_leaves holds.formed holds.rooted respects
  have outside (names : List String) : ¬ ∃ directory, demand.directory? = some directory ∧
      w.files.Below directory (w.files.resolve cache ++ names) := by
    rintro ⟨directory, given, below⟩
    obtain ⟨-, apart⟩ := respects.apart directory given
    exact (List.prefix_or_prefix_of_prefix (List.prefix_append _ names) below).elim apart.1 apart.2
  have free (l : Location) (target : String) : (∃ directory,
      demand.directory? = some directory ∧ w.files.Below directory l) →
        w.files.entryAt? l ≠ some (.link target) := by
    rintro ⟨directory, given, below⟩
    exact bare_below (respects.apart directory given).1 l target below
  obtain ⟨place, rooted⟩ := rooted_leaves free leaves holds.rooted outside
  refine ⟨leaves.formed, rooted, ?_⟩
  unfold FileSystem.Shows
  rw [place]
  exact leaves.entry _ _ (outside names) holds.file

end Demands

/-! ## Calls -/

/-- A demand with the source that it is made to, and with what surrounds it. -/
structure CacheCall where
  demand : Demand
  source : Source
  web : Web
  console : Console
  /-- The models that the source has kept. -/
  models : Table String Model

/-- The world that a call begins in has the files that there are, and nothing was requested yet. -/
def CacheCall.begins (call : CacheCall) (w : World) : World :=
  { w with web := call.web, requested := [], console := call.console, models := call.models }

def CacheCall.after (call : CacheCall) (w : World) : World :=
  call.demand.perform call.source (call.begins w)

/-- The world after some calls. -/
def World.after (w : World) (calls : List CacheCall) : World :=
  calls.foldl (fun w call => call.after w) w

/-- Something holds of each of some calls, in the world that it begins in. -/
def Throughout (P : Source → World → Demand → Prop) : World → List CacheCall → Prop
  | _, [] => True
  | w, call :: calls =>
      P call.source (call.begins w) call.demand ∧ Throughout P (call.after w) calls

section Calls

variable {cache : Path} {i : Nat}

theorem calls_content : ∀ (calls : List CacheCall) (w : World), w.files.Formed →
    ".." ∉ w.files.here → Throughout (fun s v demand => ¬ demand.Exposes i s v) w calls →
      w.files.SparesFile i (w.after calls).files
  | [], w, _, _, _ => (sparesFile_relation i).refl w
  | call :: calls, w, formed, low, ⟨apart, later⟩ => by
      have stays := demand_staysFormed (s := call.source) (w := call.begins w) call.demand
      have first := demand_content (w := call.begins w) formed low apart
      have others := calls_content calls (call.after w) (stays.formed formed)
        (by rw [show (call.after w).files.here = _ from stays.here]; exact low) later
      exact (sparesFile_relation i).trans (v := call.after w) first others

theorem calls_hold : ∀ (calls : List CacheCall) (w : World),
    Throughout (fun s v demand => demand.Respects cache s v) w calls →
      w.files.Holds cache names i → (w.after calls).files.Holds cache names i
  | [], _, _, holds => holds
  | call :: calls, w, ⟨respects, later⟩, holds =>
      calls_hold calls _ later (demand_holds (w := call.begins w) respects holds)

end Calls

/-- Whatever is resolved, downloaded, generated and fetched over a cache, a file that was there has
the content that it had, under whatever names it is now, unless an Android library is unpacked that
has a member of a name that it has.  And if no path leads elsewhere, such a file in the cache can be
read as it could be in the beginning. -/
theorem cache_kept (cache : Path) (calls : List CacheCall) (w : World) (formed : w.files.Formed)
    (low : ".." ∉ w.files.here) :
    (∀ l i, w.files.entryAt? l = some (.file i) →
      Throughout (fun s v demand => ¬ demand.Exposes i s v) w calls →
        (w.after calls).files.content i = w.files.content i) ∧
    (Throughout (fun s v demand => demand.Respects cache s v) w calls →
      w.files.Bare (w.files.resolve cache) → ∀ names bytes, names ≠ [] → ".." ∉ names →
        w.files.readFile ⟨cache.anchor, cache.names ++ names⟩ = .ok bytes →
        (∀ i, w.files.Shows cache names i →
          Throughout (fun s v demand => ¬ demand.Exposes i s v) w calls) →
        (w.after calls).files.readFile ⟨cache.anchor, cache.names ++ names⟩ = .ok bytes) := by
  have content (l : Location) (i : Nat) (there : w.files.entryAt? l = some (.file i))
      (apart : Throughout (fun s v demand => ¬ demand.Exposes i s v) w calls) :
      (w.after calls).files.content i = w.files.content i :=
    (calls_content calls w formed low apart (FileSystem.inode_lt_fresh there)).2
  refine ⟨content, fun respects bare names bytes more down readable apart => ?_⟩
  obtain ⟨rooted, i, shows, rfl⟩ := readFile_below formed bare more down readable
  obtain ⟨formed', rooted', file⟩ := calls_hold calls w respects ⟨formed, rooted, shows⟩
  rw [rooted_readFile rooted' formed' down file, content _ i shows (apart i shows)]

namespace Gate

/-- The path of the POM in the cache. -/
def pomPath : Path := ⟨(source "cache").cache.anchor, (source "cache").cache.names
  ++ ["g", "a", "1", "a-1.pom"]⟩

/-- The artifact is resolved, and is fetched into a package then. -/
def calls : List CacheCall :=
  [⟨.resolve artifact, source "cache", ⟨[]⟩, ⟨0, []⟩, ⟨[]⟩⟩,
    ⟨.fetch ⟨.ofString "ws", none, "maven", "g:a:1"⟩, source "cache", ⟨[]⟩, ⟨0, []⟩, ⟨[]⟩⟩]

/-- To resolve what is cached leaves the world that the next call begins in. -/
theorem calls_throughout {P : Source → World → Demand → Prop}
    (resolving : P (source "cache") plainWorld (.resolve artifact))
    (fetching : P (source "cache") plainWorld
      (.fetch ⟨.ofString "ws", none, "maven", "g:a:1"⟩)) : Throughout P plainWorld calls := by
  have again : CacheCall.begins
      ⟨.fetch ⟨.ofString "ws", none, "maven", "g:a:1"⟩, source "cache", ⟨[]⟩, ⟨0, []⟩, ⟨[]⟩⟩
      (((source "cache").resolve artifact).perform plainWorld).2 = plainWorld := by
    rw [plain_resolves]
    rfl
  refine ⟨resolving, ?_, trivial⟩
  rwa [← again] at fetching

/-- What is accepted is the artifact. -/
theorem plain_accepted {a : ResolvedArtifact} {status : FetchStatus}
    (accepted : ((accept (source "cache") "g:a:1" none).perform plainWorld).1
      = .ok (.ok (a, status))) : a = ⟨artifact, "jar", []⟩ := by
  have checked : (((accept (source "cache") "g:a:1" none).perform plainWorld).1.toOption.bind
      Except.toOption).map Prod.fst = some ⟨artifact, "jar", []⟩ := by
    decide +kernel
  rw [accepted] at checked
  exact Option.some.inj checked

theorem calls_linked (i : Nat) :
    Throughout (fun s v demand => ¬ demand.Exposes i s v) plainWorld calls := by
  refine calls_throughout id ?_
  rintro ⟨a, status, u, -, -, -, accepted, aar, -⟩
  rw [plain_accepted (congrArg Prod.fst accepted)] at aar
  exact absurd aar (by decide)

/-- What the artifact refers to is itself, and its files have names that go down. -/
theorem plain_tight {x : ArtifactFile} (seeks : (source "cache").Seeks plainWorld "g:a:1" x) :
    x.Tight := by
  have alone : ∀ d, (source "cache").Refers plainWorld artifact d → d = artifact := plain_alone
  cases seeks with
  | resolving parsed wants =>
      obtain rfl := Option.some.inj (parsed.symm.trans read_artifact)
      cases wants with
      | pom refers _ _ =>
          rw [alone _ refers]
          exact (by decide : ¬ IsLoose artifact.pomFile.path)
  | downloading parsed resolved wants =>
      obtain rfl := Option.some.inj (parsed.symm.trans read_artifact)
      rw [plain_resolves] at resolved
      cases resolved
      cases wants with
      | main _ => exact (by decide : ¬ IsLoose (ResolvedArtifact.mainFile ⟨artifact, "jar", []⟩).path)

theorem calls_respect : Throughout (fun s v demand => demand.Respects (source "cache").cache s v)
    plainWorld calls := by
  refine calls_throughout
    ⟨rfl, fun x wants => plain_tight (.resolving read_artifact wants), trivial,
      fun _ given => (by cases given), fun _ same => (by cases same)⟩
    ⟨rfl, fun x seeks => plain_tight seeks, fun a status accepted => ?_,
      fun directory given => ?_, fun _ _ => rfl⟩
  · rw [plain_accepted accepted]
    decide
  · cases given
    exact ⟨plain_separate.package, plain_separate.packageApart⟩

end Gate

/-- The POM that was in the cache is there with its content when the artifact is fetched. -/
theorem fetching_kept : Gate.plainWorld.files.readFile Gate.pomPath = .ok "<project/>".toUTF8 ∧
    (Gate.plainWorld.after Gate.calls).files.readFile Gate.pomPath = .ok "<project/>".toUTF8 := by
  have readable : Gate.plainWorld.files.readFile Gate.pomPath = .ok "<project/>".toUTF8 :=
    Family.ok_of_toOption (by decide)
  obtain ⟨-, kept⟩ := cache_kept (Gate.source "cache").cache Gate.calls Gate.plainWorld
    Gate.plain_files.toFormed List.not_mem_nil
  exact ⟨readable, kept Gate.calls_respect Gate.plain_separate.cache _ _ (by decide) (by decide)
    readable fun i _ => Gate.calls_linked i⟩

end MavenImport
