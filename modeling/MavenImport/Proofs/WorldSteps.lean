/-
# Proofs.WorldSteps -- the steps by which worlds change

However a source comes to its answers, it changes the world by few kinds of steps: it requests an
address, keeps a model, or stores in its cache what an address sent that it had requested for a
file that it asks for (`Source.Steps`).  A run that generates a workspace adds steps of its own: it
makes the workspace, and writes build files of declared artifacts and one of second names
(`Plan.Steps`).  To place the files of an artifact is to make, remove, link and write files
(`PlacingSteps`).

So a relation between worlds that has these steps in it, and with two steps also the two one after
the other, relates the worlds before and after every call (`resolve_steps`, `download_steps`,
`accept_steps`), every run (`generate_steps`) and every placement (`place_steps`), whatever they are
answered and however they end.
-/
import MavenImport.Command.Artifact
import MavenImport.Proofs.BuildFileOrder
import MavenImport.Proofs.DeclaredArtifacts
import MavenImport.Proofs.RequestedFiles
import MavenImport.Proofs.RunFiles

namespace MavenImport

set_option autoImplicit false

/-! ## Steps -/

/-- A relation holds of every world and itself, of the first and the last world of two steps, and
of two worlds if something was printed in between. -/
structure StepRelation (R : World → World → Prop) : Prop where
  refl : ∀ w, R w w
  trans : ∀ {w v u}, R w v → R v u → R w u
  printed : ∀ w console, R w { w with console := console }

/-- The steps of a source that asks for some files are in a relation, and so are several steps one
after the other. -/
structure Source.Steps (s : Source) (asks : ArtifactFile → Prop) (R : World → World → Prop) : Prop
    extends StepRelation R where
  kept : ∀ w models, R w { w with models := models }
  asked : ∀ w url, R w { w with requested := url :: w.requested }
  /-- A file of an artifact is stored that was not there and was requested from a repository. -/
  stored : ∀ w files x r url body, asks x → r ∈ s.repositories →
    Source.address r x.path = .ok url → Web.target url ∈ w.requested →
    w.files.pathExists (s.localFile x.path) = .ok false →
    w.files.replaceFile (s.localFile x.path) body = .ok files → R w { w with files := files }

/-- A path to which a run may write: that of the build file of an artifact that a key names, or
that of the file of second names. -/
def Plan.WritesTo (plan : Plan) (path : Path) : Prop :=
  path = plan.workspace.joinText buildFileName ∨
    ∃ e ∈ plan.specification.artifacts, ∃ c, Coordinate.ofString? e.1 = some c ∧
      path = buildFilePath plan.workspace c.group

/-- The steps of a run are in a relation. -/
structure Plan.Steps (plan : Plan) (s : Source) (asks : ArtifactFile → Prop)
    (R : World → World → Prop) : Prop extends Source.Steps s asks R where
  made : ∀ w files, w.files.makeDirectories plan.workspace = .ok files →
    R w { w with files := files }
  written : ∀ w files path bytes, plan.WritesTo path →
    w.files.replaceFile path bytes = .ok files → R w { w with files := files }

/-- A file system comes from another one by one of the changes that files are placed with. -/
inductive FileSystem.Edits (f g : FileSystem) : Prop
  | directories {p : Path} (made : f.makeDirectories p = .ok g)
  | removed {p : Path} (removed : f.remove p = .ok g)
  | named {source destination : Path} (linked : f.hardLink source destination = .ok g)
  | linked {target : String} {destination : Path}
      (linked : f.symbolicLink target destination = .ok g)
  | written {p : Path} {bytes : ByteArray} (replaced : f.replaceFile p bytes = .ok g)

/-- The steps of placing files are in a relation. -/
structure PlacingSteps (R : World → World → Prop) : Prop extends StepRelation R where
  edited : ∀ w files, w.files.Edits files → R w { w with files := files }

/-- The steps of unpacking an archive are in a relation. -/
structure UnpackingSteps (R : World → World → Prop) : Prop extends StepRelation R where
  made : ∀ w files p, w.files.makeDirectories p = .ok files → R w { w with files := files }
  opened : ∀ w files p i, w.files.truncateFile p = .ok (files, i) → R w { w with files := files }
  filled : ∀ w i bytes, R w { w with files := w.files.writeContent i bytes }

/-- An action leads to worlds that are related to those that it starts from. -/
def Action.Relates {α : Type} (R : World → World → Prop) (a : Action α) : Prop :=
  ∀ w, R w (a.perform w).2

/-! ## The steps of a source -/

section Source

variable {s : Source} {asks : ArtifactFile → Prop} {R : World → World → Prop}
  (steps : s.Steps asks R)
include steps

theorem requested_steps (urls : List String) (w : World) :
    R w { w with requested := urls ++ w.requested } := by
  induction urls with
  | nil => exact steps.refl w
  | cons url urls ih => exact steps.trans ih (steps.asked _ url)

theorem fetch_steps {w : World} {x : ArtifactFile} (wants : s.Requests w x → asks x) :
    R w ((s.fetch x.path x.coordinate.isSnapshot).perform w).2 := by
  have requests := requests_of_inquiry (s := s) (w := w) (x := x)
  rw [fetch_eq]
  split
  · exact steps.refl w
  · exact steps.refl w
  · next absent =>
      rcases inquire_cases s w.web x.path (s.admitted x.coordinate.isSnapshot) []
          (fun e member => absurd member List.not_mem_nil) with
        ⟨fault, broken⟩ | ⟨before, r, after, urls, url, reason, body, order, -, located, -, same⟩ |
          ⟨urls, status, -, same, -, -⟩
      · rw [broken]
        exact requested_steps steps _ w
      · have own : asks x := wants (requests absent (by rw [same]; simp))
        rw [same]
        have asked := requested_steps steps
          ((urls ++ [url, url ++ ".sha1"]).map Web.target).reverse w
        rcases judge_cases w.web r url body with ⟨-, judged⟩ | ⟨-, status, judged, -, -⟩
        · rw [judged, Source.receive, Action.perform_bind, Action.perform_change]
          have member : r ∈ s.admitted x.coordinate.isSnapshot := by rw [order]; simp
          have repository : r ∈ s.repositories := List.mem_of_mem_filter member
          cases stored : w.files.replaceFile (s.localFile x.path) body with
          | error fault => exact asked
          | ok files =>
              exact steps.trans asked
                (steps.stored _ files x r url body own repository located (by simp) absent stored)
        · rw [judged]
          exact asked
      · rw [same]
        exact requested_steps steps _ w

theorem loadPom_steps {c : Coordinate} {w : World} (wants : s.Requests w c.pomFile → asks c.pomFile) :
    R w ((s.loadPom c).perform w).2 := by
  rw [Source.loadPom_leaves]
  exact fetch_steps steps (x := c.pomFile) wants

theorem comesTo_steps {w v : World} {among : Coordinate → Prop}
    (wants : ∀ d u, among d → s.ComesTo w among u → s.Requests u d.pomFile → asks d.pomFile)
    (comes : s.ComesTo w among v) : R w v := by
  induction comes with
  | start => exact steps.refl w
  | loads comes d listed ih => exact steps.trans ih (loadPom_steps steps (wants d _ listed comes))
  | keeps _ models ih => exact steps.trans ih (steps.kept _ models)

theorem resolve_steps {c : Coordinate} {w : World}
    (wants : ∀ x, s.Wants w (.resolve c) x → asks x) : R w ((s.resolve c).perform w).2 :=
  comesTo_steps steps (fun _ _ refers comes requests => wants _ (.pom refers comes requests))
    (Source.resolve_comes s c w)

/-- A coordinate without a model is resolved by loading its POM, and then by further steps. -/
theorem resolve_after_pom {c : Coordinate} {w u : World}
    (wants : ∀ x, s.Wants w (.resolve c) x → asks x) (missing : w.models.find? c.text = none)
    {a : ResolvedArtifact} (resolved : (s.resolve c).perform w = (.ok (.ok a), u)) :
    ∃ pom v, (s.loadPom c).perform w = (.ok (.ok pom), v) ∧ R v u := by
  have guards : s.Guards w c (R ((s.loadPom c).perform w).2) :=
    { loads := fun d t refers comes reached => steps.trans reached
        (loadPom_steps steps fun requests => wants _ (.pom refers comes requests))
      keeps := fun t models reached => steps.trans reached (steps.kept t models) }
  obtain ⟨pom, v, loaded, keeps⟩ := Source.resolve_guarded_from guards missing resolved
  rw [loaded] at keeps
  exact ⟨pom, v, loaded, keeps (steps.refl v)⟩

theorem download_steps {a : ResolvedArtifact} {w : World}
    (wants : ∀ x, s.Wants w (.download a) x → asks x) : R w ((s.download a).perform w).2 :=
  fetch_steps steps (x := a.mainFile) fun requests => wants _ (.main requests)

end Source

/-! ## The steps of a run -/

section Actions

variable {α β : Type} {R : World → World → Prop} (steps : StepRelation R) {a : Action α}
  {f : α → Action β}
include steps

theorem relates_bind_at {w : World} (first : R w (a.perform w).2)
    (second : ∀ x v, a.perform w = (.ok x, v) → R v ((f x).perform v).2) :
    R w ((a >>= f).perform w).2 := by
  rw [Action.perform_bind]
  rcases run : a.perform w with ⟨fault | x, v⟩ <;> rw [run] at first
  · exact first
  · exact steps.trans first (second x v run)

theorem relates_bind (first : Action.Relates R a) (second : ∀ x, Action.Relates R (f x)) :
    Action.Relates R (a >>= f) := fun w =>
  relates_bind_at steps (first w) fun x v _ => second x v

theorem relates_pure (x : α) : Action.Relates R (pure x : Action α) := steps.refl

theorem relates_fail (fault : Fault) : Action.Relates R (Action.fail fault : Action α) :=
  steps.refl

theorem relates_ofExcept {ε : Type} (fault : ε → Fault) (x : Except ε α) :
    Action.Relates R (Action.ofExcept fault x) := by
  intro w
  rw [Action.perform_ofExcept]
  exact steps.refl w

theorem relates_inspect (read : FileSystem → Except Files.Fault α) :
    Action.Relates R (Action.inspect read) := by
  intro w
  rw [Action.perform_inspect]
  exact steps.refl w

theorem relates_print (level : Level) (message : String) :
    Action.Relates R (liftM (Effect.print level message) : Action PUnit) := fun w =>
  steps.printed w _

theorem relates_forM {f : α → Action PUnit} (each : ∀ x, Action.Relates R (f x)) :
    ∀ xs : List α, Action.Relates R (xs.forM f)
  | [] => relates_pure steps _
  | x :: xs => relates_bind steps (each x) fun _ => relates_forM each xs

omit steps in
theorem relates_result (relates : Action.Relates R a) : Action.Relates R (Action.result a) :=
  relates

theorem relates_change {write : FileSystem → Except Files.Fault FileSystem}
    (changes : ∀ w files, write w.files = .ok files → R w { w with files := files }) :
    Action.Relates R (Action.change write) := by
  intro w
  rw [Action.perform_change]
  cases written : write w.files with
  | ok files => exact changes w files written
  | error fault => exact steps.refl w

end Actions

section Artifact

variable {s : Source} {asks : ArtifactFile → Prop} {R : World → World → Prop}
  (steps : s.Steps asks R)
include steps

/-- To accept an artifact is to have its files, and to look at one of them. -/
theorem accept_steps {spec : String} {w : World} (seeks : ∀ x, s.Seeks w spec x → asks x)
    (expected : Option String) : R w ((accept s spec expected).perform w).2 := by
  have src := steps.toStepRelation
  refine relates_bind_at src (relates_ofExcept src _ _ w) fun urls v listed => ?_
  obtain ⟨-, rfl⟩ := Action.perform_ofExcept_ok.mp listed
  split
  · exact src.refl _
  · next c parsed =>
      have resolving := resolve_steps steps fun x wants => seeks x (.resolving parsed wants)
      refine relates_bind_at src resolving fun answer u resolved => ?_
      split
      · exact src.refl u
      · next a =>
          have downloading := download_steps steps (a := a) (w := u)
            fun x wants => seeks x (.downloading parsed resolved wants)
          refine relates_bind_at src downloading fun status t _ => ?_
          split
          · exact src.refl t
          · refine relates_bind src ?_ (fun _ => relates_pure src _) t
            unfold checkDigest
            split
            · exact relates_pure src _
            · exact relates_bind src (relates_inspect src _) fun _ => relates_pure src _

end Artifact

section Unpacking

variable {R : World → World → Prop} (steps : UnpackingSteps R)
include steps

theorem writeMember_steps (z : Archive.Zip) (m : Archive.Member) (target : Path) :
    Action.Relates R (Archive.writeMember z m target) := by
  have src := steps.toStepRelation
  refine relates_bind src (relates_change src fun w files made => steps.made w files _ made)
    fun _ => relates_bind src (relates_ofExcept src _ _) fun start => fun w => ?_
  refine relates_bind_at src (relates_inspect src _ w) fun ⟨files, i⟩ v looked => ?_
  obtain ⟨opened, rfl⟩ := Action.perform_inspect_ok.mp looked
  refine relates_bind_at src (steps.opened w files _ i opened) fun _ u _ => ?_
  rcases z.contents m start with ⟨bytes, - | fault⟩
  · exact steps.filled u i bytes
  · exact relates_bind_at src (steps.filled u i _) fun _ t _ => src.refl t

theorem writeAll_steps (z : Archive.Zip) (root : Path) :
    ∀ (ms : List Archive.Member) (count total : Nat),
      Action.Relates R (Archive.writeAll z root count total ms)
  | [], _, _ => relates_pure steps.toStepRelation _
  | m :: ms, count, total => by
      have src := steps.toStepRelation
      have later := writeAll_steps z root ms
      have written (count total : Nat) : Action.Relates R (if Text.endsWith "/" m.name then do
            Action.change fun fs => fs.makeDirectories (root.joinText m.name)
            Archive.writeAll z root count total ms
          else do
            Archive.writeMember z m (root.joinText m.name)
            Archive.writeAll z root count total ms) := by
        split
        · exact relates_bind src (relates_change src fun w files made => steps.made w files _ made)
            fun _ => later count total
        · exact relates_bind src (writeMember_steps steps z m _) fun _ => later count total
      unfold Archive.writeAll
      split
      · exact later count total
      · dsimp only
        split
        · exact relates_bind src (relates_fail src _) fun _ => written _ _
        · exact written _ _

theorem extractTo_steps (z : Archive.Zip) (source : String) (destination : Path) :
    Action.Relates R (z.extractTo source destination) := by
  have src := steps.toStepRelation
  refine relates_bind src (relates_change src fun w files made => steps.made w files _ made)
    fun _ w => ?_
  rw [Action.perform_get_bind]
  dsimp only
  split
  · exact src.refl w
  · exact writeAll_steps steps z _ _ _ _ w

/-- Whatever is unpacked, and however that ends. -/
theorem unpackInto_steps (directory file : Path) :
    Action.Relates R (unpackInto directory file) := by
  have src := steps.toStepRelation
  have unpacks : Action.Relates R (Aar.unpack file directory) := by
    refine relates_bind src (relates_bind src (relates_inspect src _) fun _ =>
      relates_ofExcept src _ _) fun z => ?_
    refine relates_bind src (relates_ofExcept src _ _) fun nested => ?_
    split
    · exact extractTo_steps steps _ _ _
    · exact extractTo_steps steps _ _ _
  refine relates_bind src (relates_result unpacks) fun answer => ?_
  split
  · exact relates_pure src _
  · exact relates_pure src _
  · split
    · exact relates_pure src _
    · exact relates_fail src _
  · exact relates_fail src _

end Unpacking

section Placing

variable {R : World → World → Prop} (steps : PlacingSteps R)
include steps

theorem edit_steps {write : FileSystem → Except Files.Fault FileSystem}
    (edits : ∀ {f g}, write f = .ok g → f.Edits g) : Action.Relates R (Action.change write) :=
  relates_change steps.toStepRelation fun w files written => steps.edited w files (edits written)

theorem clear_steps (path : Path) : Action.Relates R (clear path) := by
  have src := steps.toStepRelation
  have removes (linked : Bool) : Action.Relates R
      (if linked = true then Action.change fun fs => fs.remove path else pure ()) := by
    split
    · exact edit_steps steps .removed
    · exact relates_pure src _
  refine relates_bind src (relates_inspect src _) fun there => ?_
  dsimp only
  split
  · exact removes true
  · exact relates_bind src (relates_inspect src _) removes

theorem linkFile_steps (source destination : Path) :
    Action.Relates R (linkFile source destination) := by
  have src := steps.toStepRelation
  refine relates_bind src (edit_steps steps .directories) fun _ => ?_
  refine relates_bind src (clear_steps steps destination) fun _ => ?_
  refine relates_bind src (relates_result (edit_steps steps .named)) fun answer => ?_
  split
  · exact relates_print src _ _
  · have linked : Action.Relates R (do
        let target ← Action.inspect fun fs => fs.resolveStrictly source
        Action.change fun fs => fs.symbolicLink (Path.ofLocation target).text destination
        liftM (Effect.detail ("Symbolic link created from " ++ source.text ++ " to "
          ++ destination.text))) :=
      relates_bind src (relates_inspect src _) fun _ =>
        relates_bind src (edit_steps steps .linked) fun _ => relates_print src _ _
    dsimp only
    split
    · exact relates_bind src (relates_fail src _) fun _ => linked
    · exact linked
  · exact relates_fail src _

/-- An artifact is unpacked or linked, and its build file is written. -/
theorem place_steps {s : Source} (workspace : Path) (package : String) {a : ResolvedArtifact}
    (unpacks : Text.trim a.packaging = "aar" →
      Action.Relates R (unpackInto (workspace.joinText package) (s.localFile a.mainPath))) :
    Action.Relates R (place s workspace package a) := by
  have src := steps.toStepRelation
  unfold place
  dsimp only
  refine relates_bind src (linkFile_steps steps _ _) fun _ => ?_
  split
  · next aar =>
      refine relates_bind src (unpacks aar) fun answer => ?_
      split
      · exact relates_pure src _
      · exact relates_bind src (edit_steps steps .written) fun _ => relates_pure src _
  · refine relates_bind src (linkFile_steps steps _ _) fun _ => ?_
    exact relates_bind src (edit_steps steps .written) fun _ => relates_pure src _

/-- To fetch an artifact is to accept it, and to place it if it is accepted. -/
theorem fetchArtifact_steps {s : Source} {asks : ArtifactFile → Prop} (source : s.Steps asks R)
    {spec package : String} {workspace : Path} {expected : Option String} {w : World}
    (seeks : ∀ x, s.Seeks w spec x → asks x)
    (unpacks : ∀ a status, ((accept s spec expected).perform w).1 = .ok (.ok (a, status)) →
      Text.trim a.packaging = "aar" →
        Action.Relates R (unpackInto (workspace.joinText package) (s.localFile a.mainPath))) :
    R w ((fetchArtifact s spec workspace package expected).perform w).2 := by
  have src := steps.toStepRelation
  have refused (message : String) : Action.Relates R (do
      liftM (Effect.say message)
      return false) := relates_bind src (relates_print src _ _) fun _ => relates_pure src _
  unfold fetchArtifact
  refine relates_bind_at src (accept_steps source seeks expected) fun answer v answered => ?_
  cases answer with
  | error refusal => exact refused refusal.message v
  | ok accepted =>
      obtain ⟨a, status⟩ := accepted
      have placing := place_steps steps workspace package (unpacks a status (by rw [answered]))
      dsimp only
      refine relates_bind src placing (fun answer => ?_) v
      split
      · exact refused _
      · refine relates_bind src (fun w => src.refl w) fun _ => ?_
        exact relates_bind src (relates_print src _ _) fun _ => relates_pure src _

end Placing

section Checks

variable {R : World → World → Prop} (steps : StepRelation R)
include steps

theorem relates_sayAll (lines : List String) :
    Action.Relates R (liftM (Checks.sayAll lines) : Action PUnit) := by
  intro w
  induction lines generalizing w with
  | nil => exact steps.refl w
  | cons line lines ih => exact steps.trans (steps.printed w _) (ih _)

theorem relates_report {α : Type} (found : List α) {tell : List α → Action Unit}
    (tells : ∀ found, Action.Relates R (tell found)) :
    Action.Relates R (Checks.report found tell) := by
  unfold Checks.report
  split
  · exact relates_pure steps _
  · exact relates_bind steps (tells found) fun _ => relates_pure steps _

/-- The checks only print. -/
theorem relates_checks (spec : Specification) (declared : List String)
    (unresolved : List ResolutionFailure) (ledger : Ledger) :
    Action.Relates R (Checks.run spec declared unresolved ledger) := by
  have print := relates_print steps
  have sayAll := relates_sayAll steps
  refine relates_bind steps (relates_ofExcept steps _ _) fun found => ?_
  refine relates_bind steps (relates_report steps _ fun found => ?_) fun _ => ?_
  · exact relates_bind steps (print _ _) fun _ => sayAll _
  refine relates_bind steps (relates_report steps _ fun found => ?_) fun _ => ?_
  · refine relates_bind steps (print _ _) fun _ => relates_forM steps (fun f => ?_) _
    exact relates_bind steps (relates_ofExcept steps _ _) fun _ => print _ _
  refine relates_bind steps (relates_report steps _ fun found => ?_) fun _ => ?_
  · exact relates_bind steps (print _ _) fun _ => sayAll _
  refine relates_bind steps (relates_report steps _ fun found => ?_) fun _ =>
    relates_pure steps _
  refine relates_bind steps (print _ _) fun _ => ?_
  refine relates_bind steps (print _ _) fun _ => ?_
  refine relates_bind steps (print _ _) fun _ => ?_
  refine relates_bind steps (relates_forM steps (fun f => ?_) _) fun _ => ?_
  · exact relates_bind steps (relates_ofExcept steps _ _) fun _ => print _ _
  · exact relates_bind steps (print _ _) fun _ => sayAll _

end Checks

section Run

variable {plan : Plan} {s : Source} {asks : ArtifactFile → Prop} {R : World → World → Prop}
  (steps : plan.Steps s asks R)
include steps

theorem write_steps {path : Path} (allowed : plan.WritesTo path) (text : String) :
    Action.Relates R (Plan.write path text) := by
  have src := steps.toStepRelation
  have writes : Action.Relates R (Action.change fun fs => fs.replaceFile path text.toUTF8) :=
    relates_change src fun w files written => steps.written w files path _ allowed written
  refine relates_bind src (relates_result writes) fun answer => ?_
  split
  · exact relates_pure src _
  · split
    · exact relates_bind src (relates_print src _ _) fun _ => relates_pure src _
    · exact relates_fail src _
  · exact relates_fail src _

theorem writeGroups_steps : ∀ groups : List (Path × List Declared),
    (∀ path ∈ groups.map Prod.fst, plan.WritesTo path) → Action.Relates R (plan.writeGroups groups)
  | [], _ => relates_pure steps.toStepRelation _
  | (path, declared) :: groups, allowed => by
      have src := steps.toStepRelation
      have group : Action.Relates R (plan.writeGroup path declared) := by
        refine relates_bind src (relates_ofExcept src _ _) fun text => ?_
        refine relates_bind src (write_steps steps (allowed path List.mem_cons_self) text)
          fun output => ?_
        dsimp only
        split
        · exact relates_bind src (relates_print src _ _) fun _ => relates_pure src _
        · exact relates_pure src _
      have others := writeGroups_steps groups fun path listed =>
        allowed path (List.mem_cons_of_mem _ listed)
      exact relates_bind src group fun output =>
        relates_bind src others fun _ => relates_pure src _

theorem writeAliases_steps (declared : List Declared) :
    Action.Relates R (plan.writeAliases declared) := by
  have src := steps.toStepRelation
  unfold Plan.writeAliases
  dsimp only
  split
  · exact relates_pure src _
  · refine relates_bind src (write_steps steps (.inl rfl) _) fun output => ?_
    split
    · exact relates_bind src (relates_print src _ _) fun _ => relates_pure src _
    · exact relates_pure src _

theorem conclude_steps {p : Progress} (allowed : ∀ e ∈ p.declared, plan.WritesTo e.1) :
    Action.Relates R (plan.conclude p) := by
  have src := steps.toStepRelation
  have groups : ∀ path ∈ (sortedGroups (groupByFile p.declared)).map Prod.fst,
      plan.WritesTo path := by
    intro path listed
    have grouped : path ∈ (groupByFile p.declared).map Prod.fst :=
      ((List.mergeSort_perm _ _).map Prod.fst).mem_iff.mp listed
    obtain ⟨e, declared, rfl⟩ :=
      List.mem_map.mp (((groupByFile_grouped p.declared).paths path).mp grouped)
    exact allowed e declared
  refine relates_bind src (writeGroups_steps steps _ groups) fun files => ?_
  refine relates_bind src (relates_print src _ _) fun _ => ?_
  refine relates_bind src (relates_checks src _ _ _ _) fun findings => ?_
  exact relates_bind src (writeAliases_steps steps _) fun aliases => relates_pure src _

theorem prepare_steps : Action.Relates R plan.prepare := by
  have src := steps.toStepRelation
  unfold Plan.prepare
  dsimp only
  split
  · exact relates_bind src (relates_change src steps.made) fun _ => relates_print src _ _
  · exact relates_print src _ _

/-- The calls of a run are among the steps of its source. -/
theorem comes_steps (source : plan.resolver = s.resolver) {w v : World}
    (wants : ∀ x, plan.Wants s w x → asks x) (comes : plan.Comes w v) : R w v := by
  induction comes with
  | start => exact steps.refl w
  | @resolved v c before named ih =>
      rw [source]
      exact steps.trans ih (resolve_steps steps.toSteps fun x own =>
        wants x ⟨.resolve c, v, named, before, own⟩)
  | @downloaded v u c a before earlier named answered ih =>
      rw [source]
      exact steps.trans ih (download_steps steps.toSteps fun x own =>
        wants x ⟨.download a, v, ⟨c, u, named, earlier, answered⟩, before, own⟩)
  | printed _ console ih => exact steps.trans ih (steps.printed _ console)

omit steps in
/-- What the workers declare are build files of declared artifacts. -/
theorem follow_told (source : plan.resolver = s.resolver) (schedule : List Turn) (m n : Nat)
    (w : World) : ∀ e ∈ ((Pool.follow plan schedule
      (.start plan.specification m n)).run w).1.run.progress.declared, plan.WritesTo e.1 := by
  have faithful : plan.resolver.Faithful := source ▸ source_faithful s
  have cover : Answers.faithful.Cover plan w :=
    { resolve := fun {_ v} _ c a answered => faithful c v a answered
      download := fun _ _ => trivial
      inspect := fun _ _ _ _ _ _ _ => trivial }
  obtain ⟨parts, arrival, told, -⟩ := cover_told cover schedule m n
  rintro ⟨path, d⟩ kept
  obtain ⟨e, listed, parsed, declares⟩ := told_declaration told faithful_faithful kept
  obtain ⟨labels, -, entry⟩ := declares.made
  exact .inr ⟨e, listed, _, parsed, (congrArg Prod.fst entry).symm⟩

/-- However a run ends, its steps lead from the world that it starts from to the one that it
leaves. -/
theorem generate_steps (source : plan.resolver = s.resolver) {w : World}
    (wants : ∀ x, plan.Wants s (plan.prepare.perform w).2 x → asks x) (schedule : List Turn) :
    R w ((plan.generateBy schedule).perform w).2 := by
  have src := steps.toStepRelation
  unfold Plan.generateBy
  split
  · refine relates_bind_at src (prepare_steps steps w) fun _ v prepared => ?_
    rw [prepared] at wants
    have allowed := follow_told source schedule plan.workers plan.workers v
    have comes := follow_comes plan schedule plan.workers plan.workers v
    refine relates_bind_at src (comes_steps steps source wants comes) fun pool u followed => ?_
    cases followed
    refine (?_ : Action.Relates R _) _
    split
    · exact relates_pure src _
    · refine relates_bind src (conclude_steps steps allowed) fun ending => ?_
      refine relates_bind src (fun w => src.refl w) fun _ => ?_
      exact relates_bind src (relates_print src _ _) fun _ => relates_pure src _
  · exact relates_bind src (relates_forM src (fun _ => relates_print src _ _) _)
      (fun _ => relates_pure src _) w

end Run

end MavenImport
