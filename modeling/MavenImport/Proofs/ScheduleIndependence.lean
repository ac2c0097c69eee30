/-
# Proofs.ScheduleIndependence -- no schedule shows in what a run leaves

Tasks come to their ends in any order, and everything that a run collects is in the order of
arrival.  What is written is in an order of its own (`files_alike`), what is counted has none,
and what the checks look for is there or not.  So two schedules of one plan, with any numbers of
workers, leave the same files with the same contents, end equally well, resolve as many artifacts
and need the same ones (`Ending.Agrees`).
-/
import MavenImport.Proofs.BuildFileOrder
import MavenImport.Proofs.DeclaredArtifacts
import MavenImport.Proofs.FilesAlike
import MavenImport.Proofs.RunFiles
import MavenImport.Proofs.RunOutcome

namespace MavenImport

set_option autoImplicit false

/-! ## Writing the same files -/

/-- Alike file systems take and refuse the same files, and stay alike. -/
theorem written_alike {f f' g g' : FileSystem} {outputs outputs' : List Output}
    (written : Written f outputs g) (written' : Written f' outputs' g') (alike : f.Alike f')
    (same : outputs.map Output.file = outputs'.map Output.file) :
    outputs = outputs' ∧ g.Alike g' := by
  induction written generalizing f' outputs' with
  | nothing f =>
      cases written' with
      | nothing => exact ⟨rfl, alike⟩
      | written _ _ => cases same
      | refused _ _ => cases same
  | @written f g h path text outputs made _ ih =>
      have changed := replaceFile_alike alike path text.toUTF8
      rw [made] at changed
      cases written' with
      | nothing => cases same
      | written made' later' =>
          simp only [List.map_cons, List.cons.injEq, Output.file, Prod.mk.injEq] at same
          obtain ⟨⟨rfl, rfl⟩, rest⟩ := same
          rw [made'] at changed
          obtain ⟨rfl, after⟩ := ih later' changed rest
          exact ⟨rfl, after⟩
      | refused refusal' _ =>
          simp only [List.map_cons, List.cons.injEq, Output.file, Prod.mk.injEq] at same
          obtain ⟨⟨rfl, rfl⟩, -⟩ := same
          rw [refusal'] at changed
          exact changed.elim
  | @refused f g path text outputs fault refusal _ ih =>
      have changed := replaceFile_alike alike path text.toUTF8
      rw [refusal] at changed
      cases written' with
      | nothing => cases same
      | written made' _ =>
          simp only [List.map_cons, List.cons.injEq, Output.file, Prod.mk.injEq] at same
          obtain ⟨⟨rfl, rfl⟩, -⟩ := same
          rw [made'] at changed
          exact changed.elim
      | refused _ later' =>
          simp only [List.map_cons, List.cons.injEq, Output.file, Prod.mk.injEq] at same
          obtain ⟨⟨rfl, rfl⟩, rest⟩ := same
          obtain ⟨rfl, after⟩ := ih later' alike rest
          exact ⟨rfl, after⟩

section Alike

variable {plan : Plan} {p p' : Progress}

theorem groupFiles_congr (plan : Plan) :
    ∀ {groups groups' : List (Path × List Declared)},
      groups.map orderedGroup = groups'.map orderedGroup →
        plan.groupFiles groups = plan.groupFiles groups'
  | [], [], _ => rfl
  | [], _ :: _, same => by cases same
  | _ :: _, [], same => by cases same
  | (path, ds) :: groups, (path', ds') :: groups', same => by
      simp only [List.map_cons, List.cons.injEq, orderedGroup, Prod.mk.injEq] at same
      obtain ⟨⟨rfl, ordered⟩, rest⟩ := same
      have later := groupFiles_congr plan rest
      unfold Plan.groupFiles at later ⊢
      rw [List.mapM_cons, List.mapM_cons, later, content_congr _ ordered]

/-- Alike progress gives the same files in the same order. -/
theorem files_alike (plan : Plan)
    (distinct : (p.declared.map fun e => e.2.coordinate).Nodup) (alike : p.Alike p') :
    plan.files p = plan.files p' := by
  have groups := groupFiles_congr plan (sortedGroups_perm distinct alike.declared)
  have aliases : plan.aliasFiles p.declared = plan.aliasFiles p'.declared := by
    unfold Plan.aliasFiles
    rw [aliasFile_perm _ ?_ (alike.declared.map fun e => e.2.resolution.coordinate)]
    rwa [List.map_map]
  unfold Plan.files
  rw [groups, aliases]

theorem quiet_alike (alike : p.Alike p') (quiet : plan.Quiet p) : plan.Quiet p' where
  duplicates := quiet.duplicates
  unresolved := by
    have none := alike.unresolved
    rw [quiet.unresolved] at none
    exact none.symm.eq_nil
  legacy := by
    refine legacy_nil.mpr ((legacy_nil.mp quiet.legacy).imp id fun none slug declared => ?_)
    exact none slug ((alike.declaredSlugs slug).mpr declared)
  missing := by
    refine missing_nil.mpr fun slug known => ?_
    exact (alike.declaredSlugs slug).mp
      (missing_nil.mp quiet.missing slug ((alike.ledger.slugs slug).mpr known))

theorem ledger_alike_symm {l l' : Ledger} (alike : l.Alike l') : l'.Alike l where
  slugs slug := (alike.slugs slug).symm
  versions slug version := (alike.versions slug version).symm
  dependants slug owner := (alike.dependants slug owner).symm

theorem progress_alike_symm (alike : p.Alike p') : p'.Alike p where
  failed := alike.failed.symm
  resolvedCount := alike.resolvedCount.symm
  declaredSlugs slug := (alike.declaredSlugs slug).symm
  unresolved := alike.unresolved.symm
  declared := alike.declared.symm
  ledger := ledger_alike_symm alike.ledger

/-- Conclusions from alike progress on alike files leave the same. -/
theorem concluded_alike {f f' g g' : FileSystem} {e e' : Ending}
    (concluded : plan.Concluded p f e g) (concluded' : plan.Concluded p' f' e' g')
    (alike : p.Alike p') (files : f.Alike f') (same : plan.files p = plan.files p') :
    e.outputs = e'.outputs ∧ e.well = e'.well ∧ g.Alike g' := by
  have texts := concluded.files
  rw [same, concluded'.files] at texts
  obtain ⟨outputs, after⟩ := written_alike concluded.written concluded'.written files
    (Except.ok.inj texts).symm
  refine ⟨outputs, ?_, after⟩
  rw [Bool.eq_iff_iff, concluded.well, concluded'.well, outputs, alike.failed]
  have quiet : plan.Quiet p ↔ plan.Quiet p' :=
    ⟨quiet_alike alike, quiet_alike (progress_alike_symm alike)⟩
  rw [quiet]

end Alike

/-! ## Two runs of one plan -/

section Runs

variable {plan : Plan}

/-- The number of threads does not show in the steps of a pool. -/
theorem follow_threads (threads : Int) (schedule : List Turn) (p : Pool) :
    Pool.follow { plan with threads := threads } schedule p = Pool.follow plan schedule p := by
  induction schedule generalizing p with
  | nil => rfl
  | cons turn schedule ih =>
      show (p.advance plan turn >>= fun q =>
          Pool.follow { plan with threads := threads } schedule q)
        = p.advance plan turn >>= fun q => Pool.follow plan schedule q
      simp only [ih]

/-- A resolver whose answers depend on what it is asked alone, and which leaves the files as they
are, is steady. -/
theorem steady_of_answers {r : Resolver}
    (resolve : Coordinate → Except Fault (Except ResolutionFailure ResolvedArtifact))
    (download : ResolvedArtifact → Except Fault FetchStatus)
    (resolves : ∀ c v, ((r.resolve c).perform v).1 = resolve c)
    (downloads : ∀ a v, ((r.download a).perform v).1 = download a)
    (keeps : ∀ c, Action.Keeps World.files (r.resolve c))
    (keeps' : ∀ a, Action.Keeps World.files (r.download a)) (w : World) : r.Steady w := by
  have still : ∀ {calls v}, r.Leads w calls v → v.files = w.files := by
    intro calls v leads
    induction leads with
    | start => rfl
    | called _ call ih =>
        cases call with
        | resolve c => exact (keeps c _).trans ih
        | download a => exact (keeps' a _).trans ih
    | printed _ console ih => exact ih
  exact
    { resolve := fun _ c => (resolves c _).trans (resolves c w).symm
      download := fun _ a => (downloads a _).trans (downloads a w).symm
      delivered := fun leads leads' _ _ file _ _ _ _ => by rw [still leads, still leads']
      files := fun leads leads' _ => by
        rw [still leads, still leads']
        exact alike_refl w.files }

theorem concluded_threads {threads : Int} {p : Progress} {f g : FileSystem} {e : Ending}
    (concluded : ({ plan with threads := threads } : Plan).Concluded p f e g) :
    plan.Concluded p f e g where
  progress := concluded.progress
  files := concluded.files
  written := concluded.written
  well := by
    rw [concluded.well]
    have quiet : ({ plan with threads := threads } : Plan).Quiet p ↔ plan.Quiet p :=
      ⟨fun q => ⟨q.duplicates, q.unresolved, q.legacy, q.missing⟩,
        fun q => ⟨q.duplicates, q.unresolved, q.legacy, q.missing⟩⟩
    rw [quiet]

/-- What a run left in a world is what another one left in another world. -/
structure Ending.Agrees (e : Ending) (v : World) (e' : Ending) (v' : World) : Prop where
  /-- The same files were to be written, with the same contents and the same success. -/
  outputs : e.outputs = e'.outputs
  files : v.files.Alike v'.files
  well : e.well = e'.well
  resolvedCount : e.progress.resolvedCount = e'.progress.resolvedCount
  ledger : e.progress.ledger.Alike e'.progress.ledger

/-- Two runs of a valid plan from one world, each by a schedule and with a number of threads of
its own: if both end, they agree, given that the keys read different coordinates and that the
answers of the resolver depend on what it is asked alone. -/
theorem schedules_agree (plan : Plan) (threads : Int) (schedule schedule' : List Turn)
    (w v v' : World) (e e' : Ending) (valid : plan.specification.problems = [])
    (distinct : (plan.specification.artifacts.filterMap fun a => Coordinate.ofString? a.1).Nodup)
    (faithful : plan.resolver.Faithful)
    (steady : ∀ w₀, plan.prepare.perform w = (.ok (), w₀) → plan.resolver.Steady w₀)
    (ended : (plan.generateBy schedule).perform w = (.ok (some e), v))
    (ended' : (({ plan with threads := threads } : Plan).generateBy schedule').perform w
      = (.ok (some e'), v')) : e.Agrees v e' v' := by
  rw [generateBy_valid plan valid] at ended
  rw [generateBy_valid { plan with threads := threads } valid] at ended'
  obtain ⟨w₀, pool, w₁, prepared, followed, returned, concluded⟩ := runBy_ok ended
  obtain ⟨w₀', pool', w₁', prepared', followed', returned', concluded'⟩ := runBy_ok ended'
  have start : (plan.prepare.perform w).2 = w₀' := congrArg Prod.snd prepared'
  rw [prepared] at start
  obtain rfl : w₀ = w₀' := start
  rw [follow_threads] at followed'
  have steady := steady w₀ prepared
  have pools := pools_alike steady schedule schedule' plan.workers plan.workers
    ({ plan with threads := threads } : Plan).workers
    ({ plan with threads := threads } : Plan).workers
  obtain ⟨parts, arrival, told, -⟩ := steady_told steady schedule plan.workers plan.workers
  rw [followed, followed'] at pools
  rw [followed] at told
  obtain ⟨alike, files⟩ := pools returned returned'
  have honest : (plan.answersFrom w₀).Faithful := fun c a answered => faithful c w₀ a answered
  have same := files_alike plan (told_distinct told honest distinct) alike
  obtain ⟨outputs, well, after⟩ := concluded_alike concluded (concluded_threads concluded') alike
    files same
  exact
    { outputs := outputs
      files := after
      well := well
      resolvedCount := by
        rw [concluded.progress, concluded'.progress]
        exact alike.resolvedCount
      ledger := by
        rw [concluded.progress, concluded'.progress]
        exact alike.ledger }

end Runs

/-! ### Two versions of an artifact, of which one cannot be resolved -/

namespace Rivals

def specification : Specification :=
  ⟨.str "maven", [("g:a:1", Pair.config), ("g:a:2", Pair.config)], .obj [], false, [], [], [],
    .str "rules", false, true⟩

def resolver : Resolver where
  resolve c := return if c.version = "2" then .error (Pair.failure c) else .ok ⟨c, "jar", []⟩
  download _ := return { outcome := .notFound }

def plan : Plan where
  specification := specification
  workspace := ⟨.here, ["w"]⟩
  resolver := resolver

/-- Of two resolvers the second one begins, and the second artifact comes to its end first. -/
def schedule : List Turn :=
  [.resolver 1, .resolver 0, .resolver 0, .resolver 0, .resolver 0, .resolver 1, .resolver 1,
    .resolver 1, .main, .packager 1, .packager 1, .packager 1, .main]

theorem faithful : resolver.Faithful := by
  intro c w a answered
  by_cases second : c.version = "2"
  · simp [resolver, second] at answered
  · simp only [resolver, second, if_false, Action.perform_pure, Except.ok.injEq] at answered
    rw [← answered]

theorem steady : ∀ w₀, resolver.Steady w₀ :=
  steady_of_answers
    (fun c => .ok (if c.version = "2" then .error (Pair.failure c) else .ok ⟨c, "jar", []⟩))
    (fun _ => .ok { outcome := .notFound }) (fun _ _ => rfl) (fun _ _ => rfl)
    (fun _ => Action.keeps_pure _) (fun _ => Action.keeps_pure _)

end Rivals

theorem rivals_agree :
    ∃ e v e' v', Rivals.plan.left? (inTurn 2) Pair.world = some (e, v) ∧
      ({ Rivals.plan with threads := 2 } : Plan).left? Rivals.schedule Pair.world = some (e', v') ∧
      e.Agrees v e' v' := by
  obtain ⟨e, v, ended, left⟩ := left_ended Rivals.plan (inTurn 2) Pair.world
    (by decide +kernel)
  obtain ⟨e', v', ended', left'⟩ := left_ended { Rivals.plan with threads := 2 }
    Rivals.schedule Pair.world (by decide +kernel)
  exact ⟨e, v, e', v', left, left',
    schedules_agree Rivals.plan 2 (inTurn 2) Rivals.schedule Pair.world v v' e e'
      (by decide) (by decide) Rivals.faithful (fun w₀ _ => Rivals.steady w₀)
      ended ended'⟩

end MavenImport
