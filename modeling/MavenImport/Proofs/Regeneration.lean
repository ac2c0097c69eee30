/-
# Proofs.Regeneration -- a run after a run

A run with one worker in each line is repeated in the files that it has left, by a resolver that
knows no models.  It takes its course again with the cache that the first run filled, and comes to
the same notes (`Proofs.RunReplay`); so the same files are to be written, and each of them comes out
as it is (`Proofs.Rewriting`).  Altogether the second run ends like the first one, be it with a
fault, shows no file that the first did not leave, and requests nothing that is in the cache
(`generateBy_again`).
-/
import MavenImport.Proofs.ArtifactIsolation
import MavenImport.Proofs.CheckAnswers
import MavenImport.Proofs.OfflineReplay
import MavenImport.Proofs.Rewriting
import MavenImport.Proofs.TurnEnds

namespace MavenImport

open MavenImport.Action (Agree agree_map)

set_option autoImplicit false

/-! ## Writing beside the cache -/

/-- Neither of two paths leads to the other one. -/
def FileSystem.Separate (f : FileSystem) (p q : Path) : Prop :=
  ¬ f.placeOf p <+: f.placeOf q ∧ ¬ f.placeOf q <+: f.placeOf p

/-- Files that are filled below a path are no files of artifacts. -/
theorem fills_later {s : Source} {web : Web} {f g : FileSystem} {places : List Location} {p : Path}
    (separate : f.Separate s.cache p) (fills : f.Fills places g)
    (below : ∀ l ∈ places, f.placeOf p <+: l) : s.Later web f g := by
  refine apart_later fills.plain fills.lasts fun x proper =>
    fills.apart _ fun place listed above => ?_
  have cached : f.placeOf s.cache <+: place := by
    rw [place_eq proper] at above
    exact (List.prefix_append _ _).trans above
  rcases List.prefix_or_prefix_of_prefix cached (below place listed) with one | other
  · exact separate.1 one
  · exact separate.2 other

theorem separate_lasts {f g : FileSystem} {p q : Path} (lasts : f.Lasts g)
    (separate : f.Separate p q) : g.Separate p q := by
  unfold FileSystem.Separate
  rw [placeOf_lasts lasts, placeOf_lasts lasts]
  exact separate

/-! ## Where the files of a run are -/

/-- All declarations belong to files of proper groups. -/
def Plan.Groups (plan : Plan) (p : Progress) : Prop :=
  ∀ e ∈ p.declared, ∃ group, ProperGroup group ∧ e.1 = plan.packageFile (groupPath group)

/-- The file of second names. -/
def Plan.aliasPath (plan : Plan) : Path := plan.workspace.joinText buildFileName

/-- The places of all files that a run is to write. -/
def Plan.places (plan : Plan) (here : Location) (p : Progress) : List Location :=
  ((sortedGroups (groupByFile p.declared)).map fun g => g.1.placeFrom here)
    ++ [plan.aliasPath.placeFrom here]

section Places

variable {plan : Plan} {p : Progress} {here : Location} {group : String}

theorem aliasPath_eq :
    plan.aliasPath = ⟨plan.workspace.anchor, plan.workspace.names ++ [buildFileName]⟩ :=
  joinText_buildFile plan.workspace

theorem packageFile_straight (proper : ProperGroup group) (straight : plan.workspace.Straight) :
    (plan.packageFile (groupPath group)).Straight := by
  intro up
  unfold Plan.packageFile at up
  rw [splitAt_groupPath proper] at up
  simp only [List.mem_append, List.mem_singleton] at up
  rcases up with (own | segment) | file
  · exact straight own
  · exact Text.not_mem_of_mem_splitAt segment (by decide)
  · exact absurd file (by decide)

theorem sortedGroups_paths {g : Path × List Declared}
    (listed : g ∈ sortedGroups (groupByFile p.declared)) : ∃ e ∈ p.declared, e.1 = g.1 := by
  have known := (List.mergeSort_perm _ _).mem_iff.mp listed
  exact List.mem_map.mp (((groupByFile_grouped p.declared).paths g.1).mp (List.mem_map_of_mem known))

/-- Files of the workspace that have one place are one. -/
theorem placeFrom_injective {q q' : Path} (anchor : q.anchor = q'.anchor)
    (same : q.placeFrom here = q'.placeFrom here) : q = q' := by
  unfold Path.placeFrom at same
  rw [anchor] at same
  have names := List.append_cancel_left same
  cases q
  cases q'
  simp_all

variable (groups : plan.Groups p)
include groups

theorem group_path {g : Path × List Declared}
    (listed : g ∈ sortedGroups (groupByFile p.declared)) :
    ∃ group, ProperGroup group ∧ g.1 = plan.packageFile (groupPath group) := by
  obtain ⟨e, declared, same⟩ := sortedGroups_paths listed
  rw [← same]
  exact groups e declared

theorem groups_once :
    ((sortedGroups (groupByFile p.declared)).map fun g => g.1.placeFrom here).Nodup := by
  have paths : ((sortedGroups (groupByFile p.declared)).map Prod.fst).Nodup :=
    (((List.mergeSort_perm _ _).map Prod.fst).nodup_iff).mpr (groupByFile_grouped p.declared).once
  show ((sortedGroups (groupByFile p.declared)).map (Path.placeFrom here ∘ Prod.fst)).Nodup
  rw [← List.map_map]
  refine paths.map_on fun q listed q' listed' same => placeFrom_injective ?_ same
  obtain ⟨g, known, rfl⟩ := List.mem_map.mp listed
  obtain ⟨g', known', rfl⟩ := List.mem_map.mp listed'
  obtain ⟨_, -, path⟩ := group_path groups known
  obtain ⟨_, -, path'⟩ := group_path groups known'
  rw [path, path']
  rfl

/-- The file of second names is none of a group. -/
theorem alias_apart : ∀ l ∈ (sortedGroups (groupByFile p.declared)).map fun g => g.1.placeFrom here,
    l ∉ [plan.aliasPath.placeFrom here] := by
  intro l listed same
  obtain ⟨g, known, rfl⟩ := List.mem_map.mp listed
  obtain ⟨group, -, path⟩ := group_path groups known
  rw [path, List.mem_singleton] at same
  have one := placeFrom_injective (by rw [aliasPath_eq]; rfl) same
  have names := congrArg (fun q : Path => q.names) one
  rw [aliasPath_eq] at names
  have alone : plan.workspace.names ++ [buildFileName]
      = plan.workspace.names ++ [] ++ [buildFileName] := by simp
  have none := List.append_cancel_left (List.append_cancel_right (names.trans alone))
  exact Text.pieces_ne_nil _ _ (List.map_eq_nil_iff.mp none)

theorem places_below {f : FileSystem} :
    ∀ l ∈ plan.places f.here p, f.placeOf plan.workspace <+: l := by
  intro l listed
  rcases List.mem_append.mp listed with group | second
  · obtain ⟨g, known, rfl⟩ := List.mem_map.mp group
    obtain ⟨_, -, path⟩ := group_path groups known
    rw [path]
    unfold Path.placeFrom Plan.packageFile
    rw [List.append_assoc, ← List.append_assoc]
    exact List.prefix_append _ _
  · rw [List.mem_singleton.mp second, aliasPath_eq]
    unfold Path.placeFrom
    rw [← List.append_assoc]
    exact List.prefix_append _ _

end Places

/-! ## Concluding again -/

/-- What shows of an ending: whether all is well, and the files. -/
def Ending.verdict (e : Ending) : Bool × List Output := (e.well, e.outputs)

section Conclude

variable {plan : Plan} {p p' : Progress}

/-- What was written is written again as it is, and the findings are as well as they were. -/
theorem echoes_conclude (here : Location) (resembles : p.Resembles p') (reportable : p.Reportable)
    (reportable' : p'.Reportable) (straight : plan.workspace.Straight) (groups : plan.Groups p) :
    (plan.conclude p).Echoes here (plan.places here p) (fun e e' => e.verdict = e'.verdict)
      (plan.conclude p') := by
  have proper : ∀ g ∈ sortedGroups (groupByFile p.declared), g.1.Straight ∧ g.1.names ≠ [] := by
    intro g listed
    obtain ⟨group, proper, path⟩ := group_path groups listed
    rw [path]
    exact ⟨packageFile_straight proper straight, by simp [Plan.packageFile]⟩
  have second : plan.aliasPath.Straight ∧ plan.aliasPath.names ≠ [] := by
    rw [aliasPath_eq]
    refine ⟨fun up => ?_, by simp⟩
    rcases List.mem_append.mp up with own | file
    · exact straight own
    · exact absurd (List.mem_singleton.mp file) (by decide)
  unfold Plan.conclude
  rw [← resembles.declared]
  refine echoes_same (echoes_writeGroups _ proper (groups_once groups)) (fun files => ?_)
    (alias_apart groups)
  refine echoes_after (echoes_print _ _) fun _ => ?_
  refine echoes_bind (echoes_still (checks_agree plan resembles reportable reportable')
    (checks_keeps files_silent _ _) (checks_keeps files_silent _ _))
    (fun found found' same => ?_) (fun found => ⟨found, fun _ => rfl⟩)
    (fun _ none => absurd none List.not_mem_nil)
  refine echoes_before (echoes_writeAliases second.1 second.2 _) fun aliases => echoes_pure ?_
  have failed : p.failed = p'.failed := resembles.alike.failed
  unfold Ending.verdict
  rw [← failed]
  cases well : p.failed with
  | true => rfl
  | false => rw [same well]

end Conclude

/-! ## What a course comes to -/

section Courses

variable {plan : Plan} {s : Source} {w v : World} {parts : List Part} {arrival : List Note}
  {n : Nat} {r : Run}

/-- If the addresses of the repositories are texts, the findings of a run can be reported. -/
theorem course_reportable (texts : ∀ url ∈ s.urls, ∃ text, url = .str text)
    (course : Course plan s w parts arrival n r v) : r.progress.Reportable := by
  refine told_reportable course.told fun failure listed => ?_
  rw [course.failures failure (told_failure course.told listed)]
  exact texts_joined texts

/-- Declarations belong to the files of the groups that the keys name. -/
theorem reached_groups {pool : Pool} {k m : Nat} (source : plan.resolver = s.resolver)
    (families : plan.ProperFamilies s w)
    (reached : Relation.ReflTransGen (Pool.Step plan) (.start plan.specification k m) pool) :
    plan.Groups pool.run.progress := by
  obtain ⟨parts, arrival, told⟩ :=
    told_reached (within_faithful (source.symm ▸ source_faithful s)) reached
  rintro ⟨path, d⟩ declared
  obtain ⟨e, listed, parsed, declares⟩ := told_declaration told faithful_faithful declared
  obtain ⟨labels, -, entry⟩ := declares.made
  have path' : buildFilePath plan.workspace d.resolution.coordinate.group = path :=
    congrArg Prod.fst entry
  have proper := families e.1 (List.mem_map_of_mem listed) _ parsed _ .refl
  exact ⟨_, proper.1, by rw [← path', buildFilePath_eq proper.1]⟩

end Courses

/-! ## Making the workspace again -/

/-- The files with a workspace in them, if there are artifacts. -/
def Plan.withWorkspace (plan : Plan) (f : FileSystem) : Except Files.Fault FileSystem :=
  if plan.specification.artifacts.isEmpty then .ok f else f.makeDirectories plan.workspace

section Prepare

variable {plan : Plan} {f g e : FileSystem}

theorem prepare_ok {w : World} (made : plan.withWorkspace w.files = .ok f) :
    ∃ v, plan.prepare.perform w = (.ok (), v) ∧ v.files = f ∧ v.web = w.web ∧
      v.models = w.models ∧ v.requested = w.requested := by
  unfold Plan.withWorkspace at made
  unfold Plan.prepare
  dsimp only
  by_cases none : plan.specification.artifacts.isEmpty = true
  · rw [if_pos none] at made
    cases made
    rw [if_neg (by simp [none])]
    exact ⟨_, rfl, rfl, rfl, rfl, rfl⟩
  · rw [if_neg none] at made
    rw [if_pos (by simp [none]), Action.perform_bind, Action.perform_change, made]
    exact ⟨_, rfl, rfl, rfl, rfl, rfl⟩

theorem prepare_error {w : World} {fault : Files.Fault}
    (refused : plan.withWorkspace w.files = .error fault) :
    plan.prepare.perform w = (.error (.file fault), w) := by
  unfold Plan.withWorkspace at refused
  unfold Plan.prepare
  dsimp only
  by_cases none : plan.specification.artifacts.isEmpty = true
  · rw [if_pos none] at refused
    cases refused
  · rw [if_neg none] at refused
    rw [if_pos (by simp [none]), Action.perform_bind, Action.perform_change, refused]

variable (straight : plan.workspace.Straight) (plain : f.Plain)
  (made : plan.withWorkspace f = .ok g)
include straight plain made

theorem withWorkspace_fills : f.Fills [f.placeOf plan.workspace] g := by
  unfold Plan.withWorkspace at made
  split at made
  · cases made
    exact fills_refl plain
  · exact makeDirectories_fills plain straight made

/-- Where the workspace is, making it changes nothing. -/
theorem withWorkspace_again (plain' : e.Plain) (lasts : g.Lasts e) :
    plan.withWorkspace e = .ok e := by
  unfold Plan.withWorkspace at made ⊢
  split at made
  · next none => rw [if_pos none]
  · next some =>
      rw [if_neg some]
      have led := makeParents_leads _ plain straight made
      refine makeParents_present plain' straight ?_ _
      rw [placeOf_lasts lasts, placeOf_lasts (grows_lasts (makeDirectories_grows made))]
      exact lasts.directory _ led.directory

end Prepare

/-! ## Running again -/

/-- Nothing stands in the way of repeating what a plan does from a world on. -/
structure Plan.Repeatable (plan : Plan) (s : Source) (w : World) : Prop where
  source : plan.resolver = s.resolver
  /-- There is one worker in each line. -/
  single : plan.threads ≤ 1
  /-- All that is declared or referred to is proper. -/
  families : plan.ProperFamilies s w
  texts : ∀ url ∈ s.urls, ∃ text, url = .str text
  plain : w.files.Plain
  cache : s.cache.Straight
  workspace : plan.workspace.Straight
  separate : w.files.Separate s.cache plan.workspace

/-- A run that is repeated from a world on ends as it did, with the same outputs; the files show
the same, and nothing is requested that is in the cache. -/
structure Source.Regenerates (s : Source) (u : World)
    (first second : Except Fault (Option Ending) × World) : Prop where
  answer : second.1.map (Option.map Ending.verdict) = first.1.map (Option.map Ending.verdict)
  files : ∀ l, second.2.files.seen? l = first.2.files.seen? l
  requests : ∃ urls, second.2.requested = urls ++ u.requested ∧
    ∀ url ∈ urls, s.Lacks first.2.files url

section Runs

variable {plan : Plan} {s : Source} {w u u₀ u₁ : World} {schedule schedule' : List Turn}
  {pool : Pool}

/-- A run whose workspace was made went on to the end and was concluded. -/
structure Plan.Completes (plan : Plan) (schedule : List Turn) (u u₀ : World) (pool : Pool)
    (u₁ : World) : Prop where
  followed : (Pool.follow plan schedule (.start plan.specification 1 1)).run u₀ = (pool, u₁)
  returned : pool.phase = .returned
  answer : ((plan.runBy schedule).perform u).1
    = ((plan.conclude pool.run.progress).perform u₁).1.map some
  files : ((plan.runBy schedule).perform u).2.files
    = ((plan.conclude pool.run.progress).perform u₁).2.files
  requested : ((plan.runBy schedule).perform u).2.requested = u₁.requested

theorem one_worker (single : plan.threads ≤ 1) : plan.workers = 1 := by
  unfold Plan.workers
  omega

section Prepared

variable (single : plan.threads ≤ 1) (prepared : plan.prepare.perform u = (.ok (), u₀))
  (followed : (Pool.follow plan schedule (.start plan.specification 1 1)).run u₀ = (pool, u₁))
include single prepared followed

theorem runBy_concludes (returned : pool.phase = .returned) :
    plan.Completes schedule u u₀ pool u₁ := by
  have requested : ((plan.conclude pool.run.progress).perform u₁).2.requested = u₁.requested :=
    conclude_keeps (fun _ _ => rfl) (fun _ _ => rfl) _ u₁
  suffices all : ((plan.runBy schedule).perform u).1
        = ((plan.conclude pool.run.progress).perform u₁).1.map some ∧
      ((plan.runBy schedule).perform u).2.files
        = ((plan.conclude pool.run.progress).perform u₁).2.files ∧
      ((plan.runBy schedule).perform u).2.requested = u₁.requested from
    ⟨followed, returned, all.1, all.2.1, all.2.2⟩
  unfold Plan.runBy
  rw [one_worker single, Action.perform_bind, prepared]
  dsimp only
  rw [Action.perform_lift_bind, followed]
  dsimp only
  rw [if_neg (by simp [returned]), Action.perform_bind]
  rcases concluded : (plan.conclude pool.run.progress).perform u₁ with ⟨fault | e, v⟩
  all_goals
    rw [concluded] at requested
    exact ⟨rfl, rfl, requested⟩

end Prepared

theorem runBy_completes (single : plan.threads ≤ 1)
    (prepared : plan.prepare.perform u = (.ok (), u₀))
    (ended : ((plan.runBy schedule).perform u).1 ≠ .ok none) :
    ∃ pool u₁, plan.Completes schedule u u₀ pool u₁ := by
  rcases followed : (Pool.follow plan schedule (.start plan.specification 1 1)).run u₀
    with ⟨pool, u₁⟩
  by_cases returned : pool.phase = .returned
  · exact ⟨pool, u₁, runBy_concludes single prepared followed returned⟩
  · rw [← one_worker single] at followed
    rw [runBy_waits prepared followed returned] at ended
    exact absurd rfl ended

theorem runBy_stopped {fault : Files.Fault} (refused : plan.withWorkspace u.files = .error fault) :
    (plan.runBy schedule).perform u = (.error (.file fault), u) := by
  unfold Plan.runBy
  rw [Action.perform_bind, prepare_error refused]

/-- A run whose workspace cannot be made ends so again. -/
theorem runBy_refused {fault : Files.Fault} (refused : plan.withWorkspace w.files = .error fault)
    (files : u.files = ((plan.runBy schedule).perform w).2.files) :
    s.Regenerates u ((plan.runBy schedule).perform w) ((plan.runBy schedule').perform u) := by
  rw [runBy_stopped refused] at files ⊢
  rw [runBy_stopped (files ▸ refused)]
  exact ⟨rfl, fun l => by rw [files], [], rfl, fun _ none => absurd none List.not_mem_nil⟩

/-- What is known of a run from a world on when it has ended. -/
structure Plan.Went (plan : Plan) (s : Source) (w u₀ : World) (r : Run) (u₁ : World) : Prop where
  course : ∃ parts arrival n, Course plan s w parts arrival n r u₁
  done : r.Done
  groups : plan.Groups r.progress
  reportable : r.progress.Reportable
  later : s.Later w.web u₀.files u₁.files

theorem reached_again (web : u.web = w.web) (later : s.Later w.web w.files u.files)
    (fresh : u.models = ⟨[]⟩) : s.Reached w u :=
  ⟨web, later, fun _ _ found => by rw [fresh] at found; cases found⟩

theorem completes_went (repeatable : plan.Repeatable s w) (reached : s.Reached w u₀)
    (fresh : u₀.models = ⟨[]⟩) (completes : plan.Completes schedule u u₀ pool u₁) :
    plan.Went s w u₀ pool.run u₁ := by
  obtain ⟨⟨parts, arrival, n, course⟩, later⟩ := course_follow repeatable.source repeatable.cache
    repeatable.families reached fresh schedule
  have reaches := follow_reaches plan schedule (.start plan.specification 1 1) u₀
  rw [completes.followed] at course later reaches
  exact
    { course := ⟨parts, arrival, n, course⟩
      done := ended_returned (orderly_reached reaches) completes.returned
      groups := reached_groups repeatable.source repeatable.families reaches
      reportable := course_reportable repeatable.texts course
      later := later }

/-- Two runs come to the same progress if the files of a third time come later than those of
both. -/
theorem went_resembles {f : FileSystem} {w₀ w₁ : World} {r r' : Run}
    (went : plan.Went s w w₀ r w₁) (went' : plan.Went s w u₀ r' u₁)
    (later : s.Later w.web w₁.files f) (later' : s.Later w.web u₁.files f) :
    r.progress.Resembles r'.progress := by
  obtain ⟨_, _, _, course⟩ := went.course
  obtain ⟨_, _, _, course'⟩ := went'.course
  exact course_unique course course' went.done went'.done later later'

/-- Concluding a run fills the workspace. -/
theorem went_fills (repeatable : plan.Repeatable s w) {r : Run} (went : plan.Went s w u₀ r u₁) :
    s.Later w.web u₁.files ((plan.conclude r.progress).perform u₁).2.files := by
  obtain ⟨_, _, _, course⟩ := went.course
  have plain := reached_plain course.reached
  have refl : s.Later w.web u₁.files u₁.files := later_refl plain
  have echoes := echoes_conclude u₁.files.here (went_resembles went went refl refl)
    went.reportable went.reportable repeatable.workspace went.groups
  exact fills_later (separate_lasts course.reached.later.lasts repeatable.separate)
    (echoes.fills u₁ plain rfl) (places_below went.groups)

/-- The second run changes no file before it is concluded. -/
theorem went_stays (repeatable : plan.Repeatable s w) {w₀ w₁ : World} {r : Run}
    (went : plan.Went s w w₀ r w₁) (later : s.Later w.web w₁.files u₀.files)
    (reached : s.Reached w u₀) (fresh : u₀.models = ⟨[]⟩)
    (completes : plan.Completes schedule u u₀ pool u₁) : s.Stays u₀ u₁ := by
  obtain ⟨_, _, _, course⟩ := went.course
  have stays := course_stays repeatable.source repeatable.cache repeatable.families course went.done
    later reached fresh schedule
  rwa [completes.followed] at stays

/-- Concluded once more in the files that the first conclusion has left, a run ends in the same
way and shows nothing new. -/
theorem conclude_again (repeatable : plan.Repeatable s w) {w₀ w₁ : World} {r r' : Run}
    (went : plan.Went s w w₀ r w₁) (went' : plan.Went s w u₀ r' u₁) {f : FileSystem}
    (later : s.Later w.web w₁.files f)
    (left : f = ((plan.conclude r.progress).perform w₁).2.files) (still : u₁.files = f) :
    ((plan.conclude r'.progress).perform u₁).1.map Ending.verdict
        = ((plan.conclude r.progress).perform w₁).1.map Ending.verdict ∧
      f.Alike ((plan.conclude r'.progress).perform u₁).2.files := by
  subst still
  obtain ⟨_, _, _, course⟩ := went.course
  have resembles := went_resembles went went' later (later_refl later.plain)
  have echoes := echoes_conclude w₁.files.here resembles went.reportable
    went'.reportable repeatable.workspace went.groups
  have settles : u₁.files.Settles ((plan.conclude r.progress).perform w₁)
      (plan.places w₁.files.here r.progress) :=
    { plain := later.plain
      lasts := left ▸ lasts_refl u₁.files
      filled := fun l _ bytes there => by rw [left, there]
      stopped := fun _ _ => left ▸ alike_refl u₁.files }
  obtain ⟨agree, alike⟩ := echoes.again w₁ u₁ u₁.files (reached_plain course.reached) rfl settles
    (alike_refl u₁.files)
  exact ⟨(agree_map agree).symm, alike⟩

theorem map_some {α β : Type} {f : α → β} (answer : Except Fault α) :
    (answer.map some).map (Option.map f) = (answer.map f).map some := by
  cases answer <;> rfl

/-- Where the specification is wrong, a run ends at once. -/
theorem generateBy_invalid (wrong : plan.specification.problems ≠ []) (schedule : List Turn)
    (u : World) :
    ((plan.generateBy schedule).perform u).1 = .ok (some ⟨false, {}, []⟩) ∧
      ((plan.generateBy schedule).perform u).2.files = u.files ∧
      ((plan.generateBy schedule).perform u).2.requested = u.requested := by
  unfold Plan.generateBy
  split
  · next none => exact absurd none wrong
  · rw [Action.perform_bind_answer (forM_succeeds (fun _ _ _ => rfl) u)]
    have requests : Action.Keeps World.requested (plan.specification.problems.forM fun problem =>
        liftM (Effect.say ("ERROR: Invalid config: " ++ problem.message))) :=
      keeps_forM (fun _ => keeps_print (fun _ _ => rfl) _ _) _
    exact ⟨rfl, keeps_forM (fun _ => keeps_print files_silent _ _) _ u, requests u⟩

/-- A run whose workspace can be made is repeated. -/
theorem runBy_repeated (repeatable : plan.Repeatable s w) (fresh : w.models = ⟨[]⟩)
    {f : FileSystem} (made : plan.withWorkspace w.files = .ok f)
    (ended : ((plan.runBy schedule).perform w).1 ≠ .ok none)
    (files : u.files = ((plan.runBy schedule).perform w).2.files) (web : u.web = w.web)
    (fresh' : u.models = ⟨[]⟩) (ended' : ((plan.runBy schedule').perform u).1 ≠ .ok none) :
    s.Regenerates u ((plan.runBy schedule).perform w) ((plan.runBy schedule').perform u) := by
  -- the first run
  obtain ⟨w₀, prepared, rfl, web₀, models₀, -⟩ := prepare_ok made
  have later₀ : s.Later w.web w.files w₀.files := fills_later repeatable.separate
    (withWorkspace_fills repeatable.workspace repeatable.plain made)
    fun l listed => List.mem_singleton.mp listed ▸ List.prefix_refl _
  obtain ⟨pool, w₁, first⟩ := runBy_completes repeatable.single prepared ended
  have went := completes_went repeatable (reached_again web₀ later₀ (models₀.trans fresh))
    (models₀.trans fresh) first
  have later₁ := went_fills repeatable went
  rw [← first.files, ← files] at later₁
  -- the second run
  have later₂ := later_trans later₀ (later_trans went.later later₁)
  have made' := withWorkspace_again repeatable.workspace repeatable.plain made later₂.plain
    (lasts_trans went.later.lasts later₁.lasts)
  obtain ⟨u₀, prepared', files₀, web₀', models₀', requested₀⟩ := prepare_ok made'
  obtain ⟨pool', u₁, second⟩ := runBy_completes repeatable.single prepared' ended'
  have reached' : s.Reached w u₀ :=
    reached_again (web₀'.trans web) (files₀ ▸ later₂) (models₀'.trans fresh')
  have went' := completes_went repeatable reached' (models₀'.trans fresh') second
  have stays := went_stays repeatable went (files₀ ▸ later₁) reached' (models₀'.trans fresh') second
  have still : u₁.files = u.files := stays.files.trans files₀
  obtain ⟨agree, alike⟩ := conclude_again repeatable went went' later₁
    (files.trans first.files) still
  refine ⟨?_, fun l => ?_, ?_⟩
  · rw [second.answer, first.answer, map_some, map_some, agree]
  · rw [second.files, ← files, ← alike.seen]
  · rw [second.requested, ← requested₀, ← files, ← files₀]
    exact stays.requests

/-- With one worker in each line, the turns of `inTurn` bring a run to its end. -/
theorem generateBy_ends (plan : Plan) (single : plan.threads ≤ 1) (u : World) :
    ((plan.generateBy (inTurn plan.specification.artifacts.length)).perform u).1 ≠ .ok none := by
  by_cases valid : plan.specification.problems = []
  · rw [generateBy_valid plan valid]
    cases made : plan.withWorkspace u.files with
    | error fault =>
        rw [runBy_stopped made]
        simp
    | ok f =>
        obtain ⟨u₀, prepared, -⟩ := prepare_ok made
        have completes := runBy_concludes single prepared rfl (inTurn_returns plan u₀)
        rw [completes.answer]
        generalize ((plan.conclude _).perform _).1 = answer
        cases answer <;> simp [Except.map]
  · rw [(generateBy_invalid valid _ u).1]
    simp

end Runs

/-! ### The parent of the child, generated twice -/

namespace Offline

def plan : Plan where
  specification := ⟨.str "maven", [("g:p:1", ⟨.null, true, .null, false, [], [], []⟩)], .obj [],
    false, [], [], [], .str "rules", false, true⟩
  workspace := .ofString "/ws"
  resolver := source.resolver

/-- A world in which a run has left its files, and the models of its resolver are gone. -/
def again : World := world.restarted ((plan.generateBy (inTurn 1)).perform world).2.files

/-- The POM of the parent leads to nothing. -/
theorem parent_family : parent.ProperFamily (source.offered world) := by
  intro d leads
  rcases Relation.ReflTransGen.cases_head leads with rfl | ⟨c, first, -⟩
  · decide
  · exact absurd rfl (leads_cases first).2

theorem repeatable : plan.Repeatable source world where
  source := rfl
  single := by decide
  families key listed c parsed := by
    obtain rfl := List.mem_singleton.mp listed
    have same : Coordinate.ofString? "g:p:1" = some parent := by decide
    obtain rfl := Option.some.inj (same.symm.trans parsed)
    exact parent_family
  texts url listed := ⟨"http://r/", List.mem_singleton.mp listed⟩
  plain := plain
  cache := by unfold Path.Straight; decide
  workspace := by unfold Path.Straight; decide
  separate := by unfold FileSystem.Separate; decide

end Offline

end MavenImport
