/-
# Proofs.TaskReplay -- what a task comes to, told from the cache in the end

A task that is done again need not fail in the same way.  Apart from that (`Note.blurred?`), what
is noted of an artifact follows from its key, from the artifact that it was resolved to, if it was,
and from what the cache holds of it in the end: `Plan.listedNotes`.

While a task is on its way, the notes that are still to come are told by its stage
(`Plan.comingNotes`).  Each step gives some of them, for every file system that comes later
(`packaging_step`, `resolving_step`).
-/
import MavenImport.Proofs.ModelReplay
import MavenImport.Proofs.TurnOrder

namespace MavenImport

set_option autoImplicit false

/-! ## The notes of a task -/

/-- A note that does not tell how something went wrong or what was asked. -/
def Note.blurred? : Note → Option Note
  | .asked _ => none
  | .unresolved _ => some .failed
  | note => some note

def blurred (notes : List Note) : List Note := notes.filterMap Note.blurred?

section Coming

variable (plan : Plan) (config : ArtifactConfig)
  (details : ResolvedArtifact → Option AarDetails)

/-- What is noted of an Android library, by what its file says. -/
def Plan.openingNotes (a : ResolvedArtifact) : List Note := match details a with
  | some d => plan.finishNotes ⟨a, config, .android d.package d.libraries⟩
  | none => [.failed]

/-- What is noted of an artifact that is resolved. -/
def Plan.packagingNotes (a : ResolvedArtifact) : List Note :=
  .counted :: if isClassLibrary a.packaging then plan.finishNotes ⟨a, config, .library⟩
    else if a.packaging = "aar" then plan.openingNotes config details a
    else plan.unknownNotes ++ plan.finishNotes ⟨a, config, .file⟩

/-- What is noted of an artifact whose coordinate is recorded, by what it is resolved to. -/
def Plan.resolvingNotes : Option ResolvedArtifact → List Note
  | some a => plan.packagingNotes config details a
  | none => [.failed]

/-- All that is noted of a task. -/
def Plan.listedNotes (key : String) (artifact : Option ResolvedArtifact) : List Note :=
  match Coordinate.ofString? key with
  | some c => .named c :: plan.resolvingNotes config details artifact
  | none => [.failed]

/-- What is still to be noted of a task. -/
def Plan.comingNotes (key : String) (artifact : Option ResolvedArtifact) : Stage → List Note
  | .listed => plan.listedNotes config details key artifact
  | .named _ => plan.resolvingNotes config details artifact
  | .resolved a => plan.packagingNotes config details a
  | .opening a => plan.openingNotes config details a
  | .inspecting a _ => plan.openingNotes config details a
  | .ended _ => []

end Coming

/-- What a cache says of the file of an Android library. -/
def Source.details? (s : Source) (f : FileSystem) (a : ResolvedArtifact) : Option AarDetails :=
  (s.held? f a.coordinate.aarFile).bind fun bytes => valueOf? (Aar.inspect (.ok bytes))

/-- An artifact whose file is needed to declare it. -/
def ResolvedArtifact.IsAndroid (a : ResolvedArtifact) : Prop :=
  isClassLibrary a.packaging = false ∧ a.packaging = "aar"

/-- A stage agrees with what the key of its task was resolved to and with the files.  Whatever was
asked for is spent. -/
def Stage.Fits (s : Source) (web : Web) (f : FileSystem) (key : String)
    (artifact : Option ResolvedArtifact) : Stage → Prop
  | .listed => True
  | .named c => Coordinate.ofString? key = some c
  | .resolved a => artifact = some a ∧ a.coordinate.Proper
  | .opening a => artifact = some a ∧ a.coordinate.Proper ∧ a.IsAndroid
  | .inspecting a file => artifact = some a ∧ a.coordinate.Proper ∧ a.IsAndroid ∧
      file = s.localFile a.coordinate.aarFile.path ∧ s.Spent web f a.coordinate.aarFile
  | .ended _ => ∀ a, artifact = some a → a.IsAndroid → s.Spent web f a.coordinate.aarFile

/-- The world that a step from a stage leaves, apart from the console. -/
def Stage.leaves (plan : Plan) (w : World) : Stage → World
  | .named c => ((plan.resolver.resolve c).perform w).2
  | .opening a => ((plan.resolver.download a).perform w).2
  | _ => w

/-! ## The world after a step -/

section Worlds

variable (plan : Plan)

theorem finish_world (config : ArtifactConfig) (a : ResolvedArtifact) (form : Form) (p : Progress)
    (w : World) : ∃ console, ((Task.finish plan config a form p).run w).2
      = { w with console := console } := by
  unfold Task.finish
  rcases p.declare plan ⟨a, config, form⟩ with ⟨fault | ⟨path, d⟩, p⟩
  · exact ⟨_, rfl⟩
  · exact ⟨_, rfl⟩

theorem tell_world (a : ResolvedArtifact) (p : Progress) (w : World) :
    ∃ console, ((plan.unknownPackaging.tell a p).run w).2 = { w with console := console } := by
  cases plan.unknownPackaging <;> exact ⟨_, rfl⟩

theorem package_world (config : ArtifactConfig) (a : ResolvedArtifact) (p : Progress) (w : World) :
    ∃ console, ((Task.package plan config a p).run w).2 = { w with console := console } := by
  unfold Task.package
  dsimp only
  split
  · exact finish_world plan config a .library _ w
  · split
    · exact ⟨_, rfl⟩
    · obtain ⟨console, told⟩ := tell_world plan a p.countResolved w
      obtain ⟨console', finished⟩ := finish_world plan config a .file
        ((plan.unknownPackaging.tell a p.countResolved).run w).1
        ((plan.unknownPackaging.tell a p.countResolved).run w).2
      refine ⟨console', finished.trans ?_⟩
      rw [told]

theorem resolve_world (key : String) (c : Coordinate) (p : Progress) (w : World) :
    ∃ console, ((Task.resolve plan key c p).run w).2
      = { ((plan.resolver.resolve c).perform w).2 with console := console } := by
  unfold Task.resolve
  rw [Action.run_attempt_bind]
  rcases ((plan.resolver.resolve c).perform w).1 with fault | failure | a <;> exact ⟨_, rfl⟩

theorem download_world (a : ResolvedArtifact) (p : Progress) (w : World) :
    ∃ console, ((Task.download plan a p).run w).2
      = { ((plan.resolver.download a).perform w).2 with console := console } := by
  unfold Task.download
  rw [Action.run_attempt_bind]
  rcases ((plan.resolver.download a).perform w).1 with fault | status
  · exact ⟨_, rfl⟩
  · dsimp only
    cases status.file? <;> exact ⟨_, rfl⟩

theorem inspect_world (config : ArtifactConfig) (a : ResolvedArtifact) (file : Path) (p : Progress)
    (w : World) :
    ∃ console, ((Task.inspect plan config a file p).run w).2 = { w with console := console } := by
  unfold Task.inspect
  rw [Action.run_attempt_bind, perform_inspectFile]
  rcases Aar.inspect (w.files.readFile file) with fault | problem | details
  · exact ⟨_, rfl⟩
  · exact ⟨_, rfl⟩
  · exact finish_world plan config a _ p w

/-- A step changes the console, and otherwise what it asks changes. -/
theorem advance_world (t : Task) (p : Progress) (w : World) :
    ∃ console, ((t.advance plan p).run w).2
      = { t.stage.leaves plan w with console := console } := by
  unfold Task.advance Stage.leaves
  cases t.stage with
  | listed =>
      dsimp only
      unfold Task.name
      split <;> exact ⟨_, rfl⟩
  | named c => exact resolve_world plan t.key c p w
  | resolved a => exact package_world plan t.config a p w
  | opening a => exact download_world plan a p w
  | inspecting a file => exact inspect_world plan t.config a file p w
  | ended fate => exact ⟨w.console, rfl⟩

end Worlds

/-! ## Steps -/

section Blurred

theorem blurred_append (notes more : List Note) :
    blurred (notes ++ more) = blurred notes ++ blurred more :=
  List.filterMap_append

theorem blurred_finish (plan : Plan) (r : Resolution) :
    blurred (plan.finishNotes r) = plan.finishNotes r := by
  have needed : blurred ((plan.recorded r).map (Plan.needNote r.coordinate))
      = (plan.recorded r).map (Plan.needNote r.coordinate) := by
    simp [blurred, Plan.needNote, Note.blurred?, Function.comp_def, List.filterMap_map]
  unfold Plan.finishNotes
  rw [blurred_append, needed]
  cases plan.labels r <;> rfl

theorem blurred_unknown (plan : Plan) : blurred plan.unknownNotes = plan.unknownNotes := by
  unfold Plan.unknownNotes
  split <;> rfl

/-- Nothing comes after the end of the way. -/
theorem coming_finish (plan : Plan) (config : ArtifactConfig)
    (details : ResolvedArtifact → Option AarDetails) (key : String)
    (artifact : Option ResolvedArtifact) (r : Resolution) :
    plan.comingNotes config details key artifact (plan.finishStage r) = [] := by
  unfold Plan.finishStage
  cases plan.labels r <;> rfl

end Blurred

variable {s : Source} {w v : World} {plan : Plan} {key : String} {config : ArtifactConfig}
  {stage stage' : Stage} {more : List Note}

/-- The stage at the end of the way agrees with what is so whenever it is reached. -/
theorem fits_finish {web : Web} {f : FileSystem} {artifact : Option ResolvedArtifact}
    {r : Resolution}
    (spent : ∀ a, artifact = some a → a.IsAndroid → s.Spent web f a.coordinate.aarFile) :
    (plan.finishStage r).Fits s web f key artifact := by
  unfold Plan.finishStage
  cases plan.labels r <;> exact spent

/-- In every file system that comes later, a step has come to a stage that fits, by some of the
notes that were to come. -/
def Stage.Moves (s : Source) (w : World) (plan : Plan) (key : String) (config : ArtifactConfig)
    (artifact : FileSystem → Option ResolvedArtifact) (v : World) (stage : Stage)
    (more : List Note) (stage' : Stage) : Prop :=
  ∀ f, s.Later w.web v.files f → stage'.Fits s w.web f key (artifact f) ∧
    blurred more ++ plan.comingNotes config (s.details? f) key (artifact f) stage'
      = plan.comingNotes config (s.details? f) key (artifact f) stage

section Files

theorem mainPath_android {a : ResolvedArtifact} (android : a.IsAndroid) :
    a.mainPath = a.coordinate.aarFile.path := by
  unfold ResolvedArtifact.mainPath mainExtension
  rw [android.2, if_neg (by decide)]
  rfl

variable (straight : s.cache.Straight) (reached : s.Reached w v)
include straight reached

/-- The file of an Android library is fetched under its own path. -/
theorem download_ends {a : ResolvedArtifact} (proper : a.coordinate.Proper)
    (android : a.IsAndroid) :
    s.FetchEnds w.web a.coordinate.aarFile v ((s.download a).perform v) := by
  have ends := fetch_ends straight (aarFile_proper proper) (reached_plain reached)
  rw [reached.web] at ends
  unfold Source.download
  rw [mainPath_android android]
  exact ends

/-- What the file of a library says when it is inspected is what the cache says later. -/
theorem details_later {a : ResolvedArtifact} (proper : a.coordinate.Proper)
    (spent : s.Spent w.web v.files a.coordinate.aarFile) {f : FileSystem}
    (later : s.Later w.web v.files f) :
    s.details? f a
      = valueOf? (Aar.inspect (v.files.readFile (s.localFile a.coordinate.aarFile.path))) := by
  have plain := reached_plain reached
  have proper' := aarFile_proper proper
  unfold Source.details?
  rw [spent_held plain later spent proper', held_readFile straight proper' plain]
  cases v.files.readFile (s.localFile a.coordinate.aarFile.path) with
  | ok bytes => rfl
  | error fault =>
      unfold Aar.inspect
      dsimp only [Except.toOption, Option.bind_none]
      split <;> rfl

end Files

section Steps

variable (source : plan.resolver = s.resolver) (straight : s.cache.Straight)
include source straight

omit source straight in
/-- A step of packaging an artifact that is resolved asks for nothing. -/
theorem package_moves {a : ResolvedArtifact} {artifact : FileSystem → Option ResolvedArtifact}
    (fits : ∀ f, s.Later w.web v.files f →
      (Stage.resolved a).Fits s w.web f key (artifact f))
    (step : Task.Step plan (plan.answersIn v) key config (.resolved a) more stage') :
    (Stage.resolved a).Moves s w plan key config artifact v more stage' := by
  intro f later
  obtain ⟨own, proper⟩ := fits f later
  have ends (r : Resolution) (other : ¬ a.IsAndroid) :
      (plan.finishStage r).Fits s w.web f key (artifact f) := by
    refine fits_finish fun a' same android => ?_
    obtain rfl : a = a' := Option.some.inj (own.symm.trans same)
    exact absurd android other
  cases step with
  | library classes =>
      have other : ¬ a.IsAndroid := fun android => by
        rw [android.1] at classes
        cases classes
      refine ⟨ends _ other, ?_⟩
      rw [coming_finish, List.append_nil]
      show Note.counted :: blurred (plan.finishNotes _)
        = plan.packagingNotes config (s.details? f) a
      rw [blurred_finish, Plan.packagingNotes, if_pos classes]
  | android other aar =>
      refine ⟨⟨own, proper, other, aar⟩, ?_⟩
      show [Note.counted] ++ plan.openingNotes config (s.details? f) a
        = plan.packagingNotes config (s.details? f) a
      rw [Plan.packagingNotes, other, if_neg (by simp), if_pos aar]
      rfl
  | file other noAar =>
      refine ⟨ends _ fun android => noAar android.2, ?_⟩
      rw [coming_finish, List.append_nil]
      show Note.counted :: blurred (plan.unknownNotes ++ plan.finishNotes _)
        = plan.packagingNotes config (s.details? f) a
      rw [blurred_append, blurred_unknown, blurred_finish, Plan.packagingNotes, other,
        if_neg (by simp), if_neg noAar]

omit straight in
/-- When the file of a library has been asked for, it is there to be looked into, or what the cache
holds of it is nothing. -/
theorem opening_moves {a : ResolvedArtifact} {artifact : FileSystem → Option ResolvedArtifact}
    (ends : s.FetchEnds w.web a.coordinate.aarFile v ((s.download a).perform v))
    (fits : ∀ f, s.Later w.web v.files f →
      (Stage.opening a).Fits s w.web f key (artifact f))
    (step : Task.Step plan (plan.answersIn v) key config (.opening a) more stage') :
    (Stage.opening a).Moves s w plan key config artifact ((s.download a).perform v).2 more
      stage' := by
  have answers {answer : Except Fault FetchStatus}
      (answered : (plan.answersIn v).download a answer) :
      ((s.download a).perform v).1 = answer := by
    rw [← show _ = answer from answered, source]
    rfl
  intro f later
  obtain ⟨own, proper, android⟩ := fits f (later_trans ends.later later)
  have spent := spent_later ends.later.plain later ends.spent
  cases step with
  | undelivered answered missing =>
      refine ⟨fun a' same _ => ?_, ?_⟩
      · obtain rfl : a = a' := Option.some.inj (own.symm.trans same)
        exact spent
      · have lost : s.held? f a.coordinate.aarFile = none := by
          rw [spent_held ends.later.plain later ends.spent (aarFile_proper proper)]
          refine ends.lost fun status same success => ?_
          have none := missing status ((answers answered).symm.trans same)
          rwa [Attempt.file?, if_pos success] at none
        show [Note.failed] = plan.openingNotes config (s.details? f) a
        rw [Plan.openingNotes, Source.details?, lost]
        rfl
  | @delivered _ status file answered found =>
      have located : status.localFile = some file := by
        unfold Attempt.file? at found
        split at found
        · exact found
        · cases found
      exact ⟨⟨own, proper, android, ends.only status file (answers answered) located, spent⟩, rfl⟩

omit source in
/-- What is noted of the file of a library is what the cache says of it later. -/
theorem inspecting_moves (reached : s.Reached w v) {a : ResolvedArtifact} {file : Path}
    {artifact : FileSystem → Option ResolvedArtifact}
    (fits : ∀ f, s.Later w.web v.files f →
      (Stage.inspecting a file).Fits s w.web f key (artifact f))
    (step : Task.Step plan (plan.answersIn v) key config (.inspecting a file) more stage') :
    (Stage.inspecting a file).Moves s w plan key config artifact v more stage' := by
  have plain := reached_plain reached
  obtain ⟨-, proper, -, located, spent⟩ := fits _ (later_refl plain)
  intro f later
  obtain ⟨own, -⟩ := fits f later
  have stays (a' : ResolvedArtifact) (same : artifact f = some a') (_ : a'.IsAndroid) :
      s.Spent w.web f a'.coordinate.aarFile := by
    obtain rfl : a = a' := Option.some.inj (own.symm.trans same)
    exact spent_later plain later spent
  have details : s.details? f a = valueOf? (Aar.inspect (v.files.readFile file)) := by
    rw [details_later straight reached proper spent later, located]
  cases step with
  | @unusable _ _ answer answered wrong =>
      refine ⟨stays, ?_⟩
      rw [show Aar.inspect (v.files.readFile file) = answer from answered] at details
      have none : valueOf? answer = none := by
        cases given : valueOf? answer with
        | none => rfl
        | some found => exact absurd (valueOf_eq_some.mp given) (wrong found)
      show [Note.failed] = plan.openingNotes config (s.details? f) a
      rw [Plan.openingNotes, details, none]
  | @inspected _ _ found answered =>
      refine ⟨fits_finish stays, ?_⟩
      rw [show Aar.inspect (v.files.readFile file) = .ok (.ok found) from answered] at details
      rw [coming_finish, List.append_nil, blurred_finish]
      show _ = plan.openingNotes config (s.details? f) a
      rw [Plan.openingNotes, details]
      rfl

/-- A step of packaging: it asks for the file of a library, or it looks into it, or it asks for
nothing. -/
theorem packaging_step (reached : s.Reached w v)
    {artifact : FileSystem → Option ResolvedArtifact} (packaging : stage.isPackaging = true)
    (fits : ∀ f, s.Later w.web v.files f → stage.Fits s w.web f key (artifact f))
    (step : Task.Step plan (plan.answersIn v) key config stage more stage') :
    s.Later w.web v.files (stage.leaves plan v).files ∧ (stage.leaves plan v).web = v.web ∧
      (stage.leaves plan v).models = v.models ∧
      stage.Moves s w plan key config artifact (stage.leaves plan v) more stage' := by
  have plain := reached_plain reached
  cases stage with
  | listed | named _ | ended _ => cases packaging
  | resolved a => exact ⟨later_refl plain, rfl, rfl, package_moves fits step⟩
  | opening a =>
      obtain ⟨-, proper, android⟩ := fits _ (later_refl plain)
      have ends := download_ends straight reached proper android
      have left : (Stage.opening a).leaves plan v = ((s.download a).perform v).2 := by
        rw [Stage.leaves, source]
        rfl
      rw [left]
      exact ⟨ends.later, ends.sameWeb, ends.sameModels, opening_moves source ends fits step⟩
  | inspecting a file =>
      exact ⟨later_refl plain, rfl, rfl, inspecting_moves straight reached fits step⟩

omit straight in
/-- A step of resolving: the artifact that comes of it is that of the replay. -/
theorem resolving_step {c : Coordinate} {artifact : FileSystem → Option ResolvedArtifact}
    (proper : ∀ a, valueOf? ((s.resolve c).perform v).1 = some a → a.coordinate.Proper)
    (replayed : ∀ f, s.Later w.web ((s.resolve c).perform v).2.files f →
      artifact f = valueOf? ((s.resolve c).perform v).1)
    (step : Task.Step plan (plan.answersIn v) key config (.named c) more stage') :
    (Stage.named c).Moves s w plan key config artifact ((s.resolve c).perform v).2 more stage' := by
  have answers : ∀ answer, (plan.answersIn v).resolve c answer →
      ((s.resolve c).perform v).1 = answer := by
    rintro answer rfl
    show _ = ((plan.resolver.resolve c).perform v).1
    rw [source]
    rfl
  intro f later
  have same := replayed f later
  cases step with
  | faulted answer =>
      rw [answers _ answer] at same
      refine ⟨fun a own => ?_, ?_⟩
      · rw [same] at own
        cases own
      · show [Note.failed] = plan.resolvingNotes config (s.details? f) (artifact f)
        rw [same]
        rfl
  | unresolved answer =>
      rw [answers _ answer] at same
      refine ⟨fun a own => ?_, ?_⟩
      · rw [same] at own
        cases own
      · show [Note.failed] = plan.resolvingNotes config (s.details? f) (artifact f)
        rw [same]
        rfl
  | @resolved _ a answer =>
      have given := answers _ answer
      rw [given] at same
      refine ⟨⟨same, proper a (by rw [given]; rfl)⟩, ?_⟩
      show plan.packagingNotes config (s.details? f) _
        = plan.resolvingNotes config (s.details? f) (artifact f)
      rw [same]
      rfl

omit source straight in
/-- A step of naming: a key that is no coordinate is resolved to nothing. -/
theorem naming_step {answers : Answers} {artifact : FileSystem → Option ResolvedArtifact}
    (malformed : Coordinate.ofString? key = none → ∀ f, s.Later w.web v.files f →
      artifact f = none)
    (step : Task.Step plan answers key config .listed more stage') :
    Stage.listed.Moves s w plan key config artifact v more stage' := by
  intro f later
  cases step with
  | @named c parsed =>
      refine ⟨parsed, ?_⟩
      show [Note.named c] ++ plan.resolvingNotes config (s.details? f) (artifact f)
        = plan.listedNotes config (s.details? f) key (artifact f)
      rw [Plan.listedNotes, parsed]
      rfl
  | malformed refused =>
      refine ⟨fun a own => ?_, ?_⟩
      · rw [malformed refused f later] at own
        cases own
      · show [Note.failed] = plan.listedNotes config (s.details? f) key (artifact f)
        rw [Plan.listedNotes, refused]

end Steps

end MavenImport
