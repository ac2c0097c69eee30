/-
# Proofs.MissingArtifacts -- the artifacts that are reported as missing

The ledger of a run mixes two kinds of records: what is declared, and what a rendered artifact
needs.  `missing_exact` takes the two apart again.  In a run in which nothing is raised while
artifacts are processed, a slug is reported as missing exactly if no key declares it and some
rendered artifact needs it, and the dependants that are listed with it are exactly these
artifacts.

Why the run must be calm: an artifact whose labels cannot all be made leaves records in the
ledger and is not rendered (`Task.Raises`, `Pool.Calm`).  In a calm run the notes of needed
dependencies are those of artifacts with a declaration (`calm_rendered`).
-/
import MavenImport.Proofs.ReferentialClosure
import MavenImport.Proofs.RunOutcome

namespace MavenImport

set_option autoImplicit false

/-! ## What an artifact needs -/

/-- The slugs of what an artifact needs by its options and its POM: the pairs that are added, and
the dependencies that are left, each under the name of its successor if there is one. -/
inductive ArtifactConfig.Needs (config : ArtifactConfig) (a : ResolvedArtifact) : String → Prop
  | included {entry : String} {d : Dependency} (listed : .str entry ∈ config.included)
      (pair : isLabel entry = false) (read : Dependency.ofPair? entry = some d) :
      Needs config a d.slug
  | dependency {d : Dependency} (resolved : d ∈ a.dependencies) (required : d.optional = false)
      (wanted : .str d.slug ∉ config.excluded)
      (family : isLibrary a.packaging = isLibrary d.type) :
      Needs config a ((successor? d.slug).getD d.slug)

/-- An artifact was rendered with the labels of its own dependencies, and needs a slug. -/
def Run.Needs (r : Run) (a : ResolvedArtifact) (slug : String) : Prop :=
  ∃ t path d, t ∈ r.tasks ∧ t.stage = .ended (.declared path d) ∧ d.resolution.artifact = a ∧
    t.config.snippet.isNull = true ∧ t.config.deps = [] ∧ t.config.Needs a slug

/-- The artifacts of a run that are found missing, with what the ledger knows of them. -/
def Run.missing (r : Run) : List (String × LedgerEntry) :=
  Checks.missing r.progress.ledger r.progress.declaredSlugs

/-- What is found missing is what is needed and not declared, and those that need it are listed
once each. -/
structure Plan.MissingExactly (plan : Plan) (r : Run) : Prop where
  artifacts : r.tasks.map (fun t => (t.key, t.config)) = plan.specification.artifacts
  reported : ∀ slug, slug ∈ r.missing.map Prod.fst ↔
    (∀ e ∈ plan.specification.artifacts, ∀ c, Coordinate.ofString? e.1 = some c →
      c.slug ≠ slug) ∧ ∃ a, r.Needs a slug
  dependants : ∀ e ∈ r.missing, ∀ owner,
    owner ∈ e.2.dependants ↔ ∃ a, r.Needs a e.1 ∧ a.coordinate.text = owner
  once : ∀ e ∈ r.missing, e.2.dependants.Nodup

section Kept

/-- A text with one colon is read as a pair, with itself as its slug. -/
theorem ofPair_slug {s : String} (once : s.toList.count ':' = 1) :
    ∃ d, Dependency.ofPair? s = some d ∧ d.slug = s := by
  obtain ⟨first, rest, same⟩ := List.append_of_mem (List.count_pos_iff.mp (once ▸ Nat.one_pos))
  have apart : first.count ':' = 0 ∧ rest.count ':' = 0 := by
    rw [same, List.count_append, List.count_cons_self] at once
    omega
  have alone : ∀ cs : List Char, cs.count ':' = 0 → Text.pieces (· == ':') cs = [cs] := by
    intro cs none
    refine Text.pieces_of_none fun c listed => beq_eq_false_iff_ne.mpr ?_
    rintro rfl
    exact List.count_eq_zero.mp none listed
  have split : Text.splitAt ':' s = [String.ofList first, String.ofList rest] := by
    unfold Text.splitAt
    rw [same, Text.pieces_append_separator rest (by decide), alone first apart.1,
      alone rest apart.2]
    rfl
  unfold Dependency.ofPair?
  rw [split]
  refine ⟨_, rfl, String.toList_inj.mp ?_⟩
  simp [Dependency.slug, slugOf, same]

/-- A literal has as many colons as its characters tell. -/
theorem colon_once {s : String} {cs : List Char} (written : s = String.ofList cs)
    (once : cs.count ':' = 1) : s.toList.count ':' = 1 := by
  rw [written, String.toList_ofList, once]

theorem successors_pairs : ∀ e ∈ successors, e.2.toList.count ':' = 1 := by
  unfold successors
  -- one entry of the table after the other: to decide it for the whole table takes too long
  repeat refine List.forall_mem_cons.mpr ⟨colon_once rfl rfl, ?_⟩
  exact fun e listed => absurd listed List.not_mem_nil

theorem successor_pair {slug new : String} (found : successor? slug = some new) :
    ∃ d, Dependency.ofPair? new = some d ∧ d.slug = new := by
  obtain ⟨e, listed, rfl⟩ := Option.map_eq_some_iff.mp found
  exact ofPair_slug (successors_pairs e (List.mem_of_find?_eq_some listed))

/-- A dependency on an old support artifact is recorded under its successor. -/
theorem succeed_slug (d : Dependency) :
    (succeed d).slug = (successor? d.slug).getD d.slug := by
  unfold succeed
  cases found : successor? d.slug with
  | none => rfl
  | some new =>
      obtain ⟨d', read, same⟩ := successor_pair found
      simp [read, same]

theorem mem_addedDependencies {d : Dependency} :
    ∀ {entries : List Json} {added : List Dependency}, addedDependencies entries = .ok added →
      (d ∈ added ↔ ∃ entry, .str entry ∈ entries ∧ isLabel entry = false ∧
        Dependency.ofPair? entry = some d)
  | [], added, made => by
      cases made
      simp
  | v :: vs, added, made => by
      cases v with
      | str s =>
          simp only [addedDependencies, entryText, bind, Except.bind] at made
          by_cases label : isLabel s = true
          · rw [if_pos label] at made
            rw [mem_addedDependencies made]
            simp only [List.mem_cons]
            constructor
            · rintro ⟨entry, listed, pair, read⟩
              exact ⟨entry, .inr listed, pair, read⟩
            · rintro ⟨entry, first | later, pair, read⟩
              · cases first
                rw [label] at pair
                cases pair
              · exact ⟨entry, later, pair, read⟩
          · rw [if_neg label] at made
            unfold pairDependency at made
            cases read : Dependency.ofPair? s with
            | none => rw [read] at made; cases made
            | some d' =>
                rw [read] at made
                dsimp only at made
                cases rest : addedDependencies vs with
                | error f => rw [rest] at made; cases made
                | ok others =>
                    rw [rest] at made
                    cases made
                    rw [List.mem_cons, mem_addedDependencies rest]
                    simp only [List.mem_cons]
                    constructor
                    · rintro (rfl | ⟨entry, listed, pair, read'⟩)
                      · exact ⟨s, .inl rfl, by simpa using label, read⟩
                      · exact ⟨entry, .inr listed, pair, read'⟩
                    · rintro ⟨entry, first | later, pair, read'⟩
                      · cases first
                        rw [read] at read'
                        exact .inl (Option.some.inj read').symm
                      · exact .inr ⟨entry, later, pair, read'⟩
      | _ => cases made

theorem isKept_iff {config : ArtifactConfig} {packaging : String} {d : Dependency} :
    isKept config packaging d = true ↔ d.optional = false ∧ .str d.slug ∉ config.excluded ∧
      isLibrary packaging = isLibrary d.type := by
  have excluded : config.excluded.any (Json.sameEntry (.str d.slug)) = true ↔
      .str d.slug ∈ config.excluded := by
    rw [List.any_eq_true]
    constructor
    · rintro ⟨v, listed, same⟩
      have equal : v = .str d.slug := by
        cases v <;> simp_all [Json.sameEntry, Json.number?]
      exact equal ▸ listed
    · intro listed
      exact ⟨_, listed, by simp [Json.sameEntry, Json.number?]⟩
  unfold isKept sameFamily
  rw [Bool.and_eq_true, Bool.and_eq_true, Bool.not_eq_true', Bool.not_eq_true', beq_iff_eq,
    and_assoc, ← excluded, Bool.not_eq_true]

/-- The dependencies that are kept are those on what the artifact needs. -/
theorem kept_needs {config : ArtifactConfig} {a : ResolvedArtifact} {kept : List Dependency}
    (made : keptDependencies config a = .ok kept) (slug : String) :
    (∃ d ∈ kept, d.slug = slug) ↔ config.Needs a slug := by
  unfold keptDependencies at made
  cases added : addedDependencies config.included with
  | error f => rw [added] at made; cases made
  | ok ds =>
      rw [added] at made
      cases made
      simp only [List.mem_append, List.mem_map, List.mem_filter]
      constructor
      · rintro ⟨d, ⟨d', ⟨resolved, left⟩, rfl⟩ | listed, rfl⟩
        · obtain ⟨required, wanted, family⟩ := isKept_iff.mp left
          rw [succeed_slug]
          exact .dependency resolved required wanted family
        · obtain ⟨entry, among, pair, read⟩ := (mem_addedDependencies added).mp listed
          exact .included among pair read
      · rintro (⟨listed, pair, read⟩ | @⟨d, resolved, required, wanted, family⟩)
        · exact ⟨_, .inr ((mem_addedDependencies added).mpr ⟨_, listed, pair, read⟩), rfl⟩
        · exact ⟨_, .inl ⟨d, ⟨resolved, isKept_iff.mpr ⟨required, wanted, family⟩⟩, rfl⟩,
            succeed_slug d⟩

end Kept

/-! ## Calm runs -/

/-- In the next step of a task something is raised: its key is no coordinate, the resolver raises
a fault, the file of a library cannot be read or unpacked, or a label cannot be made. -/
def Task.Raises (plan : Plan) (t : Task) (w : World) : Prop :=
  match t.stage with
  | .listed => Coordinate.ofString? t.key = none
  | .named c => ∃ fault, ((plan.resolver.resolve c).perform w).1 = .error fault
  | .resolved a => a.packaging ≠ "aar" ∧ ∃ fault, plan.labels ⟨a, t.config, .file⟩ = .error fault
  | .opening a => ∃ fault, ((plan.resolver.download a).perform w).1 = .error fault
  | .inspecting a file =>
    (∃ fault, Aar.inspect (w.files.readFile file) = .error fault) ∨
      (∃ details, Aar.inspect (w.files.readFile file) = .ok (.ok details)) ∧
        ∃ fault, plan.labels ⟨a, t.config, .file⟩ = .error fault
  | .ended _ => False

instance decidableFault {ε α : Type} : ∀ x : Except ε α, Decidable (∃ e, x = .error e)
  | .error e => isTrue ⟨e, rfl⟩
  | .ok _ => isFalse fun ⟨_, same⟩ => nomatch same

instance decidableSuccess {ε δ α : Type} :
    ∀ x : Except ε (Except δ α), Decidable (∃ a, x = .ok (.ok a))
  | .ok (.ok a) => isTrue ⟨a, rfl⟩
  | .ok (.error _) => isFalse fun ⟨_, same⟩ => nomatch same
  | .error _ => isFalse fun ⟨_, same⟩ => nomatch same

instance (plan : Plan) (w : World) : ∀ t : Task, Decidable (t.Raises plan w)
  | ⟨key, _, .listed⟩ => inferInstanceAs (Decidable (Coordinate.ofString? key = none))
  | ⟨_, _, .named c⟩ =>
    inferInstanceAs (Decidable (∃ fault, ((plan.resolver.resolve c).perform w).1 = .error fault))
  | ⟨_, config, .resolved a⟩ =>
    inferInstanceAs (Decidable (_ ∧ ∃ fault, plan.labels ⟨a, config, .file⟩ = .error fault))
  | ⟨_, _, .opening a⟩ =>
    inferInstanceAs (Decidable (∃ fault, ((plan.resolver.download a).perform w).1 = .error fault))
  | ⟨_, config, .inspecting a file⟩ =>
    inferInstanceAs (Decidable ((∃ fault, Aar.inspect (w.files.readFile file) = .error fault) ∨
      (∃ details, Aar.inspect (w.files.readFile file) = .ok (.ok details)) ∧
        ∃ fault, plan.labels ⟨a, config, .file⟩ = .error fault))
  | ⟨_, _, .ended _⟩ => isFalse id

/-- The task that a turn advances. -/
def Pool.task? (p : Pool) (turn : Turn) : Option Nat :=
  if p.phase = .returned then none
  else match turn with
    | .resolver k => p.resolving.workers[k]?.bind Worker.task?
    | .packager k => p.packaging.workers[k]?.bind Worker.task?
    | .main => none

/-- Nothing is raised in any step of a schedule. -/
def Pool.Calm (plan : Plan) : List Turn → Pool → World → Prop
  | [], _, _ => True
  | turn :: schedule, p, w =>
    (∀ t ∈ (p.task? turn).bind fun i => p.run.tasks[i]?, ¬ t.Raises plan w) ∧
      Calm plan schedule ((p.advance plan turn).run w).1 ((p.advance plan turn).run w).2

instance decidableCalm (plan : Plan) : ∀ (schedule : List Turn) (p : Pool) (w : World),
    Decidable (p.Calm plan schedule w)
  | [], _, _ => isTrue trivial
  | turn :: schedule, p, w =>
    have := decidableCalm plan schedule ((p.advance plan turn).run w).1
      ((p.advance plan turn).run w).2
    inferInstanceAs (Decidable ((∀ t ∈ (p.task? turn).bind fun i => p.run.tasks[i]?,
      ¬ t.Raises plan w) ∧ _))

section Calm

variable {plan : Plan}

variable (plan) in
/-- In a turn that advances a task the run makes a step with it, and otherwise nothing happens to
the run. -/
theorem advance_task (p : Pool) (turn : Turn) (w : World) :
    (((p.advance plan turn).run w).1.run, ((p.advance plan turn).run w).2)
      = match p.task? turn with
        | none => (p.run, w)
        | some i => (p.run.advance plan i).run w := by
  unfold Pool.advance Pool.task?
  split
  · rfl
  · cases turn with
    | resolver k =>
        dsimp only
        unfold Pool.resolver
        cases p.resolving.workers[k]? with
        | none => rfl
        | some worker =>
            cases worker with
            | busy i => exact Prod.ext (passOn_run k i) rfl
            | _ => rfl
    | packager k =>
        dsimp only
        unfold Pool.packager
        cases p.packaging.workers[k]? with
        | none => rfl
        | some worker =>
            cases worker with
            | busy i => exact Prod.ext (release_run k i) rfl
            | _ => rfl
    | main =>
        refine Prod.ext ?_ rfl
        show p.main.run = p.run
        unfold Pool.main
        split
        · split <;> rfl
        · split <;> rfl
        · rfl

/-- What every step that raises nothing keeps lasts through a calm run. -/
theorem follow_calm {I : Run → World → Prop}
    (keeps : ∀ r w i, I r w → (∀ t, r.tasks[i]? = some t → ¬ t.Raises plan w) →
      I ((r.advance plan i).run w).1 ((r.advance plan i).run w).2) :
    ∀ (schedule : List Turn) (p : Pool) (w : World), p.Calm plan schedule w → I p.run w →
      I ((Pool.follow plan schedule p).run w).1.run ((Pool.follow plan schedule p).run w).2
  | [], _, _, _, holds => holds
  | turn :: schedule, p, w, calm, holds => by
      obtain ⟨quiet, later⟩ := calm
      refine follow_calm keeps schedule ((p.advance plan turn).run w).1
        ((p.advance plan turn).run w).2 later ?_
      have step := advance_task plan p turn w
      cases advanced : p.task? turn with
      | none =>
          rw [advanced] at step
          obtain ⟨run, world⟩ := Prod.ext_iff.mp step
          dsimp only at run world
          rwa [run, world]
      | some i =>
          rw [advanced] at step
          obtain ⟨run, world⟩ := Prod.ext_iff.mp step
          dsimp only at run world
          rw [run, world]
          rw [advanced] at quiet
          exact keeps p.run w i holds quiet

/-! ## Notes of needed dependencies -/

/-- A note of a needed dependency. -/
def Note.IsNeed (n : Note) : Prop := ∃ slug version owner, n = .needed slug version owner

/-- What is noted as needed in a step is what an artifact with these options records at the end of
its way. -/
theorem step_needs {answers : Answers} {key : String} {config : ArtifactConfig}
    {stage stage' : Stage} {more : List Note} {n : Note}
    (step : Task.Step plan answers key config stage more stage') (noted : n ∈ more)
    (need : n.IsNeed) :
    ∃ r : Resolution, r.config = config ∧ stage' = plan.finishStage r ∧
      n ∈ (plan.recorded r).map (Plan.needNote r.coordinate) := by
  obtain ⟨slug, version, owner, rfl⟩ := need
  have finish : ∀ r : Resolution, Note.needed slug version owner ∈ plan.finishNotes r →
      Note.needed slug version owner ∈ (plan.recorded r).map (Plan.needNote r.coordinate) := by
    intro r listed
    refine (List.mem_append.mp listed).resolve_right ?_
    cases plan.labels r <;> simp
  have unknown : Note.needed slug version owner ∉ plan.unknownNotes := by
    unfold Plan.unknownNotes
    split <;> simp
  cases step with
  | @library a _ =>
      exact ⟨⟨a, config, .library⟩, rfl, rfl,
        finish _ ((List.mem_cons.mp noted).resolve_left (by simp))⟩
  | @file a _ _ =>
      refine ⟨⟨a, config, .file⟩, rfl, rfl, finish _ ?_⟩
      rcases List.mem_append.mp noted with told | made
      · exact absurd ((List.mem_cons.mp told).resolve_left (by simp)) unknown
      · exact made
  | inspected _ => exact ⟨_, rfl, rfl, finish _ noted⟩
  | _ => simp at noted

theorem story_needs {answers : Answers} {key : String} {config : ArtifactConfig}
    {stage : Stage} {notes : List Note} {n : Note}
    (story : Task.Story plan answers key config notes stage) (noted : n ∈ notes)
    (need : n.IsNeed) :
    ∃ r : Resolution, r.config = config ∧ stage = plan.finishStage r ∧
      n ∈ (plan.recorded r).map (Plan.needNote r.coordinate) := by
  induction story with
  | start => cases noted
  | next _ step ih =>
      rcases List.mem_append.mp noted with before | now
      · obtain ⟨r, options, reached, recorded⟩ := ih before
        -- the way has ended, and a step from there rests
        obtain ⟨fate, ended⟩ := finishStage_ended plan r
        rw [reached, ended] at step
        cases step
        exact ⟨r, options, ended.symm, recorded⟩
      · exact step_needs step now need

/-- A step that raises nothing and notes something needed ends with a declaration. -/
theorem step_rendered {t : Task} {w : World} {more : List Note} {stage : Stage}
    (calm : ¬ t.Raises plan w)
    (step : Task.Step plan (plan.answersIn w) t.key t.config t.stage more stage) {n : Note}
    (noted : n ∈ more) (need : n.IsNeed) : stage.declaration?.isSome = true := by
  have finish : ∀ (a : ResolvedArtifact) (form : Form),
      (¬ ∃ fault, plan.labels ⟨a, t.config, .file⟩ = .error fault) →
        (plan.finishStage ⟨a, t.config, form⟩).declaration?.isSome = true := by
    intro a form made
    have same : plan.labels ⟨a, t.config, form⟩ = plan.labels ⟨a, t.config, .file⟩ := rfl
    unfold Plan.finishStage
    cases labels : plan.labels ⟨a, t.config, form⟩ with
    | ok labels => rfl
    | error fault => exact absurd ⟨fault, same.symm.trans labels⟩ made
  obtain ⟨slug, version, owner, rfl⟩ := need
  unfold Task.Raises at calm
  generalize t.stage = before at step calm
  cases step with
  | @library a classes =>
      refine finish a .library fun refused => calm ⟨?_, refused⟩
      rintro aar
      rw [aar] at classes
      exact absurd classes (by decide)
  | @file a _ noAar => exact finish a .file fun refused => calm ⟨noAar, refused⟩
  | @inspected a file details answered =>
      exact finish a _ fun refused => calm (.inr ⟨⟨details, answered⟩, refused⟩)
  | _ => simp at noted

/-- In a calm run an artifact for which something is noted as needed has a declaration. -/
theorem calm_told {answers : Answers} {w : World} (cover : answers.Cover plan w)
    (schedule : List Turn) (m n : Nat)
    (calm : (Pool.start plan.specification m n).Calm plan schedule w) :
    ∃ parts arrival,
      ((Pool.follow plan schedule (.start plan.specification m n)).run w).1.run.Told plan answers
        parts arrival ∧
      ∀ e ∈ parts, ∀ note ∈ e.2, note.IsNeed → e.1.stage.declaration?.isSome = true := by
  obtain ⟨parts, arrival, told, -, rendered⟩ := follow_calm
    (I := fun r v => ∃ parts arrival, r.Told plan answers parts arrival ∧
      plan.resolver.Leads w (callsOf arrival) v ∧
      ∀ e ∈ parts, ∀ note ∈ e.2, note.IsNeed → e.1.stage.declaration?.isSome = true)
    (fun r v i ⟨parts, arrival, told, leads, rendered⟩ quiet => by
      have task := told_task told i
      cases found : parts[i]? with
      | none =>
          rw [found] at task
          rw [run_advance_none task]
          exact ⟨parts, arrival, told, leads, rendered⟩
      | some e =>
          rw [found] at task
          have listed : e ∈ parts := List.mem_of_getElem? found
          obtain ⟨more, stage, step, same, led⟩ := run_advance_explained plan task v
          rw [same]
          refine ⟨_, arrival ++ more,
            told_step told found (cover_admits cover told leads e listed more stage step), ?_, ?_⟩
          · rw [callsOf_append]
            exact leads_trans leads led
          · intro e' listed' note noted need
            rcases List.mem_or_eq_of_mem_set listed' with old | rfl
            · exact rendered e' old note noted need
            · rcases List.mem_append.mp noted with before | now
              · -- with a declaration the way has ended, and a step from there rests
                obtain ⟨⟨path, d⟩, kept⟩ := Option.isSome_iff_exists.mp
                  (rendered e listed note before need)
                rw [declaration_eq_some.mp kept] at step
                cases step
                rfl
              · exact step_rendered (quiet e.1 task) step now need)
    schedule (.start plan.specification m n) w calm
    ⟨_, [], told_start plan answers, .start, fun e listed note noted => by
      obtain ⟨_, -, rfl⟩ := List.mem_map.mp listed
      cases noted⟩
  exact ⟨parts, arrival, told, rendered⟩

theorem calm_rendered (schedule : List Turn) (m n : Nat) (w : World)
    (calm : (Pool.start plan.specification m n).Calm plan schedule w) :
    ∃ parts arrival,
      ((Pool.follow plan schedule (.start plan.specification m n)).run w).1.run.Told plan .any
        parts arrival ∧
      ∀ e ∈ parts, ∀ note ∈ e.2, note.IsNeed → e.1.stage.declaration?.isSome = true :=
  calm_told ⟨fun _ _ => trivial, fun _ _ => trivial, fun _ _ _ _ _ _ _ => trivial⟩ schedule m n calm

end Calm

/-! ## Entries of the ledger -/

/-- A ledger has each slug once, and under it each dependant once. -/
structure Ledger.Tidy (l : Ledger) : Prop where
  slugs : (l.entries.map Prod.fst).Nodup
  dependants : ∀ slug entry, l.find? slug = some entry → entry.dependants.Nodup

theorem addOnce_nodup {s : String} {members : List String} (nodup : members.Nodup) :
    (addOnce s members).Nodup := by
  unfold addOnce
  split
  · exact nodup
  · next new => exact nodup.append (List.nodup_singleton s) (by simpa using new)

theorem record_tidy {l : Ledger} (tidy : l.Tidy) (slug version : String)
    (dependant : Option String) : (l.record slug version dependant).Tidy where
  slugs := by
    show ((Table.putEntry _ _ _).map Prod.fst).Nodup
    rw [putEntry_keys]
    split
    · exact tidy.slugs
    · next new => exact tidy.slugs.append (List.nodup_singleton slug) (by simpa using new)
  dependants t entry found := by
    rw [Ledger.find?_record] at found
    split at found
    · cases found
      have before : ((l.find? slug).getD {}).dependants.Nodup := by
        cases known : l.find? slug with
        | none => exact List.nodup_nil
        | some entry => exact tidy.dependants slug entry known
      cases dependant with
      | none => exact before
      | some owner => exact addOnce_nodup before
    · exact tidy.dependants t entry found

theorem recordThese_tidy :
    ∀ (records : List (String × String × Option String)) {l : Ledger}, l.Tidy →
      (l.recordThese records).Tidy
  | [], _, tidy => tidy
  | e :: records, _, tidy => recordThese_tidy records (record_tidy tidy e.1 e.2.1 e.2.2)

theorem mem_missing {l : Ledger} (tidy : l.Tidy) {declared : List String}
    {e : String × LedgerEntry} :
    e ∈ Checks.missing l declared ↔ l.find? e.1 = some e.2 ∧ e.1 ∉ declared := by
  unfold Checks.missing sortedByKey
  rw [List.mem_filter, (List.mergeSort_perm _ _).mem_iff, mem_entries_iff tidy.slugs]
  simp [Table.find?]

/-! ## The missing artifacts of a run -/

section Told

variable {plan : Plan} {answers : Answers} {parts : List Part} {arrival : List Note} {r : Run}

/-- What arrived as needed is what a rendered artifact needs, in its own name. -/
theorem needed_iff (told : r.Told plan answers parts arrival)
    (rendered : ∀ e ∈ parts, ∀ note ∈ e.2, note.IsNeed → e.1.stage.declaration?.isSome = true)
    (slug owner : String) :
    (∃ version, Note.needed slug version owner ∈ arrival) ↔
      ∃ a, r.Needs a slug ∧ a.coordinate.text = owner := by
  constructor
  · rintro ⟨version, noted⟩
    obtain ⟨e, listed, own⟩ := List.mem_flatMap.mp (told.arrived.mem_iff.mp noted)
    have need : (Note.needed slug version owner).IsNeed := ⟨_, _, _, rfl⟩
    obtain ⟨res, options, reached, recorded⟩ := story_needs (told.stories e listed) own need
    obtain ⟨⟨path, d⟩, kept⟩ := Option.isSome_iff_exists.mp (rendered e listed _ own need)
    have ended := declaration_eq_some.mp kept
    obtain ⟨dep, among, same⟩ := List.mem_map.mp recorded
    simp only [Plan.needNote, Note.needed.injEq] at same
    obtain ⟨rfl, -, rfl⟩ := same
    -- only an artifact without a snippet or a list records anything
    have own : res.config.snippet.isNull = true ∧ res.config.deps = [] := by
      unfold Plan.recorded recordedDependencies at among
      split at among
      · next own => exact own
      · cases among
    cases made : plan.labels res with
    | error f =>
        rw [reached, Plan.finishStage, made] at ended
        cases ended
    | ok labels =>
        rw [reached, Plan.finishStage, made] at ended
        simp only [Stage.ended.injEq, Fate.declared.injEq] at ended
        obtain ⟨table, ds, -, found, all, -⟩ := labels_kept own.1 own.2 made
        refine ⟨res.artifact, ⟨e.1, (plan.entry res labels).1, (plan.entry res labels).2, ?_, ?_,
          rfl, ?_, ?_, ?_⟩, rfl⟩
        · rw [told.tasks]
          exact List.mem_map_of_mem listed
        · rw [reached, Plan.finishStage, made]
        · exact options ▸ own.1
        · exact options ▸ own.2
        · rw [← options]
          exact (kept_needs found _).mp ⟨dep, all ▸ among, rfl⟩
  · rintro ⟨a, ⟨t, path, d, listed, ended, rfl, snippet, deps, needs⟩, rfl⟩
    obtain ⟨notes, story, arrived⟩ := told_part told listed
    have declares := story_declares story ended
    obtain ⟨labels, made, -⟩ := declares.made
    rw [← declares.config] at snippet deps needs
    obtain ⟨table, ds, -, found, all, -⟩ := labels_kept snippet deps made
    obtain ⟨dep, among, rfl⟩ := (kept_needs found slug).mpr needs
    have recorded : Plan.needNote d.resolution.coordinate dep
        ∈ (plan.recorded d.resolution).map (Plan.needNote d.resolution.coordinate) :=
      List.mem_map_of_mem (all ▸ among)
    exact ⟨_, arrived _ (declares.noted _ (List.mem_append_left _ recorded))⟩

/-- The records of a run are those of declared and of needed artifacts. -/
theorem mem_records {slug version : String} {dependant : Option String} :
    (slug, version, dependant) ∈ arrival.filterMap Note.record? ↔
      (dependant = none ∧ ∃ c, Note.named c ∈ arrival ∧ c.slug = slug ∧ c.version = version) ∨
        ∃ owner, dependant = some owner ∧ Note.needed slug version owner ∈ arrival := by
  rw [List.mem_filterMap]
  constructor
  · rintro ⟨n, noted, recorded⟩
    cases n with
    | named c =>
        cases recorded
        exact .inl ⟨rfl, c, noted, rfl, rfl⟩
    | needed s v owner =>
        cases recorded
        exact .inr ⟨owner, rfl, noted⟩
    | _ => cases recorded
  · rintro (⟨rfl, c, noted, rfl, rfl⟩ | ⟨owner, rfl, noted⟩)
    · exact ⟨_, noted, rfl⟩
    · exact ⟨_, noted, rfl⟩

/-- The slugs that are declared in a finished run are those that the keys read. -/
theorem declared_iff (told : r.Told plan answers parts arrival) (done : r.Done) (slug : String) :
    slug ∈ r.progress.declaredSlugs ↔ ∃ e ∈ plan.specification.artifacts, ∃ c,
      Coordinate.ofString? e.1 = some c ∧ c.slug = slug := by
  have artifacts : r.tasks.map (fun t => (t.key, t.config)) = plan.specification.artifacts := by
    rw [← told.artifacts, told.tasks, List.map_map]
    rfl
  constructor
  · intro declared
    rw [told.progress, mem_declaredSlugs] at declared
    obtain ⟨c, noted, same⟩ := declared.resolve_left List.not_mem_nil
    obtain ⟨e, listed, own⟩ := List.mem_flatMap.mp (told.arrived.mem_iff.mp noted)
    refine ⟨(e.1.key, e.1.config), ?_, c, story_named_key (told.stories e listed) own, same⟩
    rw [← told.artifacts]
    exact List.mem_map.mpr ⟨e, listed, rfl⟩
  · rintro ⟨e, listed, c, parsed, rfl⟩
    rw [← artifacts] at listed
    obtain ⟨t, member, rfl⟩ := List.mem_map.mp listed
    obtain ⟨fate, ended⟩ := done t member
    exact told_slug told member parsed (by rw [ended]; simp)

theorem told_tidy (told : r.Told plan answers parts arrival) : r.progress.ledger.Tidy := by
  rw [told.progress, noteAll_ledger]
  exact recordThese_tidy _ ⟨List.nodup_nil, fun _ _ found => by cases found⟩

/-- The ledger of a run knows what is declared and what arrived as needed. -/
theorem told_known (told : r.Told plan answers parts arrival) (slug : String) :
    (r.progress.ledger.find? slug).isSome ↔ slug ∈ r.progress.declaredSlugs ∨
      ∃ version owner, Note.needed slug version owner ∈ arrival := by
  rw [told.progress, noteAll_ledger, Ledger.find?_recordThese, mem_declaredSlugs]
  constructor
  · rintro (old | ⟨⟨s, version, dependant⟩, recorded, rfl⟩)
    · cases old
    · rcases mem_records.mp recorded with ⟨-, c, noted, same, -⟩ | ⟨owner, -, noted⟩
      · exact .inl (.inr ⟨c, noted, same⟩)
      · exact .inr ⟨version, owner, noted⟩
  · rintro ((old | ⟨c, noted, rfl⟩) | ⟨version, owner, noted⟩)
    · cases old
    · exact .inr ⟨_, mem_records.mpr (.inl ⟨rfl, c, noted, rfl, rfl⟩), rfl⟩
    · exact .inr ⟨_, mem_records.mpr (.inr ⟨owner, rfl, noted⟩), rfl⟩

/-- What is found missing arrived as needed. -/
theorem missing_noted (told : r.Told plan answers parts arrival) {e : String × LedgerEntry}
    (missing : e ∈ r.missing) : ∃ version owner, Note.needed e.1 version owner ∈ arrival := by
  obtain ⟨found, new⟩ := (mem_missing (told_tidy told)).mp missing
  exact ((told_known told e.1).mp (by rw [found]; rfl)).resolve_left new

theorem told_missing (told : r.Told plan answers parts arrival) (done : r.Done)
    (rendered : ∀ e ∈ parts, ∀ note ∈ e.2, note.IsNeed → e.1.stage.declaration?.isSome = true) :
    plan.MissingExactly r := by
  have ledger : r.progress.ledger
      = Ledger.empty.recordThese (arrival.filterMap Note.record?) := by
    rw [told.progress, noteAll_ledger]
  have tidy := told_tidy told
  exact
    { artifacts := by
        rw [← told.artifacts, told.tasks, List.map_map]
        rfl
      reported := by
        intro slug
        have undeclared : slug ∉ r.progress.declaredSlugs ↔
            ∀ e ∈ plan.specification.artifacts, ∀ c, Coordinate.ofString? e.1 = some c →
              c.slug ≠ slug := by
          rw [declared_iff told done]
          simp only [not_exists, not_and, ne_eq]
        rw [← undeclared, List.mem_map]
        constructor
        · rintro ⟨e, missing, rfl⟩
          obtain ⟨-, new⟩ := (mem_missing tidy).mp missing
          obtain ⟨version, owner, noted⟩ := missing_noted told missing
          obtain ⟨a, needs, -⟩ := (needed_iff told rendered e.1 owner).mp ⟨version, noted⟩
          exact ⟨new, a, needs⟩
        · rintro ⟨new, a, needs⟩
          obtain ⟨version, noted⟩ := (needed_iff told rendered slug _).mpr ⟨a, needs, rfl⟩
          obtain ⟨entry, found⟩ := Option.isSome_iff_exists.mp
            ((told_known told slug).mpr (.inr ⟨version, _, noted⟩))
          exact ⟨(slug, entry), (mem_missing tidy).mpr ⟨found, new⟩, rfl⟩
      dependants := by
        intro e missing owner
        obtain ⟨found, -⟩ := (mem_missing tidy).mp missing
        have listed : owner ∈ e.2.dependants ↔ owner ∈ r.progress.ledger.dependantsOf e.1 := by
          rw [Ledger.dependantsOf, found]
          rfl
        rw [listed, ledger, Ledger.dependantsOf_recordThese, ← needed_iff told rendered]
        constructor
        · rintro (old | ⟨⟨s, version, dependant⟩, recorded, rfl, rfl⟩)
          · cases old
          · rcases mem_records.mp recorded with ⟨none, -⟩ | ⟨owner', same, noted⟩
            · cases none
            · cases same
              exact ⟨version, noted⟩
        · rintro ⟨version, noted⟩
          exact .inr ⟨_, mem_records.mpr (.inr ⟨owner, rfl, noted⟩), rfl, rfl⟩
      once := by
        intro e missing
        exact tidy.dependants e.1 e.2 ((mem_missing tidy).mp missing).1 }

end Told

/-! ## What is reported -/

/-- What is printed stays printed. -/
def Action.Extends {α : Type} (a : Action α) : Prop :=
  ∀ w, w.console.printed <:+ (a.perform w).2.console.printed

/-- A line was printed. -/
def World.Says (w : World) (line : String) : Prop := line ++ "\n" ∈ w.console.messages

/-- A missing artifact was reported: how to declare it, and how to exclude it from each artifact
that needs it. -/
structure World.Tells (w : World) (e : String × LedgerEntry) : Prop where
  addition : ∃ version, Version.highest e.2.versions = .ok version ∧
    w.Says (Checks.additionLine e.1 version)
  exclusions : ∀ owner ∈ e.2.dependants, w.Says (Checks.exclusionLine e.1 owner)

section Report

variable {α β : Type} {w v : World}

theorem extends_pure (x : α) : Action.Extends (pure x : Action α) := fun _ => List.suffix_refl _

theorem extends_bind {a : Action α} {f : α → Action β} (first : a.Extends)
    (second : ∀ x, (f x).Extends) : Action.Extends (a >>= f) := by
  intro w
  have left := first w
  rw [Action.perform_bind]
  rcases run : a.perform w with ⟨fault | x, v⟩ <;> rw [run] at left
  · exact left
  · exact left.trans (second x v)

theorem extends_ofExcept {ε : Type} (fault : ε → Fault) (x : Except ε α) :
    Action.Extends (Action.ofExcept fault x) := by
  intro w
  simpa only [Action.perform_ofExcept] using List.suffix_refl _

theorem print_extends (c : Console) (level : Level) (message : String) (lineEnd : Bool) :
    c.printed <:+ (c.print level message lineEnd).printed := by
  unfold Console.print
  split
  · exact List.suffix_cons _ _
  · exact List.suffix_refl _

theorem extends_say (message : String) :
    Action.Extends (liftM (Effect.say message) : Action PUnit) :=
  fun w => print_extends w.console _ _ _

theorem extends_change (write : FileSystem → Except Files.Fault FileSystem) :
    Action.Extends (Action.change write) := by
  intro w
  rw [Action.perform_change]
  cases write w.files <;> exact List.suffix_refl _

theorem extends_result {a : Action α} (more : a.Extends) : (Action.result a).Extends := more

theorem extends_write (path : Path) (text : String) :
    Action.Extends (Plan.write path text) := by
  unfold Plan.write
  refine extends_bind (extends_result (extends_change _)) fun answer => ?_
  split
  · exact extends_pure _
  · split
    · exact extends_bind (extends_say _) fun _ => extends_pure _
    · exact fun w => List.suffix_refl _
  · exact fun w => List.suffix_refl _

theorem extends_writeAliases (plan : Plan) (declared : List Declared) :
    (plan.writeAliases declared).Extends := by
  unfold Plan.writeAliases
  dsimp only
  split
  · exact extends_pure _
  · refine extends_bind (extends_write _ _) fun output => ?_
    split
    · exact extends_bind (extends_say _) fun _ => extends_pure _
    · exact extends_pure _

theorem says_mono {line : String} (more : w.console.printed <:+ v.console.printed)
    (said : w.Says line) : v.Says line := by
  unfold World.Says Console.messages at said ⊢
  rw [List.mem_reverse] at said ⊢
  exact more.subset said

theorem tells_mono {e : String × LedgerEntry} (more : w.console.printed <:+ v.console.printed)
    (told : w.Tells e) : v.Tells e where
  addition := by
    obtain ⟨version, highest, said⟩ := told.addition
    exact ⟨version, highest, says_mono more said⟩
  exclusions owner listed := says_mono more (told.exclusions owner listed)

theorem says_say (message : String) (w : World) :
    ((Effect.say message).run w).2.Says message := by
  show message ++ "\n" ∈ ((message ++ "\n") :: w.console.printed).reverse
  simp

theorem sayAll_extends (lines : List String) (w : World) :
    w.console.printed <:+ ((Checks.sayAll lines).run w).2.console.printed := by
  induction lines generalizing w with
  | nil => exact List.suffix_refl _
  | cons line lines ih =>
      have first := print_extends w.console .always line true
      exact first.trans (ih ((Effect.say line).run w).2)

theorem sayAll_says {line : String} :
    ∀ {lines : List String} (w : World), line ∈ lines →
      ((Checks.sayAll lines).run w).2.Says line
  | first :: lines, w, listed => by
      rcases List.mem_cons.mp listed with rfl | later
      · exact says_mono (sayAll_extends lines _) (says_say line w)
      · exact sayAll_says ((Effect.say first).run w).2 later

theorem extends_sayAll (lines : List String) :
    Action.Extends (liftM (Checks.sayAll lines) : Action PUnit) := sayAll_extends lines

theorem extends_forM {f : α → Action PUnit} (each : ∀ x, (f x).Extends) :
    ∀ xs : List α, Action.Extends (xs.forM f)
  | [] => extends_pure _
  | x :: xs => extends_bind (each x) fun _ => extends_forM each xs

/-- If actions for the members of a list are all performed, each of them is, in some world. -/
theorem forM_performed {f : α → Action PUnit} (each : ∀ x, (f x).Extends) :
    ∀ {xs : List α} {w v : World}, (xs.forM f).perform w = (.ok ⟨⟩, v) → ∀ x ∈ xs,
      ∃ w₁ w₂, (f x).perform w₁ = (.ok ⟨⟩, w₂) ∧ w₂.console.printed <:+ v.console.printed
  | x :: xs, w, v, ended, y, listed => by
      obtain ⟨_, w₁, first, rest⟩ := Action.perform_bind_ok.mp ended
      have more := extends_forM each xs w₁
      rw [show (xs.forM f).perform w₁ = (.ok ⟨⟩, v) from rest] at more
      rcases List.mem_cons.mp listed with rfl | later
      · exact ⟨w, w₁, first, more⟩
      · exact forM_performed each rest y later

/-- What is found missing is reported. -/
theorem report_tells {found : List (String × LedgerEntry)} {some : Bool}
    (ended : (Checks.report found Checks.reportMissing).perform w = (.ok some, v)) :
    ∀ e ∈ found, v.Tells e := by
  intro e listed
  unfold Checks.report at ended
  cases found with
  | nil => cases listed
  | cons x others =>
      rw [List.isEmpty_cons, if_neg (by simp), Action.perform_bind_ok] at ended
      obtain ⟨_, w₁, told, ended⟩ := ended
      cases ended
      unfold Checks.reportMissing at told
      rw [say_bind, say_bind, say_bind, Action.perform_bind_ok] at told
      obtain ⟨_, w₂, additions, told⟩ := told
      rw [say_bind] at told
      have exclusions : v = ((Checks.sayAll ((x :: others).flatMap fun e =>
          (sortedTexts e.2.dependants).map (Checks.exclusionLine e.1))).run _).2 :=
        (congrArg Prod.snd told).symm
      have each : ∀ e : String × LedgerEntry, Action.Extends (do
          let version ← Action.ofExcept .version (Version.highest e.2.versions)
          (liftM (Effect.say (Checks.additionLine e.1 version)) : Action PUnit)) :=
        fun e => extends_bind (extends_ofExcept _ _) fun _ => extends_say _
      obtain ⟨w₃, w₄, added, more⟩ := forM_performed each additions e listed
      obtain ⟨version, w₅, highest, said⟩ := Action.perform_bind_ok.mp added
      rw [Action.perform_ofExcept] at highest
      have later : w₂.console.printed <:+ v.console.printed := by
        rw [exclusions]
        have first := print_extends w₂.console .always
          "To exclude them, add them to the exclude lists of their dependants:" true
        exact first.trans (sayAll_extends _ { w₂ with console := _ })
      refine ⟨⟨version, ?_, says_mono (more.trans later) ?_⟩, fun owner needs => ?_⟩
      · cases computed : Version.highest e.2.versions with
        | error f => rw [computed] at highest; cases highest
        | ok version' => rw [computed] at highest; cases highest; rfl
      · obtain rfl : ((Effect.say (Checks.additionLine e.1 version)).run w₅).2 = w₄ :=
          congrArg Prod.snd said
        exact says_say _ w₅
      · rw [exclusions]
        refine sayAll_says _ (List.mem_flatMap.mpr ⟨e, listed, List.mem_map_of_mem ?_⟩)
        exact (List.mergeSort_perm _ _).mem_iff.mpr needs

/-- When a run is concluded, all that it is found to miss is reported. -/
theorem conclude_tells {plan : Plan} {p : Progress} {e : Ending}
    (ended : (plan.conclude p).perform w = (.ok e, v)) :
    ∀ found ∈ Checks.missing p.ledger p.declaredSlugs, v.Tells found := by
  intro found listed
  unfold Plan.conclude at ended
  rw [Action.perform_bind_ok] at ended
  obtain ⟨outputs, w₁, -, ended⟩ := ended
  rw [say_bind, Action.perform_bind_ok] at ended
  obtain ⟨findings, w₂, checked, ended⟩ := ended
  rw [Action.perform_bind_ok] at ended
  obtain ⟨more, w₃, aliases, ended⟩ := ended
  cases ended
  unfold Checks.run at checked
  rw [Action.perform_bind_ok] at checked
  obtain ⟨_, w₄, -, checked⟩ := checked
  rw [Action.perform_bind_ok] at checked
  obtain ⟨_, w₅, -, checked⟩ := checked
  rw [Action.perform_bind_ok] at checked
  obtain ⟨_, w₆, -, checked⟩ := checked
  rw [Action.perform_bind_ok] at checked
  obtain ⟨_, w₇, -, checked⟩ := checked
  rw [Action.perform_bind_ok] at checked
  obtain ⟨_, w₈, reported, checked⟩ := checked
  cases checked
  have told := report_tells reported found listed
  have later := extends_writeAliases plan (p.declared.map Prod.snd) w₂
  rw [aliases] at later
  exact tells_mono later told

end Report

/-! ## Runs -/

/-- When the artifacts of a valid specification have been processed and nothing was raised, what
is found missing is exactly what is needed and not declared; and if the run ends, all of it is
reported. -/
theorem missing_exact (plan : Plan) (schedule : List Turn) (w w₀ w₁ : World) (pool : Pool)
    (valid : plan.specification.problems = [])
    (prepared : plan.prepare.perform w = (.ok (), w₀))
    (calm : (Pool.start plan.specification plan.workers plan.workers).Calm plan schedule w₀)
    (followed : (Pool.follow plan schedule
      (.start plan.specification plan.workers plan.workers)).run w₀ = (pool, w₁))
    (returned : pool.phase = .returned) :
    plan.MissingExactly pool.run ∧
      ∀ e v, (plan.generateBy schedule).perform w = (.ok (some e), v) →
        e.progress = pool.run.progress ∧ ∀ found ∈ pool.run.missing, v.Tells found := by
  constructor
  · obtain ⟨parts, arrival, told, rendered⟩ :=
      calm_rendered schedule plan.workers plan.workers w₀ calm
    have orderly := orderly_reached (follow_reaches plan schedule
      (.start plan.specification plan.workers plan.workers) w₀)
    rw [followed] at told orderly
    exact told_missing told (ended_returned orderly returned) rendered
  · intro e v ended
    rw [generateBy_valid plan valid] at ended
    obtain ⟨w₀', pool', w₁', w₂, prepared', followed', -, concluded, rfl⟩ := runBy_parts ended
    rw [prepared] at prepared'
    cases prepared'
    rw [followed] at followed'
    cases followed'
    refine ⟨(conclude_ok concluded).progress, fun found listed => ?_⟩
    exact tells_mono (print_extends w₂.console _ _ _) (conclude_tells concluded found listed)

/-! ### Two artifacts that need a third one, of which one also adds a fourth -/

namespace Gap

def specification : Specification :=
  ⟨.str "maven", [("g:a:1", { Pair.config with included := [.str "i:c"] }), ("g:d:1", Pair.config)],
    .obj [], false, [], [], [], .str "rules", false, false⟩

def plan : Plan where
  specification := specification
  workspace := ⟨.here, ["w"]⟩
  resolver :=
    { resolve := fun c =>
        return .ok ⟨c, "jar", [{ group := "com.android.support", artifact := "design" },
          { group := "g", artifact := "a" }, { group := "h", artifact := "o", optional := true }]⟩
      download := fun _ => return { outcome := .notFound } }

def prepared : World := (plan.prepare.perform Pair.world).2

def processed : Pool × World :=
  (Pool.follow plan (inTurn 2) (.start plan.specification plan.workers plan.workers)).run prepared

end Gap

theorem gap_reported :
    Gap.processed.1.run.progress.ledger.dependantsOf "com.google.android.material:material"
        = ["g:a:1", "g:d:1"] ∧
      Gap.processed.1.run.progress.ledger.dependantsOf "i:c" = ["g:a:1"] ∧
      Gap.plan.MissingExactly Gap.processed.1.run := by
  have ready : Gap.plan.prepare.perform Pair.world = (.ok (), Gap.prepared) := by
    rcases made : Gap.plan.prepare.perform Pair.world with ⟨fault | ⟨⟩, w⟩
    · have passed : (Gap.plan.prepare.perform Pair.world).1.isOk = true := by decide
      rw [made] at passed
      cases passed
    · rw [Gap.prepared, made]
  have followed : (Pool.follow Gap.plan (inTurn 2)
      (.start Gap.plan.specification Gap.plan.workers Gap.plan.workers)).run Gap.prepared
        = (Gap.processed.1, Gap.processed.2) := by
    rw [← Gap.processed]
  have checked : Gap.processed.1.phase = .returned ∧
      (Pool.start Gap.plan.specification Gap.plan.workers Gap.plan.workers).Calm Gap.plan
        (inTurn 2) Gap.prepared ∧
      Gap.processed.1.run.progress.ledger.dependantsOf "com.google.android.material:material"
        = ["g:a:1", "g:d:1"] ∧
      Gap.processed.1.run.progress.ledger.dependantsOf "i:c" = ["g:a:1"] := by
    decide +kernel
  obtain ⟨returned, calm, material, added⟩ := checked
  exact ⟨material, added,
    (missing_exact Gap.plan (inTurn 2) Pair.world Gap.prepared Gap.processed.2 Gap.processed.1
      (by decide) ready calm followed returned).1⟩

end MavenImport
