/-
# Proofs.KeptModels -- putting models together from the bottom up

Where the models that a POM refers to are kept already, its own model is put together from them
without asking for any other POM, and is kept as well (`modelOf_from_kept`).  So a source that
resolves imports and parents first has the model of an artifact after as many steps as there are
POMs, whatever the depth.
-/
import MavenImport.Proofs.Inheritance
import MavenImport.Proofs.OfflineReplay

namespace MavenImport

set_option autoImplicit false

namespace Source

variable {s : Source} {v : World} {c : Coordinate} {pom : Pom} {m : Model}

/-- The POM of a file in the cache is loaded from it. -/
theorem loadPom_from_file {inode : Nat}
    (found : (v.files.status (s.localFile (artifactPath c "pom" none))).toOption
      = some (.file inode))
    (parsed : Pom.ofBytes (v.files.content inode) = .ok pom) :
    (s.loadPom c).perform v = (.ok (.ok pom), v) := by
  have readable : v.files.readFile (s.localFile (artifactPath c "pom" none))
      = .ok (v.files.content inode) := by
    rw [FileSystem.readFile, Family.ok_of_toOption found]
  exact loadPom_cached readable parsed

theorem gives_of_loaded (loaded : (s.loadPom c).perform v = (.ok (.ok pom), v)) :
    s.Gives v c pom :=
  ⟨v, .start, by rw [loaded]; rfl⟩

/-- The model that a world keeps for a coordinate. -/
def KeptIn (v : World) (c : Coordinate) (m : Model) : Prop := v.models.find? c.text = some m

theorem manageAll_from_kept {n : Nat} {draft draft' : Draft} {ds : List Dependency}
    (manages : draft.Manages (KeptIn v) ds draft') :
    (manageAll (s.modelOf n) draft ds).perform v = (.ok (.ok draft'), v) := by
  induction manages with
  | done draft => rfl
  | takes own _ ih =>
      rw [manageAll, if_neg (by simp [own]), ih]
  | @passes draft draft' d ds isImport unversioned _ ih =>
      have none : given? (draft.interpolate d).version = none := by
        simpa [Draft.imported?, isImport] using unversioned
      rw [manageAll, if_pos isImport, none]
      exact ih
  | @imports draft draft' d ds c m named kept _ ih =>
      have isImport := isImport_of_imported named
      have found : (given? (draft.interpolate d).version).map
          (fun version => (⟨(draft.interpolate d).group, (draft.interpolate d).artifact, version⟩ :
            Coordinate)) = some c := by
        simpa [Draft.imported?, isImport] using named
      obtain ⟨version, given, rfl⟩ := Option.map_eq_some_iff.mp found
      rw [manageAll, if_pos isImport, given]
      dsimp only
      rw [Action.perform_bind, modelOf_found kept]
      exact ih

theorem mergeModel_from_kept {n : Nat} (into : pom.MergesInto (KeptIn v) c m) :
    (mergeModel (s.modelOf n) c pom).perform v = (.ok (.ok m), v) := by
  obtain ⟨start, draft, starts, manages, rfl⟩ := into
  have started : (startDraft (s.modelOf n) pom).perform v = (.ok (.ok start), v) := by
    cases starts with
    | alone orphan =>
        rw [startDraft, orphan]
        rfl
    | inherits named kept =>
        rw [startDraft, named]
        dsimp only
        rw [Action.perform_bind, modelOf_found kept]
        rfl
  rw [mergeModel, Action.perform_bind, started]
  dsimp only
  rw [Action.perform_bind, manageAll_from_kept manages]
  rfl

/-- A model is put together from those that are kept. -/
theorem modelOf_from_kept (missing : v.models.find? c.text = none)
    (loaded : (s.loadPom c).perform v = (.ok (.ok pom), v))
    (into : pom.MergesInto (KeptIn v) c m) (n : Nat) : (s.modelOf (n + 1) c).perform v
      = (.ok (.ok m), { v with models := v.models.put c.text m }) := by
  rw [modelOf_new missing, newModel, Action.perform_bind, loaded]
  dsimp only
  rw [Action.perform_bind, mergeModel_from_kept into]
  rfl

theorem resolve_from_kept (missing : v.models.find? c.text = none)
    (loaded : (s.loadPom c).perform v = (.ok (.ok pom), v))
    (into : pom.MergesInto (KeptIn v) c m) : (s.resolve c).perform v
      = (.ok (.ok (m.resolved c)), { v with models := v.models.put c.text m }) := by
  rw [resolve, Action.perform_bind, maxNesting, modelOf_from_kept missing loaded into]
  rfl

end Source

end MavenImport
