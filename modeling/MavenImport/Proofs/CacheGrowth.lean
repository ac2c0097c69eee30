/-
# Proofs.CacheGrowth -- what fetching leaves in the cache for good

In files without links the files of artifacts have places of their own in the cache
(`localFile_eq`, `place_injective`).  While servers keep their answers, a cache only grows: a file
that it holds stays as it is, and a file that it gains is one that a server delivers
(`Source.Later`).

A file that was asked for is spent (`Source.Spent`): no server delivers it, or there is something
at its place, or nothing can be written there.  This lasts, and the cache never gains the file
later (`spent_held`).  So asking again changes no file, and comes to the same (`fetch_ends`).
-/
import MavenImport.Proofs.FetchIntegrity
import MavenImport.Proofs.LabelReading
import MavenImport.Proofs.PlainWrites
import MavenImport.Proofs.RepositoryPaths

namespace MavenImport

set_option autoImplicit false

/-! ## The files of artifacts -/

/-- The parts of a coordinate are texts whose segments between points are not empty and hold no
slash. -/
def Coordinate.Proper (c : Coordinate) : Prop :=
  ProperGroup c.group ∧ ProperGroup c.artifact ∧ ProperGroup c.version

instance (c : Coordinate) : Decidable c.Proper :=
  inferInstanceAs (Decidable (_ ∧ _ ∧ _))

/-- A file of an artifact, by its extension. -/
structure ArtifactFile where
  coordinate : Coordinate
  extension : String

namespace ArtifactFile

def path (x : ArtifactFile) : String := artifactPath x.coordinate x.extension none

def Proper (x : ArtifactFile) : Prop := x.coordinate.Proper ∧ '/' ∉ x.extension.toList

/-- The last name of the path. -/
def name (x : ArtifactFile) : String :=
  x.coordinate.artifact ++ "-" ++ x.coordinate.version ++ "." ++ x.extension

def names (x : ArtifactFile) : List String :=
  Text.splitAt '.' x.coordinate.group ++ [x.coordinate.artifact, x.coordinate.version, x.name]

end ArtifactFile

/-- The POM of an artifact. -/
def Coordinate.pomFile (c : Coordinate) : ArtifactFile := ⟨c, "pom"⟩

/-- The file of an Android library. -/
def Coordinate.aarFile (c : Coordinate) : ArtifactFile := ⟨c, "aar"⟩

/-- The main file of an artifact. -/
def ResolvedArtifact.mainFile (a : ResolvedArtifact) : ArtifactFile :=
  ⟨a.coordinate, mainExtension a.packaging⟩

theorem pomFile_proper {c : Coordinate} (proper : c.Proper) : c.pomFile.Proper :=
  ⟨proper, show '/' ∉ "pom".toList by decide⟩

theorem aarFile_proper {c : Coordinate} (proper : c.Proper) : c.aarFile.Proper :=
  ⟨proper, show '/' ∉ "aar".toList by decide⟩

section Names

theorem proper_slash {s : String} (proper : ProperGroup s) : '/' ∉ s.toList := by
  intro held
  obtain ⟨p, listed, within⟩ := Text.mem_pieces_of_mem (· == '.') held (by rfl)
  have none := (proper (String.ofList p) (List.mem_map_of_mem listed)).2
  rw [String.toList_ofList] at none
  exact none within

/-- A text with a segment that is empty is no name of a proper artifact. -/
theorem proper_name {s : String} (proper : ProperGroup s) : s ≠ "" ∧ s ≠ "." ∧ s ≠ ".." := by
  refine ⟨?_, ?_, ?_⟩ <;> rintro rfl <;> exact absurd proper (by decide)

variable {x y : ArtifactFile}

theorem proper_slashless {c : Coordinate} (proper : c.Proper) : c.Slashless :=
  ⟨proper_slash proper.1, proper_slash proper.2.1, proper_slash proper.2.2⟩

theorem names_eq (x : ArtifactFile) :
    x.names = fileNames x.coordinate (fileEnding x.extension none) := by
  unfold ArtifactFile.names ArtifactFile.name fileNames
  rw [fileEnding_none]
  simp only [String.append_assoc]

theorem name_dash : '-' ∈ x.name.toList := by simp [ArtifactFile.name]

theorem splitAt_path (proper : x.Proper) : Text.splitAt '/' x.path = x.names := by
  rw [names_eq]
  exact splitAt_artifactPath (proper_slashless proper.1) proper.2 isClassifier_none

/-- No name of a path means the directory itself or the one above it. -/
theorem names_solid (proper : x.Proper) : ∀ s ∈ x.names, s ≠ "" ∧ s ≠ "." ∧ s ≠ ".." := by
  obtain ⟨group, artifact, version⟩ := proper.1
  intro s listed
  unfold ArtifactFile.names at listed
  simp only [List.mem_append, List.mem_cons, List.not_mem_nil, or_false] at listed
  rcases listed with segment | rfl | rfl | rfl
  · have point := Text.not_mem_of_mem_splitAt segment
    refine ⟨(group s segment).1, ?_, ?_⟩ <;> rintro rfl <;> exact point (by decide)
  · exact proper_name artifact
  · exact proper_name version
  · have dash := name_dash (x := x)
    refine ⟨?_, ?_, ?_⟩ <;> intro same <;> rw [same] at dash <;> exact absurd dash (by decide)

/-- The files of different artifacts, and different files of one, have different names. -/
theorem names_injective (same : x.names = y.names) : x = y := by
  rw [names_eq, names_eq] at same
  obtain ⟨coordinates, endings⟩ := fileNames_injective same
  have extensions := (fileEnding_injective isClassifier_none isClassifier_none endings).1
  obtain ⟨c, e⟩ := x
  obtain ⟨c', e'⟩ := y
  simp only at coordinates extensions
  rw [coordinates, extensions]

end Names

/-! ## Their places -/

namespace Source

/-- What a cache holds of an artifact. -/
def held? (s : Source) (f : FileSystem) (x : ArtifactFile) : Option ByteArray :=
  match f.seen? (f.placeOf (s.localFile x.path)) with
  | some (.file bytes) => some bytes
  | _ => none

/-- What the repositories deliver of an artifact. -/
def delivered? (s : Source) (web : Web) (x : ArtifactFile) : Option ByteArray :=
  match (s.inquire web x.path [] (s.admitted x.coordinate.isSnapshot)).delivery with
  | .content _ body => some body
  | _ => none

/-- One file system comes after another one, as far as artifacts are concerned, while servers keep
their answers: entries last, contents of files in the cache too, and what is new there was
delivered. -/
structure Later (s : Source) (web : Web) (f g : FileSystem) : Prop where
  plain : g.Plain
  lasts : f.Lasts g
  kept : ∀ x : ArtifactFile, x.Proper → ∀ bytes, s.held? f x = some bytes →
    s.held? g x = some bytes
  stored : ∀ x : ArtifactFile, x.Proper → ∀ bytes, s.held? g x = some bytes →
    s.held? f x = some bytes ∨
      s.delivered? web x = some bytes ∧ f.bar? (s.localFile x.path) = none

/-- Asking for a file has no effect any more. -/
def Spent (s : Source) (web : Web) (f : FileSystem) (x : ArtifactFile) : Prop :=
  s.delivered? web x = none ∨ f.entryAt? (f.placeOf (s.localFile x.path)) ≠ none ∨
    f.bar? (s.localFile x.path) ≠ none

/-- An address is that of a file that is not in the cache, or of the digest beside it. -/
def Lacks (s : Source) (f : FileSystem) (asked : String) : Prop :=
  ∃ path r url, r ∈ s.repositories ∧ Source.address r path = .ok url ∧
    (asked = Web.target url ∨ asked = Web.target (url ++ ".sha1")) ∧
      f.pathExists (s.localFile path) = .ok false

end Source

variable {s : Source} {web : Web} {f g h : FileSystem} {x y : ArtifactFile}

section Places

theorem ofString_path (proper : x.Proper) : Path.ofString x.path = ⟨.here, x.names⟩ := by
  have names : Path.namesOf x.path = x.names := by
    unfold Path.namesOf
    rw [splitAt_path proper]
    refine List.filter_eq_self.mpr fun n listed => ?_
    simpa using ⟨(names_solid proper n listed).1, (names_solid proper n listed).2.1⟩
  have relative : ∀ rest, x.path.toList ≠ '/' :: rest := by
    intro rest text
    have first : "" ∈ Text.splitAt '/' x.path := by
      unfold Text.splitAt
      rw [text]
      exact List.mem_cons_self
    rw [splitAt_path proper] at first
    exact (names_solid proper "" first).1 rfl
  unfold Path.ofString
  rw [names]
  dsimp only
  split
  · next text => exact absurd text (relative _)
  · next text => exact absurd text (relative _)
  · next text => exact absurd text (relative _)
  · rfl

theorem joinText_path (proper : x.Proper) (p : Path) :
    p.joinText x.path = ⟨p.anchor, p.names ++ x.names⟩ := by
  unfold Path.joinText
  rw [ofString_path proper, Path.join_here]

/-- The file of an artifact lies below the cache directory. -/
theorem localFile_eq (proper : x.Proper) :
    s.localFile x.path = ⟨s.cache.anchor, s.cache.names ++ x.names⟩ :=
  joinText_path proper s.cache

theorem place_eq (proper : x.Proper) :
    f.placeOf (s.localFile x.path) = f.placeOf s.cache ++ x.names := by
  rw [localFile_eq proper]
  unfold FileSystem.placeOf
  rw [← List.append_assoc]
  rfl

theorem place_injective (proper : x.Proper) (proper' : y.Proper)
    (same : f.placeOf (s.localFile x.path) = f.placeOf (s.localFile y.path)) : x = y := by
  rw [place_eq proper, place_eq proper'] at same
  exact names_injective (List.append_cancel_left same)

theorem localFile_straight (straight : s.cache.Straight) (proper : x.Proper) :
    (s.localFile x.path).Straight := by
  rw [localFile_eq proper]
  intro up
  rcases List.mem_append.mp up with own | below
  · exact straight own
  · exact (names_solid proper _ below).2.2 rfl

theorem localFile_named (proper : x.Proper) : (s.localFile x.path).names ≠ [] := by
  rw [localFile_eq proper]
  simp [ArtifactFile.names]

theorem held_eq_some {bytes : ByteArray} :
    s.held? f x = some bytes ↔
      f.seen? (f.placeOf (s.localFile x.path)) = some (.file bytes) := by
  unfold Source.held?
  rcases f.seen? (f.placeOf (s.localFile x.path)) with - | ⟨- | bytes' | target⟩ <;> simp

theorem held_absent (absent : f.entryAt? (f.placeOf (s.localFile x.path)) = none) :
    s.held? f x = none := by
  unfold Source.held?
  rw [seen_none.mpr absent]

theorem held_present {bytes : ByteArray} (held : s.held? f x = some bytes) :
    f.entryAt? (f.placeOf (s.localFile x.path)) ≠ none := by
  intro absent
  rw [held_absent absent] at held
  cases held

/-- The cache holds of a file what reading it gives. -/
theorem held_readFile (straight : s.cache.Straight) (proper : x.Proper) (plain : f.Plain) :
    s.held? f x = (f.readFile (s.localFile x.path)).toOption := by
  ext bytes
  rw [held_eq_some, ← readFile_plain plain (localFile_straight straight proper)]
  cases f.readFile (s.localFile x.path) <;> simp [Except.toOption]

end Places

/-! ## Growing -/

theorem later_refl (plain : f.Plain) : s.Later web f f :=
  ⟨plain, lasts_refl f, fun _ _ _ held => held, fun _ _ _ held => .inl held⟩

theorem later_trans (first : s.Later web f g) (second : s.Later web g h) : s.Later web f h where
  plain := second.plain
  lasts := lasts_trans first.lasts second.lasts
  kept x proper bytes held := second.kept x proper bytes (first.kept x proper bytes held)
  stored x proper bytes held := by
    rcases second.stored x proper bytes held with before | ⟨delivered, free⟩
    · exact first.stored x proper bytes before
    · refine .inr ⟨delivered, ?_⟩
      cases barred : f.bar? (s.localFile x.path) with
      | none => rfl
      | some cause =>
          obtain ⟨cause', still, -⟩ := bar_lasts first.lasts barred
          rw [still] at free
          cases free

theorem spent_later (plain : f.Plain) (later : s.Later web f g) (spent : s.Spent web f x) :
    s.Spent web g x := by
  rcases spent with none | present | barred
  · exact .inl none
  · refine .inr (.inl ?_)
    rw [placeOf_lasts later.lasts]
    exact lasts_present later.lasts plain present
  · obtain ⟨cause, barred⟩ := Option.ne_none_iff_exists'.mp barred
    obtain ⟨cause', still, -⟩ := bar_lasts later.lasts barred
    exact .inr (.inr (by rw [still]; simp))

/-- The cache holds of a spent file what it held. -/
theorem spent_held (plain : f.Plain) (later : s.Later web f g) (spent : s.Spent web f x)
    (proper : x.Proper) : s.held? g x = s.held? f x := by
  cases before : s.held? f x with
  | some bytes => exact later.kept x proper bytes before
  | none =>
      cases after : s.held? g x with
      | none => rfl
      | some bytes =>
          rcases later.stored x proper bytes after with held | ⟨delivered, free⟩
          · rw [before] at held
            cases held
          · rcases spent with none | present | barred
            · rw [none] at delivered
              cases delivered
            · -- what was there and no file was a directory, and it still is
              have seen := held_eq_some.mp after
              rw [placeOf_lasts later.lasts] at seen
              rcases entry : f.entryAt? (f.placeOf (s.localFile x.path)) with - | ⟨- | i | target⟩
              · exact absurd entry present
              · have still := later.lasts.directory _ entry
                rw [← seen_directory, seen] at still
                cases still
              · have held := held_eq_some.mpr (seen_file.mpr ⟨i, entry, rfl⟩)
                rw [before] at held
                cases held
              · exact absurd entry (plain.unlinked _ _)
            · exact absurd free barred

section Writes

/-- Storing what was delivered of an artifact makes the cache grow. -/
theorem store_later (plain : f.Plain) (straight : s.cache.Straight) (proper : x.Proper)
    {body : ByteArray} (absent : f.entryAt? (f.placeOf (s.localFile x.path)) = none)
    (delivered : s.delivered? web x = some body)
    (written : f.replaceFile (s.localFile x.path) body = .ok g) :
    s.Later web f g ∧ s.held? g x = some body := by
  obtain ⟨plain', here, seen, others, -⟩ :=
    replaceFile_plain plain (localFile_straight straight proper) written
  have lasts := replaceFile_lasts written
  have free := free_of_written plain (localFile_straight straight proper) (localFile_named proper)
    written
  have held : s.held? g x = some body := held_eq_some.mpr (by rw [placeOf_lasts lasts]; exact seen)
  refine ⟨⟨plain', lasts, fun y proper' bytes before => ?_, fun y proper' bytes after => ?_⟩, held⟩
  · have other : f.placeOf (s.localFile y.path) ≠ f.placeOf (s.localFile x.path) := by
      intro same
      obtain rfl := place_injective proper' proper same
      exact held_present before absent
    rw [held_eq_some] at before ⊢
    rw [placeOf_lasts lasts]
    rcases others _ other with same | ⟨none, -⟩
    · rw [same]
      exact before
    · rw [none] at before
      cases before
  · by_cases same : f.placeOf (s.localFile y.path) = f.placeOf (s.localFile x.path)
    · obtain rfl := place_injective proper' proper same
      rw [held] at after
      cases after
      exact .inr ⟨delivered, free⟩
    · rw [held_eq_some, placeOf_lasts lasts] at after
      rcases others _ same with kept | ⟨-, directory⟩
      · rw [kept] at after
        exact .inl (held_eq_some.mpr after)
      · rw [directory] at after
        cases after

/-- Changes at places that no file of an artifact has leave the cache as it is. -/
theorem apart_later (plain' : g.Plain) (lasts : f.Lasts g)
    (apart : ∀ x : ArtifactFile, x.Proper → g.seen? (f.placeOf (s.localFile x.path))
      = f.seen? (f.placeOf (s.localFile x.path))) : s.Later web f g := by
  have same : ∀ x : ArtifactFile, x.Proper → s.held? g x = s.held? f x := by
    intro x proper
    unfold Source.held?
    rw [placeOf_lasts lasts, apart x proper]
  exact ⟨plain', lasts, fun x proper bytes held => by rw [same x proper, held],
    fun x proper bytes held => .inl (by rw [← same x proper, held])⟩

end Writes

/-! ## Fetching -/

/-- How asking for a file ends, as far as later questions are concerned. -/
structure Source.FetchEnds (s : Source) (web : Web) (x : ArtifactFile) (w : World)
    (ended : Except Fault FetchStatus × World) : Prop where
  later : s.Later web w.files ended.2.files
  spent : s.Spent web ended.2.files x
  sameWeb : ended.2.web = w.web
  sameModels : ended.2.models = w.models
  /-- Nothing is asked for that is in the cache. -/
  requests : ∃ urls, ended.2.requested = urls ++ w.requested ∧
    ∀ url ∈ urls, s.Lacks w.files url
  still : s.Spent web w.files x → ended.2.files = w.files
  /-- What the cache holds now is found. -/
  found : ∀ bytes, s.held? ended.2.files x = some bytes → ∃ status, ended.1 = .ok status ∧
    status.localFile = some (s.localFile x.path) ∧ status.isSuccess = true
  only : ∀ status file, ended.1 = .ok status → status.localFile = some file →
    file = s.localFile x.path

/-- If no status with a file is given, the cache holds none. -/
theorem Source.FetchEnds.lost {w : World} {ended : Except Fault FetchStatus × World}
    (ends : s.FetchEnds web x w ended)
    (unfound : ∀ status, ended.1 = .ok status → status.isSuccess = true →
      status.localFile = none) : s.held? ended.2.files x = none := by
  cases held : s.held? ended.2.files x with
  | none => rfl
  | some bytes =>
      obtain ⟨status, answered, file, success⟩ := ends.found bytes held
      rw [unfound status answered success] at file
      cases file

section Fetch

/-- What is asked is the address of the file in a repository, or that of its digest. -/
theorem inquire_urls (path : String) :
    ∀ (rs : List Repository) (errors : List (Json × Attempt)),
      ∀ url ∈ (s.inquire web path errors rs).urls, ∃ r ∈ rs, ∃ base,
        Source.address r path = .ok base ∧ (url = base ∨ url = base ++ ".sha1")
  | [], errors, url, listed => by
      rw [Source.inquire] at listed
      split at listed <;> cases listed
  | r :: rs, errors, url, listed => by
      cases located : Source.address r path with
      | error fault =>
          rw [Source.inquire, located] at listed
          cases listed
      | ok base =>
          by_cases sent : ∃ reason body, web.reply base = .response 200 reason body
          · obtain ⟨reason, body, sent⟩ := sent
            simp only [Source.inquire, located, sent] at listed
            refine ⟨r, List.mem_cons_self, base, located, ?_⟩
            simpa using listed
          · rw [inquire_refused located fun reason body answered => sent ⟨reason, body, answered⟩]
              at listed
            split at listed
            · exact ⟨r, List.mem_cons_self, base, located, .inl (List.mem_singleton.mp listed)⟩
            · rcases List.mem_cons.mp listed with rfl | later
              · exact ⟨r, List.mem_cons_self, url, located, .inl rfl⟩
              · obtain ⟨r', member, rest⟩ := inquire_urls path rs _ url later
                exact ⟨r', List.mem_cons_of_mem r member, rest⟩

/-- If there is nothing to keep, the status has no file. -/
theorem inquire_nothing {path : String} {rs : List Repository} {status : FetchStatus}
    (nothing : (s.inquire web path [] rs).delivery = .nothing status) : status.localFile = none := by
  rcases inquire_cases s web path rs [] (fun e member => absurd member List.not_mem_nil) with
    ⟨fault, broken⟩ | ⟨_, r, _, _, url, _, body, _, _, _, _, same⟩ | ⟨_, status', _, same, _, lost⟩
  · rw [broken] at nothing
    cases nothing
  · rw [same] at nothing
    rcases judge_cases web r url body with ⟨-, judged⟩ | ⟨-, status', judged, -, lost⟩
    · rw [show Source.judge web r url body = .nothing status from nothing] at judged
      cases judged
    · rw [show Source.judge web r url body = .nothing status from nothing] at judged
      cases judged
      exact lost
  · rw [same] at nothing
    cases nothing
    exact lost

/-- Nothing was had of a file that was not there, and asking for it again will not do either. -/
theorem fetchEnds_without {w : World} (plain : w.files.Plain)
    (absent : w.files.entryAt? (w.files.placeOf (s.localFile x.path)) = none)
    (spent : s.Spent w.web w.files x) {urls : List String}
    (lacking : ∀ url ∈ urls, s.Lacks w.files url) {answer : Except Fault FetchStatus}
    (lost : ∀ status, answer = .ok status → status.localFile = none) :
    s.FetchEnds w.web x w (answer, { w with requested := urls ++ w.requested }) where
  later := later_refl plain
  spent := spent
  sameWeb := rfl
  sameModels := rfl
  requests := ⟨urls, rfl, lacking⟩
  still _ := rfl
  found bytes held := absurd absent (held_present held)
  only status file answered found := by
    rw [lost status answered] at found
    cases found

/-- A file was there, or has been stored. -/
theorem fetchEnds_with {w : World} {files : FileSystem} (later : s.Later w.web w.files files)
    (present : files.entryAt? (files.placeOf (s.localFile x.path)) ≠ none) {urls : List String}
    (lacking : ∀ url ∈ urls, s.Lacks w.files url) (still : s.Spent w.web w.files x → files = w.files)
    {status : FetchStatus} (file : status.localFile = some (s.localFile x.path))
    (success : status.isSuccess = true) : s.FetchEnds w.web x w
      (.ok status, { w with files := files, requested := urls ++ w.requested }) where
  later := later
  spent := .inr (.inl present)
  sameWeb := rfl
  sameModels := rfl
  requests := ⟨urls, rfl, lacking⟩
  still := still
  found _ _ := ⟨status, rfl, file, success⟩
  only status' file' answered found := by
    cases answered
    exact Option.some.inj (found.symm.trans file)

/-- Whatever comes of asking for a file, from then on it is spent; and if it was spent before,
the files stay as they are. -/
theorem fetch_ends (straight : s.cache.Straight) (proper : x.Proper) {w : World}
    (plain : w.files.Plain) :
    s.FetchEnds w.web x w ((s.fetch x.path x.coordinate.isSnapshot).perform w) := by
  have straight' := localFile_straight straight proper
  have there := pathExists_plain plain straight'
  have nothing : ∀ url ∈ ([] : List String), s.Lacks w.files url :=
    fun url none => absurd none List.not_mem_nil
  rw [fetch_eq]
  cases exist : w.files.pathExists (s.localFile x.path) with
  | error fault =>
      obtain ⟨absent, barred⟩ := bar_of_unknown plain straight' exist
      exact fetchEnds_without plain absent (.inr (.inr barred)) nothing nofun
  | ok present =>
      cases present with
      | true =>
          exact fetchEnds_with (later_refl plain) (there.mp exist) nothing (fun _ => rfl) rfl rfl
      | false =>
          have absent : w.files.entryAt? (w.files.placeOf (s.localFile x.path)) = none := by
            by_contra present
            rw [there.mpr present] at exist
            cases exist
          have lacking : ∀ asked ∈ ((s.inquire w.web x.path []
              (s.admitted x.coordinate.isSnapshot)).urls.map Web.target).reverse,
              s.Lacks w.files asked := by
            intro asked listed
            obtain ⟨url, inquired, rfl⟩ := List.mem_map.mp (List.mem_reverse.mp listed)
            obtain ⟨r, member, base, located, same⟩ := inquire_urls x.path _ _ url inquired
            exact ⟨x.path, r, base, (List.mem_filter.mp member).1, located,
              same.imp (congrArg Web.target) (congrArg Web.target), exist⟩
          dsimp only
          cases asked : (s.inquire w.web x.path []
              (s.admitted x.coordinate.isSnapshot)).delivery with
          | broken fault =>
              have undelivered : s.delivered? w.web x = none := by rw [Source.delivered?, asked]
              exact fetchEnds_without plain absent (.inl undelivered) lacking nofun
          | nothing status =>
              have undelivered : s.delivered? w.web x = none := by rw [Source.delivered?, asked]
              refine fetchEnds_without plain absent (.inl undelivered) lacking fun _ answered => ?_
              rw [← Except.ok.inj answered, inquire_nothing asked]
          | content r body =>
              have delivered : s.delivered? w.web x = some body := by rw [Source.delivered?, asked]
              rw [Source.receive, Action.perform_bind, Action.perform_change]
              dsimp only
              cases barred : w.files.bar? (s.localFile x.path) with
              | none =>
                  obtain ⟨files, written⟩ :=
                    replaceFile_free plain straight' (localFile_named proper) barred body
                  obtain ⟨later, held⟩ := store_later plain straight proper absent delivered written
                  rw [written]
                  refine fetchEnds_with later (held_present held) lacking ?_ rfl rfl
                  rintro (none | present | barred')
                  · rw [none] at delivered
                    cases delivered
                  · exact absurd absent present
                  · exact absurd barred barred'
              | some cause =>
                  obtain ⟨fault, refused, -⟩ :=
                    replaceFile_barred plain straight' (localFile_named proper) barred body
                  rw [refused]
                  exact fetchEnds_without plain absent (.inr (.inr (by rw [barred]; simp)))
                    lacking nofun

end Fetch

end MavenImport
