/-
# Proofs.DigestGate -- nothing unverified gets into a workspace

An artifact that is fetched is accepted first and placed then.  To accept it takes files into the
cache and nothing else (`refuses_grows`), so a workspace that is apart from the cache is as it was
for any artifact that is refused: one that is not named well, is not resolved or not had, or whose
main file has another digest than the one that is expected (`Source.Refuses`).  That the ways of
the cache stay out of the workspace takes more than two places apart: a path to the cache through a
directory of the workspace that is missing, a link in the cache, and the name of a parent that goes
up lead into it (`gate_circumvented`).

What is placed are second names for the very files that were accepted.  While more files are taken
into the cache those that are there stay, so the POM that was read is still there when the main file
has been checked (`verifies_stores`), and the package holds both (`place_holds`).
-/
import MavenImport.Proofs.DeclaredArtifacts
import MavenImport.Proofs.GrowingCache
import MavenImport.Proofs.KeptModels

namespace MavenImport

open FileSystem (Enters)
open MavenImport.Action (perform_bind_ok perform_change_ok perform_inspect_ok perform_ofExcept_ok)

set_option autoImplicit false

namespace Source

/-- An artifact is not there, or is not what is expected; the last world is the one in which this
comes out. -/
inductive Refuses (s : Source) (w : World) (spec expected : String) : World → Prop
  | malformed (unread : Coordinate.ofString? spec = none) : Refuses s w spec expected w
  | unresolved {c : Coordinate} {failure : ResolutionFailure} {u : World}
      (read : Coordinate.ofString? spec = some c)
      (failed : (s.resolve c).perform w = (.ok (.error failure), u)) : Refuses s w spec expected u
  | unavailable {c : Coordinate} {a : ResolvedArtifact} {status : FetchStatus} {t u : World}
      (read : Coordinate.ofString? spec = some c)
      (resolved : (s.resolve c).perform w = (.ok (.ok a), t))
      (asked : (s.download a).perform t = (.ok status, u)) (failed : status.isSuccess = false) :
      Refuses s w spec expected u
  | mismatched {c : Coordinate} {a : ResolvedArtifact} {status : FetchStatus} {t u : World}
      {payload : ByteArray} (read : Coordinate.ofString? spec = some c)
      (resolved : (s.resolve c).perform w = (.ok (.ok a), t))
      (asked : (s.download a).perform t = (.ok status, u))
      (had : u.files.readFile (s.localFile a.mainPath) = .ok payload)
      (differs : Digest.sha256 payload ≠ Text.lower expected) : Refuses s w spec expected u

/-- An artifact is resolved and had in the cache, and its main file is what is expected. -/
inductive Verifies (s : Source) (w : World) (spec expected : String) (a : ResolvedArtifact)
    (payload : ByteArray) (u : World) : Prop
  | verified {c : Coordinate} {status : FetchStatus} {t : World}
      (read : Coordinate.ofString? spec = some c)
      (resolved : (s.resolve c).perform w = (.ok (.ok a), t))
      (asked : (s.download a).perform t = (.ok status, u)) (success : status.isSuccess = true)
      (had : u.files.readFile (s.localFile a.mainPath) = .ok payload)
      (same : Digest.sha256 payload = Text.lower expected)

/-- The coordinates that a text leads to, and the packaging of what it stands for, are such that
the files of artifacts have names of their own. -/
structure NamesProperly (s : Source) (w : World) (spec : String) : Prop where
  coordinates : ∀ c, Coordinate.ofString? spec = some c → ∀ d, s.Refers w c d → d.Proper
  packaging : ∀ c a u, Coordinate.ofString? spec = some c →
    (s.resolve c).perform w = (.ok (.ok a), u) → '/' ∉ a.packaging.toList

/-- A workspace and a package are apart from the cache, the way to the cache makes no directory in
the workspace, and neither the cache nor the package has links. -/
structure Separate (s : Source) (f : FileSystem) (workspace directory : Path) : Prop where
  cache : f.Bare (f.resolve s.cache)
  package : f.Bare (f.resolve directory)
  workspaceApart : Apart (f.resolve s.cache) (f.resolve workspace)
  packageApart : Apart (f.resolve s.cache) (f.resolve directory)
  bypasses : f.Bypasses s.cache (f.resolve workspace)

end Source

/-! ## How digests are written -/

section Digits

/-- The digits that digests are written with. -/
def digestDigits : List Char := "0123456789abcdef".toList

theorem hexDigit_mem {n : Nat} (small : n < 16) : Text.hexDigit n ∈ digestDigits := by
  have all : ∀ n < 16, Text.hexDigit n ∈ digestDigits := by decide
  exact all n small

theorem hexDigits_mem {c : Char} :
    ∀ {width n : Nat}, c ∈ Text.hexDigits width n → c ∈ digestDigits
  | 0, _, listed => by cases listed
  | width + 1, n, listed => by
      rcases List.mem_append.mp listed with front | last
      · exact hexDigits_mem front
      · rw [List.mem_singleton.mp last]
        exact hexDigit_mem (Nat.mod_lt n (by decide))

theorem hexDigits_length : ∀ width n : Nat, (Text.hexDigits width n).length = width
  | 0, _ => rfl
  | width + 1, n => by rw [Text.hexDigits, List.length_append, hexDigits_length]; rfl

theorem lowerFrom_digits {before : List Char} :
    ∀ {cs : List Char}, (∀ c ∈ cs, c ∈ digestDigits) → Text.lowerFrom before cs = cs
  | [], _ => rfl
  | c :: cs, all => by
      have kept : digestDigits.all (fun c => decide (c ≠ 'Σ' ∧ Text.lowerChar c = [c])) = true := by
        decide +kernel
      obtain ⟨other, same⟩ :=
        of_decide_eq_true (List.all_eq_true.mp kept c (all c List.mem_cons_self))
      rw [Text.lowerFrom, if_neg other, same,
        lowerFrom_digits fun c listed => all c (List.mem_cons_of_mem _ listed)]
      rfl

/-- A digest is written with sixty-four digits in lower case. -/
theorem sha256_lower (bytes : ByteArray) :
    Text.lower (Digest.sha256 bytes) = Digest.sha256 bytes ∧ (Digest.sha256 bytes).length = 64 := by
  unfold Digest.sha256 Digest.hexText
  constructor
  · rw [Text.lower, String.toList_ofList, lowerFrom_digits]
    intro c listed
    obtain ⟨_, _, listed⟩ := List.mem_flatMap.mp listed
    exact hexDigits_mem listed
  · simp [hexDigits_length]

end Digits

section Cache

variable {s : Source} {x : ArtifactFile} {c : Coordinate} {v w : World}

/-! ## Acceptance -/

/-- The cache holds the POM and the main file of an artifact. -/
structure Source.Stores (s : Source) (f : FileSystem) (a : ResolvedArtifact)
    (payload pom : ByteArray) : Prop where
  formed : f.Formed
  main : a.mainFile.Proper
  rooted : f.Rooted s.cache
  payload : ∃ j, f.Shows s.cache a.mainFile.names j ∧ f.content j = payload
  pom : ∃ i, f.Shows s.cache a.coordinate.pomFile.names i ∧ f.content i = pom

theorem mainFile_proper {a : ResolvedArtifact} (proper : a.coordinate.Proper)
    (plain : '/' ∉ a.packaging.toList) : a.mainFile.Proper := by
  refine ⟨proper, ?_⟩
  unfold ResolvedArtifact.mainFile mainExtension
  dsimp only
  split
  · decide
  · exact plain

theorem resolve_coordinate {a : ResolvedArtifact} {u : World}
    (resolved : (s.resolve c).perform w = (.ok (.ok a), u)) : a.coordinate = c :=
  source_faithful s c w a (by rw [show s.resolver.resolve c = s.resolve c from rfl, resolved])

section Accept

variable {spec expected : String} {a : ResolvedArtifact} {payload : ByteArray} {u : World}

theorem given_some (given : expected ≠ "") : given? (some expected) = some expected := by
  simp [given?, given]

/-- A digest that is expected is compared with that of the file, and nothing else happens. -/
theorem checkDigest_ok (given : expected ≠ "") {file : Path} {answer : Except Refusal Unit}
    (checked : (checkDigest file (some expected)).perform w = (.ok answer, v)) :
    v = w ∧ ∃ payload, w.files.readFile file = .ok payload ∧
      (Digest.sha256 payload = Text.lower expected ∧ answer = .ok () ∨
        Digest.sha256 payload ≠ Text.lower expected ∧ ∃ refusal, answer = .error refusal) := by
  rw [checkDigest, given_some given] at checked
  obtain ⟨payload, _, looked, checked⟩ := perform_bind_ok.mp checked
  obtain ⟨read, rfl⟩ := perform_inspect_ok.mp looked
  dsimp only at checked
  by_cases same : Digest.sha256 payload = Text.lower expected
  · rw [if_pos same] at checked
    cases checked
    exact ⟨rfl, payload, read, .inl ⟨same, rfl⟩⟩
  · rw [if_neg same] at checked
    cases checked
    exact ⟨rfl, payload, read, .inr ⟨same, _, rfl⟩⟩

theorem accept_ends (given : expected ≠ "")
    {answer : Except Refusal (ResolvedArtifact × FetchStatus)}
    (ended : (accept s spec (some expected)).perform w = (.ok answer, u)) :
    (∃ refusal, answer = .error refusal ∧ s.Refuses w spec expected u) ∨
      ∃ a status payload, answer = .ok (a, status) ∧ s.Verifies w spec expected a payload u := by
  obtain ⟨urls, _, listed, ended⟩ := perform_bind_ok.mp ended
  obtain ⟨-, rfl⟩ := perform_ofExcept_ok.mp listed
  cases read : Coordinate.ofString? spec with
  | none =>
      rw [read] at ended
      cases ended
      exact .inl ⟨_, rfl, .malformed read⟩
  | some c =>
      rw [read] at ended
      dsimp only at ended
      obtain ⟨result, t, resolved, ended⟩ := perform_bind_ok.mp ended
      cases result with
      | error failure =>
          cases ended
          exact .inl ⟨_, rfl, .unresolved read resolved⟩
      | ok a =>
          obtain ⟨status, v, asked, ended⟩ := perform_bind_ok.mp ended
          cases success : status.isSuccess with
          | false =>
              simp only [success, Bool.not_false, if_true] at ended
              cases ended
              exact .inl ⟨_, rfl, .unavailable read resolved asked success⟩
          | true =>
              simp only [success, Bool.not_true, Bool.false_eq_true, if_false] at ended
              obtain ⟨checked, _, compared, ended⟩ := perform_bind_ok.mp ended
              obtain ⟨rfl, payload, had, ⟨same, rfl⟩ | ⟨differs, refusal, rfl⟩⟩ :=
                checkDigest_ok given compared
              · cases ended
                exact .inr ⟨a, status, payload, rfl, .verified read resolved asked success had same⟩
              · cases ended
                exact .inl ⟨refusal, rfl, .mismatched read resolved asked had differs⟩

/-- What verifies is accepted. -/
theorem accept_verified (given : expected ≠ "") {urls : List (Json × Json)}
    (listed : urlsById [] s.repositories = .ok urls)
    (verifies : s.Verifies w spec expected a payload u) :
    ∃ status, (accept s spec (some expected)).perform w = (.ok (.ok (a, status)), u) := by
  cases verifies with
  | @verified c status t read resolved asked success had same =>
      have checked : (checkDigest (s.localFile a.mainPath) (some expected)).perform u
          = (.ok (.ok ()), u) := by
        rw [checkDigest, given_some given]
        dsimp only
        rw [Action.perform_bind, Action.perform_inspect, had]
        dsimp only [Except.mapError]
        rw [if_pos same]
        rfl
      refine ⟨status, perform_bind_ok.mpr ⟨urls, w, by rw [listed]; rfl, ?_⟩⟩
      rw [read]
      dsimp only
      refine perform_bind_ok.mpr ⟨_, t, resolved, perform_bind_ok.mpr ⟨status, u, asked, ?_⟩⟩
      simp only [success, Bool.not_true, Bool.false_eq_true, if_false]
      exact perform_bind_ok.mpr ⟨_, u, checked, rfl⟩

/-- What is in the cache and has the digest that is expected verifies. -/
theorem verifies_cached (read : Coordinate.ofString? spec = some c)
    (resolved : (s.resolve c).perform w = (.ok (.ok a), u))
    (had : u.files.readFile (s.localFile a.mainPath) = .ok payload)
    (same : Digest.sha256 payload = Text.lower expected) : s.Verifies w spec expected a payload u :=
  .verified read resolved (fetch_cached (Source.pathExists_of_readFile had)) rfl had same

/-- What is accepted has not been refused. -/
theorem refuses_exclusive {v : World} (refuses : s.Refuses w spec expected u) :
    ¬ s.Verifies w spec expected a payload v := by
  rintro ⟨read, resolved, asked, success, had, same⟩
  cases refuses with
  | malformed unread => rw [unread] at read; cases read
  | unresolved read' failed =>
      obtain rfl := Option.some.inj (read'.symm.trans read)
      rw [failed] at resolved
      cases resolved
  | unavailable read' resolved' asked' failed =>
      obtain rfl := Option.some.inj (read'.symm.trans read)
      rw [resolved'] at resolved
      cases resolved
      rw [asked'] at asked
      cases asked
      rw [failed] at success
      cases success
  | mismatched read' resolved' asked' had' differs =>
      obtain rfl := Option.some.inj (read'.symm.trans read)
      rw [resolved'] at resolved
      cases resolved
      rw [asked'] at asked
      cases asked
      rw [had'] at had
      cases had
      exact differs same

theorem mainFile_named (named : s.NamesProperly w spec)
    (read : Coordinate.ofString? spec = some c)
    (resolved : (s.resolve c).perform w = (.ok (.ok a), u)) : a.mainFile.Proper := by
  refine mainFile_proper ?_ (named.packaging c a u read resolved)
  rw [resolve_coordinate resolved]
  exact named.coordinates c read c (Source.refers_self s w c)

variable (formed : w.files.Formed) (bare : w.files.Bare (w.files.resolve s.cache))
  (named : s.NamesProperly w spec)
include formed bare named

theorem had_grows {t : World} {status : FetchStatus}
    (read : Coordinate.ofString? spec = some c)
    (resolved : (s.resolve c).perform w = (.ok (.ok a), t))
    (asked : (s.download a).perform t = (.ok status, u)) :
    w.files.GrowsAt s.cache t.files ∧ t.files.GrowsAt s.cache u.files := by
  have resolving := resolve_grows formed bare (named.coordinates c read)
  rw [resolved] at resolving
  have downloading : t.files.GrowsAt s.cache ((s.download a).perform t).2.files :=
    download_grows (mainFile_named named read resolved) resolving.formed (growsAt_bare resolving bare)
  rw [asked] at downloading
  exact ⟨resolving, downloading⟩

theorem refuses_grows (refuses : s.Refuses w spec expected u) :
    w.files.GrowsAt s.cache u.files := by
  cases refuses with
  | malformed => exact growsAt_refl formed
  | @unresolved c failure u read failed =>
      have resolving := resolve_grows formed bare (named.coordinates c read)
      rwa [failed] at resolving
  | unavailable read resolved asked =>
      obtain ⟨resolving, downloading⟩ := had_grows formed bare named read resolved asked
      exact growsAt_trans resolving downloading
  | mismatched read resolved asked =>
      obtain ⟨resolving, downloading⟩ := had_grows formed bare named read resolved asked
      exact growsAt_trans resolving downloading

/-- When an artifact is accepted, its POM and its main file are in the cache. -/
theorem verifies_stores (fresh : w.models = ⟨[]⟩)
    (verifies : s.Verifies w spec expected a payload u) :
    w.files.GrowsAt s.cache u.files ∧ ∃ pom, s.Stores u.files a payload pom := by
  obtain ⟨read, resolved, asked, -, had, -⟩ := verifies
  obtain ⟨resolving, downloading⟩ := had_grows formed bare named read resolved asked
  obtain ⟨rooted, i, entry⟩ := resolve_holds formed bare (named.coordinates _ read) fresh resolved
  have main := mainFile_named named read resolved
  have rooted' := rooted_upholds downloading.upholds rooted
  rw [show a.mainPath = a.mainFile.path from rfl, localFile_eq main] at had
  have more : a.mainFile.names ≠ [] := by simp [ArtifactFile.names]
  obtain ⟨-, j, file, content⟩ :=
    readFile_below downloading.formed rooted'.bare more (names_down main) had
  refine ⟨growsAt_trans resolving downloading, _, downloading.formed, main, rooted',
    ⟨j, file, content⟩, i, ?_, rfl⟩
  rw [resolve_coordinate resolved]
  exact growsAt_shows downloading rooted entry

end Accept

/-! ## Placement -/

/-- A package holds the files of an artifact, and a build file that lists the main one. -/
structure FileSystem.HoldsArtifact (f : FileSystem) (directory : Path) (package : String)
    (a : ResolvedArtifact) (payload pom : ByteArray) : Prop where
  payload : f.readFile (directory.joinText a.mainPath) = .ok payload
  pom : f.readFile (directory.joinText a.pomPath) = .ok pom
  buildFile : f.readFile (directory.joinText buildFileName)
    = .ok (fetchedFile package [a.mainPath]).toUTF8

/-- A file of an artifact is linked into a package that is apart from the cache. -/
theorem linkInto_enters {directory : Path} (formed : w.files.Formed)
    (rooted : w.files.Rooted s.cache) (bare : w.files.Bare (w.files.resolve directory))
    (apart : Apart (w.files.resolve s.cache) (w.files.resolve directory)) (proper : x.Proper)
    {i : Nat} (file : w.files.Shows s.cache x.names i)
    (linked : (linkInto s directory x.path).perform w = (.ok (), v)) :
    w.files.Enters directory x.names i v.files := by
  have down := names_down proper
  rw [linkInto, localFile_eq proper, joinText_path proper] at linked
  obtain ⟨above, split⟩ := names_split x
  rw [split] at down file linked ⊢
  exact linkFile_enters formed rooted bare down (apart_below apart _ _) file linked

theorem names_buildFile (x : ArtifactFile) : x.names ≠ [buildFileName] := fun same => by
  simpa [ArtifactFile.names] using congrArg List.length same

/-- A build file is written in a package that is there. -/
theorem writeBuildFile_enters {directory : Path} (formed : w.files.Formed)
    (rooted : w.files.Rooted directory) {content : String}
    (written : (writeText (directory.joinText buildFileName) content).perform w = (.ok (), v)) :
    ∃ k, w.files.Enters directory [buildFileName] k v.files ∧ v.files.content k = content.toUTF8 := by
  rw [writeText, joinText_buildFile, ← List.nil_append [buildFileName]] at written
  obtain ⟨files, replaced, rfl⟩ := perform_change_ok.mp written
  exact replaceFile_enters formed rooted.bare (by decide) replaced

/-- What is not unpacked is linked from the cache. -/
theorem place_holds {workspace : Path} {package : String} {a : ResolvedArtifact}
    {payload pom : ByteArray} (stores : s.Stores w.files a payload pom)
    (bare : w.files.Bare (w.files.resolve (workspace.joinText package)))
    (apart : Apart (w.files.resolve s.cache) (w.files.resolve (workspace.joinText package)))
    (linked : Text.trim a.packaging ≠ "aar") {answer : Except Refusal Unit}
    (placed : (place s workspace package a).perform w = (.ok answer, v)) :
    answer = .ok () ∧
      v.files.HoldsArtifact (workspace.joinText package) package a payload pom := by
  obtain ⟨j, main, rfl⟩ := stores.payload
  obtain ⟨i, file, rfl⟩ := stores.pom
  have proper : a.coordinate.pomFile.Proper := pomFile_proper stores.main.1
  rw [place, if_neg linked] at placed
  generalize workspace.joinText package = directory at placed bare apart ⊢
  obtain ⟨_, t, first, placed⟩ := perform_bind_ok.mp placed
  have one : w.files.Enters directory a.coordinate.pomFile.names i t.files :=
    linkInto_enters stores.formed stores.rooted bare apart proper file first
  obtain ⟨_, u, second, placed⟩ := perform_bind_ok.mp placed
  have two : t.files.Enters directory a.mainFile.names j u.files := by
    refine linkInto_enters one.formed (rooted_upholds one.upholds stores.rooted) one.rooted.bare ?_
      stores.main (enters_other one (apart_below apart _ _) main) second
    rwa [resolve_linked one.upholds.toLinked, resolve_linked one.upholds.toLinked]
  obtain ⟨_, _, written, placed⟩ := perform_bind_ok.mp placed
  cases placed
  obtain ⟨k, three, text⟩ := writeBuildFile_enters two.formed two.rooted written
  have spares := spares_trans (spares_trans one.spares two.spares) three.spares
  have pom : u.files.Shows directory a.coordinate.pomFile.names i := by
    by_cases same : a.coordinate.pomFile.names = a.mainFile.names
    · -- the POM is the main file itself
      rw [same] at file ⊢
      obtain rfl : i = j := Entry.file.inj (Option.some.inj (Eq.trans (Eq.symm file) main))
      exact enters_shows two
    · exact enters_beside two same (enters_shows one)
  have reads {names : List String} {n : Nat} (down : ".." ∉ names)
      (shows : v.files.Shows directory names n) :=
    rooted_readFile three.rooted three.formed down shows
  refine ⟨rfl, ?_, ?_, ?_⟩
  · rw [show a.mainPath = a.mainFile.path from rfl, joinText_path stores.main,
      reads (names_down stores.main) (enters_beside three (names_buildFile _) (enters_shows two)),
      spares.content j (FileSystem.inode_lt_fresh main)]
  · rw [show a.pomPath = a.coordinate.pomFile.path from rfl, joinText_path proper,
      reads (names_down proper) (enters_beside three (names_buildFile _) pom),
      spares.content i (FileSystem.inode_lt_fresh file)]
  · rw [joinText_buildFile, reads (by decide) (enters_shows three), text]

/-! ## The gate -/

section Gate

variable {spec expected package : String} {workspace : Path} {status : Bool}

/-- What is accepted is placed, and what is refused is not; to tell of it changes no file. -/
theorem fetchArtifact_ends
    (fetched : (fetchArtifact s spec workspace package (some expected)).perform w
      = (.ok status, v)) :
    (∃ refusal u, (accept s spec (some expected)).perform w = (.ok (.error refusal), u) ∧
      status = false ∧ v.files = u.files) ∨
    ∃ a kept u placed t, (accept s spec (some expected)).perform w = (.ok (.ok (a, kept)), u) ∧
      (place s workspace package a).perform u = (.ok placed, t) ∧ v.files = t.files := by
  obtain ⟨answer, u, accepted, ended⟩ := perform_bind_ok.mp fetched
  cases answer with
  | error refusal =>
      cases ended
      exact .inl ⟨refusal, u, accepted, rfl, rfl⟩
  | ok pair =>
      obtain ⟨a, kept⟩ := pair
      obtain ⟨placed, t, placing, ended⟩ := perform_bind_ok.mp ended
      refine .inr ⟨a, kept, u, placed, t, accepted, placing, ?_⟩
      cases placed with
      | error refusal =>
          cases ended
          rfl
      | ok _ =>
          cases ended
          rfl

/-- What verifies and can be placed is fetched. -/
theorem fetchArtifact_places (given : expected ≠ "") {urls : List (Json × Json)}
    (listed : urlsById [] s.repositories = .ok urls) {a : ResolvedArtifact} {payload : ByteArray}
    {t u : World} (verifies : s.Verifies w spec expected a payload u)
    (placing : (place s workspace package a).perform u = (.ok (.ok ()), t)) :
    ∃ v, (fetchArtifact s spec workspace package (some expected)).perform w = (.ok true, v) ∧
      v.files = t.files := by
  obtain ⟨status, accepted⟩ := accept_verified given listed verifies
  exact ⟨_, perform_bind_ok.mpr ⟨_, u, accepted, perform_bind_ok.mpr ⟨_, t, placing, rfl⟩⟩, rfl⟩

/-- What is not resolved is not fetched. -/
theorem fetchArtifact_unresolved {failure : ResolutionFailure} {urls : List (Json × Json)}
    (listed : urlsById [] s.repositories = .ok urls) {u : World}
    (read : Coordinate.ofString? spec = some c)
    (failed : (s.resolve c).perform w = (.ok (.error failure), u)) :
    ∃ v, (fetchArtifact s spec workspace package (some expected)).perform w = (.ok false, v) ∧
      v.files = u.files := by
  have refused : (accept s spec (some expected)).perform w
      = (.ok (.error (.unresolved spec (urls.map Prod.snd))), u) := by
    refine perform_bind_ok.mpr ⟨urls, w, by rw [listed]; rfl, ?_⟩
    rw [read]
    exact perform_bind_ok.mpr ⟨_, u, failed, rfl⟩
  exact ⟨_, perform_bind_ok.mpr ⟨_, u, refused, rfl⟩, rfl⟩

theorem refuses_leaves {u : World} (formed : w.files.Formed) (named : s.NamesProperly w spec)
    {directory : Path} (separate : s.Separate w.files workspace directory)
    (refuses : s.Refuses w spec expected u) {l : Location}
    (within : w.files.resolve workspace <+: l) : u.files.seen? l = w.files.seen? l :=
  growsAt_seen (refuses_grows formed separate.cache named refuses)
    separate.workspaceApart separate.bypasses within

theorem stores_readPom {f : FileSystem} {a : ResolvedArtifact} {payload pom : ByteArray}
    (stores : s.Stores f a payload pom) : f.readFile (s.localFile a.pomPath) = .ok pom := by
  have proper : a.coordinate.pomFile.Proper := pomFile_proper stores.main.1
  obtain ⟨i, file, rfl⟩ := stores.pom
  rw [show a.pomPath = a.coordinate.pomFile.path from rfl, localFile_eq proper]
  exact rooted_readFile stores.rooted stores.formed (names_down proper) file

/-- With a digest that is expected, what is refused leaves a workspace that is apart from the
cache as it is.  What is placed was in the cache with that digest when it was checked, and unless
it is unpacked, the package holds it.  No models are known in the beginning: the POM of a model that
is known need not be in the cache. -/
theorem fetchArtifact_gated (formed : w.files.Formed) (fresh : w.models = ⟨[]⟩)
    (named : s.NamesProperly w spec)
    (separate : s.Separate w.files workspace (workspace.joinText package)) (given : expected ≠ "")
    (fetched : (fetchArtifact s spec workspace package (some expected)).perform w
      = (.ok status, v)) :
    (∀ u, s.Refuses w spec expected u → status = false ∧
      ∀ l, w.files.resolve workspace <+: l → v.files.seen? l = w.files.seen? l) ∧
    (status = true → ∃ a u payload pom, s.Verifies w spec expected a payload u ∧
      u.files.readFile (s.localFile a.pomPath) = .ok pom ∧
      (Text.trim a.packaging ≠ "aar" →
        v.files.HoldsArtifact (workspace.joinText package) package a payload pom)) := by
  obtain ⟨refusal, u, accepted, rfl, left⟩ | ⟨a, kept, u, placed, t, accepted, placing, left⟩ :=
    fetchArtifact_ends fetched
  · obtain ⟨_, -, refused⟩ | ⟨a, kept, payload, impossible, -⟩ := accept_ends given accepted
    · refine ⟨fun _ _ => ⟨rfl, fun l within => ?_⟩, by simp⟩
      rw [left]
      exact refuses_leaves formed named separate refused within
    · cases impossible
  · obtain ⟨_, impossible, -⟩ | ⟨a', kept', payload, same, verifies⟩ := accept_ends given accepted
    · cases impossible
    · cases same
      refine ⟨fun _ refuses => absurd verifies (refuses_exclusive refuses), fun _ => ?_⟩
      obtain ⟨grows, pom, stores⟩ := verifies_stores formed separate.cache named fresh verifies
      refine ⟨a, u, payload, pom, verifies, stores_readPom stores, fun linked => ?_⟩
      rw [left]
      refine (place_holds stores (growsAt_bare grows separate.package) ?_ linked placing).2
      rw [resolve_linked grows.upholds.toLinked, resolve_linked grows.upholds.toLinked]
      exact separate.packageApart

end Gate

end Cache

/-! ### Fetches past the gate -/

namespace FileSystem

/-- What is listed is no link, and lies in a directory under a name that an entry can have. -/
def Fits (f : FileSystem) (e : Location × Entry) : Prop :=
  (e.2 = .directory ∨ ∃ i < f.fresh, e.2 = .file i) ∧
    (e.1 = [] ∨ f.entryAt? e.1.dropLast = some .directory ∧ nameFault? (e.1.getLastD "") = none)

instance (f : FileSystem) (e : Location × Entry) : Decidable (f.Fits e) :=
  inferInstanceAs (Decidable (_ ∧ _))

end FileSystem

theorem plain_listed {f : FileSystem} (root : f.entryAt? [] = some .directory)
    (here : f.entryAt? f.here = some .directory) (fits : ∀ e ∈ f.entries.entries, f.Fits e) :
    f.Plain where
  root := root
  here := here
  placed l name present := by
    obtain ⟨e, found⟩ := Option.ne_none_iff_exists'.mp present
    obtain ⟨-, impossible | placed⟩ := fits _ (Table.findEntry_mem found)
    · simp at impossible
    · simpa using placed
  unlinked l target found := by
    obtain ⟨impossible | ⟨_, _, impossible⟩, -⟩ := fits _ (Table.findEntry_mem found)
    · cases impossible
    · cases impossible

namespace Gate

/-- An archive without members. -/
def payload : ByteArray := ⟨⟨[0x50, 0x4b, 5, 6] ++ List.replicate 18 0⟩⟩

def digest : String := Digest.sha256 payload

theorem same_digest : Digest.sha256 payload = Text.lower digest := (sha256_lower payload).1.symm

theorem digest_given : digest ≠ "" := by
  intro empty
  have long : digest.length = 64 := (sha256_lower payload).2
  rw [empty] at long
  cases long

def artifact : Coordinate := ⟨"g", "a", "1"⟩

theorem read_artifact : Coordinate.ofString? "g:a:1" = some artifact := by decide

def source (cache : String) : Source := .ofRepositories (.ofString cache) []

theorem urls_listed (cache : String) :
    ∃ urls, urlsById [] (source cache).repositories = .ok urls := ⟨_, rfl⟩

def fetch (cache expected : String) (w : World) : Except Fault Bool × World :=
  (fetchArtifact (source cache) "g:a:1" (.ofString "ws") "maven" (some expected)).perform w

/-- A cache with the POM and the main file of the artifact. -/
def files (text main : String) : FileSystem where
  entries := ⟨[([], .directory), (["cache"], .directory), (["cache", "g"], .directory),
    (["cache", "g", "a"], .directory), (["cache", "g", "a", "1"], .directory),
    (["cache", "g", "a", "1", "a-1.pom"], .file 0), (["cache", "g", "a", "1", main], .file 1)]⟩
  contents := ⟨[(0, text.toUTF8), (1, payload)]⟩
  fresh := 2
  here := []
  numbered := by simp [Entry.isBelow]

/-- The files with nothing behind them, where some models are kept. -/
def world (text main : String) (models : Table String Model) : World :=
  ⟨files text main, ⟨[]⟩, [], ⟨0, []⟩, models, "0"⟩

def model (pom : Pom) : Model :=
  ((Draft.empty.defineAll pom artifact).depend pom).finish pom artifact

/-- The world when the artifact was resolved. -/
def known (text main : String) (pom : Pom) : World :=
  world text main (Table.put ⟨[]⟩ artifact.text (model pom))

def placed (text main : String) (pom : Pom) : Except Fault (Except Refusal Unit) × World :=
  (place (source "cache") (.ofString "ws") "maven" ((model pom).resolved artifact)).perform
    (known text main pom)

section Fetches

variable {text main : String} {pom : Pom} (parsed : Pom.ofBytes text.toUTF8 = .ok pom)
  (orphan : pom.parent? = none) (unmanaged : pom.managed = [])
  (found : ((files text main).status
    ((source "cache").localFile (artifactPath artifact "pom" none))).toOption = some (.file 0))
include parsed orphan unmanaged found

theorem resolves : ((source "cache").resolve artifact).perform (world text main ⟨[]⟩)
    = (.ok (.ok ((model pom).resolved artifact)), known text main pom) := by
  have merges : pom.MergesInto (Source.KeptIn (world text main ⟨[]⟩)) artifact (model pom) :=
    ⟨_, _, .alone orphan, unmanaged ▸ .done _, rfl⟩
  exact Source.resolve_from_kept rfl (Source.loadPom_from_file found parsed) merges

variable (there : ((files text main).status
  ((source "cache").localFile ((model pom).resolved artifact).mainPath)).toOption = some (.file 1))
include there

theorem verifies : (source "cache").Verifies (world text main ⟨[]⟩) "g:a:1" digest
    ((model pom).resolved artifact) payload (known text main pom) := by
  have had : (known text main pom).files.readFile
      ((source "cache").localFile ((model pom).resolved artifact).mainPath) = .ok payload := by
    show (files text main).readFile _ = _
    rw [FileSystem.readFile, Family.ok_of_toOption there]
    rfl
  exact verifies_cached read_artifact (resolves parsed orphan unmanaged found) had same_digest

theorem fetches (places : (placed text main pom).1.toOption.bind Except.toOption = some ()) :
    ∃ v, fetch "cache" digest (world text main ⟨[]⟩) = (.ok true, v) ∧
      v.files = (placed text main pom).2.files := by
  have placing : (place (source "cache") (.ofString "ws") "maven"
      ((model pom).resolved artifact)).perform (known text main pom)
      = (.ok (.ok ()), (placed text main pom).2) := by
    rcases same : placed text main pom with ⟨_ | _ | _, t⟩ <;> rw [same] at places <;> cases places
    exact same
  obtain ⟨urls, listed⟩ := urls_listed "cache"
  exact fetchArtifact_places digest_given listed
    (verifies parsed orphan unmanaged found there) placing

end Fetches

def plainPom : Pom := ⟨"", "", none, "jar", ⟨none, none, none⟩, ⟨[]⟩, [], []⟩

theorem plain_parsed : Pom.ofBytes "<project/>".toUTF8 = .ok plainPom :=
  Pom.ofBytes_plain rfl (by decide) (by decide) (by decide)

def plainWorld : World := world "<project/>" "a-1.jar" ⟨[]⟩

theorem plain_files : plainWorld.files.Plain :=
  plain_listed rfl rfl (by decide +kernel)

theorem plain_resolves : ((source "cache").resolve artifact).perform plainWorld
    = (.ok (.ok ⟨artifact, "jar", []⟩), known "<project/>" "a-1.jar" plainPom) := by
  have same : (model plainPom).resolved artifact = ⟨artifact, "jar", []⟩ := by decide +kernel
  rw [← same]
  exact resolves plain_parsed rfl rfl (by decide +kernel)

/-- The POM names no other one. -/
theorem plain_alone (d : Coordinate) (refers : (source "cache").Refers plainWorld artifact d) :
    d = artifact := by
  refine refers_alone (fun _ _ _ answered => by cases answered) (fun i pom parsed => ?_) refers
  match i with
  | 0 =>
      cases parsed.symm.trans plain_parsed
      exact ⟨rfl, rfl⟩
  | 1 =>
      have none : (Pom.ofBytes payload).toOption = none := by decide +kernel
      rw [show Pom.ofBytes payload = .ok pom from parsed] at none
      cases none
  | n + 2 =>
      have none : (Pom.ofBytes ByteArray.empty).toOption = none := by decide +kernel
      rw [show Pom.ofBytes ByteArray.empty = .ok pom from parsed] at none
      cases none

theorem plain_named : (source "cache").NamesProperly plainWorld "g:a:1" where
  coordinates c read d refers := by
    obtain rfl := Option.some.inj (read.symm.trans read_artifact)
    rw [plain_alone d refers]
    decide
  packaging c a u read resolved := by
    obtain rfl := Option.some.inj (read.symm.trans read_artifact)
    rw [plain_resolves] at resolved
    cases resolved
    decide

theorem plain_separate : (source "cache").Separate plainWorld.files (.ofString "ws")
    ((Path.ofString "ws").joinText "maven") := by
  have cache : plainWorld.files.resolve (source "cache").cache = ["cache"] := by
    have straight : (Path.ofString "cache").Straight := show ".." ∉ ["cache"] by decide
    exact (resolve_plain plain_files straight).trans (by decide)
  have workspace : plainWorld.files.resolve (.ofString "ws") = ["ws"] := by
    have straight : (Path.ofString "ws").Straight := show ".." ∉ ["ws"] by decide
    exact (resolve_plain plain_files straight).trans (by decide)
  have package : plainWorld.files.resolve ((Path.ofString "ws").joinText "maven")
      = ["ws", "maven"] := by
    have straight : ((Path.ofString "ws").joinText "maven").Straight :=
      show ".." ∉ ["ws", "maven"] by decide
    exact (resolve_plain plain_files straight).trans (by decide)
  refine ⟨fun _ => plain_files.unlinked _, fun _ => plain_files.unlinked _, ?_, ?_, ?_⟩
  · rw [cache, workspace]
    exact ⟨by decide, by decide⟩
  · rw [cache, package]
    exact ⟨by decide, by decide⟩
  · rintro _ ⟨names, within, rfl⟩ below
    have straight : Path.Straight ⟨(source "cache").cache.anchor, names⟩ :=
      fun up => absurd (within.subset up) (by decide)
    rw [workspace, resolve_plain plain_files straight] at below
    have reach : ["ws"] <+: ["cache"] := below.trans within
    exact absurd reach (by decide)

end Gate

/-- With the right digest the artifact is in the package. -/
theorem plain_gated :
    (Gate.plainWorld.files.Formed ∧ Gate.plainWorld.models = ⟨[]⟩ ∧
      (Gate.source "cache").NamesProperly Gate.plainWorld "g:a:1" ∧
      (Gate.source "cache").Separate Gate.plainWorld.files (.ofString "ws")
        ((Path.ofString "ws").joinText "maven") ∧ Gate.digest ≠ "") ∧
    ∃ v, Gate.fetch "cache" Gate.digest Gate.plainWorld = (.ok true, v) ∧
      ∃ payload pom, Digest.sha256 payload = Gate.digest ∧
        v.files.HoldsArtifact ((Path.ofString "ws").joinText "maven") "maven"
          ⟨Gate.artifact, "jar", []⟩ payload pom := by
  have formed := Gate.plain_files.toFormed
  refine ⟨⟨formed, rfl, Gate.plain_named, Gate.plain_separate, Gate.digest_given⟩, ?_⟩
  obtain ⟨v, fetched⟩ : ∃ v, Gate.fetch "cache" Gate.digest Gate.plainWorld = (.ok true, v) := by
    obtain ⟨v, fetched, -⟩ := @Gate.fetches "<project/>" "a-1.jar" _ Gate.plain_parsed rfl rfl
      (by decide +kernel) (by decide +kernel) (by decide +kernel)
    exact ⟨v, fetched⟩
  obtain ⟨-, holds⟩ := fetchArtifact_gated formed rfl Gate.plain_named Gate.plain_separate
    Gate.digest_given fetched
  obtain ⟨a, u, payload, pom, ⟨read, resolved, -, -, -, same⟩, -, linked⟩ := holds rfl
  obtain rfl := Option.some.inj (read.symm.trans Gate.read_artifact)
  rw [Gate.plain_resolves] at resolved
  cases resolved
  exact ⟨v, fetched, payload, pom, same.trans (sha256_lower Gate.payload).1, linked (by decide)⟩

namespace Gate

/-! ### Ways around the gate -/

def spacedText : String :=
  "<project><packaging>$\x7be\x7d aar</packaging><properties><e/></properties></project>"

def spacedPom : Pom :=
  ⟨"", "", none, "$\x7be\x7d aar", ⟨none, none, none⟩, ⟨[("e", "")]⟩, [], []⟩

theorem spaced_parsed : Pom.ofBytes spacedText.toUTF8 = .ok spacedPom :=
  Pom.ofBytes_plain rfl (by decide) (by decide) (by decide +kernel)

def spacedWorld : World := world spacedText "a-1. aar" ⟨[]⟩

/-- Servers that send what is no POM. -/
def web : Web :=
  ⟨["https://repo1.maven.org/maven2/g/a/1/a-1.pom",
    "https://repo1.maven.org/ws/ws/x-1.pom"].map
      fun url => (url, .response 200 "OK" "x".toUTF8)⟩

def sent (files : FileSystem) : World := ⟨files, web, [], ⟨0, []⟩, ⟨[]⟩, "0"⟩

/-- A fetch is refused, and leaves a directory that was not there. -/
structure Leaks (cache : String) (files : FileSystem) (l : Location) : Prop where
  refused : ∃ u, (source cache).Refuses (sent files) "g:a:1" "0" u
  absent : files.entryAt? l = none
  left : ∃ v, fetch cache "0" (sent files) = (.ok false, v) ∧ v.files.entryAt? l = some .directory

/-- What there is at a location when the artifact was not resolved. -/
def entryLeft? (cache : String) (files : FileSystem) (l : Location) : Option Entry :=
  match ((source cache).resolve artifact).perform (sent files) with
  | (.ok (.error _), u) => u.files.entryAt? l
  | _ => none

theorem leaks_of {cache : String} {files : FileSystem} {l : Location}
    (absent : files.entryAt? l = none) (left : entryLeft? cache files l = some .directory) :
    Leaks cache files l := by
  rcases failed : ((source cache).resolve artifact).perform (sent files) with
    ⟨_ | failure | _, u⟩ <;> rw [entryLeft?, failed] at left
  · cases left
  · obtain ⟨urls, listed⟩ := urls_listed cache
    obtain ⟨v, fetched, same⟩ : ∃ v, fetch cache "0" (sent files) = (.ok false, v) ∧
        v.files = u.files := fetchArtifact_unresolved listed read_artifact failed
    exact ⟨⟨u, .unresolved read_artifact failed⟩, absent, v, fetched, same ▸ left⟩
  · cases left

def workspaceOnly : FileSystem := (FileSystem.empty []).putEntry ["ws"] .directory

/-- A directory of the cache is a link to the workspace. -/
def linked : FileSystem :=
  (workspaceOnly.putEntry ["cache"] .directory).putEntry ["cache", "g"] (.link "../ws")

/-- The POM of the artifact names a parent with a name that goes up. -/
def climbing : FileSystem :=
  files ("<project><parent><groupId>g</groupId><artifactId>../../ws/x</artifactId>"
    ++ "<version>1</version></parent></project>") "a-1.jar"

end Gate

/-- A packaging that names Android libraries but for white space is unpacked, and the file that
verified is not in the package.  A fetch that is refused makes a directory in the workspace if the
path to the cache leads through one that is missing there, if the cache has a link to it, and if the
name of a parent goes up to it. -/
theorem gate_circumvented :
    (∃ v u, Gate.fetch "cache" Gate.digest Gate.spacedWorld = (.ok true, v) ∧
      (Gate.source "cache").Verifies Gate.spacedWorld "g:a:1" Gate.digest
        ⟨Gate.artifact, " aar", []⟩ Gate.payload u ∧
      v.files.entryAt? ["ws", "maven", "g", "a", "1", "a-1. aar"] = none) ∧
    Gate.Leaks "ws/sub/../../cache" Gate.workspaceOnly ["ws", "sub"] ∧
    Gate.Leaks "cache" Gate.linked ["ws", "a"] ∧
    Gate.Leaks "cache" Gate.climbing ["ws", "x"] := by
  have found : ((Gate.files Gate.spacedText "a-1. aar").status ((Gate.source "cache").localFile
      (artifactPath Gate.artifact "pom" none))).toOption = some (.file 0) := by decide +kernel
  have there : ((Gate.files Gate.spacedText "a-1. aar").status ((Gate.source "cache").localFile
      ((Gate.model Gate.spacedPom).resolved Gate.artifact).mainPath)).toOption
      = some (.file 1) := by decide +kernel
  have verifies : (Gate.source "cache").Verifies Gate.spacedWorld "g:a:1" Gate.digest
      ((Gate.model Gate.spacedPom).resolved Gate.artifact) Gate.payload
      (Gate.known Gate.spacedText "a-1. aar" Gate.spacedPom) :=
    Gate.verifies Gate.spaced_parsed rfl rfl found there
  obtain ⟨v, fetched, left⟩ :=
    Gate.fetches Gate.spaced_parsed rfl rfl found there (by decide +kernel)
  have same : (Gate.model Gate.spacedPom).resolved Gate.artifact = ⟨Gate.artifact, " aar", []⟩ := by
    decide +kernel
  have nowhere : (Gate.placed Gate.spacedText "a-1. aar" Gate.spacedPom).2.files.entryAt?
      ["ws", "maven", "g", "a", "1", "a-1. aar"] = none := by decide +kernel
  rw [same] at verifies
  rw [← left] at nowhere
  exact ⟨⟨v, _, fetched, verifies, nowhere⟩,
    Gate.leaks_of (by decide) (by decide +kernel), Gate.leaks_of (by decide) (by decide +kernel),
    Gate.leaks_of (by decide) (by decide +kernel)⟩

end MavenImport
