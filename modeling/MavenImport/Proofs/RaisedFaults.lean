/-
# Proofs.RaisedFaults -- faults that are values, and those that are not

What cannot be had is told in a value.  A fetch gives a status wherever nothing is in the way of its
file in the cache and its repositories can be asked for it (`fetch_answers`).  Resolving a
coordinate gives an artifact or a failure, and inspecting an archive gives details or a problem, but
for what their readers do not answer for (`failures_answered`): a POM that is referred to cannot be
asked for or kept, or it names a character set that is not read, or the archive uses a feature that
is not supported.

Such a POM does stop every resolution of its coordinate (`resolve_unread`); a server that sends one
is enough (`unknown_charset_raised`).
-/
import MavenImport.Proofs.DeclarationText
import MavenImport.Proofs.OfflineReplay
import MavenImport.Proofs.OpenPaths
import MavenImport.Proofs.RefusedWrites
import MavenImport.Proofs.UnsupportedBytes
import MavenImport.Proofs.WorldSteps

namespace MavenImport

set_option autoImplicit false

/-! ## What may be in the way -/

/-- A repository has an address, and an id under which what it answers can be noted. -/
structure Repository.Usable (r : Repository) : Prop where
  address : ∃ url, r.url = .str url
  id : r.id.isScalar = true

namespace Source

def Usable (s : Source) : Prop := ∀ r ∈ s.repositories, r.Usable

/-- Where the POM of a coordinate is kept. -/
def pomFile (s : Source) (c : Coordinate) : Path := s.localFile (artifactPath c "pom" none)

/-- Every repository has an address for a path, and one that a client takes. -/
def Reaches (s : Source) (path : String) : Prop :=
  ∀ r ∈ s.repositories, ∃ url, address r path = .ok url

/-- A fetch stops with a fault: something is in the way of its file in the cache, or a repository
that is asked has no address for the path that a client takes. -/
inductive Obstructs (s : Source) (path : String) (snapshot : Bool) (f : FileSystem) : Fault → Prop
  | barred {fault : Files.Fault} (barred : ¬ f.Admits (s.localFile path)) :
      Obstructs s path snapshot f (.file fault)
  | unreached {r : Repository} {fault : Json.Fault} (asked : r ∈ s.admitted snapshot)
      (refused : address r path = .error fault) : Obstructs s path snapshot f (.value fault)

/-- Loading a POM stops with a fault: it cannot be fetched, or the file that is there now names a
character set that is not read. -/
structure Hindered (s : Source) (c : Coordinate) (v u : World) (fault : Fault) : Prop where
  raised : (s.loadPom c).perform v = (.error fault, u)
  cause : s.Obstructs (artifactPath c "pom" none) c.isSnapshot v.files fault ∨
    ∃ bytes f, u.files.readFile (s.pomFile c) = .ok bytes ∧ Xml.unread? bytes = some f ∧
      fault = .xml f

end Source

variable {s : Source} {w v u : World}

/-! ## Fetching -/

section Fetch

variable {path : String} {snapshot : Bool} {status : FetchStatus} {fault : Fault}

/-- Where nothing is in the way, a file that a fetch tells of can be read. -/
theorem fetch_readable (formed : w.files.Formed) (admits : w.files.Admits (s.localFile path))
    {file : Path} (fetched : (s.fetch path snapshot).perform w = (.ok status, u))
    (kept : status.localFile = some file) :
    file = s.localFile path ∧ ∃ bytes, u.files.readFile file = .ok bytes := by
  rcases fetch_cases fetched with ⟨present, rfl, rfl⟩ | ⟨-, requested, ⟨-, lost, -⟩ |
    ⟨body, files, written, -, place, rfl⟩⟩
  · cases kept
    rcases pathExists_admitted formed admits with absent | ⟨-, readable⟩
    · rw [present] at absent
      cases absent
    · exact ⟨rfl, readable⟩
  · rw [lost] at kept
    cases kept
  · obtain ⟨files', stored, readable⟩ := replaceFile_admitted formed admits body
    rw [written] at stored
    cases stored
    rw [place] at kept
    cases kept
    exact ⟨rfl, body, readable⟩

variable (usable : s.Usable)
include usable

theorem combined_usable (path : String) (errors : List (Json × Attempt)) :
    ∃ status, s.combinedFailure path errors = .ok status := by
  have texts : ∀ url ∈ s.urls, ∃ text, url = .str text := by
    intro url listed
    obtain ⟨r, member, rfl⟩ := List.mem_map.mp listed
    exact (usable r member).address
  obtain ⟨joined, same⟩ := texts_joined texts
  simp only [Source.combinedFailure]
  split
  · exact ⟨_, rfl⟩
  · rw [same]
    exact ⟨_, rfl⟩

/-- Asking usable repositories breaks off only at one that cannot be asked for the path. -/
theorem inquire_unreached {web : Web} :
    ∀ (rs : List Repository) (errors : List (Json × Attempt)), (∀ r ∈ rs, r.Usable) →
      (s.inquire web path errors rs).delivery = .broken fault →
        ∃ r ∈ rs, ∃ f, Source.address r path = .error f ∧ fault = .value f
  | [], errors, _, broken => by
      obtain ⟨status, same⟩ := combined_usable usable path errors
      rw [Source.inquire, same] at broken
      cases broken
  | r :: rs, errors, all, broken => by
      obtain ⟨⟨-, id⟩, others⟩ := List.forall_mem_cons.mp all
      cases located : Source.address r path with
      | error f =>
          rw [Source.inquire, located] at broken
          cases broken
          exact ⟨r, List.mem_cons_self, f, located, rfl⟩
      | ok url =>
          by_cases sent : ∃ reason body, web.reply url = .response 200 reason body
          · obtain ⟨reason, body, sent⟩ := sent
            simp only [Source.inquire, located, sent] at broken
            rcases judge_cases web r url body with ⟨-, judged⟩ | ⟨-, status, judged, -, -⟩ <;>
              rw [judged] at broken <;> cases broken
          · have refused := fun reason body answered => sent ⟨reason, body, answered⟩
            rw [inquire_refused located refused, id] at broken
            obtain ⟨r', member, found⟩ := inquire_unreached rs _ others broken
            exact ⟨r', List.mem_cons_of_mem r member, found⟩

/-- What stops a fetch is in the way of its file, or a repository cannot be asked. -/
theorem fetch_stopped (formed : w.files.Formed)
    (stopped : (s.fetch path snapshot).perform w = (.error fault, u)) :
    s.Obstructs path snapshot w.files fault := by
  rw [fetch_eq] at stopped
  split at stopped
  · next f failed =>
      cases stopped
      refine .barred fun admits => ?_
      rcases pathExists_admitted formed admits with known | ⟨known, -⟩ <;> rw [failed] at known <;>
        cases known
  · cases stopped
  · have all : ∀ r ∈ s.admitted snapshot, r.Usable := fun r listed =>
      usable r (List.mem_of_mem_filter listed)
    cases delivered : (s.inquire w.web path [] (s.admitted snapshot)).delivery with
    | nothing status =>
        rw [delivered] at stopped
        cases stopped
    | broken f =>
        rw [delivered] at stopped
        cases stopped
        obtain ⟨r, asked, f, refused, rfl⟩ := inquire_unreached usable _ _ all delivered
        exact .unreached asked refused
    | content r body =>
        rw [delivered, Source.receive, Action.perform_bind, Action.perform_change] at stopped
        dsimp only at stopped
        cases stored : w.files.replaceFile (s.localFile path) body with
        | ok files =>
            rw [stored] at stopped
            cases stopped
        | error f =>
            rw [stored] at stopped
            cases stopped
            refine .barred fun admits => ?_
            obtain ⟨files, written, -⟩ := replaceFile_admitted formed admits body
            rw [written] at stored
            cases stored

/-- A fetch gives a status where nothing is in the way and all repositories can be asked. -/
theorem fetch_answers (formed : w.files.Formed) (admits : w.files.Admits (s.localFile path))
    (reaches : s.Reaches path) (snapshot : Bool) :
    ∃ status, ((s.fetch path snapshot).perform w).1 = .ok status := by
  rcases run : (s.fetch path snapshot).perform w with ⟨fault | status, u⟩
  · cases fetch_stopped usable formed run with
    | barred barred => exact absurd admits barred
    | unreached asked refused =>
        obtain ⟨url, located⟩ := reaches _ (List.mem_of_mem_filter asked)
        rw [located] at refused
        cases refused
  · exact ⟨status, rfl⟩

/-- What stops the loading of a POM stops the fetch, or it is in the file. -/
theorem loadPom_hindered (formed : v.files.Formed) {c : Coordinate}
    (stopped : (s.loadPom c).perform v = (.error fault, u)) : s.Hindered c v u fault := by
  refine ⟨stopped, ?_⟩
  rw [Source.loadPom, Action.perform_bind] at stopped
  rcases fetched : (s.fetch (artifactPath c "pom" none) c.isSnapshot).perform v with
    ⟨f | status, t⟩ <;> rw [fetched] at stopped <;> dsimp only at stopped
  · cases stopped
    exact .inl (fetch_stopped usable formed fetched)
  · split at stopped
    · cases stopped
    · next file kept =>
        rw [Action.perform_bind, Action.perform_inspect] at stopped
        cases readable : t.files.readFile file with
        | error f =>
            rw [readable] at stopped
            cases stopped
            refine .inl (.barred fun admits => ?_)
            obtain ⟨-, bytes, read⟩ := fetch_readable formed admits fetched kept
            rw [read] at readable
            cases readable
        | ok bytes =>
            rw [readable] at stopped
            simp only [Action.mapError_ok, Pom.ofBytes] at stopped
            cases read : Xml.Element.ofBytes bytes with
            | ok e =>
                rw [read] at stopped
                cases stopped
            | error f =>
                rw [read] at stopped
                by_cases malformed : f = .malformed
                · rw [malformed] at stopped
                  cases stopped
                · have unread := (Xml.ofBytes_unread bytes f).mp ⟨read, malformed⟩
                  rw [show file = s.pomFile c from fetch_place fetched kept] at readable
                  cases f with
                  | malformed => exact absurd rfl malformed
                  | unknownCharset name =>
                      cases stopped
                      exact .inr ⟨bytes, _, readable, unread, rfl⟩
                  | multiByteCharset =>
                      cases stopped
                      exact .inr ⟨bytes, _, readable, unread, rfl⟩

end Fetch

/-! ## Resolving -/

/-- The entries of the files stay in directories, wherever the source leads. -/
theorem comesTo_formed {among : Coordinate → Prop} (comes : s.ComesTo w among v)
    (formed : w.files.Formed) : v.files.Formed := by
  have steps : s.Steps (fun _ => True) fun w v => w.files.Formed → v.files.Formed :=
    { refl := fun _ => id
      trans := fun first second formed => second (first formed)
      printed := fun _ _ => id
      kept := fun _ _ => id
      asked := fun _ _ => id
      stored := fun _ _ _ _ _ _ _ _ _ _ _ stored formed => replaceFile_formed formed stored }
  exact comesTo_steps steps (fun _ _ _ _ _ => trivial) comes formed

/-- What stops a resolution is the POM of a coordinate that is referred to. -/
theorem resolve_hindered (usable : s.Usable) (formed : w.files.Formed) {c : Coordinate}
    {fault : Fault} (stopped : (s.resolve c).perform w = (.error fault, u)) :
    ∃ d v, s.Refers w c d ∧ s.ComesTo w (s.Refers w c) v ∧ s.Hindered d v u fault := by
  obtain ⟨d, v, refers, comes, stopped⟩ := Source.resolve_stopped stopped
  exact ⟨d, v, refers, comes, loadPom_hindered usable (comesTo_formed comes formed) stopped⟩

/-- A POM in the cache that names a character set that is not read stops every resolution of its
coordinate. -/
theorem resolve_unread {c : Coordinate} {bytes : ByteArray} {f : Xml.Fault}
    (fresh : w.models.find? c.text = none) (read : w.files.readFile (s.pomFile c) = .ok bytes)
    (unread : Xml.unread? bytes = some f) : (s.resolve c).perform w = (.error (.xml f), w) := by
  obtain ⟨failed, other⟩ := (Xml.ofBytes_unread bytes f).mpr unread
  have present : w.files.pathExists (s.pomFile c) = .ok true := Source.pathExists_of_readFile read
  have fetched : (s.fetch (artifactPath c "pom" none) c.isSnapshot).perform w
      = (.ok { outcome := .foundInCache, localFile := some (s.pomFile c) }, w) := by
    rw [fetch_eq, show w.files.pathExists (s.localFile (artifactPath c "pom" none)) = .ok true
      from present]
    rfl
  have loaded : (s.loadPom c).perform w = (.error (.xml f), w) := by
    rw [Source.loadPom, Action.perform_bind, fetched]
    dsimp only
    rw [Action.perform_bind, Action.perform_inspect, read]
    simp only [Action.mapError_ok, Pom.ofBytes, failed]
    cases f with
    | malformed => exact absurd rfl other
    | unknownCharset name => rfl
    | multiByteCharset => rfl
  rw [Source.resolve, Action.perform_bind, Source.maxNesting, Source.modelOf_new fresh,
    Source.newModel, Action.perform_bind, loaded]

/-! ## Answers -/

/-- Failures are values.  A fetch gives a status where nothing is in the way of its file and every
repository can be asked for it.  To resolve a coordinate gives an artifact or a failure, unless the
POM of a coordinate that it refers to raises a fault: it cannot be stored or asked for, or it names
a character set that is not read.  To inspect a file gives details or a problem, unless it is an
archive with a feature that is not supported or its manifest names such a character set. -/
theorem failures_answered (s : Source) (w : World) (usable : s.Usable) (formed : w.files.Formed)
    (links : w.files.NulFree) :
    (∀ path snapshot, w.files.Admits (s.localFile path) → s.Reaches path →
      ∃ status, ((s.fetch path snapshot).perform w).1 = .ok status) ∧
    (∀ a : ResolvedArtifact, w.files.Admits (s.localFile a.mainPath) → s.Reaches a.mainPath →
      ∃ status, ((s.download a).perform w).1 = .ok status) ∧
    (∀ c, (∃ answer, ((s.resolve c).perform w).1 = .ok answer) ∨
      ∃ fault u d v, (s.resolve c).perform w = (.error fault, u) ∧ s.Refers w c d ∧
        s.ComesTo w (s.Refers w c) v ∧ s.Hindered d v u fault) ∧
    ∀ path : Path, path.NulFree →
      (∃ answer, ((Aar.inspectFile path).perform w).1 = .ok answer) ∨
        ∃ bytes fault, w.files.readFile path = .ok bytes ∧
          ((Aar.inspectFile path).perform w).1 = .error fault ∧ Aar.Unanswered bytes fault := by
  refine ⟨fun path snapshot admits reaches => fetch_answers usable formed admits reaches snapshot,
    fun a admits reaches => fetch_answers usable formed admits reaches a.coordinate.isSnapshot,
    fun c => ?_, fun path free => ?_⟩
  · rcases run : (s.resolve c).perform w with ⟨fault | answer, u⟩
    · obtain ⟨d, v, hindered⟩ := resolve_hindered usable formed run
      exact .inr ⟨fault, u, d, v, rfl, hindered⟩
    · exact .inl ⟨answer, rfl⟩
  · rw [perform_inspectFile]
    rcases Aar.inspect_answers (w.files.readFile path) with
      answered | ⟨f, failed, other⟩ | ⟨bytes, fault, read, raised, unanswered⟩
    · exact .inl answered
    · have refuses : f.isRefusal = true := readFile_refuses links free failed
      rw [refuses] at other
      cases other
    · exact .inr ⟨bytes, fault, read, raised, unanswered⟩

namespace Offline

theorem usable : source.Usable := by
  intro r listed
  obtain rfl := List.mem_singleton.mp listed
  exact ⟨⟨_, rfl⟩, rfl⟩

theorem pom_admitted : world.files.Admits (source.pomFile child) :=
  empty_admits (show (source.pomFile child).names = ["cache", "g", "a", "1"] ++ ["a-1.pom"] by
    decide) (show ".." ∉ (source.pomFile child).names by decide) (by decide) (by decide)

theorem jar_admitted : world.files.Admits (source.localFile artifact.mainPath) :=
  empty_admits (show (source.localFile artifact.mainPath).names
    = ["cache", "g", "a", "1"] ++ ["a-1.jar"] by decide)
    (show ".." ∉ (source.localFile artifact.mainPath).names by decide) (by decide) (by decide)

theorem reaches {path : String} (taken : Web.refuses ("http://r" ++ "/" ++ path) = false) :
    source.Reaches path := by
  intro r listed
  obtain rfl := List.mem_singleton.mp listed
  have base : String.ofList (Text.trimEnd '/' "http://r/".toList) = "http://r" := by decide
  refine ⟨"http://r" ++ "/" ++ path, ?_⟩
  simp only [Source.address, base, taken]
  rfl

theorem links : world.files.NulFree := fun l target found => absurd found (plain.unlinked l target)

end Offline

namespace Foreign

/-- The server of a POM in a character set of an unknown name. -/
def world : World :=
  { Offline.world with
    web := ⟨[("http://r/g/a/1/a-1.pom", .response 200 "OK"
      "<?xml version=\"1.0\" encoding=\"foo\"?><project/>".toUTF8)]⟩ }

/-- The fault of a document that an action ended with. -/
def raised? {α : Type} : Except Fault α → Option Xml.Fault
  | .error (.xml f) => some f
  | _ => none

theorem eq_of_raised {α : Type} {x : Except Fault α} {f : Xml.Fault} (raised : raised? x = some f) :
    x = .error (.xml f) := by
  simp only [raised?] at raised
  split at raised <;> cases raised
  rfl

end Foreign

/-- The child is answered for, and so are its files and a payload that is not there.  Where its POM
names an unknown character set, the fault is that of loading a POM that it refers to. -/
theorem child_answered :
    (Offline.source.Usable ∧ Offline.world.files.Formed ∧ Offline.world.files.NulFree ∧
      Offline.world.files.Admits (Offline.source.pomFile Offline.child) ∧
      Offline.world.files.Admits (Offline.source.localFile Offline.artifact.mainPath)) ∧
    (∃ status, ((Offline.source.fetch "g/a/1/a-1.pom" false).perform Offline.world).1
      = .ok status) ∧
    (∃ status, ((Offline.source.download Offline.artifact).perform Offline.world).1
      = .ok status) ∧
    (∃ answer, ((Offline.source.resolve Offline.child).perform Offline.world).1 = .ok answer) ∧
    (∃ answer, ((Aar.inspectFile (.ofString "/cache/a.aar")).perform Offline.world).1
      = .ok answer) ∧
    ∃ fault u d v, (Offline.source.resolve Offline.child).perform Foreign.world = (.error fault, u) ∧
      Offline.source.Refers Foreign.world Offline.child d ∧
      Offline.source.ComesTo Foreign.world (Offline.source.Refers Foreign.world Offline.child) v ∧
      Offline.source.Hindered d v u fault := by
  obtain ⟨fetches, downloads, resolves, inspects⟩ := failures_answered Offline.source Offline.world
    Offline.usable Offline.plain.toFormed Offline.links
  obtain ⟨-, -, raises, -⟩ := failures_answered Offline.source Foreign.world Offline.usable
    Offline.plain.toFormed Offline.links
  refine ⟨⟨Offline.usable, Offline.plain.toFormed, Offline.links, Offline.pom_admitted,
    Offline.jar_admitted⟩, fetches "g/a/1/a-1.pom" false Offline.pom_admitted
      (Offline.reaches (by decide)), downloads Offline.artifact Offline.jar_admitted
      (Offline.reaches (by decide)), (resolves Offline.child).resolve_right ?_,
    (inspects (.ofString "/cache/a.aar") ?_).resolve_right ?_,
    (raises Offline.child).resolve_left ?_⟩
  · rintro ⟨fault, u, -, -, stopped, -⟩
    have answered : ((Offline.source.resolve Offline.child).perform Offline.world).1.isOk = true := by
      decide +kernel
    rw [stopped] at answered
    cases answered
  · show ∀ name ∈ (Path.ofString "/cache/a.aar").names, NulFree name
    decide
  · rintro ⟨bytes, -, read, -⟩
    have missing : (Offline.world.files.readFile (.ofString "/cache/a.aar")).toOption = none := by
      decide +kernel
    rw [read] at missing
    cases missing
  · rintro ⟨answer, answered⟩
    have raised : Foreign.raised? ((Offline.source.resolve Offline.child).perform Foreign.world).1
        = some (.unknownCharset "foo") := by decide +kernel
    rw [answered] at raised
    cases raised

/-- Nothing is in the way, and yet a served POM is answered with neither an artifact nor a
failure. -/
theorem unknown_charset_raised :
    Offline.source.Usable ∧ Foreign.world.files.Formed ∧
    Foreign.world.files.Admits (Offline.source.pomFile Offline.child) ∧
    ((Offline.source.resolve Offline.child).perform Foreign.world).1
      = .error (.xml (.unknownCharset "foo")) :=
  ⟨Offline.usable, Offline.plain.toFormed, Offline.pom_admitted,
    Foreign.eq_of_raised (by decide +kernel)⟩

end MavenImport
