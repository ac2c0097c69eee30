/-
# Proofs.FailedFetches -- what is said of a file that no repository sends

A repository without a file answers that it does not have it (`Repository.Lacks`), or it fails in
another way, with a status of its own or on the way to it (`Repository.Fails`).  A file is not found
only if all repositories that were asked lack it.  Otherwise the status tells of the first one that
failed, in the order in which they were asked (`Source.Classifies`), and the failure of a resolution
passes this on, with the addresses of all repositories (`fetch_classified`).

The answers are noted under the ids of the repositories, and the status is read off these notes.  So
the ids must differ: a later repository writes over the note of an earlier one with its id, and a
server that is down is then reported as a file that does not exist (`shared_id_hides_outage`).
-/
import MavenImport.Proofs.RaisedFaults
import MavenImport.Proofs.ResolutionFailures

namespace MavenImport

set_option autoImplicit false

/-! ## Repositories without a file -/

namespace Repository

/-- A repository answers that it does not have a file. -/
def Lacks (web : Web) (path : String) (r : Repository) : Prop :=
  ∃ url reason body, Source.address r path = .ok url ∧ web.reply url = .response 404 reason body

/-- A repository fails in another way than to lack a file: with a status and its reason, or with an
error on the way. -/
inductive Fails (web : Web) (path : String) (r : Repository) : Option Int → String → Prop
  | answered {url reason : String} {status : Int} {body : ByteArray}
      (located : Source.address r path = .ok url)
      (replied : web.reply url = .response status reason body) (other : status ≠ 200)
      (found : status ≠ 404) : Fails web path r (some status) reason
  | unreached {url kind message : String} (located : Source.address r path = .ok url)
      (replied : web.reply url = .failure kind message) :
      Fails web path r none (kind ++ ": " ++ message)

/-- A repository does not send a file. -/
def Withholds (web : Web) (path : String) (r : Repository) : Prop := ∃ url, r.Refuses web path url

/-- What is noted of a repository that does not send a file. -/
def attempt (web : Web) (path : String) (r : Repository) : Attempt :=
  match Source.address r path with
  | .ok url => Source.refusal r url (web.reply url)
  | .error _ => { outcome := .fetchError }

/-- Two repositories have different ids. -/
def Differ (r r' : Repository) : Prop := Json.sameEntry r.id r'.id = false

end Repository

namespace Source

/-- The repositories that are asked for one kind of version have different ids. -/
def Distinct (s : Source) : Prop :=
  ∀ snapshot, (s.admitted snapshot).Pairwise Repository.Differ

/-- A status tells why no repository sends a file. -/
structure Classifies (s : Source) (web : Web) (path : String) (snapshot : Bool)
    (status : FetchStatus) : Prop where
  lost : status.localFile = none
  known : status.outcome = .notFound ∨ status.outcome = .fetchError
  notFound : status.outcome = .notFound ↔ ∀ r ∈ s.admitted snapshot, r.Lacks web path
  /-- It is the first repository that failed which is told of. -/
  failed : status.outcome = .fetchError → ∃ before r after,
    s.admitted snapshot = before ++ r :: after ∧ (∀ r' ∈ before, r'.Lacks web path) ∧
      status.repository = some r.id ∧ r.Fails web path status.responseCode status.message

/-- A failure passes on why no repository sends the POM of a coordinate. -/
structure Reports (s : Source) (web : Web) (c : Coordinate) (status : FetchStatus)
    (failure : ResolutionFailure) : Prop where
  classifies : s.Classifies web (artifactPath c "pom" none) c.isSnapshot status
  coordinate : failure.coordinate = c.text
  reason : status.outcome = .notFound ∧ failure.reason = .notFound ∨
    status.outcome = .fetchError ∧ failure.reason = .fetchError
  repository : failure.repository = status.repository
  statusCode : failure.statusCode = status.responseCode
  message : failure.message = status.message
  repositories : failure.repositories = s.urls

end Source

section Attempts

variable {web : Web} {path : String} {r : Repository}

theorem attempt_lacks (lacks : r.Lacks web path) : (r.attempt web path).outcome = .notFound := by
  obtain ⟨url, reason, body, located, replied⟩ := lacks
  rw [Repository.attempt, located]
  dsimp only
  rw [replied]
  rfl

theorem attempt_lost (r : Repository) : (r.attempt web path).localFile = none := by
  unfold Repository.attempt
  split
  · exact refusal_lost r _ _
  · rfl

/-- A repository that does not send a file, and does not lack it either, fails as it is noted. -/
theorem attempt_fails (withholds : r.Withholds web path) (other : ¬ r.Lacks web path) :
    (r.attempt web path).outcome = .fetchError ∧ (r.attempt web path).repository = some r.id ∧
      r.Fails web path (r.attempt web path).responseCode (r.attempt web path).message := by
  obtain ⟨url, located, refused⟩ := withholds
  have same : r.attempt web path = Source.refusal r url (web.reply url) := by
    rw [Repository.attempt, located]
  rw [same]
  cases replied : web.reply url with
  | failure kind message => exact ⟨rfl, rfl, .unreached located replied⟩
  | response status reason body =>
      have found : status ≠ 404 := by
        rintro rfl
        exact other ⟨url, reason, body, located, replied⟩
      have sent : status ≠ 200 := by
        rintro rfl
        exact refused reason body replied
      rw [Source.refusal, if_neg found]
      exact ⟨rfl, rfl, .answered located replied sent found⟩

theorem attempt_outcome (withholds : r.Withholds web path) :
    (r.attempt web path).outcome = .fetchError ↔ ¬ r.Lacks web path := by
  constructor
  · intro failed lacks
    rw [attempt_lacks lacks] at failed
    cases failed
  · exact fun other => (attempt_fails withholds other).1

end Attempts

/-! ## Notes under different ids -/

section Notes

variable {s : Source} {web : Web} {path : String}

/-- What is written under a new key comes last. -/
theorem putScalar_new {α : Type} {key : Json} {value : α} :
    ∀ {es : List (Json × α)}, (∀ e ∈ es, Json.sameEntry e.1 key = false) →
      Json.putScalar key value es = es ++ [(key, value)]
  | [], _ => rfl
  | e :: es, new => by
      obtain ⟨other, later⟩ := List.forall_mem_cons.mp new
      rw [Json.putScalar, other, putScalar_new later]
      rfl

/-- Asking repositories that do not send a file, and whose ids differ, notes what each of them
answers, in order. -/
theorem inquire_withheld :
    ∀ (rs : List Repository) (errors : List (Json × Attempt)),
      (∀ r ∈ rs, r.Withholds web path) → (∀ r ∈ rs, r.id.isScalar = true) →
      rs.Pairwise Repository.Differ →
      (∀ e ∈ errors, ∀ r ∈ rs, Json.sameEntry e.1 r.id = false) →
      ∃ urls, s.inquire web path errors rs
        = ⟨urls, match s.combinedFailure path
              (errors ++ rs.map fun r => (r.id, r.attempt web path)) with
            | .ok status => .nothing status
            | .error f => .broken (.value f)⟩
  | [], errors, _, _, _, _ => by
      rw [Source.inquire, List.map_nil, List.append_nil]
      cases s.combinedFailure path errors <;> exact ⟨[], rfl⟩
  | r :: rs, errors, withheld, scalars, differ, new => by
      obtain ⟨⟨url, located, refused⟩, withheld⟩ := List.forall_mem_cons.mp withheld
      obtain ⟨scalar, scalars⟩ := List.forall_mem_cons.mp scalars
      obtain ⟨first, differ⟩ := List.pairwise_cons.mp differ
      have noted : Json.putScalar r.id (Source.refusal r url (web.reply url)) errors
          = errors ++ [(r.id, r.attempt web path)] := by
        rw [putScalar_new fun e listed => new e listed r List.mem_cons_self, Repository.attempt,
          located]
      have new' : ∀ e ∈ errors ++ [(r.id, r.attempt web path)], ∀ r' ∈ rs,
          Json.sameEntry e.1 r'.id = false := by
        intro e listed r' member
        rcases List.mem_append.mp listed with before | last
        · exact new e before r' (List.mem_cons_of_mem r member)
        · obtain rfl := List.mem_singleton.mp last
          exact first r' member
      obtain ⟨urls, same⟩ := inquire_withheld rs _ withheld scalars differ new'
      refine ⟨url :: urls, ?_⟩
      rw [inquire_refused located refused, scalar, noted, same, List.append_assoc]
      rfl

/-- The notes of repositories that do not send a file are summed up to a status that tells why. -/
theorem combined_classifies (usable : s.Usable) {snapshot : Bool}
    (withheld : ∀ r ∈ s.admitted snapshot, r.Withholds web path) : ∃ status,
    s.combinedFailure path ((s.admitted snapshot).map fun r => (r.id, r.attempt web path))
      = .ok status ∧ s.Classifies web path snapshot status := by
  obtain ⟨status, combined⟩ := combined_usable usable path
    ((s.admitted snapshot).map fun r => (r.id, r.attempt web path))
  refine ⟨status, combined, ?_⟩
  unfold Source.combinedFailure at combined
  split at combined
  · rename_i id first found
    cases combined
    obtain ⟨failed, notes, notes', split, earlier⟩ := List.find?_eq_some_iff_append.mp found
    obtain ⟨before, rest, order, rfl, rest'⟩ := List.map_eq_append_iff.mp split
    obtain ⟨r, after, rfl, note, -⟩ := List.map_eq_cons_iff.mp rest'
    cases note
    have member : r ∈ s.admitted snapshot := by rw [order]; simp
    have withholds := withheld r member
    have outcome : (r.attempt web path).outcome = .fetchError := of_decide_eq_true failed
    have other : ¬ r.Lacks web path := (attempt_outcome withholds).mp outcome
    obtain ⟨-, repository, fails⟩ := attempt_fails withholds other
    have lacking : ∀ r' ∈ before, r'.Lacks web path := by
      intro r' listed
      have asked : r' ∈ s.admitted snapshot := by rw [order]; simp [listed]
      by_contra fails'
      have same := (attempt_outcome (withheld r' asked)).mpr fails'
      simpa [same] using earlier _ (List.mem_map_of_mem listed)
    exact
      { lost := attempt_lost r
        known := .inr outcome
        notFound := by
          refine ⟨fun absent => ?_, fun lacks => absurd (lacks r member) other⟩
          rw [show (r.attempt web path).outcome = .notFound from absent] at outcome
          cases outcome
        failed := fun _ => ⟨before, r, after, order, lacking, repository, fails⟩ }
  · rename_i none
    have lacking : ∀ r ∈ s.admitted snapshot, r.Lacks web path := by
      intro r member
      by_contra fails
      have same := (attempt_outcome (withheld r member)).mpr fails
      simpa [same] using List.find?_eq_none.mp none _ (List.mem_map_of_mem member)
    cases joined : Json.joinTexts ", " s.urls with
    | error f =>
        rw [joined] at combined
        cases combined
    | ok urls =>
        rw [joined] at combined
        cases combined
        exact
          { lost := rfl
            known := .inl rfl
            notFound := ⟨fun _ => lacking, fun _ => rfl⟩
            failed := fun failed => by cases failed }

end Notes

/-! ## Fetches and resolutions -/

theorem withheld_of_refused {web : Web} {path : String} {rs : List Repository} {urls : List String}
    (refused : List.Forall₂ (Repository.Refuses web path) rs urls) :
    ∀ r ∈ rs, r.Withholds web path := by
  induction refused with
  | nil => exact fun r listed => absurd listed List.not_mem_nil
  | cons first _ ih => exact List.forall_mem_cons.mpr ⟨⟨_, first⟩, ih⟩

/-- Wherever a source leads, the answers of servers are the same. -/
theorem comesTo_web {s : Source} {w v : World} {among : Coordinate → Prop}
    (comes : s.ComesTo w among v) : v.web = w.web := by
  have steps : s.Steps (fun _ => True) fun w v => v.web = w.web :=
    { refl := fun _ => rfl
      trans := fun first second => second.trans first
      printed := fun _ _ => rfl
      kept := fun _ _ => rfl
      asked := fun _ _ => rfl
      stored := fun _ _ _ _ _ _ _ _ _ _ _ _ => rfl }
  exact comesTo_steps steps (fun _ _ _ _ _ => trivial) comes

section Fetching

variable {s : Source} {w v u : World} {path : String} {snapshot : Bool} {status : FetchStatus}
  {c : Coordinate}

/-- The POM of a coordinate that is not had, in words. -/
theorem missingPom_reports
    (classifies : s.Classifies w.web (artifactPath c "pom" none) c.isSnapshot status) :
    s.Reports w.web c status (s.missingPom c status) where
  classifies := classifies
  coordinate := rfl
  reason := by
    rcases classifies.known with outcome | outcome
    · exact .inl ⟨outcome, by rw [Source.missingPom, outcome]; rfl⟩
    · exact .inr ⟨outcome, by rw [Source.missingPom, outcome]; rfl⟩
  repository := rfl
  statusCode := rfl
  message := rfl
  repositories := rfl

variable (usable : s.Usable) (distinct : s.Distinct)
include usable distinct

/-- A fetch of a file that no repository sends is answered with the reason. -/
theorem fetch_withheld (absent : w.files.pathExists (s.localFile path) = .ok false)
    (withheld : ∀ r ∈ s.admitted snapshot, r.Withholds w.web path) :
    ∃ status u, (s.fetch path snapshot).perform w = (.ok status, u) ∧
      s.Classifies w.web path snapshot status := by
  have scalars : ∀ r ∈ s.admitted snapshot, r.id.isScalar = true := fun r listed =>
    (usable r (List.mem_of_mem_filter listed)).id
  obtain ⟨status, combined, classifies⟩ := combined_classifies usable withheld
  obtain ⟨urls, asked⟩ := inquire_withheld (s := s) (s.admitted snapshot) [] withheld scalars
    (distinct snapshot) fun e listed => absurd listed List.not_mem_nil
  rw [List.nil_append, combined] at asked
  refine ⟨status, { w with requested := (urls.map Web.target).reverse ++ w.requested }, ?_,
    classifies⟩
  rw [fetch_eq, absent]
  dsimp only
  rw [asked]
  rfl

/-- A fetch that is answered without a file threw it away, or no repository sends it. -/
theorem fetch_lost (fetched : (s.fetch path snapshot).perform v = (.ok status, u))
    (lost : status.localFile = none) :
    status.outcome = .invalidHash ∨ s.Classifies v.web path snapshot status := by
  rcases fetch_present fetched with ⟨-, -, rfl⟩ | absent
  · cases lost
  rcases fetch_absent absent fetched with ⟨urls, refused, -, -, -⟩ |
    ⟨_, _, _, _, _, _, _, -, -, -, -, ⟨-, -, outcome, -⟩ | ⟨-, _, -, -, -, kept⟩⟩
  · obtain ⟨status', u', fetched', classifies⟩ :=
      fetch_withheld usable distinct absent (withheld_of_refused refused)
    cases fetched.symm.trans fetched'
    exact .inr classifies
  · exact .inl outcome
  · rw [kept] at lost
    cases lost

/-- A coordinate whose POM no repository sends is not resolved, and the failure says why. -/
theorem resolve_withheld (missing : w.models.find? c.text = none)
    (absent : w.files.pathExists (s.pomFile c) = .ok false)
    (withheld : ∀ r ∈ s.admitted c.isSnapshot, r.Withholds w.web (artifactPath c "pom" none)) :
    ∃ status failure u, (s.resolve c).perform w = (.ok (.error failure), u) ∧
      s.Reports w.web c status failure := by
  obtain ⟨status, u, fetched, classifies⟩ := fetch_withheld usable distinct absent withheld
  refine ⟨status, s.missingPom c status, u, ?_, missingPom_reports classifies⟩
  apply Source.resolve_unloaded missing
  rw [Source.loadPom, Action.perform_bind, fetched]
  dsimp only
  rw [classifies.lost]
  rfl

/-- A failure for want of a POM says why no repository sends that POM. -/
theorem failure_reports {failure : ResolutionFailure} (failed : s.FailedBy w c failure)
    (wanting : failure.reason = .notFound ∨ failure.reason = .fetchError) :
    ∃ d status, s.Refers w c d ∧ s.Reports w.web d status failure := by
  cases failed with
  | nesting _ deep =>
      rw [deep] at wanting
      rcases wanting with other | other <;> cases other
  | @loading d v u refers comes failed =>
      obtain ⟨status, v', fetched, ⟨lost, same⟩ | ⟨file, -, same⟩⟩ := Source.loadPom_failed failed
      · rcases fetch_lost usable distinct fetched lost with outcome | classifies
        · have reason : failure.reason = .invalidHash := by
            rw [same, Source.missingPom, outcome]
            rfl
          rw [reason] at wanting
          rcases wanting with other | other <;> cases other
        · rw [comesTo_web comes] at classifies
          exact ⟨d, status, refers, same ▸ missingPom_reports classifies⟩
      · rw [same] at wanting
        rcases wanting with other | other <;> cases other

end Fetching

/-- Where a file is in neither the cache nor a repository, the fetch is answered with the reason: it
is not found exactly if all repositories that are asked lack it, and otherwise the first one that
failed is told of.  The failure to resolve a coordinate without a POM passes this on with all
addresses, and so does every failure for want of the POM of a parent or import. -/
theorem fetch_classified (s : Source) (w : World) (usable : s.Usable) (distinct : s.Distinct) :
    (∀ path snapshot, w.files.pathExists (s.localFile path) = .ok false →
      (∀ r ∈ s.admitted snapshot, r.Withholds w.web path) →
      ∃ status u, (s.fetch path snapshot).perform w = (.ok status, u) ∧
        s.Classifies w.web path snapshot status) ∧
    (∀ c, w.models.find? c.text = none → w.files.pathExists (s.pomFile c) = .ok false →
      (∀ r ∈ s.admitted c.isSnapshot, r.Withholds w.web (artifactPath c "pom" none)) →
      ∃ status failure u, (s.resolve c).perform w = (.ok (.error failure), u) ∧
        s.Reports w.web c status failure) ∧
    ∀ c failure u, (s.resolve c).perform w = (.ok (.error failure), u) →
      failure.repositories = s.urls ∧
      (failure.reason = .notFound ∨ failure.reason = .fetchError →
        ∃ d status, s.Refers w c d ∧ s.Reports w.web d status failure) := by
  refine ⟨fun path snapshot => fetch_withheld usable distinct,
    fun c => resolve_withheld usable distinct, fun c failure u failed => ?_⟩
  have known := Source.resolve_failed failed
  exact ⟨Source.failure_repositories known, failure_reports usable distinct known⟩

/-! ### A file that one repository lacks and two fail to send -/

namespace Outage

def artifact : Coordinate := ⟨"g", "a", "1"⟩

/-- The path of the POM of the artifact. -/
def path : String := "g/a/1/a-1.pom"

/-- Three repositories, with ids for the last two. -/
def source (second third : String) : Source where
  cache := .ofString "/cache"
  repositories :=
    [{ id := .str "staging", url := .str "http://a" },
     { id := .str second, url := .str "http://b/" },
     { id := .str third, url := .str "http://c" }]

/-- The second repository is down.  The third one answers in some way. -/
def world (third : Reply) : World where
  files := .empty []
  web := ⟨[("http://b/g/a/1/a-1.pom", .response 503 "Service Unavailable" .empty),
    ("http://c/g/a/1/a-1.pom", third)]⟩
  requested := []
  console := ⟨0, []⟩
  models := ⟨[]⟩
  elapsed := "0"

def unreachable : Reply := .failure "ConnectError" "refused"

def lacking : Reply := .response 404 "Not Found" .empty

variable {second third : String} {answer : Reply}

theorem usable : (source second third).Usable := by
  intro r listed
  simp only [source, List.mem_cons, List.not_mem_nil, or_false] at listed
  rcases listed with rfl | rfl | rfl <;> exact ⟨⟨_, rfl⟩, rfl⟩

theorem absent : (world answer).files.pathExists ((source second third).localFile path)
    = .ok false := rfl

/-- What the servers answer: the first one has nothing. -/
theorem replies (answer : Reply) : (world answer).web.reply "http://a/g/a/1/a-1.pom" = lacking ∧
    (world answer).web.reply "http://b/g/a/1/a-1.pom"
      = .response 503 "Service Unavailable" .empty ∧
    (world answer).web.reply "http://c/g/a/1/a-1.pom" = answer := by
  have first : Web.target "http://a/g/a/1/a-1.pom" = "http://a/g/a/1/a-1.pom" := by decide
  have second : Web.target "http://b/g/a/1/a-1.pom" = "http://b/g/a/1/a-1.pom" := by decide
  have third : Web.target "http://c/g/a/1/a-1.pom" = "http://c/g/a/1/a-1.pom" := by decide
  refine ⟨?_, ?_, ?_⟩
  · rw [Web.reply, first]
    rfl
  · rw [Web.reply, second]
    rfl
  · rw [Web.reply, third]
    rfl

theorem withheld (other : ∀ reason body, answer ≠ .response 200 reason body) (snapshot : Bool) :
    ∀ r ∈ (source second third).admitted snapshot, r.Withholds (world answer).web path := by
  obtain ⟨first, down, last⟩ := replies answer
  intro r asked
  have listed := List.mem_of_mem_filter asked
  simp only [source, List.mem_cons, List.not_mem_nil, or_false] at listed
  rcases listed with rfl | rfl | rfl
  · refine ⟨"http://a/g/a/1/a-1.pom", rfl, fun reason body replied => ?_⟩
    rw [first] at replied
    cases replied
  · refine ⟨"http://b/g/a/1/a-1.pom", rfl, fun reason body replied => ?_⟩
    rw [down] at replied
    cases replied
  · refine ⟨"http://c/g/a/1/a-1.pom", rfl, fun reason body replied => other reason body ?_⟩
    rwa [last] at replied

theorem distinct : (source "central" "google").Distinct := by
  intro snapshot
  cases snapshot <;> simp [source, Source.admitted, Repository.admits, Repository.Differ,
    Json.sameEntry, Json.number?]

/-- What is told of the file: the outcome and the status of the answer. -/
def told (second third : String) (answer : Reply) : Option (Outcome × Option Int) :=
  (((source second third).fetch path false).perform (world answer)).1.toOption.map fun status =>
    (status.outcome, status.responseCode)

end Outage

/-- The repository that is down is told of, and so it is when the artifact is to be resolved. -/
theorem outage_classified :
    ((Outage.source "central" "google").Usable ∧ (Outage.source "central" "google").Distinct ∧
      Outage.told "central" "google" Outage.unreachable = some (.fetchError, some 503)) ∧
    (∃ status u, ((Outage.source "central" "google").fetch Outage.path false).perform
        (Outage.world Outage.unreachable) = (.ok status, u) ∧
      (Outage.source "central" "google").Classifies (Outage.world Outage.unreachable).web
        Outage.path false status) ∧
    ∃ status failure u, ((Outage.source "central" "google").resolve Outage.artifact).perform
        (Outage.world Outage.unreachable) = (.ok (.error failure), u) ∧
      (Outage.source "central" "google").Reports (Outage.world Outage.unreachable).web
        Outage.artifact status failure := by
  have classified := fetch_classified (Outage.source "central" "google")
    (Outage.world Outage.unreachable) Outage.usable Outage.distinct
  have unsent : ∀ reason body, Outage.unreachable ≠ .response 200 reason body :=
    fun _ _ sent => by cases sent
  exact ⟨⟨Outage.usable, Outage.distinct, by decide⟩,
    classified.1 Outage.path false Outage.absent (Outage.withheld unsent false),
    classified.2.1 Outage.artifact rfl Outage.absent (Outage.withheld unsent false)⟩

/-- Two repositories with one id: the second one is down and the third one lacks the file, and the
file is reported as not found. -/
theorem shared_id_hides_outage :
    (Outage.source "r" "r").Usable ∧
    (Outage.world Outage.lacking).files.pathExists ((Outage.source "r" "r").localFile Outage.path)
      = .ok false ∧
    (∀ r ∈ (Outage.source "r" "r").admitted false,
      r.Withholds (Outage.world Outage.lacking).web Outage.path) ∧
    ∃ status u, ((Outage.source "r" "r").fetch Outage.path false).perform
        (Outage.world Outage.lacking) = (.ok status, u) ∧ status.outcome = .notFound ∧
      ¬ (Outage.source "r" "r").Classifies (Outage.world Outage.lacking).web Outage.path false
        status := by
  have unsent : ∀ reason body, Outage.lacking ≠ .response 200 reason body :=
    fun _ _ sent => by cases sent
  refine ⟨Outage.usable, Outage.absent, Outage.withheld unsent false, ?_⟩
  have checked : Outage.told "r" "r" Outage.lacking = some (.notFound, none) := by decide
  unfold Outage.told at checked
  rcases ended : ((Outage.source "r" "r").fetch Outage.path false).perform
    (Outage.world Outage.lacking) with ⟨fault | status, u⟩ <;> rw [ended] at checked
  · cases checked
  · have outcome : status.outcome = .notFound := congrArg Prod.fst (Option.some.inj checked)
    refine ⟨status, u, rfl, outcome, fun classifies => ?_⟩
    obtain ⟨url, reason, body, located, replied⟩ := classifies.notFound.mp outcome
      { id := .str "r", url := .str "http://b/" } (by simp [Outage.source, Source.admitted,
        Repository.admits])
    obtain rfl : "http://b/g/a/1/a-1.pom" = url := Except.ok.inj located
    rw [(Outage.replies Outage.lacking).2.1] at replied
    cases replied

end MavenImport
