/-
# Proofs.FetchIntegrity -- what a fetch asks for and what it leaves in the cache

What repositories answer does not depend on files, so asking them is first put as a function of
the web: the URLs that are asked for and what they come to (`Source.inquire`).  Only a delivery
is carried out on the cache (`Source.receive`); `fetchFrom_eq` says that fetching is one after the
other.

`Source.Fetched` tells the ways in which a fetch may end, without saying how it is computed.
A file in the cache is taken as it is, without a request.  Otherwise repositories are asked in
turn up to the first that sends the file.  What it sends is kept if the digest beside it, as far
as there is one, is that of the content, and is thrown away without another try if it is not.
-/
import MavenImport.Proofs.ActionLaws
import MavenImport.Proofs.FileWrites
import Mathlib.Data.List.Forall2

namespace MavenImport

set_option autoImplicit false

/-! ## What fetching a file means -/

/-- A repository does not send a file: it has an address there, which answers anything else than
success. -/
def Repository.Refuses (web : Web) (path : String) (r : Repository) (url : String) : Prop :=
  Source.address r path = .ok url ∧ ∀ reason body, web.reply url ≠ .response 200 reason body

/-- What is published beside a file does not speak against its content: if there is a first word,
it is the digest of the content, in letters of either case. -/
def Web.Trusts (web : Web) (url : String) (body : ByteArray) : Prop :=
  ∀ reason text, web.reply (url ++ ".sha1") = .response 200 reason text →
    ∀ first rest, Text.words (Text.Utf8.decodeLenient text) = first :: rest →
      Text.lower first = Digest.sha1 body

namespace Source

/-- The repositories in which a file of the given kind of version is looked for. -/
def admitted (s : Source) (snapshot : Bool) : List Repository :=
  s.repositories.filter fun r => r.admits snapshot

/-- How a fetch ends in a world: with a status, and with another world. -/
inductive Fetched (s : Source) (path : String) (snapshot : Bool) (w : World) :
    FetchStatus → World → Prop
  /-- The cache has the file, and nothing happens. -/
  | cached {status : FetchStatus} (present : w.files.pathExists (s.localFile path) = .ok true)
      (outcome : status.outcome = .foundInCache)
      (kept : status.localFile = some (s.localFile path)) : Fetched s path snapshot w status w
  /-- The first repository that sends the file is trusted, and the cache gains the file. -/
  | downloaded {status : FetchStatus} {before after : List Repository} {r : Repository}
      {urls : List String} {url reason : String} {body : ByteArray} {files : FileSystem}
      (absent : w.files.pathExists (s.localFile path) = .ok false)
      (order : s.admitted snapshot = before ++ r :: after)
      (refused : List.Forall₂ (Repository.Refuses w.web path) before urls)
      (located : address r path = .ok url) (sent : w.web.reply url = .response 200 reason body)
      (trusted : w.web.Trusts url body) (gained : w.files.Gains (s.localFile path) body files)
      (outcome : status.outcome = .downloaded)
      (kept : status.localFile = some (s.localFile path)) :
      Fetched s path snapshot w status
        { w with
          files := files
          requested := ((urls ++ [url, url ++ ".sha1"]).map Web.target).reverse ++ w.requested }
  /-- The first repository that sends the file is not trusted, and no other one is asked. -/
  | rejected {status : FetchStatus} {before after : List Repository} {r : Repository}
      {urls : List String} {url reason : String} {body : ByteArray}
      (absent : w.files.pathExists (s.localFile path) = .ok false)
      (order : s.admitted snapshot = before ++ r :: after)
      (refused : List.Forall₂ (Repository.Refuses w.web path) before urls)
      (located : address r path = .ok url) (sent : w.web.reply url = .response 200 reason body)
      (distrusted : ¬ w.web.Trusts url body) (outcome : status.outcome = .invalidHash)
      (lost : status.localFile = none) :
      Fetched s path snapshot w status
        { w with requested := ((urls ++ [url, url ++ ".sha1"]).map Web.target).reverse ++ w.requested }
  /-- No repository sends the file. -/
  | unavailable {status : FetchStatus} {urls : List String}
      (absent : w.files.pathExists (s.localFile path) = .ok false)
      (refused : List.Forall₂ (Repository.Refuses w.web path) (s.admitted snapshot) urls)
      (outcome : status.outcome = .notFound ∨ status.outcome = .fetchError)
      (lost : status.localFile = none) :
      Fetched s path snapshot w status
        { w with requested := (urls.map Web.target).reverse ++ w.requested }

end Source

/-! ## Asking repositories -/

/-- What comes of asking repositories for a file. -/
inductive Delivery
  /-- A repository sent a content that is to be kept. -/
  | content (r : Repository) (body : ByteArray)
  /-- There is nothing to keep. -/
  | nothing (status : FetchStatus)
  | broken (fault : Fault)

/-- The URLs that are asked for in turn, and what they come to. -/
structure Inquiry where
  urls : List String
  delivery : Delivery

namespace Source

/-- The digest that a server publishes beside a file. -/
def digestAt? (web : Web) (url : String) : Option String :=
  match web.reply (url ++ ".sha1") with
  | .response 200 _ body => (Text.words (Text.Utf8.decodeLenient body)).head?.map Text.lower
  | _ => none

/-- Whether a content is to be kept, by the digest that is published. -/
def judge (web : Web) (r : Repository) (url : String) (body : ByteArray) : Delivery :=
  match digestAt? web url with
  | some digest =>
    if digest ≠ Digest.sha1 body then
      .nothing {
        outcome := .invalidHash, repository := some r.id
        message := "sha1 of " ++ url ++ " does not match the published checksum " ++ digest }
    else .content r body
  | none => .content r body

/-- Asks repositories in turn; `errors` tells what those before them answered. -/
def inquire (s : Source) (web : Web) (path : String) (errors : List (Json × Attempt)) :
    List Repository → Inquiry
  | [] => match s.combinedFailure path errors with
    | .ok status => ⟨[], .nothing status⟩
    | .error f => ⟨[], .broken (.value f)⟩
  | r :: rs => match address r path with
    | .error f => ⟨[], .broken (.value f)⟩
    | .ok url => match web.reply url with
      | .response 200 _ body => ⟨[url, url ++ ".sha1"], judge web r url body⟩
      | reply =>
        if !r.id.isScalar then ⟨[url], .broken (.value (.unhashable r.id.kind))⟩
        else
          let later := s.inquire web path (Json.putScalar r.id (refusal r url reply) errors) rs
          ⟨url :: later.urls, later.delivery⟩

/-- Keeps what was delivered. -/
def receive (s : Source) (path : String) : Delivery → Action FetchStatus
  | .content r body => do
    Action.change fun fs => fs.replaceFile (s.localFile path) body
    return { outcome := .downloaded, localFile := some (s.localFile path), repository := some r.id }
  | .nothing status => return status
  | .broken fault => Action.fail fault

end Source

section Asking

variable {s : Source} {path : String}

theorem publishedDigest_eq (url : String) (w : World) :
    (Source.publishedDigest url).perform w
      = (.ok (Source.digestAt? w.web url),
          { w with requested := Web.target (url ++ ".sha1") :: w.requested }) := by
  unfold Source.publishedDigest Source.digestAt?
  rw [Action.perform_bind, Action.perform_request]
  dsimp only
  split
  · rename_i reason body answered
    simp only [answered, Action.perform_pure]
  · simp only [Action.perform_pure]

theorem keep_eq (r : Repository) (url : String) (body : ByteArray) (w : World) :
    (s.keep path r url body).perform w
      = (s.receive path (Source.judge w.web r url body)).perform
          { w with requested := Web.target (url ++ ".sha1") :: w.requested } := by
  unfold Source.keep Source.judge
  rw [Action.perform_bind, publishedDigest_eq]
  dsimp only
  cases Source.digestAt? w.web url with
  | none => rfl
  | some digest =>
      by_cases differs : digest ≠ Digest.sha1 body
      · simp only [if_pos differs]
        rfl
      · simp only [if_neg differs]
        rfl

/-- Asking a repository that does not send the file comes before asking the others. -/
theorem fetchFrom_refused {r : Repository} {rs : List Repository} {errors : List (Json × Attempt)}
    {url : String} {w : World} (located : Source.address r path = .ok url)
    (refused : ∀ reason body, w.web.reply url ≠ .response 200 reason body) :
    (s.fetchFrom path errors (r :: rs)).perform w
      = (if !r.id.isScalar then Action.fail (.value (.unhashable r.id.kind))
          else s.fetchFrom path
            (Json.putScalar r.id (Source.refusal r url (w.web.reply url)) errors) rs).perform
          { w with requested := Web.target url :: w.requested } := by
  rw [Source.fetchFrom, located, Action.perform_bind]
  simp only [Action.perform_ofExcept, Action.mapError_ok]
  rw [Action.perform_bind, Action.perform_request]
  dsimp only
  split
  · rename_i reason body sent
    exact absurd sent (refused reason body)
  · rfl

theorem inquire_refused {r : Repository} {rs : List Repository} {errors : List (Json × Attempt)}
    {url : String} {web : Web} (located : Source.address r path = .ok url)
    (refused : ∀ reason body, web.reply url ≠ .response 200 reason body) :
    s.inquire web path errors (r :: rs)
      = if !r.id.isScalar then ⟨[url], .broken (.value (.unhashable r.id.kind))⟩
        else
          let later := s.inquire web path
            (Json.putScalar r.id (Source.refusal r url (web.reply url)) errors) rs
          ⟨url :: later.urls, later.delivery⟩ := by
  rw [Source.inquire, located]
  dsimp only
  split
  · rename_i reason body sent
    exact absurd sent (refused reason body)
  · rfl

/-- Fetching a file asks for it and keeps what is delivered. -/
theorem fetchFrom_eq (s : Source) (path : String) :
    ∀ (rs : List Repository) (errors : List (Json × Attempt)) (w : World),
      (s.fetchFrom path errors rs).perform w
        = (s.receive path (s.inquire w.web path errors rs).delivery).perform
            { w with
              requested := ((s.inquire w.web path errors rs).urls.map Web.target).reverse
                ++ w.requested }
  | [], errors, w => by
      rw [Source.fetchFrom, Action.perform_ofExcept, Source.inquire]
      cases s.combinedFailure path errors <;> rfl
  | r :: rs, errors, w => by
      cases located : Source.address r path with
      | error f =>
          rw [Source.fetchFrom, Source.inquire, located, Action.perform_bind]
          rfl
      | ok url =>
          by_cases sent : ∃ reason body, w.web.reply url = .response 200 reason body
          · obtain ⟨reason, body, sent⟩ := sent
            rw [Source.fetchFrom, Source.inquire, located, Action.perform_bind]
            simp only [Action.perform_ofExcept, Action.mapError_ok]
            rw [Action.perform_bind, Action.perform_request]
            dsimp only
            rw [sent]
            exact keep_eq r url body _
          · have refused : ∀ reason body, w.web.reply url ≠ .response 200 reason body :=
              fun reason body answered => sent ⟨reason, body, answered⟩
            rw [fetchFrom_refused located refused, inquire_refused located refused]
            split
            · rfl
            · rw [fetchFrom_eq s path rs]
              simp

/-- A fetch looks into the cache and then asks the repositories for that kind of version. -/
theorem fetch_eq (s : Source) (path : String) (snapshot : Bool) (w : World) :
    (s.fetch path snapshot).perform w = match w.files.pathExists (s.localFile path) with
      | .error fault => (.error (.file fault), w)
      | .ok true =>
        (.ok { outcome := .foundInCache, localFile := some (s.localFile path) }, w)
      | .ok false =>
        (s.receive path (s.inquire w.web path [] (s.admitted snapshot)).delivery).perform
          { w with
            requested :=
              ((s.inquire w.web path [] (s.admitted snapshot)).urls.map Web.target).reverse
                ++ w.requested } := by
  unfold Source.fetch
  rw [Action.perform_bind, Action.perform_inspect]
  cases w.files.pathExists (s.localFile path) with
  | error fault => rfl
  | ok present =>
      cases present with
      | true => rfl
      | false => exact fetchFrom_eq s path _ [] w

end Asking

/-! ## What an inquiry comes to -/

section Inquiry

variable {s : Source} {web : Web} {path : String}

variable (web) in
/-- A content is kept exactly if nothing speaks against it. -/
theorem judge_cases (r : Repository) (url : String) (body : ByteArray) :
    (web.Trusts url body ∧ Source.judge web r url body = .content r body) ∨
      ¬ web.Trusts url body ∧ ∃ status, Source.judge web r url body = .nothing status ∧
        status.outcome = .invalidHash ∧ status.localFile = none := by
  unfold Source.judge Source.digestAt? Web.Trusts
  split
  · rename_i digest published
    split at published
    · rename_i reason text answered
      cases words : Text.words (Text.Utf8.decodeLenient text) with
      | nil =>
          rw [words] at published
          cases published
      | cons first rest =>
          rw [words] at published
          simp only [List.head?_cons, Option.map_some, Option.some.injEq] at published
          by_cases same : digest = Digest.sha1 body
          · refine .inl ⟨?_, if_neg (not_not_intro same)⟩
            intro reason' text' answered' first' rest' words'
            rw [answered] at answered'
            cases answered'
            rw [words] at words'
            cases words'
            exact published.trans same
          · refine .inr ⟨fun trusted => same ?_, _, if_pos same, rfl, rfl⟩
            rw [← published]
            exact trusted reason text answered first rest words
    · cases published
  · rename_i unpublished
    refine .inl ⟨?_, rfl⟩
    intro reason text answered first rest words
    rw [answered] at unpublished
    simp [words] at unpublished

/-- What repositories that do not send a file answered is put together to a status without it. -/
theorem combinedFailure_lost {errors : List (Json × Attempt)} {status : FetchStatus}
    (lost : ∀ e ∈ errors, e.2.localFile = none)
    (combined : s.combinedFailure path errors = .ok status) :
    (status.outcome = .notFound ∨ status.outcome = .fetchError) ∧ status.localFile = none := by
  unfold Source.combinedFailure at combined
  split at combined
  · rename_i id first found
    cases combined
    have failed := List.find?_some found
    exact ⟨.inr (of_decide_eq_true failed), lost _ (List.mem_of_find?_eq_some found)⟩
  · cases joined : Json.joinTexts ", " s.urls with
    | error f =>
        rw [joined] at combined
        cases combined
    | ok urls =>
        rw [joined] at combined
        cases combined
        exact ⟨.inl rfl, rfl⟩

theorem refusal_lost (r : Repository) (url : String) (reply : Reply) :
    (Source.refusal r url reply).localFile = none := by
  unfold Source.refusal
  split
  · split <;> rfl
  · rfl

/-- What a table by scalars holds after writing is what was written or was held before. -/
theorem mem_putScalar {α : Type} {key : Json} {value : α} {e : Json × α} :
    ∀ {es : List (Json × α)}, e ∈ Json.putScalar key value es → e.2 = value ∨ e ∈ es
  | [], member => by
      simp only [Json.putScalar, List.mem_singleton] at member
      exact .inl (congrArg Prod.snd member)
  | e' :: es, member => by
      unfold Json.putScalar at member
      split at member
      · rcases List.mem_cons.mp member with rfl | later
        · exact .inl rfl
        · exact .inr (List.mem_cons_of_mem _ later)
      · rcases List.mem_cons.mp member with rfl | later
        · exact .inr List.mem_cons_self
        · rcases mem_putScalar later with written | before
          · exact .inl written
          · exact .inr (List.mem_cons_of_mem _ before)

variable (s web path) in
/-- An inquiry that does not break off goes through repositories that do not send the file, up to
the first that does or to the end. -/
theorem inquire_cases :
    ∀ (rs : List Repository) (errors : List (Json × Attempt)),
      (∀ e ∈ errors, e.2.localFile = none) →
      (∃ fault, (s.inquire web path errors rs).delivery = .broken fault) ∨
      (∃ before r after urls url reason body, rs = before ++ r :: after ∧
        List.Forall₂ (Repository.Refuses web path) before urls ∧
        Source.address r path = .ok url ∧ web.reply url = .response 200 reason body ∧
        s.inquire web path errors rs
          = ⟨urls ++ [url, url ++ ".sha1"], Source.judge web r url body⟩) ∨
      ∃ urls status, List.Forall₂ (Repository.Refuses web path) rs urls ∧
        s.inquire web path errors rs = ⟨urls, .nothing status⟩ ∧
        (status.outcome = .notFound ∨ status.outcome = .fetchError) ∧ status.localFile = none
  | [], errors, lost => by
      rw [Source.inquire]
      cases combined : s.combinedFailure path errors with
      | error f => exact .inl ⟨_, rfl⟩
      | ok status => exact .inr (.inr ⟨[], status, .nil, rfl, combinedFailure_lost lost combined⟩)
  | r :: rs, errors, lost => by
      cases located : Source.address r path with
      | error f =>
          rw [Source.inquire, located]
          exact .inl ⟨_, rfl⟩
      | ok url =>
          by_cases sent : ∃ reason body, web.reply url = .response 200 reason body
          · obtain ⟨reason, body, sent⟩ := sent
            refine .inr (.inl ⟨[], r, rs, [], url, reason, body, rfl, .nil, located, sent, ?_⟩)
            rw [Source.inquire, located]
            dsimp only
            rw [sent]
            rfl
          · have refused : ∀ reason body, web.reply url ≠ .response 200 reason body :=
              fun reason body answered => sent ⟨reason, body, answered⟩
            rw [inquire_refused located refused]
            split
            · exact .inl ⟨_, rfl⟩
            · have lost' : ∀ e ∈ Json.putScalar r.id
                  (Source.refusal r url (web.reply url)) errors, e.2.localFile = none := by
                intro e member
                rcases mem_putScalar member with written | before
                · rw [written]
                  exact refusal_lost r url _
                · exact lost e before
              rcases inquire_cases rs _ lost' with broken |
                ⟨before, r', after, urls, url', reason, body, rfl, asked, located', sent', same⟩ |
                ⟨urls, status, asked, same, outcome⟩
              · exact .inl broken
              · refine .inr (.inl ⟨r :: before, r', after, url :: urls, url', reason, body, rfl,
                  .cons ⟨located, refused⟩ asked, located', sent', ?_⟩)
                rw [same]
                rfl
              · refine .inr (.inr ⟨url :: urls, status, .cons ⟨located, refused⟩ asked, ?_,
                  outcome⟩)
                rw [same]

/-- A fetch of a file that is not in the cache returns without it if no repository sends it.  What
the first one sends is thrown away if it is not trusted, and else the cache has taken it. -/
theorem fetch_absent {snapshot : Bool} {v v' : World} {status : FetchStatus}
    (absent : v.files.pathExists (s.localFile path) = .ok false)
    (fetched : (s.fetch path snapshot).perform v = (.ok status, v')) :
    (∃ urls, List.Forall₂ (Repository.Refuses v.web path) (s.admitted snapshot) urls ∧
      v' = { v with requested := (urls.map Web.target).reverse ++ v.requested } ∧
      (status.outcome = .notFound ∨ status.outcome = .fetchError) ∧ status.localFile = none) ∨
    ∃ before r after urls url reason body, s.admitted snapshot = before ++ r :: after ∧
      List.Forall₂ (Repository.Refuses v.web path) before urls ∧
      Source.address r path = .ok url ∧ v.web.reply url = .response 200 reason body ∧
      let requested := ((urls ++ [url, url ++ ".sha1"]).map Web.target).reverse ++ v.requested
      (¬ v.web.Trusts url body ∧ v' = { v with requested := requested } ∧
        status.outcome = .invalidHash ∧ status.localFile = none) ∨
      v.web.Trusts url body ∧ ∃ files, v.files.replaceFile (s.localFile path) body = .ok files ∧
        v' = { v with files := files, requested := requested } ∧
        status.outcome = .downloaded ∧ status.localFile = some (s.localFile path) := by
  rw [fetch_eq, absent] at fetched
  dsimp only at fetched
  rcases inquire_cases s v.web path (s.admitted snapshot) []
      (fun e member => absurd member List.not_mem_nil) with
    ⟨fault, broken⟩ | ⟨before, r, after, urls, url, reason, body, order, refused, located, sent,
      same⟩ | ⟨urls, status', refused, same, outcome, lost⟩
  · rw [broken] at fetched
    cases fetched
  · rw [same] at fetched
    refine .inr ⟨before, r, after, urls, url, reason, body, order, refused, located, sent, ?_⟩
    rcases judge_cases v.web r url body with
      ⟨trusted, judged⟩ | ⟨distrusted, status', judged, outcome, lost⟩
    · rw [judged, Source.receive, Action.perform_bind, Action.perform_change] at fetched
      cases written : v.files.replaceFile (s.localFile path) body with
      | error fault =>
          rw [written] at fetched
          cases fetched
      | ok files =>
          rw [written] at fetched
          cases fetched
          exact .inr ⟨trusted, files, rfl, rfl, rfl, rfl⟩
    · rw [judged] at fetched
      cases fetched
      exact .inl ⟨distrusted, rfl, outcome, lost⟩
  · rw [same] at fetched
    cases fetched
    exact .inl ⟨urls, refused, rfl, outcome, lost⟩

/-- A fetch that returns found the file, or it was not there. -/
theorem fetch_present {snapshot : Bool} {v v' : World} {status : FetchStatus}
    (fetched : (s.fetch path snapshot).perform v = (.ok status, v')) :
    (v.files.pathExists (s.localFile path) = .ok true ∧ v' = v ∧
      status = { outcome := .foundInCache, localFile := some (s.localFile path) }) ∨
    v.files.pathExists (s.localFile path) = .ok false := by
  rw [fetch_eq] at fetched
  split at fetched
  · cases fetched
  · next present =>
      cases fetched
      exact .inl ⟨present, rfl, rfl⟩
  · next absent => exact .inr absent

/-- In short: it found the file; or it was not there, and nothing was kept or what was sent is. -/
theorem fetch_cases {snapshot : Bool} {v v' : World} {status : FetchStatus}
    (fetched : (s.fetch path snapshot).perform v = (.ok status, v')) :
    (v.files.pathExists (s.localFile path) = .ok true ∧ v' = v ∧
      status = { outcome := .foundInCache, localFile := some (s.localFile path) }) ∨
    v.files.pathExists (s.localFile path) = .ok false ∧ ∃ requested,
      (status.isSuccess = false ∧ status.localFile = none ∧
        v' = { v with requested := requested }) ∨
      ∃ body files, v.files.replaceFile (s.localFile path) body = .ok files ∧
        status.isSuccess = true ∧ status.localFile = some (s.localFile path) ∧
        v' = { v with files := files, requested := requested } := by
  refine (fetch_present fetched).imp_right fun absent => ⟨absent, ?_⟩
  rcases fetch_absent absent fetched with ⟨urls, -, same, outcome, lost⟩ |
    ⟨_, _, _, urls, url, _, body, -, -, -, -, ⟨-, same, outcome, lost⟩ |
      ⟨-, files, written, same, outcome, kept⟩⟩
  · refine ⟨_, .inl ⟨?_, lost, same⟩⟩
    rcases outcome with outcome | outcome <;> simp [Attempt.isSuccess, outcome]
  · exact ⟨_, .inl ⟨by simp [Attempt.isSuccess, outcome], lost, same⟩⟩
  · exact ⟨_, .inr ⟨body, files, written, by simp [Attempt.isSuccess, outcome], kept, same⟩⟩

/-- A file that a fetch tells of has its place in the cache. -/
theorem fetch_place {snapshot : Bool} {v v' : World} {status : FetchStatus} {file : Path}
    (fetched : (s.fetch path snapshot).perform v = (.ok status, v'))
    (found : status.localFile = some file) : file = s.localFile path := by
  rcases fetch_cases fetched with ⟨-, -, rfl⟩ | ⟨-, requested, ⟨-, lost, -⟩ |
    ⟨body, files, -, -, place, -⟩⟩
  · exact (Option.some.inj found).symm
  · rw [lost] at found
    cases found
  · exact Option.some.inj (found.symm.trans place)

end Inquiry

/-! ## The integrity of the cache -/

/-- A fetch that returns ends in one of the ways of `Source.Fetched`. -/
theorem fetch_integrity (s : Source) (path : String) (snapshot : Bool) (w v : World)
    (status : FetchStatus) (returned : (s.fetch path snapshot).perform w = (.ok status, v)) :
    s.Fetched path snapshot w status v := by
  rcases fetch_present returned with ⟨present, rfl, rfl⟩ | absent
  · exact .cached present rfl rfl
  · rcases fetch_absent absent returned with ⟨urls, refused, rfl, outcome, lost⟩ |
      ⟨before, r, after, urls, url, reason, body, order, refused, located, sent,
        ⟨distrusted, rfl, outcome, lost⟩ | ⟨trusted, files, written, rfl, outcome, kept⟩⟩
    · exact .unavailable absent refused outcome lost
    · exact .rejected absent order refused located sent distrusted outcome lost
    · exact .downloaded absent order refused located sent trusted (replaceFile_gains written)
        outcome kept

/-! ### A file that the second repository sends, with its digest in capital letters -/

namespace Published

def source : Source where
  cache := .ofString "/cache"
  repositories :=
    [{ id := .str "staging", url := .str "http://a", releases := false },
     { id := .str "central", url := .str "http://b/" },
     { id := .str "google", url := .str "http://c" }]

def web : Web := ⟨[
  ("http://c/g/a", .response 200 "OK" "x".toUTF8),
  ("http://c/g/a.sha1",
    .response 200 "OK" "11F6AD8EC52A2984ABAAFD7C3B516503785C2072  a\n".toUTF8)]⟩

def world : World := ⟨.empty [], web, [], ⟨0, []⟩, ⟨[]⟩, "0"⟩

end Published

theorem published_fetched : ∃ status v,
    (Published.source.fetch "g/a" false).perform Published.world = (.ok status, v) ∧
      status.outcome = .downloaded ∧
      v.requested.reverse = ["http://b/g/a", "http://c/g/a", "http://c/g/a.sha1"] ∧
      Published.source.Fetched "g/a" false Published.world status v := by
  have checked : ((Published.source.fetch "g/a" false).perform Published.world).1.toOption.map
      (fun status => (status.outcome,
        ((Published.source.fetch "g/a" false).perform Published.world).2.requested.reverse))
      = some (.downloaded, ["http://b/g/a", "http://c/g/a", "http://c/g/a.sha1"]) := by
    decide +kernel
  rcases ended : (Published.source.fetch "g/a" false).perform Published.world with
    ⟨fault | status, v⟩ <;> rw [ended] at checked
  · cases checked
  · obtain ⟨outcome, requested⟩ := Prod.ext_iff.mp (Option.some.inj checked)
    exact ⟨status, v, rfl, outcome, requested,
      fetch_integrity Published.source "g/a" false Published.world v status ended⟩

end MavenImport
