import ChartCatalog.Proofs.Sync.Files
import ChartCatalog.Proofs.Sync.Gate
import ChartCatalog.Watch.Loop

/-!
# Where credentials are sent

A repository may carry credentials, an `Authorization` value, and the catalog decides for
each request whether to send them. A sync pass sends them with its index request and with
every archive request. It sends them with an icon request only when the icon URL shares the
repository's origin (`Repository.sameOrigin`). The package summary cache sends them with
none of its requests.

`Online.Sends fetch S m` says that `m`, run against `fetch` from any traced state, adds to
the requests sent so far a list that `S` allows. There is one rule per primitive: a request
sends itself (`sends_getChecked`), and reads, writes and store writes send nothing
(`Online.Quiet`). Binds, handlers, loops and computations on a part of the state send what
their parts send. A rule for a bind after a request, or after an outcome, lets the rest
depend on the response or the value.

With these rules, each artifact job sends what `ArtifactJob.Sent` allows (`runJob_sends`),
and the jobs of a pass send one part each, in order (`importArtifacts_sends`). A whole pass
sends its index request, then, once the index it gets is read, the parts of that index's
jobs (`syncRepoUnder_sends`). The cache's requests all go without credentials
(`onAddOrModify_sends`, `Watch.step_sends`).

Two URLs share an origin when the first has a host and the origins of both are the same
scheme, host and port (`sameOrigin_iff`). For a URL whose scheme is not `blob`, the origin is
its own scheme, host and effective port (`Url.origin_eq_tuple_iff`). A `blob:` URL has the
origin of the URL it wraps, so it can share the repository's origin without a host of its
own (`blob_icon_gets_repository_credentials`).
-/

set_option autoImplicit false

namespace ChartCatalog.Http.Online

variable {σ α β : Type} {fetch : Fetch} {S T : List Request → Prop} {m : Online σ α}
  {f : α → Online σ β}

/-! ## What a computation sends -/

/-- Run against `fetch` from any traced state, the computation adds to the requests sent so
far a list of requests that `S` allows. -/
def Sends (fetch : Fetch) (S : List Request → Prop) (m : Online σ α) : Prop :=
  ∀ t, ∃ sent, (m.exec fetch t).2.requests.toList = t.requests.toList ++ sent ∧ S sent

/-- A computation that sends no request, on any fetch and from any traced state. -/
def Quiet (m : Online σ α) : Prop :=
  ∀ fetch t, (m.exec fetch t).2.requests = t.requests

theorem Sends.mono (sends : Sends fetch S m) (weaker : ∀ sent, S sent → T sent) : Sends fetch T m := by
  intro t
  obtain ⟨sent, ran, allowed⟩ := sends t
  exact ⟨sent, ran, weaker sent allowed⟩

theorem Quiet.sends (quiet : Quiet m) (nothing : S []) : Sends fetch S m :=
  fun t => ⟨[], by rw [quiet fetch t, List.append_nil], nothing⟩

/-- A computation that sends nothing sends only requests that `P` allows. -/
theorem Quiet.sends_each {P : Request → Prop} (quiet : Quiet m) :
    Sends fetch (fun sent => ∀ r ∈ sent, P r) m :=
  quiet.sends fun _ absent => absurd absent List.not_mem_nil

theorem quiet_pure (a : α) : Quiet (pure a : Online σ α) := fun _ _ => rfl

theorem quiet_throw (e : CatalogError) : Quiet (throw e : Online σ α) := fun _ _ => rfl

theorem quiet_ofOutcome (o : Outcome α) : Quiet (ofOutcome o : Online σ α) :=
  fun fetch t => by rw [exec_ofOutcome]

theorem quiet_current : Quiet (current : Online σ σ) := fun _ _ => rfl

theorem quiet_reading (read : σ → Outcome α) : Quiet (reading read) :=
  fun fetch t => by rw [exec_reading]

theorem quiet_writing (write : σ → Outcome (α × σ)) : Quiet (writing write) := by
  intro fetch t
  rw [exec_writing]
  split <;> rfl

theorem Quiet.bind (first : Quiet m) (rest : ∀ a, Quiet (f a)) : Quiet (m >>= f) := by
  intro fetch t
  have sent := first fetch t
  rw [exec_bind]
  rcases ran : m.exec fetch t with ⟨_ | a, t'⟩ <;> rw [ran] at sent
  · exact sent
  · exact (rest a fetch t').trans sent

/-- A request sends itself, answered or not. -/
theorem sends_getChecked (url : String) (auth : Option String) :
    Sends fetch (· = [⟨url, auth⟩]) (getChecked url auth : Online σ Response) :=
  fun t => ⟨[⟨url, auth⟩], by rw [exec_getChecked, Array.toList_push], rfl⟩

/-- A bind sends what its first part sends when that fails, and otherwise that followed by
what the rest sends. -/
theorem Sends.bind (first : Sends fetch S m) (rest : ∀ a, Sends fetch T (f a)) :
    Sends fetch (fun sent => S sent ∨ ∃ s₁ s₂, S s₁ ∧ T s₂ ∧ sent = s₁ ++ s₂) (m >>= f) := by
  intro t
  obtain ⟨s₁, ran, allowed⟩ := first t
  rw [exec_bind]
  rcases result : m.exec fetch t with ⟨e | a, t'⟩ <;> rw [result] at ran
  · exact ⟨s₁, ran, .inl allowed⟩
  · obtain ⟨s₂, ran', allowed'⟩ := rest a t'
    exact ⟨s₁ ++ s₂, by rw [ran', ran, List.append_assoc], .inr ⟨s₁, s₂, allowed, allowed', rfl⟩⟩

theorem Sends.bind_quiet (first : Sends fetch S m) (rest : ∀ a, Quiet (f a)) : Sends fetch S (m >>= f) :=
  (first.bind fun a => (rest a).sends (S := (· = [])) rfl).mono fun sent => by
    rintro (allowed | ⟨s₁, s₂, allowed, rfl, rfl⟩)
    · exact allowed
    · simpa using allowed

theorem Quiet.bind_sends (first : Quiet m) (nothing : S []) (rest : ∀ a, Sends fetch S (f a)) :
    Sends fetch S (m >>= f) :=
  ((first.sends (S := (· = [])) rfl).bind rest).mono fun sent => by
    rintro (rfl | ⟨s₁, s₂, rfl, allowed, rfl⟩)
    · exact nothing
    · simpa using allowed

/-- Where every request of both parts is allowed by `P`, every request of the bind is. -/
theorem Sends.bind_each {P : Request → Prop} (first : Sends fetch (fun sent => ∀ r ∈ sent, P r) m)
    (rest : ∀ a, Sends fetch (fun sent => ∀ r ∈ sent, P r) (f a)) :
    Sends fetch (fun sent => ∀ r ∈ sent, P r) (m >>= f) :=
  (first.bind rest).mono fun sent => by
    rintro (allowed | ⟨s₁, s₂, allowed, allowed', rfl⟩)
    · exact allowed
    · intro r member
      rcases List.mem_append.1 member with early | late
      · exact allowed r early
      · exact allowed' r late

/-- What follows an outcome runs knowing the value the outcome holds. -/
theorem sends_ofOutcome_bind {o : Outcome α} (nothing : S []) (rest : ∀ a, o = .ok a → Sends fetch S (f a)) :
    Sends fetch S (ofOutcome o >>= f) := by
  intro t
  rw [exec_bind, exec_ofOutcome]
  cases given : o with
  | error e => exact ⟨[], by simp, nothing⟩
  | ok a => exact rest a given t

/-- What follows a request runs knowing the response the fetch answers; the request comes
first, answered or not. -/
theorem sends_getChecked_bind {url : String} {auth : Option String} {f : Response → Online σ β}
    (nothing : S [])
    (rest : ∀ response, ((fetch ⟨url, auth⟩).bind fun r => r.checked url) = .ok response →
      Sends fetch S (f response)) :
    Sends fetch (fun sent => ∃ later, sent = ⟨url, auth⟩ :: later ∧ S later) (getChecked url auth >>= f) := by
  intro t
  rw [exec_bind, exec_getChecked]
  cases answered : (fetch ⟨url, auth⟩).bind fun r => r.checked url with
  | error e => exact ⟨[⟨url, auth⟩], by simp, [], rfl, nothing⟩
  | ok response =>
    obtain ⟨later, ran, allowed⟩ := rest response answered { t with requests := t.requests.push ⟨url, auth⟩ }
    exact ⟨⟨url, auth⟩ :: later, by simp [ran], later, rfl, allowed⟩

/-- A handler that sends nothing adds nothing to what the computation it handles sends. -/
theorem Sends.tryCatch_quiet {handle : CatalogError → Online σ α} (first : Sends fetch S m)
    (handled : ∀ e, Quiet (handle e)) : Sends fetch S (tryCatch m handle) := by
  intro t
  obtain ⟨sent, ran, allowed⟩ := first t
  rw [exec_tryCatch]
  rcases result : m.exec fetch t with ⟨e | a, t'⟩ <;> rw [result] at ran
  · exact ⟨sent, by rw [handled e fetch t', ran], allowed⟩
  · exact ⟨sent, ran, allowed⟩

/-- A loop whose steps never fail sends one part for each element, in order. -/
theorem sends_foldlM {γ : Type} {P : γ → List Request → Prop} {g : β → γ → Online σ β}
    (each : ∀ b x, Sends fetch (P x) (g b x)) (succeeds : ∀ b x, Succeeds (g b x)) :
    ∀ (xs : List γ) (init : β),
      Sends fetch (fun sent => ∃ parts, List.Forall₂ P xs parts ∧ sent = parts.flatten) (xs.foldlM g init)
  | [], init => (quiet_pure init).sends ⟨[], .nil, rfl⟩
  | x :: rest, init => by
    rw [List.foldlM_cons]
    intro t
    obtain ⟨b, stepped⟩ := succeeds init x fetch t
    obtain ⟨s₁, ran, allowed⟩ := each init x t
    rw [exec_bind_of_ok fetch t stepped]
    obtain ⟨s₂, ran', parts, aligned, flat⟩ := sends_foldlM each succeeds rest b ((g init x).exec fetch t).2
    refine ⟨s₁ ++ s₂, by rw [ran', ran, List.append_assoc], s₁ :: parts, .cons allowed aligned, ?_⟩
    rw [flat, List.flatten_cons]

/-- A loop each of whose steps sends only requests allowed by `P` sends only such requests. -/
theorem sends_forM_each {γ : Type} {P : Request → Prop} {g : γ → Online σ PUnit}
    (each : ∀ x, Sends fetch (fun sent => ∀ r ∈ sent, P r) (g x)) :
    ∀ xs : List γ, Sends fetch (fun sent => ∀ r ∈ sent, P r) (xs.forM g)
  | [] => (quiet_pure PUnit.unit).sends_each
  | x :: rest => (each x).bind_each fun _ => sends_forM_each each rest

/-- A computation on a part of the state sends what it sends on its own. -/
theorem Sends.focus {τ : Type} {view : σ → τ} {update : σ → τ → σ} {m : Online τ α}
    (sends : Sends fetch S m) : Sends fetch S (focus view update m) := by
  intro t
  obtain ⟨sent, ran, allowed⟩ := sends ⟨view t.state, t.requests⟩
  exact ⟨sent, by rw [exec_focus]; exact ran, allowed⟩

end ChartCatalog.Http.Online

namespace ChartCatalog

open Http

/-! ## The requests of a sync pass -/

/-- The requests an artifact job may send. An icon job sends one request when the chart
has an icon URL: the trimmed icon URL, with the repository's credentials exactly when that
URL shares the repository's origin. A files job sends at most one request: the archive URL
of one of its versions, with the repository's credentials. -/
def ArtifactJob.Sent (repo : Repo) : ArtifactJob → List Request → Prop
  | .icon chart, sent =>
    sent = if (Text.trim chart.icon).isEmpty then [] else
      [⟨Text.trim chart.icon,
        if Repository.sameOrigin repo.url (Text.trim chart.icon) then repo.authHeader else none⟩]
  | .files _ versions, sent =>
    sent = [] ∨ ∃ version ∈ versions, ∃ url, Repository.archiveUrl repo.url version = .ok url ∧
      sent = [⟨url, repo.authHeader⟩]

/-- What a pass sends after its index request, once the fetch answered with `body`: nothing,
or one part for each artifact job of the index read from `body`, in order. -/
def JobsSent (repo : Repo) (body : ByteArray) (later : List Request) : Prop :=
  later = [] ∨ ∃ index parts, parseIndex body = .ok index ∧
    List.Forall₂ (ArtifactJob.Sent repo) (artifactJobs (chartsFromIndex index repo)) parts ∧
    later = parts.flatten

/-- The requests of a pass over a repository. There are none when the repository's URL
gives no index URL. Otherwise the first is the index request, with the repository's
credentials, and what follows it is what the jobs of the index the fetch answers send. -/
def PassSent (fetch : Fetch) (repo : Repo) (sent : List Request) : Prop :=
  (sent = [] ∧ ∃ e, Repository.indexUrl repo.url = .error e) ∨
    ∃ url, Repository.indexUrl repo.url = .ok url ∧ ∃ later, sent = ⟨url, repo.authHeader⟩ :: later ∧
      (later = [] ∨ ∃ response,
        ((fetch ⟨url, repo.authHeader⟩).bind fun r => r.checked url) = .ok response ∧
        JobsSent repo response.body later)

namespace Pass

variable {fetch : Fetch} {β : Type}

theorem quiet_storeWrite {α : Type} (faults : StoreFaults) (op : CatalogOp)
    (write : Catalog → Outcome (α × Catalog)) : Online.Quiet (storeWrite faults op write) :=
  fun fetch t => requests_storeWrite fetch faults op write t

theorem quiet_catalog : Online.Quiet catalog := Online.quiet_current

/-- An icon job sends exactly its icon request, with the credentials only to the
repository's origin. -/
theorem importIconUnder_sends (faults : StoreFaults) (repo : Repo) (chart : Chart) :
    Online.Sends fetch (ArtifactJob.Sent repo (.icon chart)) (importIconUnder faults repo chart) := by
  unfold importIconUnder
  dsimp only
  split
  · next blank => exact (Online.quiet_pure _).sends (by simp [ArtifactJob.Sent, blank])
  · next present =>
    refine ((Online.sends_getChecked _ _).bind_quiet fun response => ?_).mono ?_
    · -- storing the icon sends nothing, whichever form it is stored in
      split
      · refine (Online.quiet_pure _).bind fun stored => ?_
        obtain ⟨icon, contentType⟩ := stored
        exact (quiet_storeWrite _ _ _).bind fun _ => Online.quiet_pure _
      · refine (Online.quiet_ofOutcome _).bind fun png => (Online.quiet_pure _).bind fun stored => ?_
        obtain ⟨icon, contentType⟩ := stored
        exact (quiet_storeWrite _ _ _).bind fun _ => Online.quiet_pure _
    · intro sent one
      simp [ArtifactJob.Sent, present, one]

/-- A files job sends at most the archive request of one of its versions. -/
theorem importFilesUnder_sends (faults : StoreFaults) (repo : Repo) (chart : Chart)
    (versions : List ChartVersion) :
    Online.Sends fetch (ArtifactJob.Sent repo (.files chart versions))
      (importFilesUnder faults repo chart versions) := by
  intro t
  refine ⟨_, importFilesUnder_requests fetch faults repo chart versions t, ?_⟩
  unfold archiveRequest
  split
  · exact .inl rfl
  · next filesId first rest firstMissing =>
    have member : first ∈ versions := by
      have listed : (filesId, first) ∈ missingFiles t.state repo chart versions := by
        rw [firstMissing]
        exact List.mem_cons_self
      simp only [missingFiles, List.mem_filter, List.mem_map, Prod.mk.injEq] at listed
      obtain ⟨⟨version, listedVersion, -, rfl⟩, -⟩ := listed
      exact listedVersion
    cases located : Repository.archiveUrl repo.url first with
    | error e => exact .inl (by simp [Except.toOption])
    | ok url => exact .inr ⟨first, member, url, located, by simp [Except.toOption]⟩

theorem runJob_sends (faults : StoreFaults) (repo : Repo) (job : ArtifactJob) :
    Online.Sends fetch (job.Sent repo) (runJob faults repo job) := by
  cases job with
  | icon chart =>
    exact ((importIconUnder_sends faults repo chart).bind_quiet fun _ => Online.quiet_pure _).tryCatch_quiet
      fun _ => Online.quiet_pure _
  | files chart versions =>
    exact ((importFilesUnder_sends faults repo chart versions).bind_quiet
      fun _ => Online.quiet_pure _).tryCatch_quiet fun _ => Online.quiet_pure _

/-- The artifact jobs send one part each, in the order of the jobs: every job runs, since
none fails as a whole. -/
theorem importArtifacts_sends (faults : StoreFaults) (repo : Repo) (charts : List Chart) :
    Online.Sends fetch
      (fun sent => ∃ parts, List.Forall₂ (ArtifactJob.Sent repo) (artifactJobs charts) parts ∧
        sent = parts.flatten)
      (importArtifacts faults repo charts) :=
  Online.sends_foldlM (fun _ job => (runJob_sends faults repo job).bind_quiet fun _ => Online.quiet_pure _)
    (fun _ job => (runJob_ok faults repo job).bind fun _ => Online.succeeds_pure _) _ _

/-- What follows the index download runs on the body of the response the fetch answers. The
index request comes first when the repository's URL gives an index URL; otherwise nothing
is sent. -/
theorem sends_fetchIndex_bind {repo : Repo} {S : Response → List Request → Prop} {f : ByteArray → Pass β}
    (rest : ∀ url response, Repository.indexUrl repo.url = .ok url →
      ((fetch ⟨url, repo.authHeader⟩).bind fun r => r.checked url) = .ok response →
      Online.Sends fetch (S response) (f response.body)) :
    Online.Sends fetch
      (fun sent => (sent = [] ∧ ∃ e, Repository.indexUrl repo.url = .error e) ∨
        ∃ url, Repository.indexUrl repo.url = .ok url ∧ ∃ later, sent = ⟨url, repo.authHeader⟩ :: later ∧
          (later = [] ∨ ∃ response,
            ((fetch ⟨url, repo.authHeader⟩).bind fun r => r.checked url) = .ok response ∧ S response later))
      (fetchIndex repo >>= f) := by
  intro t
  rw [Online.exec_bind]
  cases located : Repository.indexUrl repo.url with
  | error e =>
    have failed : (fetchIndex repo).exec fetch t = (.error e, t) := by
      unfold fetchIndex
      rw [Online.exec_bind, Online.exec_ofOutcome, located]
    rw [failed]
    exact ⟨[], by simp, .inl ⟨rfl, e, rfl⟩⟩
  | ok url =>
    rw [exec_fetchIndex fetch t located]
    cases answered : (fetch ⟨url, repo.authHeader⟩).bind fun r => r.checked url with
    | error e => exact ⟨[⟨url, repo.authHeader⟩], by simp [Except.map], .inr ⟨url, rfl, [], rfl, .inl rfl⟩⟩
    | ok response =>
      obtain ⟨later, ran, allowed⟩ :=
        rest url response located answered { t with requests := t.requests.push ⟨url, repo.authHeader⟩ }
      exact ⟨_, by simp [Except.map, ran], .inr ⟨url, rfl, later, rfl, .inr ⟨response, answered, allowed⟩⟩⟩

/-- The writes of a pass once its charts are built send only the requests of the artifact
jobs, which run once the charts are stored. -/
theorem syncTail_sends (faults : StoreFaults) (repo : Repo) (charts : List Chart) (checksum : String)
    (now : Instant) :
    Online.Sends fetch
      (fun sent => sent = [] ∨
        ∃ parts, List.Forall₂ (ArtifactJob.Sent repo) (artifactJobs charts) parts ∧ sent = parts.flatten)
      (do
        importCharts faults repo charts
        let removed ← removeMissing faults repo.name (charts.map Chart.id)
        let report ← importArtifacts faults repo charts
        updateLastCheck faults repo checksum now
        pure (SyncOutcome.synced { report with charts := charts.length, chartsRemoved := removed }) :
          Pass SyncOutcome) :=
  (quiet_storeWrite _ _ _).bind_sends (Or.inl rfl) fun _ =>
    (quiet_storeWrite _ _ _).bind_sends (Or.inl rfl) fun _ =>
      ((importArtifacts_sends faults repo charts).mono fun _ => .inr).bind_quiet fun _ =>
        (quiet_storeWrite _ _ _).bind fun _ => Online.quiet_pure _

/-- A pass sends its index request, with the repository's credentials, and then, once the
index the fetch answers is read, one part for each of its artifact jobs, in order. -/
theorem syncRepoUnder_sends (faults : StoreFaults) (options : SyncOptions) (now : Instant) (repo : Repo) :
    Online.Sends fetch (PassSent fetch repo) (syncRepoUnder faults options now repo) := by
  unfold syncRepoUnder
  refine sends_fetchIndex_bind fun url response located answered => ?_
  -- the checkpoint and the reading of the index send nothing
  refine quiet_catalog.bind_sends (.inl rfl) fun c => ?_
  split
  · exact (Online.quiet_pure _).sends (.inl rfl)
  · refine Online.sends_ofOutcome_bind (.inl rfl) fun index parsed => ?_
    have tail : Online.Sends fetch (JobsSent repo response.body) _ :=
      (syncTail_sends faults repo (chartsFromIndex index repo) (indexChecksum response.body) now).mono
        fun sent jobs => by
          rcases jobs with nothing | ⟨parts, aligned, flat⟩
          · exact .inl nothing
          · exact .inr ⟨index, parts, parsed, aligned, flat⟩
    dsimp only
    split
    · refine (Online.quiet_reading _).bind_sends (.inl rfl) fun stored => ?_
      split
      · exact (Online.quiet_throw _).bind_sends (.inl rfl) fun _ => tail
      · exact tail
    · exact tail

end Pass

/-! ## The requests of the summary cache -/

namespace WatchCache

variable {fetch : Fetch}

/-- A request without credentials, followed by a computation that sends nothing. -/
theorem sends_getChecked_none_bind {σ β : Type} {url : String} {f : Response → Online σ β}
    (rest : ∀ response, Online.Quiet (f response)) :
    Online.Sends fetch (fun sent => ∀ r ∈ sent, r.auth = none) (getChecked url none >>= f) := by
  refine ((Online.sends_getChecked url none).mono ?_).bind_quiet rest
  rintro sent rfl r member
  rw [List.mem_singleton.1 member]

/-- The index request of a ready repository object goes without credentials, whichever URL
its status gives. -/
theorem indexRepo_sends (obj : Json) :
    Online.Sends fetch (fun sent => ∀ r ∈ sent, r.auth = none) (indexRepo obj) := by
  unfold indexRepo
  refine (Online.quiet_ofOutcome _).sends_each.bind_each fun repo => ?_
  refine (Online.quiet_ofOutcome _).sends_each.bind_each fun found => ?_
  dsimp only
  cases found <;> refine Online.Sends.bind_each ?_ fun url => sends_getChecked_none_bind fun response =>
    (Online.quiet_ofOutcome _).bind fun _ => Online.quiet_pure _
  · exact (Online.quiet_throw _).sends_each
  · exact (Online.quiet_pure _).sends_each

theorem onAddOrModify_sends (obj : Json) :
    Online.Sends fetch (fun sent => ∀ r ∈ sent, r.auth = none) (onAddOrModify obj) := by
  unfold onAddOrModify
  refine (Online.quiet_ofOutcome _).sends_each.bind_each fun name => ?_
  refine (Online.quiet_ofOutcome _).sends_each.bind_each fun ready => ?_
  split
  · exact ((Online.quiet_writing _).bind fun _ => Online.quiet_pure _).sends_each
  · exact (indexRepo_sends obj).bind_each fun _ => (Online.quiet_writing _).sends_each

theorem handleEvent_sends (event : WatchEvent) :
    Online.Sends fetch (fun sent => ∀ r ∈ sent, r.auth = none) (handleEvent event) := by
  unfold handleEvent
  refine Online.Sends.tryCatch_quiet ?_ fun _ => Online.quiet_pure _
  cases event with
  | added obj => exact onAddOrModify_sends obj
  | modified obj => exact onAddOrModify_sends obj
  | deleted obj =>
    exact ((Online.quiet_ofOutcome _).bind fun _ =>
      (Online.quiet_writing _).bind fun _ => Online.quiet_pure _).sends_each

end WatchCache

/-- Running the watch loop sends only the requests of the events it applies, none of them
with credentials. -/
theorem Watch.step_sends {fetch : Fetch} (change : EventLoop → EventLoop) :
    Online.Sends fetch (fun sent => ∀ r ∈ sent, r.auth = none) (Watch.step change) := by
  unfold Watch.step
  refine Online.quiet_current.sends_each.bind_each fun w => ?_
  split
  refine Online.Sends.bind_each (Online.Quiet.sends_each fun _ _ => rfl) fun _ => ?_
  exact Online.sends_forM_each (fun event => (WatchCache.handleEvent_sends event).focus) _

/-! ## Origins -/

namespace Web

/-- A URL whose scheme is not `blob` has the origin its own scheme, host and port give. -/
theorem Url.origin_of_not_blob {url : Url} (notBlob : url.scheme ≠ "blob") : url.origin = url.tupleOrigin := by
  simp [Url.origin, Url.originWithin, notBlob]

/-- The origin of a URL whose scheme is not `blob` is a scheme, host and port exactly when the
URL has that host and that scheme, a special one other than `file`, and the port is the
URL's effective port. -/
theorem Url.origin_eq_tuple_iff {url : Url} (notBlob : url.scheme ≠ "blob") {scheme : String}
    {host : Host} {port : Option Nat} :
    url.origin = .tuple scheme host port ↔
      url.scheme = scheme ∧ url.host = some host ∧ url.effectivePort = port ∧
        isSpecialScheme scheme = true ∧ scheme ≠ "file" := by
  rw [Url.origin_of_not_blob notBlob, Url.tupleOrigin]
  cases url.host with
  | none => simp
  | some found =>
    by_cases special : isSpecialScheme url.scheme = true ∧ url.scheme ≠ "file"
    · have isTuple : (isSpecialScheme url.scheme && url.scheme != "file") = true := by
        simpa [bne_iff_ne] using special
      simp only [isTuple, ↓reduceIte, Origin.tuple.injEq, Option.some.injEq]
      constructor
      · rintro ⟨rfl, rfl, rfl⟩
        exact ⟨rfl, rfl, rfl, special⟩
      · rintro ⟨rfl, rfl, rfl, -⟩
        exact ⟨rfl, rfl, rfl⟩
    · have notTuple : (isSpecialScheme url.scheme && url.scheme != "file") = false := by
        simpa [bne_iff_ne] using special
      simp only [notTuple, Bool.false_eq_true, ↓reduceIte, reduceCtorEq, false_iff]
      rintro ⟨rfl, -, -, specialScheme, notFile⟩
      exact special ⟨specialScheme, notFile⟩

theorem Origin.same_iff {o o' : Origin} :
    o.same o' = true ↔ ∃ scheme host port, o = .tuple scheme host port ∧ o' = .tuple scheme host port := by
  cases o with
  | unique => simp [Origin.same]
  | tuple scheme host port =>
    cases o' with
    | unique => simp [Origin.same]
    | tuple scheme' host' port' =>
      simp only [Origin.same, Bool.and_eq_true, beq_iff_eq, Origin.tuple.injEq]
      constructor
      · rintro ⟨⟨rfl, rfl⟩, rfl⟩
        exact ⟨scheme, host, port, ⟨rfl, rfl, rfl⟩, rfl, rfl, rfl⟩
      · rintro ⟨_, _, _, ⟨rfl, rfl, rfl⟩, rfl, rfl, rfl⟩
        exact ⟨⟨rfl, rfl⟩, rfl⟩

end Web

namespace Repository

open Web

/-- Two texts share an origin exactly when both read as URLs once trimmed, the first has a
host, and their origins are the same scheme, host and port. -/
theorem sameOrigin_iff (a b : String) :
    sameOrigin a b = true ↔ ∃ x y scheme host port, Url.parse (Text.trim a) none = .ok x ∧
      Url.parse (Text.trim b) none = .ok y ∧ x.hasHost = true ∧
      x.origin = .tuple scheme host port ∧ y.origin = .tuple scheme host port := by
  unfold sameOrigin
  cases readA : Url.parse (Text.trim a) none with
  | error e => simp
  | ok x =>
    cases readB : Url.parse (Text.trim b) none with
    | error e => simp
    | ok y => simp [Origin.same_iff]

end Repository

/-! ## The credential rule -/

/-- Credentials follow the origin rule. Over a whole pass over any repository, against any
fetch and under any fault plan, the index request and every archive request carry exactly
the repository's credentials. Every icon request carries them exactly when the trimmed icon
URL shares the repository's origin, and carries none otherwise. Two URLs share an origin
when both read as URLs, the first with a host, and their origins are the same scheme, host
and port. The origin of a URL whose scheme is not `blob` is its own scheme, host and
effective port, when that scheme is special and not `file`. The cache's index request
carries no credentials, whether the object is added or modified directly or the event is
applied by the watch loop. -/
theorem credentials_follow_origin_rule :
    (∀ (faults : StoreFaults) (options : SyncOptions) (now : Instant) (repo : Repo) (fetch : Fetch),
      Online.Sends fetch (PassSent fetch repo) (Pass.syncRepoUnder faults options now repo)) ∧
    (∀ a b, Repository.sameOrigin a b = true ↔ ∃ x y scheme host port,
      Web.Url.parse (Text.trim a) none = .ok x ∧ Web.Url.parse (Text.trim b) none = .ok y ∧
      x.hasHost = true ∧ x.origin = .tuple scheme host port ∧ y.origin = .tuple scheme host port) ∧
    (∀ (url : Web.Url) scheme host port, url.scheme ≠ "blob" →
      (url.origin = .tuple scheme host port ↔ url.scheme = scheme ∧ url.host = some host ∧
        url.effectivePort = port ∧ Web.isSpecialScheme scheme = true ∧ scheme ≠ "file")) ∧
    (∀ (fetch : Fetch) (obj : Json),
      Online.Sends fetch (fun sent => ∀ r ∈ sent, r.auth = none) (WatchCache.onAddOrModify obj)) ∧
    ∀ (fetch : Fetch) (change : EventLoop → EventLoop),
      Online.Sends fetch (fun sent => ∀ r ∈ sent, r.auth = none) (Watch.step change) :=
  ⟨fun faults options now repo _ => Pass.syncRepoUnder_sends faults options now repo,
    Repository.sameOrigin_iff, fun _ _ _ _ notBlob => Web.Url.origin_eq_tuple_iff notBlob,
    fun _ obj => WatchCache.onAddOrModify_sends obj, fun _ change => Watch.step_sends change⟩

/-- An `https` URL without a port has the scheme's default port in its origin. -/
theorem credentials_follow_origin_rule_default_port :
    let url : Web.Url := ⟨"https", "", "", some (.domain "r.test"), none, .segments ["x"], none, none⟩
    url.scheme ≠ "blob" ∧
      (url.origin = .tuple "https" (.domain "r.test") (some 443) ↔
        url.scheme = "https" ∧ url.host = some (.domain "r.test") ∧ url.effectivePort = some 443 ∧
          Web.isSpecialScheme "https" = true ∧ "https" ≠ "file") := by
  intro url
  have notBlob : url.scheme ≠ "blob" := by decide
  exact ⟨notBlob, credentials_follow_origin_rule.2.2.1 url _ _ _ notBlob⟩

/-- A `blob:` icon URL that wraps a URL of the repository's origin has no host, yet the pass
sends the repository's credentials with its request. -/
theorem blob_icon_gets_repository_credentials :
    let repo : Repo := ⟨"r", "default", "https://r.test/charts", some "Bearer x"⟩
    let body := "entries:\n  c:\n  - name: c\n    version: \"1\"\n    icon: \"blob:https://r.test/i\"\n".toUTF8
    let fetch : Fetch := fun request =>
      if request.url == "https://r.test/charts/index.yaml" then .ok ⟨200, none, body⟩
      else .ok Canned.notFound
    let t : Traced Catalog := ⟨.emptyRelational, #[]⟩
    (∃ icon, Web.Url.parse "blob:https://r.test/i" none = .ok icon ∧ icon.hasHost = false) ∧
      ((Pass.syncRepo SyncOptions.standard ⟨0, 0, 0⟩ repo).exec fetch t).2.requests =
        #[⟨"https://r.test/charts/index.yaml", some "Bearer x"⟩, ⟨"blob:https://r.test/i", some "Bearer x"⟩] := by
  intro repo body fetch t
  have parsed : Web.Url.parse "blob:https://r.test/i" none =
      .ok ⟨"blob", "", "", none, none, .unsegmented "https://r.test/i", none, none⟩ := by
    decide +kernel
  exact ⟨⟨_, parsed, rfl⟩, by decide +kernel⟩

end ChartCatalog
