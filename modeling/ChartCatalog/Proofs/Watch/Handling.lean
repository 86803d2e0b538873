import ChartCatalog.Watch.Cache
import ChartCatalog.Proofs.Sync.Exec
import ChartCatalog.Proofs.Store.Table
import ChartCatalog.Proofs.Cbor.Summaries

/-!
# Handling repository events one at a time

The cache's rules for one event, said without the store or the web as a monad
(`WatchEvent.verdict`): an added or modified object with a name is indexed when it is
ready, and its entry is to hold the summaries of its index; an object that is not ready,
and a deleted object, have their entry cleared; anything that fails on the way (the name,
a field of the wrong type, a missing or blank index URL, the request, the index) stops
the event. Writing a verdict into the store (`KvStore.commit`) fails only when the store
cannot be reached.

The handler of an event does exactly that (`handler_exec`): it fails with the verdict's
error or the store's, and then the store is as it was; otherwise the store holds what the
commit wrote. Its requests are the only trace a failed event leaves. Over a run of events,
each against the web as it answers then and the store as reachable as it is then, what
the store holds under each name is the fold of the rules over the events
(`handling_follows_cache_rules`).
-/

set_option autoImplicit false

namespace ChartCatalog

open Http

/-! ## The rules -/

namespace WatchCache

/-- The summaries of a ready repository object: its index is fetched, without credentials,
from its `status.url` as given, read, and built into the charts of the repository the
object names; each chart gives its summary. -/
def indexedSummaries (fetch : Fetch) (obj : Json) : Outcome (List PackageSummary) := do
  let repo ← RepoObject.repo obj
  let url ← match ← RepoObject.statusUrl obj with
    | some u => pure u
    | none => throw (.notReady ("Repository " ++ repo.name ++ " has no status.url"))
  let response ← (fetch ⟨url, none⟩).bind fun response => response.checked url
  let index ← parseIndex response.body
  pure ((chartsFromIndex index repo).filterMap PackageSummary.ofChart)

/-- The handler of an event, whose failure `handleEvent` drops. -/
def handler : WatchEvent → Online KvStore Unit
  | .added obj | .modified obj => onAddOrModify obj
  | .deleted obj => onDelete obj

theorem handleEvent_eq (event : WatchEvent) :
    handleEvent event = tryCatch (handler event) fun _ => pure () := by
  cases event <;> rfl

end WatchCache

/-- What the cache's rules make of an event, against the web as it answers: the name whose
entry is to hold a summary list, or is to be cleared (`none`); or the error that stops the
event. -/
def WatchEvent.verdict (fetch : Fetch) : WatchEvent → Outcome (String × Option (List PackageSummary))
  | .added obj | .modified obj => do
    let name ← RepoObject.name obj
    if ← RepoObject.isReady obj then
      pure (name, some (← WatchCache.indexedSummaries fetch obj))
    else pure (name, none)
  | .deleted obj => do
    pure (← RepoObject.name obj, none)

namespace KvStore

/-- Writes a verdict into the store: the encoded summaries under the name, or the name
removed. -/
def commit (kv : KvStore) : String × Option (List PackageSummary) → Outcome KvStore
  | (name, some summaries) => kv.set name (Summaries.encode summaries)
  | (name, none) => (kv.del name).map Prod.snd

/-- The store after a verdict is written, or as it was when the verdict or the write fails. -/
def afterVerdict (kv : KvStore) (verdict : Outcome (String × Option (List PackageSummary))) :
    KvStore :=
  match verdict.bind kv.commit with
  | .ok written => written
  | .error _ => kv

end KvStore

/-! ## What the handlers do -/

namespace WatchCache

variable (fetch : Fetch) (t : Traced KvStore)

theorem exec_ofOutcome_bind {α β : Type} (o : Outcome α) (f : α → Online KvStore β) :
    (Online.ofOutcome o >>= f).exec fetch t =
      match o with
      | .ok a => (f a).exec fetch t
      | .error e => (.error e, t) := by
  rw [Online.exec_bind, Online.exec_ofOutcome]
  cases o <;> rfl

/-- Indexing a ready object gives its summaries by the rule and changes nothing in the
store; only its request stays. -/
theorem indexRepo_exec (obj : Json) :
    ((indexRepo obj).exec fetch t).1 = indexedSummaries fetch obj ∧
      ((indexRepo obj).exec fetch t).2.state = t.state := by
  simp only [indexRepo, indexedSummaries, exec_ofOutcome_bind]
  cases RepoObject.repo obj with
  | error e => exact ⟨rfl, rfl⟩
  | ok repo =>
    dsimp only
    cases RepoObject.statusUrl obj with
    | error e => exact ⟨rfl, rfl⟩
    | ok url? =>
      dsimp only
      cases url? with
      | none => exact ⟨rfl, rfl⟩
      | some url =>
        -- past the index URL the only request is sent, and each later step may fail
        rw [Online.exec_bind, Online.exec_pure]
        dsimp only
        rw [Online.exec_bind, Online.exec_getChecked]
        rcases answered : fetch ⟨url, none⟩ with e | response
        · simp [answered, bind, Except.bind, pure, Except.pure]
        · rcases checked : response.checked url with e | ok
          · simp [answered, checked, bind, Except.bind, pure, Except.pure]
          · dsimp only [Except.bind]
            rw [checked]
            dsimp only
            rw [exec_ofOutcome_bind]
            rcases parsed : parseIndex ok.body with e | index
            · simp [answered, checked, parsed, bind, Except.bind, pure, Except.pure]
            · simp only [Online.exec_pure]
              simp [answered, checked, parsed, bind, Except.bind, pure, Except.pure]

/-- Clearing a name fails only when the store cannot be reached, and then changes nothing. -/
theorem exec_clear (name : String) :
    ((do let _ ← writing fun kv : KvStore => kv.del name; pure () : Online KvStore Unit).exec fetch t) =
      match t.state.commit (name, none) with
      | .ok kv => (.ok (), { t with state := kv })
      | .error e => (.error e, t) := by
  rw [Online.exec_bind, Online.exec_writing]
  rcases deleted : t.state.del name with e | ⟨found, kv⟩
  · simp [deleted, KvStore.commit, Except.map]
  · simp [deleted, KvStore.commit, Except.map]

/-- An added or modified object is handled by the rules: the handler fails with the
verdict's error or the store's and leaves the store as it was, or it writes the verdict. -/
theorem onAddOrModify_exec (obj : Json) :
    ((onAddOrModify obj).exec fetch t).1 =
        (((WatchEvent.added obj).verdict fetch).bind t.state.commit).map (fun _ => ()) ∧
      ((onAddOrModify obj).exec fetch t).2.state =
        t.state.afterVerdict ((WatchEvent.added obj).verdict fetch) := by
  simp only [onAddOrModify, exec_ofOutcome_bind]
  rcases named : RepoObject.name obj with e | name
  · simp [WatchEvent.verdict, named, bind, Except.bind, Except.map, KvStore.afterVerdict]
  rcases ready : RepoObject.isReady obj with e | isReady
  · simp [WatchEvent.verdict, named, ready, bind, Except.bind, Except.map, KvStore.afterVerdict]
  cases isReady with
  | false =>
    -- an object that is not ready has its entry cleared
    have verdict : (WatchEvent.added obj).verdict fetch = .ok (name, none) := by
      simp [WatchEvent.verdict, named, ready, bind, Except.bind, pure, Except.pure]
    simp only [verdict, Bool.not_false, if_true, exec_clear]
    rcases committed : t.state.commit (name, none) with e | kv <;>
      simp [committed, KvStore.afterVerdict, Except.bind, Except.map]
  | true =>
    -- a ready object is indexed, and its summaries are written under its name
    have verdict : (WatchEvent.added obj).verdict fetch =
        (indexedSummaries fetch obj).bind fun summaries => .ok (name, some summaries) := by
      simp [WatchEvent.verdict, named, ready, bind, Except.bind, pure, Except.pure]
    rw [verdict]
    simp only [Bool.not_true, Bool.false_eq_true, if_false]
    rw [Online.exec_bind]
    obtain ⟨result, unchanged⟩ := indexRepo_exec fetch t obj
    rcases ran : (indexRepo obj).exec fetch t with ⟨_ | summaries, t'⟩
    all_goals
      rw [ran] at result unchanged
      dsimp only at result unchanged
    · simp [← result, KvStore.afterVerdict, Except.bind, Except.map, unchanged]
    · dsimp only
      rw [Online.exec_writing, unchanged, ← result]
      rcases written : t.state.set name (Summaries.encode summaries) with e | kv
      · simp [written, KvStore.commit, KvStore.afterVerdict, Except.bind, Except.map, unchanged]
      · simp [written, KvStore.commit, KvStore.afterVerdict, Except.bind, Except.map]

/-- A deleted object has its entry cleared, by the rules. -/
theorem onDelete_exec (obj : Json) :
    ((onDelete obj).exec fetch t).1 =
        (((WatchEvent.deleted obj).verdict fetch).bind t.state.commit).map (fun _ => ()) ∧
      ((onDelete obj).exec fetch t).2.state =
        t.state.afterVerdict ((WatchEvent.deleted obj).verdict fetch) := by
  simp only [onDelete, exec_ofOutcome_bind]
  rcases named : RepoObject.name obj with e | name
  · simp [WatchEvent.verdict, named, bind, Except.bind, Except.map, KvStore.afterVerdict]
  · have verdict : (WatchEvent.deleted obj).verdict fetch = .ok (name, none) := by
      simp [WatchEvent.verdict, named, bind, Except.bind, pure, Except.pure]
    simp only [verdict, exec_clear]
    rcases committed : t.state.commit (name, none) with e | kv <;>
      simp [committed, KvStore.afterVerdict, Except.bind, Except.map]

/-- Every event is handled by the rules: its handler fails with the verdict's error or the
store's and leaves the store as it was, or it writes the verdict. -/
theorem handler_exec (event : WatchEvent) :
    ((handler event).exec fetch t).1 = ((event.verdict fetch).bind t.state.commit).map (fun _ => ()) ∧
      ((handler event).exec fetch t).2.state = t.state.afterVerdict (event.verdict fetch) := by
  cases event with
  | added obj => exact onAddOrModify_exec fetch t obj
  | modified obj => exact onAddOrModify_exec fetch t obj
  | deleted obj => exact onDelete_exec fetch t obj

/-- Handling an event, its failure dropped, leaves the store the rules give. -/
theorem handleEvent_state (event : WatchEvent) :
    ((handleEvent event).exec fetch t).2.state = t.state.afterVerdict (event.verdict fetch) := by
  rw [handleEvent_eq, Online.exec_tryCatch]
  have state := (handler_exec fetch t event).2
  rcases ran : (handler event).exec fetch t with ⟨_ | _, t'⟩ <;> rw [ran] at state <;> exact state

/-- A handler that fails leaves the store as it was. -/
theorem handler_failure_keeps_store (event : WatchEvent) (e : CatalogError)
    (failed : ((handler event).exec fetch t).1 = .error e) :
    ((handler event).exec fetch t).2.state = t.state := by
  obtain ⟨result, state⟩ := handler_exec fetch t event
  rw [result] at failed
  rw [state]
  unfold KvStore.afterVerdict
  rcases written : (event.verdict fetch).bind t.state.commit with e' | kv
  · rfl
  · simp [written, Except.map] at failed

end WatchCache

/-! ## What the store holds -/

namespace KvStore

variable {kv : KvStore}

/-- A write leaves the store's reachability as it was. -/
theorem offline_afterVerdict (verdict : Outcome (String × Option (List PackageSummary))) :
    (kv.afterVerdict verdict).offline = kv.offline := by
  unfold afterVerdict
  rcases verdict with e | ⟨name, _ | summaries⟩
  · rfl
  all_goals
    cases reached : kv.offline <;>
      simp [Except.bind, Except.map, commit, set, del, reached]

/-- What a sorted store holds after a verdict: when the verdict stands and the store can
be reached, the verdict's name holds the encoded summaries or nothing; every other entry
stays, and all stay otherwise. The store stays sorted. -/
theorem get?_afterVerdict (kv : KvStore) (sorted : kv.entries.Sorted)
    (verdict : Outcome (String × Option (List PackageSummary))) :
    (kv.afterVerdict verdict).entries.Sorted ∧
      (kv.afterVerdict verdict).entries.get? =
        match kv.offline, verdict with
        | false, .ok (name, found) => Function.update kv.entries.get? name (found.map Summaries.encode)
        | _, _ => kv.entries.get? := by
  unfold afterVerdict
  rcases verdict with e | ⟨name, _ | summaries⟩
  · exact ⟨sorted, by cases kv.offline <;> rfl⟩
  · cases reached : kv.offline
    · -- the name is removed
      refine ⟨by simpa [Except.bind, Except.map, commit, del, reached] using sorted.removeWhere _, ?_⟩
      funext k
      simp only [Except.bind, commit, del, reached, Bool.false_eq_true, if_false, Except.map]
      rw [Table.get?_removeWhere sorted]
      by_cases here : k = name
      · subst here
        simp
      · have differs : (k == name) = false := by simpa using here
        rcases found : kv.entries.get? k with _ | v <;> simp [found, here, differs]
    · simp [Except.bind, Except.map, commit, del, reached, sorted]
  · cases reached : kv.offline
    · -- the name holds the encoded summaries
      refine ⟨by simpa [Except.bind, commit, set, reached] using sorted.insert _ _, ?_⟩
      funext k
      simp only [Except.bind, commit, set, reached, Bool.false_eq_true, if_false]
      by_cases here : k = name
      · subst here
        simp [Table.get?_insert]
      · simp [here, Table.get?_insert_ne sorted _ here]
    · simp [Except.bind, commit, set, reached, sorted]

end KvStore

/-! ## Runs of events -/

/-- An event the cache handles: the web as it answers then, whether the store can be
reached then, and the event. -/
structure HandledEvent where
  fetch : Fetch
  offline : Bool
  event : WatchEvent

namespace HandledEvent

/-- The store after the cache handles an event, reachable or not as the event finds it. -/
def handle (kv : KvStore) (h : HandledEvent) : KvStore :=
  ((WatchCache.handleEvent h.event).run h.fetch { kv with offline := h.offline }).2.state

/-- What the rules leave under each name after an event: the verdict's name holds the
encoded summaries or nothing, when the verdict stands and the store can be reached; every
other entry, and every entry otherwise, stays. -/
def entriesAfter (entries : String → Option ByteArray) (h : HandledEvent) :
    String → Option ByteArray :=
  match h.offline, h.event.verdict h.fetch with
  | false, .ok (name, found) => Function.update entries name (found.map Summaries.encode)
  | _, _ => entries

/-- The summaries of an event that the rules index fit CBOR heads. -/
def Fits (h : HandledEvent) : Prop :=
  ∀ name summaries, h.event.verdict h.fetch = .ok (name, some summaries) → Summaries.Fits summaries

/-- What a reader finds under each name after an event, by the rules: the summaries the
verdict gives its name, or none once the verdict clears it, when the verdict stands and
the store can be reached; every other name, and every name otherwise, as before. -/
def summariesAfter (read : String → List PackageSummary) (h : HandledEvent) :
    String → List PackageSummary :=
  match h.offline, h.event.verdict h.fetch with
  | false, .ok (name, found) => Function.update read name (found.getD [])
  | _, _ => read

/-- The summaries a reader decodes from what each name holds. -/
def decodeEntries (entries : String → Option ByteArray) : String → List PackageSummary :=
  fun name => ((entries name).bind Summaries.decode?).getD []

/-- Decoding commutes with an event: what the rules write decodes to what they mean. -/
theorem decodeEntries_entriesAfter (entries : String → Option ByteArray) (h : HandledEvent)
    (fits : h.Fits) :
    decodeEntries (entriesAfter entries h) = summariesAfter (decodeEntries entries) h := by
  unfold entriesAfter summariesAfter
  rcases verdict : h.event.verdict h.fetch with e | ⟨name, found⟩
  · cases h.offline <;> rfl
  rcases reached : h.offline with _ | _
  · funext k
    by_cases here : k = name
    · subst here
      -- the name holds the encoded summaries, which decode back, or nothing
      rcases found with _ | summaries
      · simp [decodeEntries]
      · simp [decodeEntries, Summaries.decode?_encode summaries (fits k summaries verdict)]
    · simp [decodeEntries, here]
  · rfl

/-- Decoding commutes with a run of events. -/
theorem decodeEntries_foldl (entries : String → Option ByteArray) (events : List HandledEvent)
    (fits : ∀ h ∈ events, h.Fits) :
    decodeEntries (events.foldl entriesAfter entries) =
      events.foldl summariesAfter (decodeEntries entries) := by
  induction events generalizing entries with
  | nil => rfl
  | cons h rest ih =>
    simp only [List.foldl_cons]
    rw [ih _ (fun g member => fits g (List.mem_cons_of_mem _ member)),
      decodeEntries_entriesAfter entries h (fits h List.mem_cons_self)]

/-- One event keeps a store sorted and leaves in it what the rules say. -/
theorem handle_spec {kv : KvStore} (sorted : kv.entries.Sorted) (h : HandledEvent) :
    (handle kv h).entries.Sorted ∧ (handle kv h).entries.get? = entriesAfter kv.entries.get? h := by
  have state := WatchCache.handleEvent_state h.fetch ⟨{ kv with offline := h.offline }, #[]⟩ h.event
  simp only [handle, Online.run_eq_exec, state, entriesAfter]
  exact KvStore.get?_afterVerdict { kv with offline := h.offline } sorted (h.event.verdict h.fetch)

/-- A run of events keeps a store sorted and leaves in it what the rules give under each
name, folded over the events. -/
theorem get?_foldl_handle (kv : KvStore) (sorted : kv.entries.Sorted) (events : List HandledEvent) :
    (events.foldl handle kv).entries.Sorted ∧
      (events.foldl handle kv).entries.get? = events.foldl entriesAfter kv.entries.get? := by
  -- the store is generalised: each event starts from the store the one before left
  induction events generalizing kv with
  | nil => exact ⟨sorted, rfl⟩
  | cons h rest ih =>
    obtain ⟨sorted', view⟩ := handle_spec sorted h
    simp only [List.foldl_cons, ← view]
    exact ih _ sorted'

end HandledEvent

namespace WatchCache

/-- A reachable store reads under each name the summaries its entry decodes to, and none
when it holds nothing or what does not decode. -/
theorem summariesFor_reachable (kv : KvStore) :
    summariesFor { kv with offline := false } = HandledEvent.decodeEntries kv.entries.get? := by
  funext name
  rcases found : kv.entries.get? name with _ | bytes <;>
    simp [summariesFor, KvStore.get, HandledEvent.decodeEntries, found]

end WatchCache

/-- Events handled one at a time, each against the web as it answers then and the store as
reachable as it is then, leave in a sorted store what the cache's rules give under each
name, folded over the events, and a handler that fails leaves the store as it was. So a
reader of the store, once it can be reached, finds under each name the summaries of the
last event whose verdict wrote there, none after the last that cleared it, and what it
found before when no event stood for the name. -/
theorem handling_follows_cache_rules (kv : KvStore) (sorted : kv.entries.Sorted)
    (events : List HandledEvent) (fits : ∀ h ∈ events, h.Fits) :
    (events.foldl HandledEvent.handle kv).entries.get? =
        events.foldl HandledEvent.entriesAfter kv.entries.get? ∧
      (∀ h ∈ events, ∀ (t : Traced KvStore) (e : CatalogError),
        ((WatchCache.handler h.event).exec h.fetch t).1 = .error e →
          ((WatchCache.handler h.event).exec h.fetch t).2.state = t.state) ∧
      WatchCache.summariesFor { events.foldl HandledEvent.handle kv with offline := false } =
        events.foldl HandledEvent.summariesAfter (WatchCache.summariesFor { kv with offline := false }) := by
  have entries := (HandledEvent.get?_foldl_handle kv sorted events).2
  refine ⟨entries, fun h _ t e failed => WatchCache.handler_failure_keeps_store h.fetch t h.event e failed, ?_⟩
  rw [WatchCache.summariesFor_reachable, WatchCache.summariesFor_reachable, entries]
  exact HandledEvent.decodeEntries_foldl kv.entries.get? events fits

/-- A ready object whose index is answered, which writes its summaries, then the deletion of
another object: a reader finds the summaries under the first object's name. -/
theorem handling_follows_cache_rules_indexed_then_cleared :
    let web : Json := .obj [("metadata", .obj [("name", .str "web"), ("namespace", .str "apps")]),
      ("status", .obj [("url", .str "http://r.test/index.yaml"),
        ("conditions", .arr [.obj [("type", .str "Ready"), ("status", .str "True")]])])]
    let old : Json := .obj [("metadata", .obj [("name", .str "old")])]
    let body := "entries:\n  c:\n  - version: 1\n".toUTF8
    let answering : Fetch := fun request =>
      if request.url == "http://r.test/index.yaml" then .ok ⟨200, none, body⟩
      else .error (.transport "connection refused")
    let indexed : List PackageSummary := [⟨"c", "1", "", "apps", "web/c"⟩]
    let events : List HandledEvent := [⟨answering, false, .added web⟩, ⟨answering, false, .deleted old⟩]
    KvStore.empty.entries.Sorted ∧ (∀ h ∈ events, h.Fits) ∧
      (WatchEvent.added web).verdict answering = .ok ("web", some indexed) ∧
      WatchCache.summariesFor { events.foldl HandledEvent.handle KvStore.empty with offline := false } "web" =
        indexed ∧
      ((events.foldl HandledEvent.handle KvStore.empty).entries.get? =
          events.foldl HandledEvent.entriesAfter KvStore.empty.entries.get? ∧
        (∀ h ∈ events, ∀ (t : Traced KvStore) (e : CatalogError),
          ((WatchCache.handler h.event).exec h.fetch t).1 = .error e →
            ((WatchCache.handler h.event).exec h.fetch t).2.state = t.state) ∧
        WatchCache.summariesFor { events.foldl HandledEvent.handle KvStore.empty with offline := false } =
          events.foldl HandledEvent.summariesAfter
            (WatchCache.summariesFor { KvStore.empty with offline := false })) := by
  intro web old body answering indexed events
  -- the ready object's index is answered, and the deleted object is cleared
  have ready : (WatchEvent.added web).verdict answering = .ok ("web", some indexed) := by
    -- the parse of the index runs in the kernel, so the verdict is compared as an option
    have computed : ((WatchEvent.added web).verdict answering).toOption = some ("web", some indexed) := by
      decide +kernel
    rcases evaluated : (WatchEvent.added web).verdict answering with e | v
    · rw [evaluated] at computed
      cases computed
    · rw [evaluated] at computed
      cases computed
      rfl
  have cleared : (WatchEvent.deleted old).verdict answering = .ok ("old", none) := rfl
  have fits : ∀ h ∈ events, h.Fits := by
    intro h member name summaries verdict
    simp only [events, List.mem_cons, List.not_mem_nil, or_false] at member
    rcases member with rfl | rfl
    · rw [ready] at verdict
      cases verdict
      decide
    · rw [cleared] at verdict
      cases verdict
  -- what the store reads back is what the rules give: the second event clears another name
  have readBack : WatchCache.summariesFor
      { events.foldl HandledEvent.handle KvStore.empty with offline := false } "web" = indexed := by
    rw [WatchCache.summariesFor_reachable,
      (HandledEvent.get?_foldl_handle KvStore.empty Table.Sorted.empty events).2,
      HandledEvent.decodeEntries_foldl _ events fits]
    simp only [events, List.foldl_cons, List.foldl_nil, HandledEvent.summariesAfter, ready, cleared]
    simp
  exact ⟨Table.Sorted.empty, fits, ready, readBack,
    handling_follows_cache_rules KvStore.empty Table.Sorted.empty events fits⟩

end ChartCatalog
