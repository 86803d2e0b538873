import Mathlib.Data.Multiset.AddSub
import ChartCatalog.Pool.Runs
import ChartCatalog.Proofs.Sync.Report
import ChartCatalog.Watch.Cache

/-!
# Every job's result is delivered once

A pool is a set of tasks sharing two bounded channels, and any of them may move at any
time. What a run of it guarantees is stated as an invariant of its states (`Pool.Inv`):
the jobs called, queued and still to send are the job list in order; each job called has
exactly one result, whether taken by the caller, waiting in the result channel, held by
its worker or still being computed; every worker is idle, busy or stopped; and once no
worker is left, the job channel is empty and dropped. The start satisfies it and every
step keeps it, so every reachable state does.

From it: no more calls run at once than there are workers; a state from which no task can
move is one where the result channel is closed and empty, and then the caller holds the
result of every job, each once; and since every step lowers the number of steps left,
every run comes to such a state. With a single worker the results come in the jobs' order.

The summaries of many repository objects are read through a pool, so they are the blocks
of the named objects in the order their reads arrive. The artifact jobs of a pass go through
a pool of the pass's worker count too, and since counting results commutes, the results
counted as the caller takes them give the pass's report under every schedule
(`Pass.pooled_jobs_give_sync_report`).
-/

set_option autoImplicit false

namespace ChartCatalog

namespace Pool

variable {J R : Type} {jobs : List J} {workers : Nat} {work : J → R} {s t : State J R}

theorem workerCount_eq_zero {n maxWorkers : Nat} : workerCount n maxWorkers = 0 ↔ n = 0 := by
  unfold workerCount
  omega

theorem workerCount_le_one {n maxWorkers : Nat} (single : maxWorkers ≤ 1) :
    workerCount n maxWorkers ≤ 1 := by
  unfold workerCount
  omega

/-! ## What every reachable state keeps -/

/-- The facts every state of a run keeps, for a pool of `workers` workers running `work`
over `jobs`. -/
structure Inv (jobs : List J) (workers : Nat) (work : J → R) (s : State J R) : Prop where
  /-- The jobs called, then queued, then still to send, are the jobs in order. -/
  inOrder : s.called ++ s.queued ++ s.feed = jobs
  /-- Each job called has one result: taken, in the channel, held by its worker, or still
  being computed. -/
  accounted : (s.received ++ s.results ++ s.sending ++ s.working.map work).Perm (s.called.map work)
  /-- Every worker is idle, busy or stopped. -/
  staffed : s.idle + s.working.length + s.sending.length + s.stopped = workers
  /-- Once the feeder has dropped the job channel, no job is left to send. -/
  hungUp : s.feeding = false → s.feed = []
  /-- Once no worker is left, the feeder has dropped the job channel and it is empty. -/
  drained : s.idle + s.working.length + s.sending.length = 0 → s.feeding = false ∧ s.queued = []

theorem Inv.start (jobs : List J) (maxWorkers : Nat) (work : J → R) :
    Inv jobs (workerCount jobs.length maxWorkers) work (start jobs maxWorkers) where
  inOrder := by simp [Pool.start]
  accounted := by simp [Pool.start]
  staffed := by simp [Pool.start]
  hungUp := by
    intro dropped
    have none : jobs.length = 0 := by simpa [Pool.start, workerCount_eq_zero] using dropped
    simpa [Pool.start] using none
  drained := by
    intro none
    have none : jobs.length = 0 := by simpa [Pool.start, workerCount_eq_zero] using none
    simp [Pool.start, workerCount, none]

/-- One step of any task keeps the invariant. The results are compared as multisets,
where moving one between the places it can be in is a rewrite. -/
theorem Inv.step (inv : Inv jobs workers work s) (step : Step workers work s t) :
    Inv jobs workers work t := by
  have accounted := Multiset.coe_eq_coe.mpr inv.accounted
  simp only [← Multiset.coe_add] at accounted
  cases step with
  | send next room =>
    refine ⟨?_, inv.accounted, inv.staffed, fun dropped => ?_, fun none => ?_⟩
    · simpa [next] using inv.inOrder
    · simp [inv.hungUp dropped] at next
    · simp [inv.hungUp (inv.drained none).1] at next
  | hangUp holding sent =>
    exact ⟨inv.inOrder, inv.accounted, inv.staffed, fun _ => sent,
      fun none => ⟨rfl, (inv.drained none).2⟩⟩
  | take waiting oldest =>
    refine ⟨?_, ?_, ?_, inv.hungUp, fun none => ?_⟩
    · simpa [oldest] using inv.inOrder
    · rw [← Multiset.coe_eq_coe]
      simp only [List.map_cons, List.map_append, List.map_nil, ← Multiset.coe_add,
        ← Multiset.cons_coe, Multiset.add_cons, Multiset.coe_nil, Multiset.add_zero, accounted]
    · have := inv.staffed
      simp only [List.length_cons]
      omega
    · simp at none
  | finish busy =>
    refine ⟨inv.inOrder, ?_, ?_, inv.hungUp, fun none => ?_⟩
    · rw [← Multiset.coe_eq_coe, ← accounted]
      simp only [busy, List.map_cons, List.map_append, ← Multiset.coe_add, ← Multiset.cons_coe,
        Multiset.add_cons, Multiset.cons_add]
    · have := inv.staffed
      simp only [busy, List.length_append, List.length_cons] at this ⊢
      omega
    · simp at none
  | deliver holding room =>
    refine ⟨inv.inOrder, ?_, ?_, inv.hungUp, fun none => ?_⟩
    · rw [← Multiset.coe_eq_coe, ← accounted]
      simp only [holding, ← Multiset.coe_add, ← Multiset.cons_coe, Multiset.add_cons,
        Multiset.cons_add, Multiset.coe_nil, Multiset.add_zero]
    · have := inv.staffed
      simp only [holding, List.length_append, List.length_cons] at this ⊢
      omega
    · simp at none
  | stop waiting empty dropped =>
    refine ⟨inv.inOrder, inv.accounted, ?_, inv.hungUp, fun _ => ⟨dropped, empty⟩⟩
    have := inv.staffed
    dsimp only
    omega
  | receive oldest =>
    refine ⟨inv.inOrder, ?_, inv.staffed, inv.hungUp, inv.drained⟩
    simpa [oldest] using inv.accounted

theorem Reachable.inv {maxWorkers : Nat} (run : Reachable jobs maxWorkers work s) :
    Inv jobs (workerCount jobs.length maxWorkers) work s := by
  induction run with
  | refl => exact Inv.start jobs maxWorkers work
  | tail _ step ih => exact ih.step step

/-! ## Where a run ends -/

/-- Every job called, and every result taken, once the result channel is closed. -/
theorem Inv.called_of_closed (inv : Inv jobs workers work s) (closed : s.Closed) :
    s.called = jobs := by
  obtain ⟨idle, working, sending⟩ := closed
  obtain ⟨dropped, empty⟩ := inv.drained (by simp [idle, working, sending])
  simpa [empty, inv.hungUp dropped] using inv.inOrder

theorem Inv.perm_of_closed (inv : Inv jobs workers work s) (closed : s.Closed) :
    (s.received ++ s.results).Perm (jobs.map work) := by
  have accounted := inv.accounted
  rw [closed.2.1, closed.2.2, inv.called_of_closed closed] at accounted
  simpa using accounted

/-- A state that is not collected has a step: the caller takes a result, a worker
delivers one, a call returns, an idle worker takes a job or stops, or the feeder sends a
job or hangs up. The split follows the tasks from the caller back to the feeder. -/
theorem Inv.step_of_not_collected (inv : Inv jobs workers work s) (notDone : ¬s.Collected) :
    ∃ t, Step workers work s t := by
  rcases results : s.results with _ | ⟨result, rest⟩
  case cons => exact ⟨_, .receive results⟩
  rcases sending : s.sending with _ | ⟨result, rest⟩
  case cons =>
    exact ⟨_, .deliver (show s.sending = [] ++ result :: rest by simp [sending])
      (by simp only [results, List.length_nil]; omega)⟩
  rcases working : s.working with _ | ⟨job, rest⟩
  case cons => exact ⟨_, .finish (show s.working = [] ++ job :: rest by simp [working])⟩
  have waiting : 0 < s.idle := by
    by_contra none
    exact notDone ⟨⟨by omega, working, sending⟩, results⟩
  rcases queued : s.queued with _ | ⟨job, rest⟩
  case cons => exact ⟨_, .take waiting queued⟩
  cases feeding : s.feeding
  case false => exact ⟨_, .stop waiting queued feeding⟩
  rcases feed : s.feed with _ | ⟨job, rest⟩
  case nil => exact ⟨_, .hangUp feeding feed⟩
  case cons =>
    have := inv.staffed
    exact ⟨_, .send feed (by simp only [queued, List.length_nil]; omega)⟩

/-- A collected state has no step: no task is left to move. -/
theorem Inv.not_step_of_collected (inv : Inv jobs workers work s) (done : s.Collected)
    (step : Step workers work s t) : False := by
  obtain ⟨⟨idle, working, sending⟩, results⟩ := done
  obtain ⟨dropped, empty⟩ := inv.drained (by simp [idle, working, sending])
  cases step with
  | send next _ => simp [inv.hungUp dropped] at next
  | hangUp holding _ => simp [dropped] at holding
  | take waiting _ => omega
  | finish busy => simp [working] at busy
  | deliver holding _ => simp [sending] at holding
  | stop waiting _ _ => omega
  | receive oldest => simp [results] at oldest

theorem Inv.stuck_iff_collected (inv : Inv jobs workers work s) :
    (∀ t, ¬Step workers work s t) ↔ s.Collected := by
  constructor
  · intro stuck
    by_contra notDone
    obtain ⟨t, step⟩ := inv.step_of_not_collected notDone
    exact stuck t step
  · intro done t step
    exact inv.not_step_of_collected done step

/-! ## Every run ends -/

/-- How many steps are left. A job still to send has five ahead of it (sent, taken,
finished, delivered, received); a queued job four, counting the worker's; a call in
progress four and a held result three, each counting the worker's stop; an idle worker
one; the feeder one, for hanging up. -/
def State.stepsLeft (s : State J R) : Nat :=
  5 * s.feed.length + s.feeding.toNat + 4 * s.queued.length + s.idle + 4 * s.working.length +
    3 * s.sending.length + s.results.length

theorem stepsLeft_step (step : Step workers work s t) : t.stepsLeft + 1 = s.stepsLeft := by
  cases step with
  | send next _ => simp [State.stepsLeft, next]; omega
  | hangUp holding _ => simp [State.stepsLeft, holding]; omega
  | take waiting oldest => simp [State.stepsLeft, oldest]; omega
  | finish busy => simp [State.stepsLeft, busy]; omega
  | deliver holding _ => simp [State.stepsLeft, holding]; omega
  | stop waiting _ _ => simp [State.stepsLeft]; omega
  | receive oldest => simp [State.stepsLeft, oldest]; omega

/-- There is no infinite run. -/
theorem wellFounded_step : WellFounded (fun t s => Step workers work s t) := by
  refine Subrelation.wf ?_ (measure (State.stepsLeft (J := J) (R := R))).wf
  intro t s step
  have := stepsLeft_step step
  show t.stepsLeft < s.stepsLeft
  omega

/-! ## A single worker keeps the jobs' order -/

/-- With at most one worker, results are taken, queued, held and computed in the order
of the jobs called. -/
theorem Inv.ordered_step (inv : Inv jobs workers work s) (single : workers ≤ 1)
    (ordered : s.received ++ s.results ++ s.sending ++ s.working.map work = s.called.map work)
    (step : Step workers work s t) :
    t.received ++ t.results ++ t.sending ++ t.working.map work = t.called.map work := by
  have staffed := inv.staffed
  cases step with
  | send => exact ordered
  | hangUp => exact ordered
  | take waiting _ =>
    -- the one worker is idle, so no result is held and no call runs
    have working : s.working = [] := List.eq_nil_of_length_eq_zero (by omega)
    have sending : s.sending = [] := List.eq_nil_of_length_eq_zero (by omega)
    simp only [working, sending, List.map_nil, List.append_nil] at ordered
    simp [working, sending, ordered]
  | @finish before after _ busy =>
    simp only [busy, List.length_append, List.length_cons] at staffed
    have before : before = [] := List.eq_nil_of_length_eq_zero (by omega)
    have after : after = [] := List.eq_nil_of_length_eq_zero (by omega)
    have sending : s.sending = [] := List.eq_nil_of_length_eq_zero (by omega)
    simp only [busy, before, after, sending] at ordered
    simpa [before, after, sending] using ordered
  | @deliver before after _ holding _ =>
    simp only [holding, List.length_append, List.length_cons] at staffed
    have before : before = [] := List.eq_nil_of_length_eq_zero (by omega)
    have after : after = [] := List.eq_nil_of_length_eq_zero (by omega)
    have working : s.working = [] := List.eq_nil_of_length_eq_zero (by omega)
    simp only [holding, before, after, working] at ordered
    simpa [before, after, working] using ordered
  | stop => exact ordered
  | receive oldest =>
    simpa [oldest] using ordered

theorem Reachable.received_perm {maxWorkers : Nat} (run : Reachable jobs maxWorkers work s)
    (done : s.Collected) : s.received.Perm (jobs.map work) := by
  simpa [done.2] using run.inv.perm_of_closed done.1

theorem Reachable.ordered {maxWorkers : Nat} (run : Reachable jobs maxWorkers work s)
    (single : maxWorkers ≤ 1) :
    s.received ++ s.results ++ s.sending ++ s.working.map work = s.called.map work := by
  induction run with
  | refl => simp [Pool.start]
  | tail before step ih =>
    exact (Reachable.inv before).ordered_step (workerCount_le_one single) ih step

theorem Reachable.received_eq {maxWorkers : Nat} (run : Reachable jobs maxWorkers work s)
    (single : maxWorkers ≤ 1) (done : s.Collected) : s.received = jobs.map work := by
  obtain ⟨⟨_, working, sending⟩, results⟩ := done
  have closed : s.Closed := ⟨‹_›, working, sending⟩
  simpa [working, sending, results, run.inv.called_of_closed closed] using run.ordered single

/-! ## The fixed schedule -/

/-- Every move of the fixed schedule is a step of one task. -/
theorem State.next?_step (next : s.next? workers work = some t) : Step workers work s t := by
  unfold State.next? at next
  split at next
  · rename_i result rest results
    cases next
    exact .receive results
  · rename_i result rest results sending
    cases next
    exact .deliver (show s.sending = [] ++ result :: rest by simp [sending])
      (by rw [results, List.length_nil]; omega)
  · rename_i job rest results sending working
    cases next
    exact .finish (show s.working = [] ++ job :: rest by simp [working])
  · rename_i results sending working
    split at next
    · rename_i waiting
      split at next
      · rename_i job rest queued
        cases next
        exact .take waiting queued
      · rename_i queued
        split at next
        · rename_i feeding
          split at next
          · rename_i feed
            cases next
            exact .hangUp feeding feed
          · rename_i job rest feed
            split at next
            · rename_i room
              cases next
              exact .send feed room
            · cases next
        · rename_i dropped
          cases next
          exact .stop waiting queued (by simpa using dropped)
    · cases next

/-- The fixed schedule stops only where the pool is collected: where it finds no move, no
result waits or is held, no call runs and no worker is idle. -/
theorem Inv.collected_of_next?_eq_none (inv : Inv jobs workers work s)
    (stuck : s.next? workers work = none) : s.Collected := by
  unfold State.next? at stuck
  split at stuck
  · cases stuck
  · cases stuck
  · cases stuck
  · rename_i results sending working
    split at stuck
    · rename_i waiting
      -- an idle worker always has a move: the feeder's channel has room for it
      have staffed := inv.staffed
      split at stuck
      · cases stuck
      · rename_i queued
        split at stuck
        · split at stuck
          · cases stuck
          · split at stuck
            · cases stuck
            · rename_i full
              simp only [queued, List.length_nil] at full
              omega
        · cases stuck
    · exact ⟨⟨by omega, working, sending⟩, results⟩

/-- A run of the fixed schedule is a run of the pool. -/
theorem State.runFor_reaches (fuel : Nat) (s : State J R) :
    Relation.ReflTransGen (Step workers work) s (s.runFor workers work fuel) := by
  induction fuel generalizing s with
  | zero => exact .refl
  | succ fuel ih =>
    unfold State.runFor
    split
    · rename_i t next
      exact .head (State.next?_step next) (ih t)
    · exact .refl

/-- With fuel for every step left, the fixed schedule runs to a collected state. The
induction is on the fuel; each move lowers the steps left by one. -/
theorem Inv.runFor_collected {fuel : Nat} (inv : Inv jobs workers work s)
    (enough : s.stepsLeft ≤ fuel) : (s.runFor workers work fuel).Collected := by
  induction fuel generalizing s with
  | zero =>
    refine inv.stuck_iff_collected.1 fun t step => ?_
    have fewer := stepsLeft_step step
    omega
  | succ fuel ih =>
    unfold State.runFor
    split
    · rename_i t next
      have step := State.next?_step next
      have fewer := stepsLeft_step step
      exact ih (inv.step step) (by omega)
    · rename_i stuck
      exact inv.collected_of_next?_eq_none stuck

theorem stepsLeft_start (jobs : List J) (maxWorkers : Nat) :
    (start jobs maxWorkers : State J R).stepsLeft ≤
      5 * jobs.length + workerCount jobs.length maxWorkers + 1 := by
  have bit : (decide (0 < workerCount jobs.length maxWorkers)).toNat ≤ 1 := Bool.toNat_le _
  simp only [State.stepsLeft, Pool.start, List.length_nil]
  omega

/-- The fixed schedule runs the pool to a collected state, and the caller's results are
the ones it took there. -/
theorem runScheduled_spec (jobs : List J) (maxWorkers : Nat) (work : J → R) :
    ∃ s, Reachable jobs maxWorkers work s ∧ s.Collected ∧
      runScheduled jobs maxWorkers work = s.received :=
  ⟨_, State.runFor_reaches _ _,
    (Inv.start jobs maxWorkers work).runFor_collected (stepsLeft_start jobs maxWorkers), rfl⟩

/-- Under the fixed schedule, the caller takes every job's result once. -/
theorem runScheduled_perm (jobs : List J) (maxWorkers : Nat) (work : J → R) :
    (runScheduled jobs maxWorkers work).Perm (jobs.map work) := by
  obtain ⟨s, run, done, taken⟩ := runScheduled_spec jobs maxWorkers work
  rw [taken]
  exact run.received_perm done

/-- With a single worker, the fixed schedule gives the results in the jobs' order. -/
theorem runScheduled_of_le_one (jobs : List J) {maxWorkers : Nat} (work : J → R)
    (single : maxWorkers ≤ 1) : runScheduled jobs maxWorkers work = jobs.map work := by
  obtain ⟨s, run, done, taken⟩ := runScheduled_spec jobs maxWorkers work
  rw [taken]
  exact run.received_eq single done

example : runScheduled [3, 1, 2] 2 (· * 10) = [30, 10, 20] := by decide

end Pool

/-! ## Summaries read through a pool -/

namespace WatchCache

theorem gather_perm {reads reads' : List (Outcome (List PackageSummary))}
    (perm : reads.Perm reads') : (gather reads).Perm (gather reads') :=
  perm.flatMap_right _

theorem gather_eq_flatten (reads : List (Outcome (List PackageSummary))) :
    gather reads = (reads.filterMap Except.toOption).flatten := by
  induction reads with
  | nil => rfl
  | cons read reads ih =>
    cases read <;> simp [gather, Except.toOption] at ih ⊢ <;> exact ih

theorem filterMap_readSummaries (kv : KvStore) (objs : List Json) :
    (objs.map (readSummaries kv)).filterMap Except.toOption =
      objs.filterMap fun obj => (RepoObject.name obj).toOption.map (summariesFor kv) := by
  rw [List.filterMap_map]
  congr
  funext obj
  simp only [Function.comp_apply, readSummaries]
  cases RepoObject.name obj <;> rfl

theorem fetchSummaries_perm (kv : KvStore) (maxWorkers : Nat) (objs : List Json) :
    (fetchSummaries kv maxWorkers objs).Perm (gather (objs.map (readSummaries kv))) :=
  gather_perm (Pool.runScheduled_perm objs maxWorkers (readSummaries kv))

theorem fetchSummaries_of_le_one (kv : KvStore) {maxWorkers : Nat} (objs : List Json)
    (single : maxWorkers ≤ 1) :
    fetchSummaries kv maxWorkers objs = gather (objs.map (readSummaries kv)) := by
  rw [fetchSummaries, Pool.runScheduled_of_le_one objs (readSummaries kv) single]

end WatchCache

/-! ## The artifact jobs of a pass on a pool -/

/-- Whatever the pool's schedule, the results of a pass's artifact jobs, each the result its
job came to, computed on a pool of the pass's worker count and counted as the caller takes
them, give the report of a pass that synced. -/
theorem Pass.pooled_jobs_give_sync_report {fetch : Http.Fetch} {t : Http.Traced Catalog}
    {faults : StoreFaults} {options : SyncOptions} {now : Instant} {repo : Repo}
    {report : SyncReport}
    (synced : ((Pass.syncRepoUnder faults options now repo).exec fetch t).1 = .ok (.synced report)) :
    ∃ index, (∃ data, ((Pass.fetchIndex repo).exec fetch t).1 = .ok data ∧ parseIndex data = .ok index) ∧
      ∃ outcomes, List.Forall₂ ArtifactJob.Yields (artifactJobs (chartsFromIndex index repo)) outcomes ∧
        ∀ s, Pool.Reachable ((artifactJobs (chartsFromIndex index repo)).zip outcomes) options.workers
            Prod.snd s → s.Collected →
          report = { s.received.foldl SyncReport.count .zero with
            charts := (chartsFromIndex index repo).length, chartsRemoved := report.chartsRemoved } := by
  obtain ⟨data, index, fetched, parsed, outcomes, yields, counted⟩ := Pass.syncRepoUnder_synced fetch t synced
  refine ⟨index, ⟨data, fetched, parsed⟩, outcomes, yields, fun s run done => ?_⟩
  -- the caller takes each job's result once, so it counts the results in some order
  have arrived : s.received.Perm outcomes := by
    have taken := run.received_perm done
    rwa [List.map_snd_zip yields.length_eq.symm.le] at taken
  exact ((SyncReport.Tallied.accounts yields counted).anyOrder s.received arrived).symm

/-- A pool delivers each job's result once, within its bound on workers. In every state of
every run, no more calls are in progress than there are workers and the jobs called are
the first jobs, each once; once the result channel is closed every job has been called,
and the results taken or still in the channel are the jobs' results, each once; a run can
stop only where the caller has taken everything and the channel is closed; no run goes on
forever; and a pool without jobs is closed from its start.

So the summaries of many repository objects, read through a pool, are in every run the
blocks of the named objects in some order, and `fetchSummaries` returns them, up to order,
and in the run's own order with a single worker. -/
theorem pool_delivers_each_result_once {J R : Type} (jobs : List J) (maxWorkers : Nat)
    (work : J → R) :
    (∀ s, Pool.Reachable jobs maxWorkers work s →
      s.working.length ≤ min jobs.length (max maxWorkers 1) ∧
      s.called <+: jobs ∧
      (s.Closed → s.called = jobs ∧ (s.received ++ s.results).Perm (jobs.map work)) ∧
      ((∀ t, ¬Pool.Step (Pool.workerCount jobs.length maxWorkers) work s t) ↔ s.Collected)) ∧
    WellFounded (fun t s => Pool.Step (Pool.workerCount jobs.length maxWorkers) work s t) ∧
    (jobs = [] → (Pool.start jobs maxWorkers : Pool.State J R).Closed) ∧
    ∀ (kv : KvStore) (objs : List Json) (fetchWorkers : Nat)
      (s : Pool.State Json (Outcome (List PackageSummary))),
      Pool.Reachable objs fetchWorkers (WatchCache.readSummaries kv) s → s.Collected →
        (∃ blocks : List (List PackageSummary), blocks.Perm (objs.filterMap fun obj =>
              (RepoObject.name obj).toOption.map (WatchCache.summariesFor kv)) ∧
            WatchCache.gather s.received = blocks.flatten) ∧
          (WatchCache.fetchSummaries kv fetchWorkers objs).Perm (WatchCache.gather s.received) ∧
          (fetchWorkers ≤ 1 →
            WatchCache.fetchSummaries kv fetchWorkers objs = WatchCache.gather s.received) := by
  refine ⟨fun s run => ?_, Pool.wellFounded_step, fun none => ?_,
    fun kv objs fetchWorkers s run done => ?_⟩
  · have inv := run.inv
    refine ⟨?_, ⟨s.queued ++ s.feed, ?_⟩, fun closed => ⟨inv.called_of_closed closed,
      inv.perm_of_closed closed⟩, inv.stuck_iff_collected⟩
    · have := inv.staffed
      unfold Pool.workerCount at this
      omega
    · rw [← List.append_assoc]
      exact inv.inOrder
  · subst none
    simp [Pool.start, Pool.workerCount, Pool.State.Closed]
  · have received := run.received_perm done
    refine ⟨⟨_, ?_, WatchCache.gather_eq_flatten _⟩, ?_, fun single => ?_⟩
    · rw [← WatchCache.filterMap_readSummaries]
      exact received.filterMap _
    · exact (WatchCache.fetchSummaries_perm kv fetchWorkers objs).trans
        (WatchCache.gather_perm received.symm)
    · rw [WatchCache.fetchSummaries_of_le_one kv objs single, run.received_eq single done]

/-- Two jobs on two workers: the feeder sends both and hangs up, each worker takes one, the
second call returns first, and the caller takes its result first. -/
theorem pool_delivers_each_result_once_out_of_order :
    ∃ s : Pool.State Nat Nat, Pool.Reachable [1, 2] 2 (· * 10) s ∧ s.Collected ∧
      s.received = [20, 10] ∧ s.received.Perm [10, 20] := by
  have run : Pool.Reachable [1, 2] 2 (· * 10)
      (⟨[], false, [], 0, [], [], 2, [], [20, 10], [1, 2]⟩ : Pool.State Nat Nat) :=
    (Relation.ReflTransGen.refl :
        Relation.ReflTransGen (Pool.Step (Pool.workerCount 2 2) (· * 10)) (Pool.start [1, 2] 2) _)
      |>.tail (.send rfl (by decide))
      |>.tail (.send rfl (by decide))
      |>.tail (.hangUp rfl rfl)
      |>.tail (.take (by decide) rfl)
      |>.tail (.take (by decide) rfl)
      |>.tail (@Pool.Step.finish _ _ _ _ _ [] [1] 2 rfl)
      |>.tail (@Pool.Step.deliver _ _ _ _ _ [] [] 20 rfl (by decide))
      |>.tail (@Pool.Step.finish _ _ _ _ _ [] [] 1 rfl)
      |>.tail (@Pool.Step.deliver _ _ _ _ _ [] [] 10 rfl (by decide))
      |>.tail (.stop (by decide) rfl rfl)
      |>.tail (.stop (by decide) rfl rfl)
      |>.tail (.receive rfl)
      |>.tail (.receive rfl)
  have delivered :=
    (((pool_delivers_each_result_once [1, 2] 2 (· * 10)).1 _ run).2.2.1 ⟨rfl, rfl, rfl⟩).2
  exact ⟨_, run, ⟨⟨rfl, rfl, rfl⟩, rfl⟩, rfl, by simpa using delivered⟩

end ChartCatalog
