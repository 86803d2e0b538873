import ChartCatalog.Proofs.Sync.Exec
import ChartCatalog.Watch.Loop
import ChartCatalog.Watch.Tasks

/-!
# The watch loop is single-flight

Whatever the schedule of start calls, failures to open the stream, cancellations, ends of
streams and questions, the flag kept under the mutex counts the live loops, so at most one
loop is live (`Coherent`, kept by every event, `Coherent.next`, and so along every run,
`Coherent.run`). The argument is the mutex: a start call that finds the flag clear keeps
the mutex until its stream opens or fails to open, so no loop clears the flag meanwhile and
the flag is still clear when the call spawns its loop (`Coherent.held`).

What each event does to a start call, a loop and a question is said once
(`returned_at`, `answered_at`, `loop_changed_at`). With the invariant this gives the behaviour
seen from outside (`watch_loop_single_flight`): a start call returns no handle exactly when
a loop is live as it takes the mutex, returns a handle only for the loop it spawns while no
other is live, and returns the error of a stream that failed to open with the flag left
clear; a question is answered yes exactly while a loop is live, and a loop is live from the
start call that spawns it until it clears the flag.

The session's `Watch.start` is one of these schedules: a start call that runs alone, from
the call to its return, returns what the session's start reports and leaves the flag as the
session leaves it (`Watch.start_runs_alone`).
-/

set_option autoImplicit false

namespace ChartCatalog

open Http

/-! ## Positions in a list of tasks -/

section Positions

variable {α : Type} {l : List α} {i k : Nat} {a b : α}

theorem getElem?_set_eq_some (found : (l.set i a)[k]? = some b) :
    (k = i ∧ a = b) ∨ (k ≠ i ∧ l[k]? = some b) := by
  rw [List.getElem?_set] at found
  split at found
  · split at found
    · exact .inl ⟨by omega, Option.some.inj found⟩
    · cases found
  · exact .inr ⟨by omega, found⟩

theorem getElem?_append_singleton_eq_some (found : (l ++ [a])[k]? = some b) :
    l[k]? = some b ∨ (k = l.length ∧ a = b) := by
  rw [List.getElem?_append] at found
  split at found
  · exact .inl found
  · rename_i outside
    -- past the old list only the new task is left
    rcases Nat.lt_or_ge (k - l.length) 1 with last | beyond
    · have at_end : k = l.length := by omega
      subst at_end
      simp only [Nat.sub_self, List.getElem?_cons_zero, Option.some.injEq] at found
      exact .inr ⟨rfl, found⟩
    · rw [List.getElem?_eq_none (by simpa using beyond)] at found
      cases found

/-- Setting the last position of a list that grew by one. -/
theorem set_concat_length : (l ++ [a]).set l.length b = l ++ [b] := by
  simp

end Positions

namespace WatchTasks

variable {s : WatchTasks} {e : TaskEvent}

/-! ## Runs -/

theorem step_eq_some {s' : WatchTasks} : s.step e = some s' ↔ s.Enabled e ∧ s.next e = s' := by
  unfold step
  split <;> simp_all

theorem run_cons (s : WatchTasks) (e : TaskEvent) (events : List TaskEvent) :
    s.run (e :: events) = (s.step e).bind fun s' => s'.run events := rfl

theorem run_cons_of_enabled (en : s.Enabled e) (events : List TaskEvent) :
    s.run (e :: events) = (s.next e).run events := by
  rw [run_cons, step, if_pos en]
  rfl

/-! ## Live loops -/

/-- Setting a loop from one phase to another changes the count of live loops by the
liveness of each. -/
theorem liveLoops_set {j : Nat} {a b : LoopTask} (at_j : s.loops[j]? = some a) :
    (s.loops.set j b).countP LoopTask.live + a.live.toNat = s.liveLoops + b.live.toNat := by
  obtain ⟨inside, rfl⟩ := List.getElem?_eq_some_iff.1 at_j
  have counted : s.loops[j].live = true → 1 ≤ s.liveLoops := fun live =>
    List.countP_pos_iff.2 ⟨_, List.getElem_mem inside, live⟩
  rw [List.countP_set inside]
  unfold liveLoops at counted ⊢
  cases live : s.loops[j].live
  · cases b.live <;> simp
  · have one := counted live
    cases b.live <;> simp <;> omega

/-! ## The invariant -/

/-- What holds after every schedule: the flag counts the live loops, a start call that
holds the mutex has found the flag clear, and a start call holds the mutex exactly while its
stream opens. -/
structure Coherent (s : WatchTasks) : Prop where
  flag : s.liveLoops = s.started.toNat
  held : ∀ i, s.holder = some i → s.started = false
  opening : ∀ i, s.calls[i]? = some .opening ↔ s.holder = some i

theorem Coherent.initial : WatchTasks.initial.Coherent :=
  ⟨rfl, (fun _ held => by cases held), fun i => by simp [WatchTasks.initial]⟩

theorem Coherent.liveLoops_le_one (inv : s.Coherent) : s.liveLoops ≤ 1 := by
  rw [inv.flag]
  exact Bool.toNat_le s.started

/-- The flag is set exactly while a loop is live. -/
theorem Coherent.started_iff (inv : s.Coherent) : s.started = true ↔ 0 < s.liveLoops := by
  rw [inv.flag]
  cases s.started <;> simp

/-- While a start call opens its stream, the flag is clear and no loop is live. -/
theorem Coherent.idle_of_opening (inv : s.Coherent) {i : Nat} (opening : s.calls[i]? = some .opening) :
    s.started = false ∧ s.liveLoops = 0 := by
  have clear := inv.held i ((inv.opening i).1 opening)
  exact ⟨clear, by rw [inv.flag, clear]; rfl⟩

/-- With the mutex free, no start call is opening its stream. -/
theorem Coherent.not_opening (inv : s.Coherent) (free : s.holder = none) (k : Nat) :
    s.calls[k]? ≠ some .opening := fun opening => by
  rw [(inv.opening k).1 opening] at free
  cases free

/-- Only the call holding the mutex opens its stream. -/
theorem Coherent.opening_unique (inv : s.Coherent) {i k : Nat} (opening : s.calls[i]? = some .opening)
    (other : k ≠ i) : s.calls[k]? ≠ some .opening := fun found => by
  have holder := (inv.opening k).1 found
  rw [(inv.opening i).1 opening, Option.some.injEq] at holder
  exact other holder.symm

/-- A call that returns gives the mutex back: when no other call was opening its stream,
none is, and no call holds the mutex. -/
theorem opening_iff_of_returned {calls : List StartCall} {i : Nat}
    (others : ∀ k, k ≠ i → calls[k]? ≠ some .opening) (r : StartResult) (k : Nat) :
    (calls.set i (.returned r))[k]? = some .opening ↔ (none : Option Nat) = some k := by
  constructor
  · intro found
    rcases getElem?_set_eq_some found with ⟨-, wrong⟩ | ⟨other, found⟩
    · cases wrong
    · exact absurd found (others k other)
  · intro held
    cases held

/-- Every event keeps the invariant. -/
theorem Coherent.next (inv : s.Coherent) (en : s.Enabled e) : (s.next e).Coherent := by
  cases e with
  | call =>
    refine ⟨inv.flag, inv.held, fun k => ⟨fun found => ?_, fun held => ?_⟩⟩
    · rcases getElem?_append_singleton_eq_some found with found | ⟨-, wrong⟩
      · exact (inv.opening k).1 found
      · cases wrong
    · have found := (inv.opening k).2 held
      simp only [WatchTasks.next]
      rw [List.getElem?_append_left (List.getElem?_eq_some_iff.1 found).1]
      exact found
  | acquire i =>
    obtain ⟨free, queued⟩ := en
    have inside := (List.getElem?_eq_some_iff.1 queued).1
    cases flag : s.started with
    | true =>
      -- the flag is set: the call returns at once and leaves the mutex free
      simp only [WatchTasks.next, flag, if_true]
      refine ⟨inv.flag.trans (by rw [flag]), (fun k held => by rw [free] at held; cases held), fun k => ?_⟩
      rw [free]
      exact opening_iff_of_returned (fun k _ => inv.not_opening free k) _ k
    | false =>
      -- the flag is clear: the call keeps the mutex while its stream opens
      simp only [WatchTasks.next, flag, Bool.false_eq_true, if_false]
      refine ⟨inv.flag.trans (by rw [flag]), (fun k _ => rfl), fun k => ?_⟩
      constructor
      · intro found
        rcases getElem?_set_eq_some found with ⟨same, -⟩ | ⟨-, found⟩
        · rw [same]
        · exact absurd found (inv.not_opening free k)
      · intro held
        cases Option.some.inj held
        exact List.getElem?_set_self inside
  | opened i =>
    obtain ⟨clear, idle⟩ := inv.idle_of_opening en
    refine ⟨?_, (fun k held => by cases held),
      opening_iff_of_returned (fun k other => inv.opening_unique en other) _⟩
    simp only [WatchTasks.next, liveLoops, List.countP_append]
    rw [← liveLoops, idle]
    rfl
  | refused i err =>
    exact ⟨inv.flag, (fun k held => by cases held),
      opening_iff_of_returned (fun k other => inv.opening_unique en other) _⟩
  | stop j =>
    have counted := liveLoops_set (b := .resetting) en
    simp only [LoopTask.live_running, LoopTask.live_resetting, Nat.add_right_cancel_iff] at counted
    exact ⟨counted.trans inv.flag, inv.held, inv.opening⟩
  | reset j =>
    obtain ⟨free, resetting⟩ := en
    have counted := liveLoops_set (b := .finished) resetting
    simp only [LoopTask.live_resetting, LoopTask.live_finished, Bool.toNat_true, Bool.toNat_false,
      Nat.add_zero] at counted
    -- the loop being reset is live, and it was the only one: none is left
    have one := inv.liveLoops_le_one
    refine ⟨?_, (fun k held => ?_), inv.opening⟩
    · show (s.loops.set j .finished).countP LoopTask.live = 0
      omega
    · simp only [WatchTasks.next, free] at held
      cases held
  | ask => exact ⟨inv.flag, inv.held, inv.opening⟩
  | read k => exact ⟨inv.flag, inv.held, inv.opening⟩

/-- Every schedule keeps the invariant. -/
theorem Coherent.run (inv : s.Coherent) {events : List TaskEvent} {s' : WatchTasks}
    (ran : s.run events = some s') : s'.Coherent := by
  induction events generalizing s with
  | nil =>
    cases ran
    exact inv
  | cons e events ih =>
    rw [run_cons] at ran
    obtain ⟨s₁, stepped, rest⟩ := Option.bind_eq_some_iff.1 ran
    obtain ⟨en, rfl⟩ := step_eq_some.1 stepped
    exact ih (inv.next en) rest

/-! ## What each event does to a task -/

/-- A start call returns where it takes the mutex and finds the flag set, where its stream
opens, or where its stream fails to open, and nowhere else. -/
theorem returned_at (en : s.Enabled e) {i : Nat} {r : StartResult}
    (fresh : s.calls[i]? ≠ some (.returned r)) (now : (s.next e).calls[i]? = some (.returned r)) :
    (e = .acquire i ∧ s.started = true ∧ r = .alreadyStarted) ∨
      (e = .opened i ∧ r = .spawned s.loops.length) ∨ ∃ err, e = .refused i err ∧ r = .failed err := by
  cases e with
  | call =>
    rcases getElem?_append_singleton_eq_some now with found | ⟨-, wrong⟩
    · exact absurd found fresh
    · cases wrong
  | acquire i' =>
    simp only [WatchTasks.next] at now
    split at now
    · rcases getElem?_set_eq_some now with ⟨rfl, same⟩ | ⟨-, found⟩
      · exact .inl ⟨rfl, ‹_›, (StartCall.returned.inj same).symm⟩
      · exact absurd found fresh
    · rcases getElem?_set_eq_some now with ⟨-, wrong⟩ | ⟨-, found⟩
      · cases wrong
      · exact absurd found fresh
  | opened i' =>
    rcases getElem?_set_eq_some now with ⟨rfl, same⟩ | ⟨-, found⟩
    · exact .inr (.inl ⟨rfl, (StartCall.returned.inj same).symm⟩)
    · exact absurd found fresh
  | refused i' err =>
    rcases getElem?_set_eq_some now with ⟨rfl, same⟩ | ⟨-, found⟩
    · exact .inr (.inr ⟨err, rfl, (StartCall.returned.inj same).symm⟩)
    · exact absurd found fresh
  | stop j => exact absurd now fresh
  | reset j => exact absurd now fresh
  | ask => exact absurd now fresh
  | read k => exact absurd now fresh

/-- A question is answered where it takes the mutex, with the flag. -/
theorem answered_at (en : s.Enabled e) {k : Nat} {b : Bool}
    (fresh : s.reads[k]? ≠ some (.answered b)) (now : (s.next e).reads[k]? = some (.answered b)) :
    e = .read k ∧ b = s.started := by
  cases e with
  | ask =>
    rcases getElem?_append_singleton_eq_some now with found | ⟨-, wrong⟩
    · exact absurd found fresh
    · cases wrong
  | read k' =>
    rcases getElem?_set_eq_some now with ⟨rfl, same⟩ | ⟨-, found⟩
    · exact ⟨rfl, (WatchingRead.answered.inj same).symm⟩
    · exact absurd found fresh
  | call => exact absurd now fresh
  | acquire i =>
    simp only [WatchTasks.next] at now
    split at now <;> exact absurd now fresh
  | opened i => exact absurd now fresh
  | refused i err => exact absurd now fresh
  | stop j => exact absurd now fresh
  | reset j => exact absurd now fresh

/-- The life of a loop: it is spawned running where a start call's stream opens, it leaves
its loop where it is stopped, and it finishes where it clears the flag; no other event
changes it. -/
theorem loop_changed_at (en : s.Enabled e) {j : Nat} (changed : (s.next e).loops[j]? ≠ s.loops[j]?) :
    (∃ i, e = .opened i ∧ s.loops[j]? = none ∧ (s.next e).loops[j]? = some .running) ∨
      (e = .stop j ∧ s.loops[j]? = some .running ∧ (s.next e).loops[j]? = some .resetting) ∨
      (e = .reset j ∧ s.loops[j]? = some .resetting ∧ (s.next e).loops[j]? = some .finished) := by
  cases e with
  | opened i =>
    -- the new loop sits past the old ones
    have grown : (s.next (.opened i)).loops = s.loops ++ [.running] := rfl
    rcases Nat.lt_trichotomy j s.loops.length with inside | rfl | beyond
    · rw [grown, List.getElem?_append_left inside] at changed
      exact absurd rfl changed
    · exact .inl ⟨i, rfl, List.getElem?_eq_none (Nat.le_refl _),
        by rw [grown]; exact List.getElem?_concat_length⟩
    · have past : (s.loops ++ [LoopTask.running]).length ≤ j := by
        simp only [List.length_append, List.length_singleton]
        omega
      rw [grown, List.getElem?_eq_none past, List.getElem?_eq_none (Nat.le_of_lt beyond)] at changed
      exact absurd rfl changed
  | stop j' =>
    have moved : (s.next (.stop j')).loops = s.loops.set j' .resetting := rfl
    by_cases same : j' = j
    · subst same
      exact .inr (.inl ⟨rfl, en, by rw [moved]; exact List.getElem?_set_self (List.getElem?_eq_some_iff.1 en).1⟩)
    · rw [moved, List.getElem?_set_ne same] at changed
      exact absurd rfl changed
  | reset j' =>
    obtain ⟨-, resetting⟩ := en
    have moved : (s.next (.reset j')).loops = s.loops.set j' .finished := rfl
    by_cases same : j' = j
    · subst same
      exact .inr (.inr ⟨rfl, resetting,
        by rw [moved]; exact List.getElem?_set_self (List.getElem?_eq_some_iff.1 resetting).1⟩)
    · rw [moved, List.getElem?_set_ne same] at changed
      exact absurd rfl changed
  | call => exact absurd rfl changed
  | acquire i => exact absurd (by simp only [WatchTasks.next]; split <;> rfl) changed
  | refused i err => exact absurd rfl changed
  | ask => exact absurd rfl changed
  | read k => exact absurd rfl changed

end WatchTasks

/-- The watch loop is single-flight. After every schedule of start calls, failures to open
the stream, cancellations, ends of streams and questions, and at the event that follows it:
at most one loop is live, and the flag is set exactly while one is; a start call that takes
the mutex returns no handle exactly when a loop is live; a start call that returns a handle
returns it for the loop it spawns, running, while no loop was live; a start call that
returns an error returns the error its stream failed with and leaves the flag clear; a
question is answered yes exactly when a loop is live as it takes the mutex; and a loop is
live from the start call that spawns it until, once stopped, it clears the flag. -/
theorem watch_loop_single_flight {events : List TaskEvent} {s s' : WatchTasks}
    (scheduled : WatchTasks.initial.run events = some s) {e : TaskEvent}
    (stepped : s.step e = some s') :
    s'.liveLoops ≤ 1 ∧ (s'.started = true ↔ 0 < s'.liveLoops) ∧
      (∀ i : Nat, e = .acquire i → (s'.calls[i]? = some (.returned .alreadyStarted) ↔ 0 < s.liveLoops)) ∧
      (∀ (i : Nat) (r : StartResult), s.calls[i]? ≠ some (.returned r) → s'.calls[i]? = some (.returned r) →
        (r = .alreadyStarted → 0 < s.liveLoops) ∧
        (∀ j : Nat, r = .spawned j → s.liveLoops = 0 ∧ s'.loops[j]? = some .running ∧ s'.liveLoops = 1) ∧
        (∀ err, r = .failed err → e = .refused i err ∧ s'.started = false)) ∧
      (∀ (k : Nat) (b : Bool), s.reads[k]? ≠ some (.answered b) → s'.reads[k]? = some (.answered b) →
        (b = true ↔ 0 < s.liveLoops)) ∧
      ∀ j : Nat, s'.loops[j]? ≠ s.loops[j]? →
        (∃ i, e = .opened i ∧ s.loops[j]? = none ∧ s'.loops[j]? = some .running) ∨
          (e = .stop j ∧ s.loops[j]? = some .running ∧ s'.loops[j]? = some .resetting) ∨
          (e = .reset j ∧ s.loops[j]? = some .resetting ∧ s'.loops[j]? = some .finished) := by
  obtain ⟨en, rfl⟩ := WatchTasks.step_eq_some.1 stepped
  have inv := WatchTasks.Coherent.initial.run scheduled
  have inv' := inv.next en
  have live := inv.started_iff
  refine ⟨inv'.liveLoops_le_one, inv'.started_iff, fun i acquiring => ?_, fun i r fresh now => ?_,
    fun k b fresh now => ?_, fun j changed => WatchTasks.loop_changed_at en changed⟩
  · -- the call reads the flag as it takes the mutex
    subst acquiring
    obtain ⟨-, queued⟩ := en
    have inside := (List.getElem?_eq_some_iff.1 queued).1
    rw [← live]
    simp only [WatchTasks.next]
    cases s.started <;> simp [List.getElem?_set_self inside]
  · rcases WatchTasks.returned_at en fresh now with ⟨rfl, set, rfl⟩ | ⟨rfl, rfl⟩ | ⟨err, rfl, rfl⟩
    · exact ⟨fun _ => live.1 set, (fun j wrong => by cases wrong), fun err wrong => by cases wrong⟩
    · -- the stream opened while the call held the mutex, with no loop live
      obtain ⟨-, idle⟩ := inv.idle_of_opening en
      refine ⟨(fun wrong => by cases wrong), fun j same => ?_, fun err wrong => by cases wrong⟩
      cases StartResult.spawned.inj same
      exact ⟨idle, List.getElem?_concat_length, by rw [inv'.flag]; rfl⟩
    · obtain ⟨clear, -⟩ := inv.idle_of_opening en
      refine ⟨(fun wrong => by cases wrong), (fun j wrong => by cases wrong), fun err' same => ?_⟩
      cases StartResult.failed.inj same
      exact ⟨rfl, clear⟩
  · obtain ⟨rfl, rfl⟩ := WatchTasks.answered_at en fresh now
    exact live

/-- A second start call while the first one's loop has stopped but not yet cleared the
flag: it returns no handle. -/
theorem watch_loop_single_flight_while_resetting :
    let s : WatchTasks := ⟨true, none, [.returned (.spawned 0), .queued], [.resetting], []⟩
    let s' : WatchTasks :=
      ⟨true, none, [.returned (.spawned 0), .returned .alreadyStarted], [.resetting], []⟩
    WatchTasks.initial.run [.call, .acquire 0, .opened 0, .call, .stop 0] = some s ∧
      s.step (.acquire 1) = some s' ∧
    s'.liveLoops ≤ 1 ∧ (s'.started = true ↔ 0 < s'.liveLoops) ∧
      (∀ i : Nat, TaskEvent.acquire 1 = .acquire i → (s'.calls[i]? = some (.returned .alreadyStarted) ↔ 0 < s.liveLoops)) ∧
      (∀ (i : Nat) (r : StartResult), s.calls[i]? ≠ some (.returned r) → s'.calls[i]? = some (.returned r) →
        (r = .alreadyStarted → 0 < s.liveLoops) ∧
        (∀ j : Nat, r = .spawned j → s.liveLoops = 0 ∧ s'.loops[j]? = some .running ∧ s'.liveLoops = 1) ∧
        (∀ err, r = .failed err → TaskEvent.acquire 1 = .refused i err ∧ s'.started = false)) ∧
      (∀ (k : Nat) (b : Bool), s.reads[k]? ≠ some (.answered b) → s'.reads[k]? = some (.answered b) →
        (b = true ↔ 0 < s.liveLoops)) ∧
      ∀ j : Nat, s'.loops[j]? ≠ s.loops[j]? →
        (∃ i, TaskEvent.acquire 1 = .opened i ∧ s.loops[j]? = none ∧ s'.loops[j]? = some .running) ∨
          (TaskEvent.acquire 1 = .stop j ∧ s.loops[j]? = some .running ∧ s'.loops[j]? = some .resetting) ∨
          (TaskEvent.acquire 1 = .reset j ∧ s.loops[j]? = some .resetting ∧ s'.loops[j]? = some .finished) := by
  intro s s'
  have scheduled : WatchTasks.initial.run [.call, .acquire 0, .opened 0, .call, .stop 0] = some s := by
    decide
  have stepped : s.step (.acquire 1) = some s' := by decide
  exact ⟨scheduled, stepped, watch_loop_single_flight scheduled stepped⟩

/-! ## The session's start -/

namespace Watch

variable (fetch : Fetch) (t : Traced Watch)

/-- Work on the key-value store ends as the work does, and leaves the loop as it was. -/
theorem exec_onKv {α : Type} (m : Online KvStore α) :
    ((onKv m).exec fetch t).1 = (m.exec fetch ⟨t.state.kv, t.requests⟩).1 ∧
      ((onKv m).exec fetch t).2.state.loop = t.state.loop := by
  unfold onKv
  rw [Online.exec_focus]
  exact ⟨rfl, rfl⟩

/-- Applying received events always succeeds, and leaves the loop as it was. -/
theorem exec_apply (events : List WatchEvent) :
    ((apply events).exec fetch t).1 = .ok () ∧ ((apply events).exec fetch t).2.state.loop = t.state.loop := by
  induction events generalizing t with
  | nil => exact ⟨rfl, rfl⟩
  | cons event rest ih =>
    have unfolded : apply (event :: rest) = onKv (WatchCache.handleEvent event) >>= fun _ => apply rest :=
      rfl
    obtain ⟨handled, kept⟩ := exec_onKv fetch t (WatchCache.handleEvent event)
    -- a handler's failure is caught, so every event is applied
    obtain ⟨u, succeeded⟩ := Online.succeeds_tryCatch _ (fun _ => Online.succeeds_pure ()) fetch
      ⟨t.state.kv, t.requests⟩
    rw [unfolded, Online.exec_bind]
    rcases ran : (onKv (WatchCache.handleEvent event)).exec fetch t with ⟨e | u', t'⟩
    · rw [ran] at handled
      have failed := handled.trans succeeded
      cases failed
    · rw [ran] at kept
      obtain ⟨ok, loop⟩ := ih t'
      exact ⟨ok, loop.trans kept⟩


/-- A change of the loop runs it until it waits and applies what it received: this always
succeeds, and leaves the loop settled. -/
theorem exec_step (change : EventLoop → EventLoop) :
    ((step change).exec fetch t).1 = .ok () ∧
      ((step change).exec fetch t).2.state.loop = (change t.state.loop).settle.2 := by
  unfold step
  rw [Online.exec_bind, Online.exec_current]
  dsimp only
  rw [Online.exec_bind, Online.exec_modifyThe]
  dsimp only
  exact exec_apply fetch _ _

/-- A loop that starts keeps running unless it was cancelled or its sending end was closed
before the start. -/
theorem settle_start_watching (l : EventLoop) :
    ({ l with stream := .looping, watching := true } : EventLoop).settle.2.watching =
      (!l.cancelled && l.senderOpen) := by
  unfold EventLoop.settle
  cases l.cancelled <;> cases l.senderOpen <;> rfl

/-- A start while the watch is running reports no new loop and changes nothing. -/
theorem exec_start_of_watching (watching : t.state.loop.watching = true) :
    start.exec fetch t = (.ok false, t) := by
  unfold start
  rw [Online.exec_bind, Online.exec_current]
  dsimp only
  rw [watching]
  rfl

/-- A start whose stream was opened before fails and changes nothing. -/
theorem exec_start_of_opened (watching : t.state.loop.watching = false)
    (opened : t.state.loop.stream ≠ .waiting) :
    start.exec fetch t = (.error (.init "Watch stream already opened"), t) := by
  unfold start
  rw [Online.exec_bind, Online.exec_current]
  dsimp only
  rw [watching]
  simp only [bne_iff_ne, ne_eq, opened, not_false_eq_true, if_true]
  rfl

/-- A start whose stream opens reports a loop, which keeps running unless it was cancelled
or its sending end was closed before the start. -/
theorem exec_start_of_fresh (watching : t.state.loop.watching = false)
    (fresh : t.state.loop.stream = .waiting) :
    (start.exec fetch t).1 = .ok true ∧
      (start.exec fetch t).2.state.loop.watching = (!t.state.loop.cancelled && t.state.loop.senderOpen) := by
  obtain ⟨stepped, settled⟩ := exec_step fetch t fun l => { l with stream := .looping, watching := true }
  unfold start
  rw [Online.exec_bind, Online.exec_current]
  dsimp only
  rw [watching, fresh]
  simp only [Bool.false_eq_true, if_false, bne_self_eq_false]
  rw [Online.exec_bind]
  rcases ran : (step fun l => { l with stream := .looping, watching := true }).exec fetch t with ⟨e | u, t'⟩
  · rw [ran] at stepped
    cases stepped
  · rw [ran] at settled
    dsimp only at settled ⊢
    rw [Online.exec_pure]
    exact ⟨rfl, by rw [settled, settle_start_watching]⟩

end Watch

namespace WatchTasks

variable {s : WatchTasks}

/-- A start call that runs alone with the mutex free joins the queue and takes the mutex at
once: with the flag set it returns no handle, and with the flag clear it keeps the mutex
while its stream opens. -/
theorem run_call_acquire (free : s.holder = none) (events : List TaskEvent) :
    s.run (.call :: .acquire s.calls.length :: events) =
      (if s.started then { s with calls := s.calls ++ [StartCall.returned .alreadyStarted] }
        else { s with holder := some s.calls.length, calls := s.calls ++ [StartCall.opening] }).run
        events := by
  have calling : s.Enabled .call := trivial
  have acquiring : (s.next .call).Enabled (.acquire s.calls.length) := ⟨free, List.getElem?_concat_length⟩
  rw [run_cons_of_enabled calling, run_cons_of_enabled acquiring]
  simp only [WatchTasks.next, set_concat_length]

/-- A call that runs alone and finds the flag set returns no handle. -/
theorem lone_call_set (free : s.holder = none) (set : s.started = true) :
    ∃ s', s.run [.call, .acquire s.calls.length] = some s' ∧
      s'.calls[s.calls.length]? = some (.returned .alreadyStarted) ∧ s'.started = true := by
  rw [run_call_acquire free, if_pos set]
  exact ⟨_, rfl, List.getElem?_concat_length, set⟩

/-- A call that runs alone, finds the flag clear and fails to open its stream returns the
error and leaves the flag clear. -/
theorem lone_call_refused (free : s.holder = none) (clear : s.started = false) (err : CatalogError) :
    ∃ s', s.run [.call, .acquire s.calls.length, .refused s.calls.length err] = some s' ∧
      s'.calls[s.calls.length]? = some (.returned (.failed err)) ∧ s'.started = false := by
  rw [run_call_acquire free, if_neg (by simp [clear]),
    run_cons_of_enabled (e := .refused s.calls.length err) ?opening]
  case opening => exact List.getElem?_concat_length
  refine ⟨_, rfl, ?_, clear⟩
  simp only [WatchTasks.next, set_concat_length]
  exact List.getElem?_concat_length

/-- A call that runs alone, finds the flag clear and opens its stream spawns the next loop;
a loop stopped at once clears the flag again. -/
theorem lone_call_opened (free : s.holder = none) (clear : s.started = false) (stays : Bool) :
    ∃ s', s.run (.call :: .acquire s.calls.length :: .opened s.calls.length ::
        if stays then [] else [.stop s.loops.length, .reset s.loops.length]) = some s' ∧
      s'.calls[s.calls.length]? = some (.returned (.spawned s.loops.length)) ∧ s'.started = stays := by
  rw [run_call_acquire free, if_neg (by simp [clear]),
    run_cons_of_enabled (e := .opened s.calls.length) ?opening]
  case opening => exact List.getElem?_concat_length
  have spawned : (s.calls ++ [StartCall.opening]).set s.calls.length
      (.returned (.spawned s.loops.length)) = s.calls ++ [.returned (.spawned s.loops.length)] :=
    set_concat_length
  cases stays with
  | true => exact ⟨_, rfl, by simp only [WatchTasks.next, spawned]; exact List.getElem?_concat_length, rfl⟩
  | false =>
    -- the loop stops and clears the flag with the mutex free
    rw [if_neg Bool.false_ne_true, run_cons_of_enabled (e := .stop s.loops.length) ?stopping,
      run_cons_of_enabled (e := .reset s.loops.length) ?resetting]
    case stopping => exact List.getElem?_concat_length
    case resetting => exact ⟨rfl, List.getElem?_set_self (by simp [WatchTasks.next])⟩
    exact ⟨_, rfl, by simp only [WatchTasks.next, spawned]; exact List.getElem?_concat_length, rfl⟩

end WatchTasks

/-- The session's start is a start call that runs alone. From a task state with the mutex
free and the watch's flag, the call, run alone to its return, returns what the session's
start reports and leaves the flag as the session's start leaves it: its stream opens when
the session's stream has not been opened before, and a loop cancelled or closed before the
start stops and clears the flag at once. -/
theorem Watch.start_runs_alone (fetch : Fetch) (t : Traced Watch) {s : WatchTasks}
    (free : s.holder = none) (flag : s.started = t.state.loop.watching) :
    ∃ schedule r s', s.run (.call :: .acquire s.calls.length :: schedule) = some s' ∧
      s'.calls[s.calls.length]? = some (.returned r) ∧ r.reported = (Watch.start.exec fetch t).1 ∧
      s'.started = (Watch.start.exec fetch t).2.state.loop.watching := by
  cases watching : t.state.loop.watching with
  | true =>
    obtain ⟨s', ran, returned, set⟩ := WatchTasks.lone_call_set free (flag.trans watching)
    rw [Watch.exec_start_of_watching fetch t watching]
    exact ⟨[], _, s', ran, returned, rfl, set.trans watching.symm⟩
  | false =>
    have clear := flag.trans watching
    by_cases fresh : t.state.loop.stream = .waiting
    · obtain ⟨spawned, running⟩ := Watch.exec_start_of_fresh fetch t watching fresh
      obtain ⟨s', ran, returned, flagAfter⟩ :=
        WatchTasks.lone_call_opened free clear (!t.state.loop.cancelled && t.state.loop.senderOpen)
      exact ⟨_, _, s', ran, returned, spawned.symm, flagAfter.trans running.symm⟩
    · obtain ⟨s', ran, returned, flagAfter⟩ :=
        WatchTasks.lone_call_refused free clear (.init "Watch stream already opened")
      rw [Watch.exec_start_of_opened fetch t watching fresh]
      exact ⟨_, _, s', ran, returned, rfl, flagAfter.trans watching.symm⟩

end ChartCatalog
