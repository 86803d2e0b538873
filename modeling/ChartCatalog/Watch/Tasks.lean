import ChartCatalog.Error

/-!
# Starting the watch loop, task by task

Starting the cache runs under a mutex around the flag that says whether a loop is running.
A start call takes the mutex and reads the flag. If the flag is set, it returns no handle.
Otherwise it keeps the mutex while it opens the watch stream, an await, and on success sets
the flag, spawns the loop and returns its handle. A failure to open returns the error. The
loop runs until its cancellation token fires or its stream ends. It then takes the mutex
once more to clear the flag, and finishes. Asking whether the cache is watching takes the
mutex and reads the flag.

Here each start call, loop and question is a task, and the tasks interleave at their awaits.
One event is one task running from one await to the next. The mutex is free or held by the
start call that is opening the stream: clearing the flag and reading it take the mutex and
give it back with no await in between, so no other task holds it from one event to the
next. A waiting task may take a free mutex in any order, which allows every schedule of a
fair mutex and more. Whether opening the stream succeeds is the environment's choice, so the
model holds for every watcher, the one that opens its stream once among them.

`Watch.start` runs one start call alone from its call to its return.
-/

set_option autoImplicit false

namespace ChartCatalog

/-- What a start call returns. -/
inductive StartResult where
  /-- No handle: a loop is running. -/
  | alreadyStarted
  /-- The handle of the loop it spawned. -/
  | spawned (loop : Nat)
  /-- The stream did not open. -/
  | failed (e : CatalogError)
  deriving DecidableEq, Repr

/-- What `Watch.start` reports for a result: whether a loop was spawned, or the error. -/
def StartResult.reported : StartResult → Outcome Bool
  | .alreadyStarted => .ok false
  | .spawned _ => .ok true
  | .failed e => .error e

/-- Where a start call is. -/
inductive StartCall where
  /-- Waiting for the mutex. -/
  | queued
  /-- Holding the mutex while the stream opens. -/
  | opening
  | returned (result : StartResult)
  deriving DecidableEq, Repr

/-- Where a spawned loop is. -/
inductive LoopTask where
  /-- Handling events until cancelled or until its stream ends. -/
  | running
  /-- Out of its loop, waiting for the mutex to clear the flag. -/
  | resetting
  | finished
  deriving DecidableEq, Repr

/-- Whether a loop task has not finished. -/
def LoopTask.live : LoopTask → Bool
  | .running | .resetting => true
  | .finished => false

@[simp] theorem LoopTask.live_running : LoopTask.running.live = true := rfl

@[simp] theorem LoopTask.live_resetting : LoopTask.resetting.live = true := rfl

@[simp] theorem LoopTask.live_finished : LoopTask.finished.live = false := rfl

/-- Where a question whether the cache is watching is. -/
inductive WatchingRead where
  /-- Waiting for the mutex. -/
  | asking
  | answered (watching : Bool)
  deriving DecidableEq, Repr

/-- The tasks around the watch loop: the flag, the start call holding the mutex if any, and
every start call, loop and question so far, each numbered by its position. -/
structure WatchTasks where
  started : Bool
  holder : Option Nat
  calls : List StartCall
  loops : List LoopTask
  reads : List WatchingRead
  deriving DecidableEq, Repr

/-- One task running to its next await. -/
inductive TaskEvent where
  /-- A start call begins. -/
  | call
  /-- Start call `i` takes the mutex and reads the flag. -/
  | acquire (i : Nat)
  /-- The stream of start call `i` opens. -/
  | opened (i : Nat)
  /-- The stream of start call `i` fails to open. -/
  | refused (i : Nat) (e : CatalogError)
  /-- Loop `j` leaves its loop, cancelled or at the end of its stream. -/
  | stop (j : Nat)
  /-- Loop `j` takes the mutex and clears the flag. -/
  | reset (j : Nat)
  /-- A question whether the cache is watching begins. -/
  | ask
  /-- Question `k` takes the mutex and reads the flag. -/
  | read (k : Nat)
  deriving DecidableEq, Repr

namespace WatchTasks

/-- Nothing started, nothing asked. -/
def initial : WatchTasks := ⟨false, none, [], [], []⟩

/-- The loops that have not finished. -/
def liveLoops (s : WatchTasks) : Nat := s.loops.countP LoopTask.live

/-- Whether an event can happen: the task is at that await, and the mutex is free where the
task takes it. -/
def Enabled (s : WatchTasks) : TaskEvent → Prop
  | .call | .ask => True
  | .acquire i => s.holder = none ∧ s.calls[i]? = some .queued
  | .opened i | .refused i _ => s.calls[i]? = some .opening
  | .stop j => s.loops[j]? = some .running
  | .reset j => s.holder = none ∧ s.loops[j]? = some .resetting
  | .read k => s.holder = none ∧ s.reads[k]? = some .asking

instance (s : WatchTasks) : (e : TaskEvent) → Decidable (s.Enabled e)
  | .call | .ask => inferInstanceAs (Decidable True)
  | .acquire i => inferInstanceAs (Decidable (s.holder = none ∧ s.calls[i]? = some .queued))
  | .opened i | .refused i _ => inferInstanceAs (Decidable (s.calls[i]? = some .opening))
  | .stop j => inferInstanceAs (Decidable (s.loops[j]? = some .running))
  | .reset j => inferInstanceAs (Decidable (s.holder = none ∧ s.loops[j]? = some .resetting))
  | .read k => inferInstanceAs (Decidable (s.holder = none ∧ s.reads[k]? = some .asking))

/-- The tasks after an event. -/
def next (s : WatchTasks) : TaskEvent → WatchTasks
  | .call => { s with calls := s.calls ++ [.queued] }
  | .acquire i =>
    -- the flag is read under the mutex; a call that finds it clear keeps the mutex
    if s.started then { s with calls := s.calls.set i (.returned .alreadyStarted) }
    else { s with holder := some i, calls := s.calls.set i .opening }
  | .opened i =>
    { s with started := true, holder := none, loops := s.loops ++ [.running],
             calls := s.calls.set i (.returned (.spawned s.loops.length)) }
  | .refused i e => { s with holder := none, calls := s.calls.set i (.returned (.failed e)) }
  | .stop j => { s with loops := s.loops.set j .resetting }
  | .reset j => { s with started := false, loops := s.loops.set j .finished }
  | .ask => { s with reads := s.reads ++ [.asking] }
  | .read k => { s with reads := s.reads.set k (.answered s.started) }

/-- An event, if it can happen. -/
def step (s : WatchTasks) (e : TaskEvent) : Option WatchTasks :=
  if s.Enabled e then some (s.next e) else none

/-- A schedule of events, as far as each can happen. -/
def run (s : WatchTasks) (events : List TaskEvent) : Option WatchTasks :=
  events.foldlM step s

end WatchTasks

end ChartCatalog
