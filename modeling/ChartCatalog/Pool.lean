/-!
# The worker pool

A function is run over a list of jobs on `min(jobs, max(maxWorkers, 1))` worker tasks. A
feeder task sends the jobs in order into a job channel that holds as many jobs as there
are workers, and drops its end of the channel once the last job is sent. Each worker takes
the oldest job, calls the function on it and puts the result into a result channel that
holds as many results as there are workers, and at least one; it stops when it finds the
job channel empty and dropped. The result channel closes once every worker has stopped,
and the caller takes results as they arrive until then. With no job there is no worker
and no feeder, and the result channel is closed from the start.

The tasks run concurrently, so the pool is given by its states and the steps any one task
can take from a state (`Pool.Step`); a run is any sequence of steps (`Pool.Reachable`).
Workers are alike, so a state counts the idle and stopped workers and lists what the busy
ones hold. One schedule of the steps runs the pool as a program (`Pool.runScheduled`).
-/

set_option autoImplicit false

namespace ChartCatalog

namespace Pool

/-- How many workers run a number of jobs when at most `maxWorkers` are asked for; zero
asks for one. -/
def workerCount (jobs maxWorkers : Nat) : Nat := min jobs (max maxWorkers 1)

/-- The tasks and channels of a pool running a function from jobs `J` to results `R`. -/
structure State (J R : Type) where
  /-- Jobs the feeder has still to send, in order. -/
  feed : List J
  /-- Whether the feeder still holds the sending end of the job channel. -/
  feeding : Bool
  /-- The job channel, oldest first. -/
  queued : List J
  /-- Workers waiting for a job. -/
  idle : Nat
  /-- The job of each worker whose call is in progress. -/
  working : List J
  /-- The result of each worker waiting for room in the result channel. -/
  sending : List R
  /-- Workers that have stopped. -/
  stopped : Nat
  /-- The result channel, oldest first. -/
  results : List R
  /-- The results the caller has taken, in order. -/
  received : List R
  /-- The jobs the function has been called on, in order. -/
  called : List J

variable {J R : Type}

/-- The pool as it is started: every job still to send, and every worker idle. -/
def start (jobs : List J) (maxWorkers : Nat) : State J R :=
  let workers := workerCount jobs.length maxWorkers
  ⟨jobs, decide (0 < workers), [], workers, [], [], 0, [], [], []⟩

/-- One step of one task of a pool of `workers` workers that run `work`. -/
inductive Step (workers : Nat) (work : J → R) : State J R → State J R → Prop
  /-- The feeder sends the next job, when the job channel has room. -/
  | send {s : State J R} {job : J} {rest : List J} (next : s.feed = job :: rest)
      (room : s.queued.length < workers) :
      Step workers work s { s with feed := rest, queued := s.queued ++ [job] }
  /-- The feeder has sent every job and drops its end of the job channel. -/
  | hangUp {s : State J R} (holding : s.feeding = true) (sent : s.feed = []) :
      Step workers work s { s with feeding := false }
  /-- An idle worker takes the oldest job and calls the function on it. -/
  | take {s : State J R} {job : J} {rest : List J} (waiting : 0 < s.idle)
      (oldest : s.queued = job :: rest) :
      Step workers work s
        { s with queued := rest, idle := s.idle - 1, working := job :: s.working,
                 called := s.called ++ [job] }
  /-- A call in progress returns its result. -/
  | finish {s : State J R} {before after : List J} {job : J}
      (busy : s.working = before ++ job :: after) :
      Step workers work s
        { s with working := before ++ after, sending := work job :: s.sending }
  /-- A worker puts its result into the result channel, when it has room, and waits for
  the next job. -/
  | deliver {s : State J R} {before after : List R} {result : R}
      (holding : s.sending = before ++ result :: after) (room : s.results.length < max workers 1) :
      Step workers work s
        { s with sending := before ++ after, results := s.results ++ [result], idle := s.idle + 1 }
  /-- An idle worker finds the job channel empty and dropped, and stops. -/
  | stop {s : State J R} (waiting : 0 < s.idle) (empty : s.queued = [])
      (dropped : s.feeding = false) :
      Step workers work s { s with idle := s.idle - 1, stopped := s.stopped + 1 }
  /-- The caller takes the oldest result. -/
  | receive {s : State J R} {result : R} {rest : List R} (oldest : s.results = result :: rest) :
      Step workers work s { s with results := rest, received := s.received ++ [result] }

/-- The result channel is closed: every worker has stopped, so no sending end is left. -/
def State.Closed (s : State J R) : Prop := s.idle = 0 ∧ s.working = [] ∧ s.sending = []

/-- The caller is done: the result channel is closed and empty. -/
def State.Collected (s : State J R) : Prop := s.Closed ∧ s.results = []

/-! ## One schedule

The runtime picks which task moves; one valid choice looks at the tasks from the caller back
to the feeder and moves the first that can. Every state it reaches is one of `Step`'s, and it
stops only where no task can move. -/

/-- The step of the fixed schedule: the caller takes the oldest result; else a worker
delivers the result it holds; else a call in progress returns; else an idle worker takes
the oldest job, or stops at an empty and dropped job channel; else the feeder drops its end
once every job is sent, or sends the next job into the empty channel. `none` where no task
of these can move. -/
def State.next? (workers : Nat) (work : J → R) (s : State J R) : Option (State J R) :=
  match s.results, s.sending, s.working with
  | result :: rest, _, _ => some { s with results := rest, received := s.received ++ [result] }
  | [], result :: rest, _ =>
    some { s with sending := rest, results := s.results ++ [result], idle := s.idle + 1 }
  | [], [], job :: rest => some { s with working := rest, sending := work job :: s.sending }
  | [], [], [] =>
    if 0 < s.idle then
      match s.queued with
      | job :: rest =>
        some { s with queued := rest, idle := s.idle - 1, working := job :: s.working,
                      called := s.called ++ [job] }
      | [] =>
        if s.feeding then
          match s.feed with
          | [] => some { s with feeding := false }
          | job :: rest =>
            if s.queued.length < workers then some { s with feed := rest, queued := s.queued ++ [job] }
            else none
        else some { s with idle := s.idle - 1, stopped := s.stopped + 1 }
    else none

/-- The fixed schedule run for at most `fuel` steps. -/
def State.runFor (workers : Nat) (work : J → R) : Nat → State J R → State J R
  | 0, s => s
  | fuel + 1, s =>
    match s.next? workers work with
    | some t => State.runFor workers work fuel t
    | none => s

/-- The results the caller takes from a pool over `jobs` under the fixed schedule, in the
order it takes them. A run has at most five steps per job (sent, taken, finished, delivered,
received), one stop per worker and the feeder's hang-up, which the fuel covers. -/
def runScheduled (jobs : List J) (maxWorkers : Nat) (work : J → R) : List R :=
  let workers := workerCount jobs.length maxWorkers
  ((start jobs maxWorkers : State J R).runFor workers work (5 * jobs.length + workers + 1)).received

instance [DecidableEq J] [DecidableEq R] (s : State J R) : Decidable s.Closed :=
  inferInstanceAs (Decidable (s.idle = 0 ∧ s.working = [] ∧ s.sending = []))

instance [DecidableEq J] [DecidableEq R] (s : State J R) : Decidable s.Collected :=
  inferInstanceAs (Decidable (s.Closed ∧ s.results = []))

end Pool

end ChartCatalog
