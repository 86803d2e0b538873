import ChartCatalog.Pool
import Mathlib.Logic.Relation

/-!
# Runs of the worker pool

Any task of the pool may move at any time, so a run is any sequence of `Pool.Step`s from
the pool as it is started.
-/

set_option autoImplicit false

namespace ChartCatalog

namespace Pool

variable {J R : Type}

/-- The states a run of a pool started on `jobs`, with at most `maxWorkers` workers running
`work`, can reach. -/
def Reachable (jobs : List J) (maxWorkers : Nat) (work : J → R) : State J R → Prop :=
  Relation.ReflTransGen (Step (workerCount jobs.length maxWorkers) work) (start jobs maxWorkers)

end Pool

end ChartCatalog
