import FrameGraph.Gpu.Command
import FrameGraph.Resource.Pool

/-!
# Events of a Recording

A recording talks to two others, the pool and the command stream, and in
which order it does so matters: everything is resolved before the stream is
touched, and states are handed back only after it has ended. Both kinds of
call are therefore events of one list.

## Main definitions

* `PoolCall`: What a recording asks of the pool.
* `Event`: A call of either kind.
* `commandsOf`, `poolCallsOf`: The calls of one kind.
-/

namespace FrameGraph

open Gpu

/-- What a recording asks of the pool. -/
inductive PoolCall where
  | ensure (group : ResourceGroup)
  | resolveTarget (surface : Surface)
  | commit (group : ResourceGroup) (state : ResourceState)
  deriving DecidableEq, Repr

/-- A call of a recording. -/
inductive Event where
  | pool (call : PoolCall)
  | command (command : Command)
  deriving DecidableEq, Repr

/-- The commands among some events. -/
def commandsOf (events : List Event) : List Command :=
  events.filterMap fun
    | .command command => some command
    | .pool _ => none

/-- The calls of the pool among some events. -/
def poolCallsOf (events : List Event) : List PoolCall :=
  events.filterMap fun
    | .pool call => some call
    | .command _ => none

end FrameGraph
