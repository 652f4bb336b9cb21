import FrameGraph.Resource.Pool
import FrameGraph.Sync.Plan

/-!
# Transitions

A planned barrier names its resource and the states it expects. Recording
it takes the real image or buffer and the state that one is really in.

The barrier starts from the state the plan expected, except in two cases.
An entry starts from the real state, which the plan could not know. So does
an image that is in another layout than expected, which happens when a pass
in between had no operation and its barriers never came.

Whether or not a barrier turns out to be needed, the resource counts as
being in the state the plan leads to.

## Main definitions

* `Transition`: A planned barrier on a real resource.
* `PlannedBarrier.startingFrom`: The state a barrier starts from.
* `settle`: The transitions of some planned barriers, and the states after.
* `surfaceBarrier`: A transition of the image of a surface.
-/

namespace FrameGraph

open Gpu

/-- A planned barrier on a real resource, out of the state it is in. -/
structure Transition where
  planned : PlannedBarrier
  previous : ResourceState
  backing : Backing
  deriving DecidableEq, Repr

namespace Transition

/-- The transition as an image barrier. An aspect implied by the format is
    better than one guessed from the use. -/
def imageBarrier (transition : Transition) : ImageBarrier where
  image := transition.backing.handle
  oldLayout := transition.previous.layout
  newLayout := transition.planned.next.layout
  source := transition.previous.source
  destination := transition.planned.next.toScope
  aspect :=
    if transition.backing.aspect = 0 then transition.planned.aspect
    else transition.backing.aspect

/-- The transition as a barrier on a whole buffer. -/
def bufferBarrier (transition : Transition) : BufferBarrier where
  buffer := transition.backing.handle
  offset := 0
  size := wholeSize
  source := transition.previous.source
  destination := transition.planned.next.toScope

end Transition

namespace PlannedBarrier

/-- The state to start from, given the one the resource is in. -/
def startingFrom (planned : PlannedBarrier) (tracked : ResourceState) : ResourceState :=
  if planned.entry || tracked.layout != planned.previous.layout then tracked
  else planned.previous

end PlannedBarrier

/-- Bring resources into the states some planned barriers lead to. The
    answer is the new states and the transitions that need a barrier. -/
def settle (backings : Table String Backing) :
    List PlannedBarrier → Table String ResourceState →
      Table String ResourceState × List Transition
  | [], states => (states, [])
  | planned :: rest, states =>
    match backings.get? planned.resource, states.get? planned.resource with
    | some backing, some tracked =>
      let previous := planned.startingFrom tracked
      let (states, later) := settle backings rest (states.put planned.resource planned.next)
      (states,
        if previous.needsBarrier planned.next then ⟨planned, previous, backing⟩ :: later
        else later)
    | _, _ => settle backings rest states

/-- A barrier that moves the image of a surface between two states. -/
def surfaceBarrier (image : UInt64) (before after : ResourceState) : ImageBarrier where
  image := image
  oldLayout := before.layout
  newLayout := after.layout
  source := before.source
  destination := after.toScope
  aspect := AspectMask.color

end FrameGraph
