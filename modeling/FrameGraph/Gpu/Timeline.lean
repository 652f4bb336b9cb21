import FrameGraph.Gpu.Code
import FrameGraph.Gpu.Device

/-!
# Waiting for Frame Slots

A timeline keeps, for each frame slot, the value its last submission will
signal. Before a slot is recorded again that value is waited for; zero says
that the slot was never submitted, so there is nothing to wait for.

When a wait reports that the device is lost, no signal will ever come. The
flag is set and every pending value drops to zero, so that no later wait can
block. While the flag is set a wait fails at once and blocks on nothing.

A slot outside the timeline has no answer; the functions return `none`.

## Main definitions

* `Timeline`: Pending values and the longest wait.
* `Timeline.pending?`, `Timeline.setPending?`: Read and write one slot.
* `Timeline.wait?`: Wait for one slot with a given waiting primitive.
* `SemaphoreCall`: The device calls made for a timeline semaphore.
-/

namespace FrameGraph.Gpu

/-- Pending values per frame slot. -/
structure Timeline where
  pending : List UInt64
  timeout : UInt64
  deriving DecidableEq, Repr

/-- The outcome of a wait. -/
structure Wait where
  timeline : Timeline
  device : Device
  result : ResultCode
  /-- The value the primitive was asked to wait for, if it was called. -/
  waitedFor : Option UInt64
  log : List LogEntry
  deriving DecidableEq, Repr

namespace Timeline

/-- A timeline whose slots were never submitted. -/
def new (slots : Nat) (timeout : UInt64) : Timeline := ⟨List.replicate slots 0, timeout⟩

/-- The value pending for a slot. -/
def pending? (timeline : Timeline) (slot : Nat) : Option UInt64 := timeline.pending[slot]?

/-- Note the value the slot's submission will signal. -/
def setPending? (timeline : Timeline) (slot : Nat) (value : UInt64) : Option Timeline :=
  if slot < timeline.pending.length then
    some { timeline with pending := timeline.pending.set slot value }
  else none

/-- The timeline with nothing left to wait for. -/
def cleared (timeline : Timeline) : Timeline :=
  { timeline with pending := timeline.pending.map fun _ => 0 }

/-- Wait for the value pending in a slot. `primitive` is what waiting for a
    value answers. -/
def wait? (timeline : Timeline) (device : Device) (slot : Nat)
    (primitive : UInt64 → ResultCode) : Option Wait :=
  if device.lost then
    some ⟨timeline, device, ResultCode.deviceLost, none, []⟩
  else
    match timeline.pending? slot with
    | none => none
    | some value =>
      if value = 0 then some ⟨timeline, device, ResultCode.success, none, []⟩
      else if primitive value = ResultCode.deviceLost then
        let (device, log) := device.markLost
        some ⟨timeline.cleared, device, ResultCode.deviceLost, some value, log⟩
      else some ⟨timeline, device, primitive value, some value, []⟩

end Timeline

/-- A timeline semaphore on the device. -/
abbrev Semaphore := UInt64

/-- The type code of a timeline semaphore. -/
def timelineSemaphoreType : UInt32 := 1

/-- A device call about semaphores. -/
inductive SemaphoreCall where
  | create (flags : UInt32) (kind : UInt32) (initialValue : UInt64)
  | wait (flags : UInt32) (semaphore : Semaphore) (value timeout : UInt64)
  | destroy (semaphore : Semaphore)
  deriving DecidableEq, Repr

namespace Semaphore

/-- The call that creates a timeline semaphore at a value. -/
def createCall (initialValue : UInt64) : SemaphoreCall :=
  .create 0 timelineSemaphoreType initialValue

/-- The call that waits until the semaphore reaches a value. -/
def waitCall (semaphore : Semaphore) (value timeout : UInt64) : SemaphoreCall :=
  .wait 0 semaphore value timeout

end Semaphore

namespace Wait

/-- The device calls of a wait that blocks on a semaphore. -/
def calls (wait : Wait) (semaphore : Semaphore) : List SemaphoreCall :=
  (wait.waitedFor.map fun value => Semaphore.waitCall semaphore value wait.timeline.timeout).toList

end Wait

end FrameGraph.Gpu
