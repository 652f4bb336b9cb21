import FrameGraph.Compilation.Basic
import FrameGraph.Gpu.Device
import FrameGraph.Recording.Scene

/-!
# Recording a Frame

A frame is resolved, recorded into a command stream, and only if the stream
has ended well are the states of its resources handed back to the pool.
Whatever fails on the way, the caller has to drop the frame; the pool still
believes what the last good frame left.

Three calls of the stream can fail. A stream that answers that the device is
lost sets the shared flag, and the failure is reported as that loss.

## Main definitions

* `Replies`: What the stream answers to the calls that can fail.
* `Request`: How a frame is to be recorded.
* `Recording`: What came of it.
* `record`: Record a frame.
-/

namespace FrameGraph

open Gpu

/-- What the stream answers to the calls that can fail. -/
structure Replies where
  reset : ResultCode
  begin : ResultCode
  finish : ResultCode
  deriving DecidableEq, Repr

namespace Replies

/-- Every call succeeds. -/
def good : Replies := ⟨ResultCode.success, ResultCode.success, ResultCode.success⟩

end Replies

/-- Usage of a stream that is submitted once. -/
def oneTimeSubmit : UInt32 := 1

/-- Usage of a stream that may be submitted again. -/
def reusable : UInt32 := 0

/-- How a frame is to be recorded. -/
structure Request where
  hazards : HazardMask
  usage : UInt32
  label : String
  renderers : Renderers

/-- What came of recording a frame. -/
structure Recording where
  result : Except Error Stats
  events : List Event
  pool : Pool
  device : Device
  log : List LogEntry

/-- The error of a failed call, with the device after it. -/
def backendFailure (device : Device) (call : RecordingCall) (code : ResultCode) :
    Error × Device × List LogEntry :=
  if code = ResultCode.deviceLost then
    let (device, log) := device.markLost
    (.deviceLost, device, log)
  else (.backend call code, device, [])

/-- The groups in the order their states are handed back: images before
    buffers, each by name. -/
def commitOrder (resources : Registry) : List ResourceGroup :=
  let byName (groups : List ResourceGroup) :=
    groups.mergeSort fun a b => !decide (b.name < a.name)
  byName (resources.groups.filter ResourceGroup.isImage)
    ++ byName (resources.groups.filter (!·.isImage))

/-- The states to hand back. -/
def finalStates (resources : Registry) (states : Table String ResourceState) :
    List (ResourceGroup × ResourceState) :=
  (commitOrder resources).filterMap fun group =>
    (states.get? group.name).map fun state => (group, state)

/-- The pool with states handed back. -/
def commitAll (pool : Pool) (finals : List (ResourceGroup × ResourceState)) : Pool :=
  finals.foldl (fun pool final => pool.commit final.1 final.2) pool

/-- A recording that a call of the stream put an end to. -/
def Recording.failed (pool : Pool) (device : Device) (events : List Event) (log : List LogEntry)
    (call : RecordingCall) (code : ResultCode) : Recording :=
  let (error, device, lossLog) := backendFailure device call code
  ⟨.error error, events, pool, device, log ++ lossLog⟩

/-- Record a resolved frame into a stream. -/
def recordResolved (compiled : Compiled) (request : Request) (replies : Replies)
    (pool : Pool) (device : Device) (resolution : Resolution) (resolving : List Event)
    (ops : List FrameOp) : Recording :=
  let events (commands : List Command) : List Event := resolving ++ commands.map Event.command
  let opening : List Command := [.reset, .begin request.usage request.label]
  if replies.reset ≠ ResultCode.success then
    Recording.failed pool device (events [.reset]) [] .reset replies.reset
  else if replies.begin ≠ ResultCode.success then
    Recording.failed pool device (events opening) [] .begin replies.begin
  else
    let scene : Scene := ⟨compiled.plan, resolution, request.renderers⟩
    let (cursor, body) := scene.recordFrame request.hazards ops (Cursor.start resolution.states)
    let recorded := events (opening ++ body ++ [.finish])
    let log := HazardMask.log request.hazards
    if replies.finish ≠ ResultCode.success then
      Recording.failed pool device recorded log .finish replies.finish
    else
      let finals := finalStates compiled.resources cursor.states
      ⟨.ok cursor.stats,
        recorded ++ finals.map fun final => .pool (.commit final.1 final.2),
        commitAll pool finals, device, log⟩

/-- Record operations, in the order given, into a stream. -/
def record (compiled : Compiled) (request : Request) (replies : Replies) (pool : Pool)
    (device : Device) (ops : List FrameOp) : Recording :=
  let resolved := resolve pool compiled.resources ops
  let resolving := resolved.calls.map Event.pool
  match resolved.result with
  | .error error => ⟨.error error, resolving, resolved.pool, device, []⟩
  | .ok resolution =>
    recordResolved compiled request replies resolved.pool device resolution resolving ops

end FrameGraph
