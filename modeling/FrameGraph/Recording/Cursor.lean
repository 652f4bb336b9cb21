import FrameGraph.Frame.Surface
import FrameGraph.Gpu.Command
import FrameGraph.Pass.Basic
import FrameGraph.Table

/-!
# The Cursor of a Recording

A recording walks the operations of a frame with a cursor that knows which
render pass is open, which pass it is in, and the state every resource is
really in. A step moves the cursor and appends commands, and the recording
is its steps one after the other.

A step is a plain function. What holds of every step and survives `andThen`
therefore holds of a whole frame, and the commands of a frame are the
commands of its steps in a row.

## Main definitions

* `Stats`: What a recording counted.
* `Cursor`: Where a recording stands.
* `Step`: A move of the cursor with the commands it appends.
* `Step.andThen`, `Step.all`: Steps one after the other.
* `Step.closeRenderPass`, `Step.submitImages`, `Step.submitBuffers`: Steps
  that need to know nothing but the cursor.
-/

namespace FrameGraph

open Gpu

/-- What a recording counted. A counter that is full starts again at zero. -/
structure Stats where
  renderPassBegins : UInt32
  barrierBatches : UInt32
  opsRecorded : UInt32
  /-- All entries were recorded at the start of the frame. -/
  hoistedEntries : Bool
  deriving DecidableEq, Repr

/-- Where a recording stands. -/
structure Cursor where
  /-- The context whose render pass is open. -/
  current : Option Context
  /-- The pass of the last operation. -/
  pass : Option PassIndex
  /-- The boundaries dealt with. -/
  passed : List PassIndex
  /-- The state every resource is in. -/
  states : Table String ResourceState
  stats : Stats
  deriving DecidableEq, Repr

namespace Cursor

/-- The cursor before a frame, with resources in the states they came in. -/
def start (states : Table String ResourceState) : Cursor where
  current := none
  pass := none
  passed := []
  states := states
  stats := ⟨0, 0, 0, false⟩

/-- One more barrier command was recorded. -/
def countBarrier (cursor : Cursor) : Cursor :=
  { cursor with stats := { cursor.stats with
      barrierBatches := cursor.stats.barrierBatches + 1 } }

/-- One more render pass was begun, for a context. -/
def opened (cursor : Cursor) (context : Context) : Cursor :=
  { cursor with
    current := some context
    stats := { cursor.stats with renderPassBegins := cursor.stats.renderPassBegins + 1 } }

/-- One more operation was recorded. -/
def countOp (cursor : Cursor) : Cursor :=
  { cursor with stats := { cursor.stats with opsRecorded := cursor.stats.opsRecorded + 1 } }

end Cursor

/-- A move of the cursor with the commands it appends. -/
abbrev Step := Cursor → Cursor × List Command

namespace Step

/-- Append commands and stay. -/
def emit (commands : List Command) : Step := fun cursor => (cursor, commands)

/-- One step after another. -/
def andThen (first second : Step) : Step := fun cursor =>
  let (cursor, before) := first cursor
  let (cursor, after) := second cursor
  (cursor, before ++ after)

/-- Steps one after the other. -/
def all : List Step → Step
  | [] => emit []
  | first :: rest => first.andThen (all rest)

/-- Record image barriers, if there are any. -/
def submitImages (barriers : List ImageBarrier) : Step := fun cursor =>
  if barriers.isEmpty then (cursor, []) else (cursor.countBarrier, [.imageBarrier 0 barriers])

/-- Record buffer barriers, if there are any. -/
def submitBuffers (barriers : List BufferBarrier) : Step := fun cursor =>
  if barriers.isEmpty then (cursor, []) else (cursor.countBarrier, [.bufferBarrier 0 barriers])

/-- End the open render pass, if there is one. -/
def closeRenderPass : Step := fun cursor =>
  match cursor.current with
  | none => (cursor, [])
  | some _ => ({ cursor with current := none }, [.endRenderPass, .endLabel])

end Step

end FrameGraph
