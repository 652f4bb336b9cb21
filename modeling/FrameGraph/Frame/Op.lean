import FrameGraph.Frame.Surface
import FrameGraph.Gpu.Command
import FrameGraph.Pass.Basic

/-!
# Frame Operations

What the producers of a frame ask for, one operation after the other: clear
a part of a target, let a renderer draw a mesh, copy between surfaces, draw
with arguments from a buffer, or dispatch a compute shader. Each operation
names the pass it belongs to and its context.

Clears and draws go to the target of their context. A blit names its own
surfaces and a dispatch has none, so their contexts only group them.

## Main definitions

* `Clear`, `Blit`, `IndirectDraw`, `Dispatch`: What is to be done.
* `Work`, `WorkKind`: One of these, and which.
* `FrameOp`: Work of a pass in a context.
* `Clear.attachments`: The attachments a clear touches.
* `FrameOp.surfaces`: The surfaces an operation needs.
-/

namespace FrameGraph

open Gpu

/-- Clear a part of the attachments of an open render pass. -/
structure Clear where
  color : Bool
  depth : Bool
  stencil : Bool
  clearColor : Color
  clearDepth : Float32Bits
  clearStencil : UInt32
  rect : Rect
  deriving DecidableEq, Repr

namespace Clear

/-- The aspects cleared besides colour. -/
def depthStencilAspect (clear : Clear) : AspectMask :=
  (if clear.depth then AspectMask.depth else 0) ||| (if clear.stencil then AspectMask.stencil else 0)

/-- The attachments to clear: the first colour attachment, then depth and
    stencil together. -/
def attachments (clear : Clear) : List ClearAttachment :=
  (if clear.color then [⟨AspectMask.color, 0, .color clear.clearColor⟩] else [])
  ++ (if clear.depthStencilAspect = 0 then []
    else [⟨clear.depthStencilAspect, attachmentUnused,
      .depthStencil clear.clearDepth clear.clearStencil⟩])

end Clear

/-- Copy between surfaces. -/
structure Blit where
  source : Surface
  destination : Surface
  regions : List BlitRegion
  filter : Filter
  deriving DecidableEq, Repr

/-- Draw with arguments that a buffer holds. -/
structure IndirectDraw where
  state : DrawState
  buffer : UInt64
  offset : UInt64
  drawCount : UInt32
  stride : UInt32
  indexed : Bool
  deriving DecidableEq, Repr

/-- Run a compute shader. -/
structure Dispatch where
  pipeline : UInt64
  x : UInt32
  y : UInt32
  z : UInt32
  deriving DecidableEq, Repr

/-- What an operation does. -/
inductive Work where
  | clear (clear : Clear)
  | mesh (state : DrawState) (renderer : Nat)
  | blit (blit : Blit)
  | indirect (draw : IndirectDraw)
  | dispatch (dispatch : Dispatch)
  deriving DecidableEq, Repr

/-- Which kind of work it is. -/
inductive WorkKind where
  | clear
  | mesh
  | blit
  | indirect
  | dispatch
  deriving DecidableEq, Repr

namespace WorkKind

/-- The work does not depend on a render pass that other work opens and
    closes, so it may be recorded apart. -/
def recordsApart : WorkKind → Bool
  | blit | indirect | dispatch => true
  | clear | mesh => false

end WorkKind

namespace Work

/-- Which kind of work it is. -/
def kind : Work → WorkKind
  | clear _ => .clear
  | mesh .. => .mesh
  | blit _ => .blit
  | indirect _ => .indirect
  | dispatch _ => .dispatch

end Work

/-- Work of a pass in a context. -/
structure FrameOp where
  pass : PassIndex
  context : Context
  work : Work
  deriving DecidableEq, Repr

namespace FrameOp

/-- Which kind of work the operation does. -/
def kind (op : FrameOp) : WorkKind := op.work.kind

/-- The context of the operation draws to the presented image. -/
def targetsSwapchain (op : FrameOp) : Bool := op.context.targetsSwapchain

/-- The surfaces that have to be resolved for the operation. -/
def surfaces (op : FrameOp) : List Surface :=
  match op.work with
  | .clear _ | .mesh .. | .indirect _ => [op.context.target]
  | .blit blit => [blit.source, blit.destination]
  | .dispatch _ => []

/-- The surface a blit both reads and writes. -/
def aliased? (op : FrameOp) : Option Surface :=
  match op.work with
  | .blit blit => if blit.source = blit.destination then some blit.source else none
  | _ => none

end FrameOp

end FrameGraph
