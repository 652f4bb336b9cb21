import FrameGraph.Gpu.Barrier

/-!
# Commands

The alphabet of a command stream: what a recording may ask an encoder to
do. A recorded frame is a list of these, so every statement about a
recording is a statement about a list.

Numbers with a fraction only pass through, so they are kept as the words
that encode them.

## Main definitions

* `Rect`, `Viewport`, `Color`, `ClearAttachment`, `BlitRegion`: Arguments.
* `DrawState`: What is set anew before each draw.
* `Command`: One call on an encoder.
* `Color.stream` and its siblings: The colours of debug labels.
-/

namespace FrameGraph.Gpu

/-- A number with a fraction, as the word that encodes it. -/
abbrev Float32Bits := UInt32

/-- A rectangle of pixels. -/
structure Rect where
  x : Int32
  y : Int32
  width : UInt32
  height : UInt32
  deriving DecidableEq, Repr

/-- The part of a target that a draw maps to, with its depth range. -/
structure Viewport where
  x : Float32Bits
  y : Float32Bits
  width : Float32Bits
  height : Float32Bits
  minDepth : Float32Bits
  maxDepth : Float32Bits
  deriving DecidableEq, Repr

/-- Four channels, also used for the four words of a clear value. -/
structure Color where
  red : Float32Bits
  green : Float32Bits
  blue : Float32Bits
  alpha : Float32Bits
  deriving DecidableEq, Repr

namespace Color

/-- The encoding of one. -/
def one : Float32Bits := 0x3F800000

/-- Green labels a whole command stream. -/
def stream : Color := ⟨0, one, 0, one⟩

/-- Yellow labels a render pass. -/
def renderPass : Color := ⟨one, one, 0, one⟩

/-- Cyan labels a transfer. -/
def transfer : Color := ⟨0, one, one, one⟩

/-- Magenta labels a dispatch. -/
def compute : Color := ⟨one, 0, one, one⟩

/-- Red labels the overlay at the end of a frame. -/
def overlay : Color := ⟨one, 0, 0, one⟩

end Color

/-- What an attachment is cleared to. -/
inductive ClearValue where
  | color (value : Color)
  | depthStencil (depth : Float32Bits) (stencil : UInt32)
  deriving DecidableEq, Repr

/-- Marks a clear that addresses no colour attachment. -/
def attachmentUnused : UInt32 := 4294967295

/-- One attachment to clear inside a render pass. -/
structure ClearAttachment where
  aspect : AspectMask
  colorAttachment : UInt32
  value : ClearValue
  deriving DecidableEq, Repr

/-- A rectangle of some layers. -/
structure ClearRect where
  rect : Rect
  baseLayer : UInt32
  layerCount : UInt32
  deriving DecidableEq, Repr

/-- One mip level of some layers of an image. -/
structure SubresourceLayers where
  aspect : AspectMask
  level : UInt32
  baseLayer : UInt32
  layerCount : UInt32
  deriving DecidableEq, Repr

/-- A position in an image. -/
structure Offset where
  x : Int32
  y : Int32
  z : Int32
  deriving DecidableEq, Repr

/-- A box of one mip level: one side of a blit. -/
structure BlitBox where
  layers : SubresourceLayers
  low : Offset
  high : Offset
  deriving DecidableEq, Repr

/-- A box that is copied, and the box it is scaled into. -/
structure BlitRegion where
  source : BlitBox
  destination : BlitBox
  deriving DecidableEq, Repr

/-- The state a draw sets anew, so that cameras can share a render pass. -/
structure DrawState where
  viewport : Viewport
  scissor : Rect
  pipeline : UInt64
  deriving DecidableEq, Repr

/-- One call on an encoder. `callMesh` and `callOverlay` mark where a
    renderer is handed the stream; what it records follows them. -/
inductive Command where
  | reset
  | begin (usage : UInt32) (label : String)
  | finish
  | beginRenderPass (renderPass framebuffer : UInt64) (area : Rect) (clearValues : List Color)
  | endRenderPass
  | clearAttachments (attachments : List ClearAttachment) (rects : List ClearRect)
  | setViewport (first : UInt32) (viewports : List Viewport)
  | setScissor (first : UInt32) (scissors : List Rect)
  | bindPipeline (point : BindPoint) (pipeline : UInt64)
  | blitImage (source : UInt64) (sourceLayout : Layout) (destination : UInt64)
      (destinationLayout : Layout) (regions : List BlitRegion) (filter : Filter)
  | dispatch (x y z : UInt32)
  | draw (vertexCount instanceCount firstVertex firstInstance : UInt32)
  | drawIndexed (indexCount instanceCount firstIndex : UInt32) (vertexOffset : Int32)
      (firstInstance : UInt32)
  | drawIndirect (buffer offset : UInt64) (drawCount stride : UInt32)
  | drawIndexedIndirect (buffer offset : UInt64) (drawCount stride : UInt32)
  | memoryBarrier (barriers : List MemoryBarrier)
  | imageBarrier (dependencyFlags : UInt32) (barriers : List ImageBarrier)
  | bufferBarrier (dependencyFlags : UInt32) (barriers : List BufferBarrier)
  | beginLabel (name : String) (color : Color)
  | endLabel
  | callMesh (renderer : Nat) (renderPass : UInt64) (state : DrawState)
  | callOverlay (renderPass : UInt64) (area : Rect)
  deriving DecidableEq, Repr

end FrameGraph.Gpu
