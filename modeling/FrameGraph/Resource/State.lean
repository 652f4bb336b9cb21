import FrameGraph.Gpu.Barrier

/-!
# Resource States

A resource is in a state: the stages and accesses that used it last and, for
an image, the layout it is in. Two uses in a row need a barrier between them
if the layout changes or if either of them writes. Two reads in one layout
need none; the state then remembers both, because a later writer has to wait
for every reader.

A buffer has no layout. Rather than repeat everything for buffers, a buffer
is a resource whose layout is always `undefined`: no transition ever differs
in it, and what is left of the rules is the rule for buffers.

## Main definitions

* `ResourceState`: A scope and a layout.
* `ResourceState.needsBarrier`: A barrier has to stand between two states.
* `ResourceState.mergeReader`: The state after another read in one layout.
* `ImageState`, `BufferState`: The states that uses ask for.
-/

namespace FrameGraph

open Gpu

/-- How a resource was used last, and the layout it is in. -/
structure ResourceState extends Scope where
  layout : Layout
  deriving DecidableEq, Repr

namespace ResourceState

/-- The state in which some access writes. -/
def writes (state : ResourceState) : Bool := state.toScope.writes

/-- A barrier has to stand between the two states: the layout changes, or
    one side writes. -/
def needsBarrier (state next : ResourceState) : Bool :=
  state.layout != next.layout || state.writes || next.writes

/-- The state with the stages and accesses of both, in the layout of the
    first. -/
def mergeReader (state reader : ResourceState) : ResourceState :=
  { state.toScope.union reader.toScope with layout := state.layout }

/-- What a barrier out of this state waits for. -/
def source (state : ResourceState) : Scope := state.toScope.flushed

end ResourceState

/-- A state in the terms of an image. -/
def imageState (stages : StageMask) (access : AccessMask) (layout : Layout) : ResourceState :=
  { stages, access, layout }

/-- A state in the terms of a buffer, whose layout never changes. -/
def bufferState (stages : StageMask) (access : AccessMask) : ResourceState :=
  { stages, access, layout := Layout.undefined }

namespace ImageState

/-- Nothing is known of the contents. It also stands for the state that an
    earlier frame left, which is not known while a frame is planned. -/
def undefined : ResourceState := imageState StageMask.topOfPipe 0 Layout.undefined

def colorAttachmentRead : ResourceState :=
  imageState StageMask.colorAttachmentOutput AccessMask.colorAttachmentRead Layout.colorAttachment

def colorAttachmentWrite : ResourceState :=
  imageState StageMask.colorAttachmentOutput AccessMask.colorAttachmentWrite Layout.colorAttachment

def colorAttachmentReadWrite : ResourceState :=
  imageState StageMask.colorAttachmentOutput
    (AccessMask.colorAttachmentRead ||| AccessMask.colorAttachmentWrite) Layout.colorAttachment

def depthAttachmentWrite : ResourceState :=
  imageState StageMask.fragmentTests AccessMask.depthStencilAttachmentWrite
    Layout.depthStencilAttachment

def depthAttachmentReadWrite : ResourceState :=
  imageState StageMask.fragmentTests
    (AccessMask.depthStencilAttachmentRead ||| AccessMask.depthStencilAttachmentWrite)
    Layout.depthStencilAttachment

/-- Depth is tested and not written. -/
def depthReadOnly : ResourceState :=
  imageState StageMask.fragmentTests AccessMask.depthStencilAttachmentRead
    Layout.depthStencilReadOnly

def shaderReadFragment : ResourceState :=
  imageState StageMask.fragmentShader AccessMask.shaderSampledRead Layout.shaderReadOnly

def shaderReadCompute : ResourceState :=
  imageState StageMask.computeShader AccessMask.shaderSampledRead Layout.shaderReadOnly

def storageReadCompute : ResourceState :=
  imageState StageMask.computeShader AccessMask.shaderStorageRead Layout.general

def storageWriteCompute : ResourceState :=
  imageState StageMask.computeShader AccessMask.shaderStorageWrite Layout.general

def storageReadWriteCompute : ResourceState :=
  imageState StageMask.computeShader AccessMask.storageReadWrite Layout.general

def storageReadFragment : ResourceState :=
  imageState StageMask.fragmentShader AccessMask.shaderStorageRead Layout.general

def storageWriteFragment : ResourceState :=
  imageState StageMask.fragmentShader AccessMask.shaderStorageWrite Layout.general

def storageReadWriteFragment : ResourceState :=
  imageState StageMask.fragmentShader AccessMask.storageReadWrite Layout.general

def transferSource : ResourceState :=
  imageState StageMask.transfer AccessMask.transferRead Layout.transferSource

def transferDestination : ResourceState :=
  imageState StageMask.transfer AccessMask.transferWrite Layout.transferDestination

/-- The swapchain image is handed to the presentation engine. -/
def present : ResourceState := imageState StageMask.bottomOfPipe 0 Layout.present

end ImageState

namespace BufferState

/-- Nothing is known of the contents. -/
def undefined : ResourceState := bufferState StageMask.topOfPipe 0

def vertexBuffer : ResourceState :=
  bufferState StageMask.vertexInput AccessMask.vertexAttributeRead

def indirectBuffer : ResourceState :=
  bufferState StageMask.drawIndirect AccessMask.indirectCommandRead

def uniformGraphics : ResourceState :=
  bufferState StageMask.graphicsShaders AccessMask.uniformRead

def uniformCompute : ResourceState := bufferState StageMask.computeShader AccessMask.uniformRead

def storageReadCompute : ResourceState :=
  bufferState StageMask.computeShader AccessMask.shaderStorageRead

def storageWriteCompute : ResourceState :=
  bufferState StageMask.computeShader AccessMask.shaderStorageWrite

def storageReadWriteCompute : ResourceState :=
  bufferState StageMask.computeShader AccessMask.storageReadWrite

def storageReadGraphics : ResourceState :=
  bufferState StageMask.graphicsShaders AccessMask.shaderStorageRead

def storageWriteGraphics : ResourceState :=
  bufferState StageMask.graphicsShaders AccessMask.shaderStorageWrite

def storageReadWriteGraphics : ResourceState :=
  bufferState StageMask.graphicsShaders AccessMask.storageReadWrite

end BufferState

end FrameGraph
