import FrameGraph.Gpu.Code
import FrameGraph.Resource.State

/-!
# Uses of Resources

A pass says which named resources it touches and how. The type of a use
tells whether the resource is an image or a buffer and, with the access and
the stage of the pass, the state the resource has to be in.

The type and the access are declared side by side and need not agree: a
sampled image may be declared as written. The state follows the type then,
while the dependencies between passes follow the access.

## Main definitions

* `Stage`, `ResourceType`, `Access`: The words of a declaration.
* `Usage`: One declared use.
* `Usage.imageState`, `Usage.bufferState`: The state a use asks for.
* `Usage.signature`: The text by which two attachments are compared.
-/

namespace FrameGraph

open Gpu

/-- Where a pass runs. -/
inductive Stage where
  | graphics
  | compute
  | transfer
  deriving DecidableEq, Repr

namespace Stage

/-- The printed form of a stage. -/
def text : Stage → String
  | graphics => "Graphics"
  | compute => "Compute"
  | transfer => "Transfer"

end Stage

/-- What a resource is used as. -/
inductive ResourceType where
  | colorAttachment
  | depthStencilAttachment
  | sampledImage
  | storageImage
  | transferSource
  | transferDestination
  | uniformBuffer
  | storageBuffer
  | indirectBuffer
  | vertexBuffer
  deriving DecidableEq, Repr

namespace ResourceType

/-- The word for the type in a signature. -/
def word : ResourceType → String
  | colorAttachment => "color"
  | depthStencilAttachment => "depth-stencil"
  | sampledImage => "sampled"
  | storageImage => "storage-image"
  | transferSource => "transfer-src"
  | transferDestination => "transfer-dst"
  | uniformBuffer => "uniform"
  | storageBuffer => "storage-buffer"
  | indirectBuffer => "indirect"
  | vertexBuffer => "vertex"

/-- The type is that of an image. Transfers are between images. -/
def isImage : ResourceType → Bool
  | colorAttachment | depthStencilAttachment | sampledImage | storageImage
  | transferSource | transferDestination => true
  | uniformBuffer | storageBuffer | indirectBuffer | vertexBuffer => false

/-- The aspect an image of this type has unless its format says otherwise.
    A buffer has none. -/
def aspect (type : ResourceType) : AspectMask :=
  if type = depthStencilAttachment then AspectMask.depthStencil
  else if type.isImage then AspectMask.color
  else 0

end ResourceType

/-- Whether a use reads, writes, or both. -/
inductive Access where
  | read
  | write
  | readWrite
  deriving DecidableEq, Repr

namespace Access

def reads : Access → Bool
  | read | readWrite => true
  | write => false

def writes : Access → Bool
  | write | readWrite => true
  | read => false

end Access

/-- The name that stands for the presented image. -/
def swapchainName : String := "swapchain"

/-- One declared use of a named resource. -/
structure Usage where
  type : ResourceType
  resource : String
  isAttachment : Bool
  loadOp : LoadOp
  storeOp : StoreOp
  access : Access
  deriving DecidableEq, Repr

namespace Usage

/-- A use outside of render passes. -/
def plain (access : Access) (type : ResourceType) (resource : String) : Usage where
  type := type
  resource := resource
  isAttachment := false
  loadOp := LoadOp.dontCare
  storeOp := StoreOp.dontCare
  access := access

/-- A use as an attachment. It always writes, and it reads what was there
    before if the contents are loaded. -/
def attachment (type : ResourceType) (resource : String) (loadOp : LoadOp)
    (storeOp : StoreOp) : Usage where
  type := type
  resource := resource
  isAttachment := true
  loadOp := loadOp
  storeOp := storeOp
  access := if loadOp = LoadOp.load then .readWrite else .write

/-- The use is one of the presented image. -/
def isSwapchain (usage : Usage) : Bool := usage.resource = swapchainName

/-- Type, name, load and store operation, separated by colons. -/
def signature (usage : Usage) : String :=
  String.intercalate ":"
    [usage.type.word, usage.resource, LoadOp.text usage.loadOp, StoreOp.text usage.storeOp]

/-- The state an image has to be in for this use, in a pass of this stage.
    Everything that is not graphics runs as compute. A use of a buffer type
    asks nothing of an image. -/
def imageState (usage : Usage) (stage : Stage) : ResourceState :=
  match usage.type, usage.access, stage with
  | .colorAttachment, .read, _ => ImageState.colorAttachmentRead
  | .colorAttachment, .write, _ => ImageState.colorAttachmentWrite
  | .colorAttachment, .readWrite, _ => ImageState.colorAttachmentReadWrite
  | .depthStencilAttachment, .read, _ => ImageState.depthReadOnly
  | .depthStencilAttachment, .write, _ => ImageState.depthAttachmentWrite
  | .depthStencilAttachment, .readWrite, _ => ImageState.depthAttachmentReadWrite
  | .sampledImage, _, .graphics => ImageState.shaderReadFragment
  | .sampledImage, _, _ => ImageState.shaderReadCompute
  | .storageImage, .read, .graphics => ImageState.storageReadFragment
  | .storageImage, .write, .graphics => ImageState.storageWriteFragment
  | .storageImage, .readWrite, .graphics => ImageState.storageReadWriteFragment
  | .storageImage, .read, _ => ImageState.storageReadCompute
  | .storageImage, .write, _ => ImageState.storageWriteCompute
  | .storageImage, .readWrite, _ => ImageState.storageReadWriteCompute
  | .transferSource, _, _ => ImageState.transferSource
  | .transferDestination, _, _ => ImageState.transferDestination
  | _, _, _ => ImageState.undefined

/-- The state a buffer has to be in for this use, in a pass of this stage.
    A use of an image type asks nothing of a buffer. -/
def bufferState (usage : Usage) (stage : Stage) : ResourceState :=
  match usage.type, usage.access, stage with
  | .uniformBuffer, _, .graphics => BufferState.uniformGraphics
  | .uniformBuffer, _, _ => BufferState.uniformCompute
  | .storageBuffer, .read, .graphics => BufferState.storageReadGraphics
  | .storageBuffer, .write, .graphics => BufferState.storageWriteGraphics
  | .storageBuffer, .readWrite, .graphics => BufferState.storageReadWriteGraphics
  | .storageBuffer, .read, _ => BufferState.storageReadCompute
  | .storageBuffer, .write, _ => BufferState.storageWriteCompute
  | .storageBuffer, .readWrite, _ => BufferState.storageReadWriteCompute
  | .indirectBuffer, _, _ => BufferState.indirectBuffer
  | .vertexBuffer, _, _ => BufferState.vertexBuffer
  | _, _, _ => BufferState.undefined

end Usage

end FrameGraph
