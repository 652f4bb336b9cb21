import FrameGraph.Gpu.Command

/-!
# Command Buffers

How a command stream reaches the device. Most commands are one device call
with the buffer put in front. The exceptions are gathered here: the three
kinds of barrier are one call with three lists, a stream opens a debug label
once it has begun and closes it before it ends, and labels exist only where
the device offers them. A label travels as text that ends at a zero
character, so one that holds such a character is sent empty.

## Main definitions

* `CommandBuffer`: A buffer on a device, with or without labels.
* `DeviceCall`: A call about a command buffer.
* `CommandBuffer.calls`: The calls one command makes.
-/

namespace FrameGraph.Gpu

/-- A command buffer that was allocated on a device. -/
structure CommandBuffer where
  handle : UInt64
  name : String
  /-- The device offers debug labels. -/
  labels : Bool
  deriving DecidableEq, Repr

/-- A call about a command buffer. -/
inductive DeviceCall where
  | allocate (pool : UInt64) (level : Int32) (count : UInt32)
  | reset (flags : UInt32)
  | begin (flags : UInt32)
  | finish
  | beginRenderPass (renderPass framebuffer : UInt64) (area : Rect) (clearValues : List Color)
      (contents : Int32)
  | endRenderPass
  | pipelineBarrier (dependencyFlags : UInt32) (memory : List MemoryBarrier)
      (buffers : List BufferBarrier) (images : List ImageBarrier)
  | beginLabel (name : String) (color : Color)
  | endLabel
  /-- A command the device takes as it is. -/
  | plain (command : Command)
  deriving DecidableEq, Repr

/-- The call that allocates one command buffer. -/
def allocationCall (pool : UInt64) (level : Int32) : DeviceCall := .allocate pool level 1

/-- The commands of a render pass are recorded in place. -/
def inlineContents : Int32 := 0

namespace CommandBuffer

/-- The label as the device receives it. -/
def labelText (label : String) : String := if label.toList.contains '\x00' then "" else label

/-- The calls that open a label. -/
def openLabel (buffer : CommandBuffer) (label : String) (color : Color) : List DeviceCall :=
  if buffer.labels then [.beginLabel (labelText label) color] else []

/-- The calls that close the innermost label. -/
def closeLabel (buffer : CommandBuffer) : List DeviceCall :=
  if buffer.labels then [.endLabel] else []

/-- The calls one command makes. `succeeds` tells what the device answers if
    the command can fail: a stream that could not begin gets no label. -/
def calls (buffer : CommandBuffer) (succeeds : Bool) : Command → List DeviceCall
  | .reset => [.reset 0]
  | .begin usage label =>
    .begin usage :: if succeeds then buffer.openLabel label Color.stream else []
  | .finish => buffer.closeLabel ++ [.finish]
  | .beginRenderPass renderPass framebuffer area clearValues =>
    [.beginRenderPass renderPass framebuffer area clearValues inlineContents]
  | .endRenderPass => [.endRenderPass]
  | .memoryBarrier barriers => [.pipelineBarrier 0 barriers [] []]
  | .imageBarrier flags barriers => [.pipelineBarrier flags [] [] barriers]
  | .bufferBarrier flags barriers => [.pipelineBarrier flags [] barriers []]
  | .beginLabel name color => buffer.openLabel name color
  | .endLabel => buffer.closeLabel
  | .callMesh .. => []
  | .callOverlay .. => []
  | command => [.plain command]

end CommandBuffer

end FrameGraph.Gpu
