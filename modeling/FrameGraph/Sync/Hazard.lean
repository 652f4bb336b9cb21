import FrameGraph.Gpu.Barrier
import FrameGraph.Log

/-!
# Hazards

A caller that wrote memory outside of any pass says in broad categories how
it will be read next, and a single memory barrier answers all of them. The
source is always the same, whatever shaders and transfers may have written;
the destination is the union over the categories.

A mask may hold bits that name no category. Such a request must not be
answered by less than was asked for, so every part of the barrier that no
category filled is widened to everything.

## Main definitions

* `HazardMask`: A set of categories.
* `HazardMask.categories`: Each category with its bit, name and destination.
* `HazardMask.barrier?`: The barrier that answers a mask.
* `HazardMask.log`: What is reported about it.
-/

namespace FrameGraph

open Gpu

/-- A set of hazard categories. -/
abbrev HazardMask := UInt32

/-- One category: how memory will be read next. -/
structure HazardCategory where
  bit : HazardMask
  name : String
  destination : Scope
  deriving DecidableEq, Repr

namespace HazardMask

/-- The stages that may have written what is read next. -/
def producerStages : StageMask :=
  StageMask.vertexShader ||| StageMask.fragmentShader ||| StageMask.computeShader
    ||| StageMask.transfer

/-- What may have been written before: storage and transfer destinations. -/
def producer : Scope :=
  ⟨producerStages, AccessMask.shaderStorageWrite ||| AccessMask.transferWrite⟩

/-- Every shader stage. -/
def shaderStages : StageMask :=
  StageMask.vertexShader ||| StageMask.fragmentShader ||| StageMask.computeShader

/-- Shader storage in both directions. -/
def storage : Scope := ⟨shaderStages, AccessMask.storageReadWrite⟩

/-- Transfers in both directions. -/
def transfers : Scope :=
  ⟨StageMask.transfer, AccessMask.transferRead ||| AccessMask.transferWrite⟩

/-- The attachments of a framebuffer. -/
def attachments : Scope :=
  ⟨StageMask.colorAttachmentOutput ||| StageMask.earlyFragmentTests
      ||| StageMask.lateFragmentTests,
    AccessMask.colorAttachmentRead ||| AccessMask.colorAttachmentWrite
      ||| AccessMask.depthStencilAttachmentRead ||| AccessMask.depthStencilAttachmentWrite⟩

/-- The categories from the lowest bit up. -/
def categories : List HazardCategory := [
  ⟨0x1, "VERTEX_ATTRIB_ARRAY", ⟨StageMask.vertexInput, AccessMask.vertexAttributeRead⟩⟩,
  ⟨0x2, "ELEMENT_ARRAY", ⟨StageMask.indexInput, AccessMask.indexRead⟩⟩,
  ⟨0x4, "UNIFORM", ⟨shaderStages, AccessMask.uniformRead⟩⟩,
  ⟨0x8, "TEXTURE_FETCH", ⟨shaderStages, AccessMask.shaderSampledRead⟩⟩,
  ⟨0x10, "SHADER_IMAGE_ACCESS", storage⟩,
  ⟨0x20, "COMMAND", ⟨StageMask.drawIndirect, AccessMask.indirectCommandRead⟩⟩,
  ⟨0x40, "PIXEL_BUFFER", transfers⟩,
  ⟨0x80, "TEXTURE_UPDATE", ⟨StageMask.transfer, AccessMask.transferWrite⟩⟩,
  ⟨0x100, "BUFFER_UPDATE", transfers⟩,
  ⟨0x200, "FRAMEBUFFER", attachments⟩,
  ⟨0x400, "TRANSFORM_FEEDBACK",
    ⟨StageMask.transformFeedback, AccessMask.transformFeedbackWrite⟩⟩,
  ⟨0x800, "QUERY_BUFFER", ⟨StageMask.transfer, AccessMask.transferWrite⟩⟩,
  ⟨0x1000, "CLIENT_MAPPED_BUFFER", ⟨StageMask.host, AccessMask.hostRead⟩⟩,
  ⟨0x2000, "ATOMIC_COUNTER", storage⟩,
  ⟨0x4000, "SHADER_STORAGE", storage⟩]

/-- The bits that name a category. -/
def known : HazardMask := 0x7FFF

/-- The categories in a mask. -/
def members (mask : HazardMask) : List HazardCategory :=
  categories.filter fun category => mask &&& category.bit = category.bit

/-- The barrier the categories of a mask ask for together. -/
def requested (mask : HazardMask) : MemoryBarrier :=
  (members mask).foldl
    (fun barrier category =>
      ⟨barrier.source.union producer, barrier.destination.union category.destination⟩)
    MemoryBarrier.blank

/-- A scope with each empty part taken from another. -/
def widen (scope other : Scope) : Scope where
  stages := if scope.stages = 0 then other.stages else scope.stages
  access := if scope.access = 0 then other.access else scope.access

/-- The barrier with each part that nothing filled widened to everything. -/
def widened (barrier : MemoryBarrier) : MemoryBarrier :=
  ⟨widen barrier.source MemoryBarrier.all.source,
    widen barrier.destination MemoryBarrier.all.destination⟩

/-- The barrier that answers a mask. An empty mask asks for none. -/
def barrier? (mask : HazardMask) : Option MemoryBarrier :=
  if mask = 0 then none else some (widened (requested mask))

/-- A report for a mask some part of which had to be widened. -/
def log (mask : HazardMask) : List LogEntry :=
  if mask != 0 && widened (requested mask) != requested mask then
    [LogEntry.warn ("hazard mask 0x" ++ String.ofList (Nat.toDigits 16 mask.toNat)
      ++ " resolved to an empty scope, widened to all commands")]
  else []

end HazardMask

end FrameGraph
