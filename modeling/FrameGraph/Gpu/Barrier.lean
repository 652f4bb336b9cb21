import FrameGraph.Gpu.Flags
import FrameGraph.Gpu.Code

/-!
# Barriers

A barrier orders what was done before it against what comes after it. Both
sides are a `Scope`, a set of stages together with the accesses made there,
and an image barrier also moves its image from one layout to another.

Barriers here always cover a whole image, every mip level and layer, and
never hand a resource to another queue, so those fields are constants of the
barrier and not part of it.

## Main definitions

* `Scope`: Stages and the accesses made in them.
* `MemoryBarrier`, `ImageBarrier`, `BufferBarrier`: The three kinds.
* `MemoryBarrier.all`: The barrier that waits for everything.
* `SubresourceRange`: The part of an image a barrier covers.
-/

namespace FrameGraph.Gpu

/-- Stages and the accesses made in them: one side of a barrier. -/
structure Scope where
  stages : StageMask
  access : AccessMask
  deriving DecidableEq, Repr

namespace Scope

/-- The scope without stages and accesses. -/
def empty : Scope := ⟨0, 0⟩

/-- The stages and accesses of both scopes. -/
def union (a b : Scope) : Scope := ⟨a.stages ||| b.stages, a.access ||| b.access⟩

/-- Some access of the scope writes. -/
def writes (scope : Scope) : Bool := scope.access &&& AccessMask.writing != 0

/-- The scope with its writing accesses only. A later access has to wait for
    the stages of a reader too, but a reader leaves nothing to flush. -/
def flushed (scope : Scope) : Scope :=
  { scope with access := scope.access &&& AccessMask.writing }

end Scope

/-- A barrier on all memory. -/
structure MemoryBarrier where
  source : Scope
  destination : Scope
  deriving DecidableEq, Repr

namespace MemoryBarrier

/-- The barrier with empty scopes. -/
def blank : MemoryBarrier := ⟨Scope.empty, Scope.empty⟩

/-- The most careful barrier: every command before it, every command after
    it, and every access of either. -/
def all : MemoryBarrier where
  source := ⟨StageMask.allCommands, AccessMask.memoryWrite⟩
  destination := ⟨StageMask.allCommands, AccessMask.memoryRead ||| AccessMask.memoryWrite⟩

/-- Neither side names a stage or an access. -/
def isEmpty (barrier : MemoryBarrier) : Bool := barrier = blank

end MemoryBarrier

/-- Marks a barrier that does not hand its resource to another queue. -/
def queueFamilyIgnored : UInt32 := 4294967295

/-- Stands for every mip level or layer from the first on. -/
def remaining : UInt32 := 4294967295

/-- Stands for the size of a buffer from the offset on. -/
def wholeSize : UInt64 := 18446744073709551615

/-- The part of an image a barrier covers. -/
structure SubresourceRange where
  aspect : AspectMask
  baseLevel : UInt32
  levelCount : UInt32
  baseLayer : UInt32
  layerCount : UInt32
  deriving DecidableEq, Repr

/-- A barrier on one image, which moves it between layouts. -/
structure ImageBarrier where
  image : UInt64
  oldLayout : Layout
  newLayout : Layout
  source : Scope
  destination : Scope
  aspect : AspectMask
  deriving DecidableEq, Repr

namespace ImageBarrier

/-- The barrier before anything is set: no image, no scopes, no transition. -/
def blank : ImageBarrier where
  image := 0
  oldLayout := Layout.undefined
  newLayout := Layout.undefined
  source := Scope.empty
  destination := Scope.empty
  aspect := 0

/-- The covered part: the barrier's aspect of every level and layer. -/
def range (barrier : ImageBarrier) : SubresourceRange :=
  ⟨barrier.aspect, 0, remaining, 0, remaining⟩

/-- The two scopes, without the image. -/
def mask (barrier : ImageBarrier) : MemoryBarrier := ⟨barrier.source, barrier.destination⟩

end ImageBarrier

/-- A barrier on a part of one buffer. -/
structure BufferBarrier where
  buffer : UInt64
  offset : UInt64
  size : UInt64
  source : Scope
  destination : Scope
  deriving DecidableEq, Repr

namespace BufferBarrier

/-- The barrier before anything is set: no buffer, no scopes. -/
def blank : BufferBarrier where
  buffer := 0
  offset := 0
  size := wholeSize
  source := Scope.empty
  destination := Scope.empty

end BufferBarrier

end FrameGraph.Gpu
