import FrameGraph.Frame.Surface
import FrameGraph.Gpu.Command
import FrameGraph.Resource.Registry
import FrameGraph.Table

/-!
# The Resource Pool

Recording needs a real image or buffer for every group and a render pass for
every surface. The pool provides them. A resource is made when it is first
asked for and is the same one ever after; what changes is its state, which
a recording hands back when it is done and the next one starts from.

Images and buffers are apart: a name that was an image in one frame and is a
buffer in another has one of each.

What the pool is able to provide, and how a new resource starts out, is up
to its owner and is a function of the name or surface.

## Main definitions

* `Backing`: A resource with its state.
* `TargetBinding`: How to render to a surface.
* `Supply`: What the owner provides.
* `Pool`: The resources made so far.
* `Pool.ensure`: The resource of a group, made if need be.
* `Pool.commit`: Note the state a recording left.
-/

namespace FrameGraph

open Gpu

/-- A real image or buffer with its state. -/
structure Backing where
  handle : UInt64
  /-- The aspect its format implies; none if that says nothing. -/
  aspect : AspectMask
  state : ResourceState
  deriving DecidableEq, Repr

/-- How to render to a surface, and to copy from and to it. -/
structure TargetBinding where
  renderPass : UInt64
  framebuffer : UInt64
  area : Rect
  clearValues : List Color
  image : UInt64
  /-- The state of the image outside of render passes. -/
  steady : ResourceState
  deriving DecidableEq, Repr

/-- What the owner of a pool provides. -/
structure Supply where
  /-- A resource of this name can be had. -/
  provides : String → Bool
  imageAspect : String → AspectMask
  imageState : String → ResourceState
  bufferState : String → ResourceState
  target? : Surface → Option TargetBinding

/-- The resources made so far. The handles of images, and those of buffers,
    are consecutive. -/
structure Pool where
  supply : Supply
  firstImage : UInt64
  firstBuffer : UInt64
  images : Table String Backing
  buffers : Table String Backing

namespace Pool

/-- A pool that has made nothing yet. -/
def new (supply : Supply) (firstImage firstBuffer : UInt64) : Pool :=
  ⟨supply, firstImage, firstBuffer, [], []⟩

/-- The resource made for a group, if there is one. -/
def backing? (pool : Pool) (group : ResourceGroup) : Option Backing :=
  if group.isImage then pool.images.get? group.name else pool.buffers.get? group.name

/-- The resource a pool would make for a group. -/
def fresh (pool : Pool) (group : ResourceGroup) : Backing :=
  if group.isImage then
    ⟨pool.firstImage + UInt64.ofNat pool.images.length, pool.supply.imageAspect group.name,
      pool.supply.imageState group.name⟩
  else
    ⟨pool.firstBuffer + UInt64.ofNat pool.buffers.length, 0, pool.supply.bufferState group.name⟩

/-- The pool with a resource for a group. -/
def store (pool : Pool) (group : ResourceGroup) (backing : Backing) : Pool :=
  if group.isImage then { pool with images := pool.images.put group.name backing }
  else { pool with buffers := pool.buffers.put group.name backing }

/-- The resource of a group, made if need be, unless it cannot be had. -/
def ensure (pool : Pool) (group : ResourceGroup) : Pool × Option Backing :=
  if pool.supply.provides group.name then
    match pool.backing? group with
    | some backing => (pool, some backing)
    | none => (pool.store group (pool.fresh group), some (pool.fresh group))
  else (pool, none)

/-- Note the state a recording left a resource in. -/
def commit (pool : Pool) (group : ResourceGroup) (state : ResourceState) : Pool :=
  match pool.backing? group with
  | some backing => pool.store group { backing with state := state }
  | none => pool

end Pool

end FrameGraph
