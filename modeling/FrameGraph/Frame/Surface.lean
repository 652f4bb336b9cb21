/-!
# Surfaces and Contexts

An operation draws to a surface: the presented image or an offscreen target
that the allocator resolves. Together with an identity that its producer
chose, the surface forms the context of the operation, and operations may
share an open render pass exactly if their contexts are equal.

## Main definitions

* `Surface`: Where an operation draws to.
* `Context`: A surface and the identity of a group of operations.
-/

namespace FrameGraph

/-- Where an operation draws to. -/
inductive Surface where
  | swapchain
  | offscreen (target : UInt32)
  deriving DecidableEq, Repr

namespace Surface

/-- The printed form of a surface in messages. -/
def text : Surface → String
  | swapchain => "Swapchain"
  | offscreen target => "Offscreen(RgTargetHandle(" ++ toString target.toNat ++ "))"

/-- The debug label of a render pass on the surface. -/
def label : Surface → String
  | swapchain => "swapchain"
  | offscreen target => "target-" ++ toString target.toNat

end Surface

/-- The group an operation belongs to, and where it draws. -/
structure Context where
  identity : UInt64
  target : Surface
  deriving DecidableEq, Repr

namespace Context

/-- The operation draws to the presented image. -/
def targetsSwapchain (context : Context) : Bool := context.target = .swapchain

end Context

end FrameGraph
