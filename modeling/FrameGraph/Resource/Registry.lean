import FrameGraph.Pass.Usage

/-!
# Resource Groups

Each name that some pass uses stands for a group, which an allocator backs
by an image or a buffer. The first use of a name settles whether the group
is an image or a buffer; the aspect alone can change later, since a texture
that is sampled in one pass may turn out to be a depth attachment in another.

Groups are only ever added, so a registry is the list of its groups and a
handle is a position in it. Nothing has to be kept consistent beside it.

## Main definitions

* `ResourceGroup`: A named resource.
* `Registry`: The groups in order of registration.
* `Registry.register`: Note one use, and answer the handle of its group.
* `Registry.find?`, `Registry.get?`: From a name to a handle to a group.
-/

namespace FrameGraph

open Gpu

/-- A named resource, with the type of its first use. -/
structure ResourceGroup where
  name : String
  type : ResourceType
  aspect : AspectMask
  deriving DecidableEq, Repr

namespace ResourceGroup

/-- The group that the first use of a name creates. -/
def ofUsage (usage : Usage) : ResourceGroup where
  name := usage.resource
  type := usage.type
  aspect := usage.type.aspect

/-- The group is an image, as its first use was. -/
def isImage (group : ResourceGroup) : Bool := group.type.isImage

/-- The group is the presented image. -/
def isSwapchain (group : ResourceGroup) : Bool := group.name = swapchainName

/-- The group after another use. Depth wins over colour, and it stays. -/
def noting (group : ResourceGroup) (usage : Usage) : ResourceGroup :=
  if usage.type = .depthStencilAttachment then { group with aspect := usage.type.aspect }
  else group

end ResourceGroup

/-- The groups registered so far, in order. -/
structure Registry where
  groups : List ResourceGroup
  deriving DecidableEq, Repr

namespace Registry

/-- A registry without groups. -/
def empty : Registry := ⟨[]⟩

/-- How many groups there are. -/
def size (registry : Registry) : Nat := registry.groups.length

/-- The handle of a name: the position of its group. -/
def find? (registry : Registry) (name : String) : Option Nat :=
  registry.groups.findIdx? fun group => group.name = name

/-- The group of a handle. -/
def get? (registry : Registry) (handle : Nat) : Option ResourceGroup :=
  registry.groups[handle]?

/-- The group of a name. -/
def group? (registry : Registry) (name : String) : Option ResourceGroup :=
  registry.groups.find? fun group => group.name = name

/-- The name of a handle, as messages show it. -/
def nameOf (registry : Registry) (handle : Option Nat) : String :=
  ((handle.bind registry.get?).map ResourceGroup.name).getD "<unknown>"

/-- The groups after a use: the group of the name notes it, or a new group
    is added at the end. -/
def note : List ResourceGroup → Usage → List ResourceGroup
  | [], usage => [ResourceGroup.ofUsage usage]
  | group :: rest, usage =>
    if group.name = usage.resource then group.noting usage :: rest
    else group :: note rest usage

/-- Register one use, and answer the handle of its group. -/
def register (registry : Registry) (usage : Usage) : Registry × Nat :=
  (⟨note registry.groups usage⟩,
    (registry.find? usage.resource).getD registry.groups.length)

/-- The registry after a use. -/
def insert (registry : Registry) (usage : Usage) : Registry := (registry.register usage).1

/-- The registry after several uses, in order. -/
def insertAll (registry : Registry) (usages : List Usage) : Registry :=
  usages.foldl insert registry

end Registry

end FrameGraph
