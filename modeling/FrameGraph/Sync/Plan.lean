import FrameGraph.Resource.Registry
import FrameGraph.Sync.Demand
import FrameGraph.Table

/-!
# The Synchronization Plan

Walking the passes in the order they will run, the last known state of each
resource is compared with what the next pass asks of it, and where the two
need a barrier between them one is planned at the boundary before that pass.

The first use of a resource in a frame is an entry. What state the frame
before left is not known here, so an entry barrier is always planned, from
the undefined state, and the real state takes its place when the frame is
recorded. The entry of the presented image does not wait for its pass: it
belongs to the start of the frame.

Passes of one batch share a render pass. If two of them in a row use a
resource as an attachment in the same layout, the order within the render
pass already separates them, and a barrier could not even be recorded there,
so none is planned and the two uses add up.

A plan is a list of barriers, each of which names its boundary; the barriers
of a boundary are the ones that name it. That a boundary exists exactly if
it has a barrier is thus true by construction.

## Main definitions

* `PlannedBarrier`: A barrier before a pass.
* `SyncPlan`: The planned barriers, with `boundaries`, `barriersAt`,
  `entryBarriers` and `swapchainBarriers?` read off them.
* `Track`: What is known of a resource while planning.
* `planBarriers`: The plan for passes in the order they run.
-/

namespace FrameGraph

open Gpu

/-- A barrier on a resource at the boundary before a pass. -/
structure PlannedBarrier where
  boundary : PassIndex
  resource : String
  isImage : Bool
  previous : ResourceState
  next : ResourceState
  aspect : AspectMask
  /-- First use in the frame: `previous` stands for a state not known yet. -/
  entry : Bool
  deriving DecidableEq, Repr

namespace PlannedBarrier

/-- The barriers on images, then the ones on buffers. -/
def imagesFirst (barriers : List PlannedBarrier) : List PlannedBarrier :=
  barriers.filter (·.isImage) ++ barriers.filter (!·.isImage)

/-- The entries among some barriers. -/
def entries (barriers : List PlannedBarrier) : List PlannedBarrier := barriers.filter (·.entry)

/-- Some barriers without the entries among them. -/
def withoutEntries (barriers : List PlannedBarrier) : List PlannedBarrier :=
  barriers.filter (!·.entry)

end PlannedBarrier

/-- The planned barriers in the order they were planned. -/
structure SyncPlan where
  barriers : List PlannedBarrier
  deriving DecidableEq, Repr

namespace SyncPlan

/-- The plan without barriers. -/
def empty : SyncPlan := ⟨[]⟩

/-- The boundaries with barriers, in the order of their first one. -/
def boundaries (plan : SyncPlan) : List PassIndex :=
  (plan.barriers.map PlannedBarrier.boundary).eraseDups

/-- The barriers at a boundary. -/
def barriersAt (plan : SyncPlan) (boundary : PassIndex) : List PlannedBarrier :=
  plan.barriers.filter fun barrier => barrier.boundary = boundary

/-- The barriers at a boundary that has some. -/
def barriersAt? (plan : SyncPlan) (boundary : PassIndex) : Option (List PlannedBarrier) :=
  match plan.barriersAt boundary with
  | [] => none
  | barriers => some barriers

/-- The barriers at the start of the frame, if there are some. -/
def swapchainBarriers? (plan : SyncPlan) : Option (List PlannedBarrier) :=
  plan.barriersAt? frameStart

/-- All entries, boundary by boundary. -/
def entryBarriers (plan : SyncPlan) : List PlannedBarrier :=
  plan.boundaries.flatMap fun boundary => PlannedBarrier.entries (plan.barriersAt boundary)

end SyncPlan

/-- What is known of a resource after some passes. -/
structure Track where
  state : ResourceState
  /-- The batch of the last use, if that was one as an attachment. -/
  batch : Option Nat
  deriving DecidableEq, Repr

namespace Demand

/-- The batch whose render pass holds the use, for a pass of a batch. -/
def renderPass (demand : Demand) (batch : Option Nat) : Option Nat :=
  if demand.attachment then batch else none

end Demand

namespace Track

/-- What is known after the first use. -/
def first (demand : Demand) (batch : Option Nat) : Track :=
  ⟨demand.state, demand.renderPass batch⟩

/-- The next use is an attachment of the render pass that the last use was
    an attachment of, in the same layout. -/
def staysAttached (track : Track) (demand : Demand) (batch : Option Nat) : Bool :=
  (demand.renderPass batch).isSome && track.batch = demand.renderPass batch
    && track.state.layout = demand.state.layout

/-- A barrier has to stand before the next use. -/
def needsBarrier (track : Track) (demand : Demand) (batch : Option Nat) : Bool :=
  !track.staysAttached demand batch && track.state.needsBarrier demand.state

/-- What is known after the next use. Without a barrier the uses add up. -/
def after (track : Track) (demand : Demand) (batch : Option Nat) : Track where
  state :=
    if track.needsBarrier demand batch then demand.state
    else track.state.mergeReader demand.state
  batch := demand.renderPass batch

end Track

/-- What is known of every resource used so far. -/
abbrev Tracks := Table String Track

/-- What the planner knows of the resources and passes of a frame. -/
structure Planning where
  registry : Registry
  batchOf : PassIndex → Option Nat

namespace Planning

/-- The resource is an image. Every resource of the frame is registered. -/
def isImage (planning : Planning) (resource : String) : Bool :=
  ((planning.registry.group? resource).map ResourceGroup.isImage).getD false

/-- The aspect of the resource once every pass is known. -/
def aspect (planning : Planning) (resource : String) : AspectMask :=
  ((planning.registry.group? resource).map ResourceGroup.aspect).getD AspectMask.color

/-- The boundary of the entry of a resource into the frame. -/
def entryBoundary (planning : Planning) (pass : Pass) (resource : String) : PassIndex :=
  if planning.isImage resource && resource = swapchainName then frameStart else pass.index

/-- Plan for one resource of one pass, which asks `demand` of it. -/
def useResource (planning : Planning) (pass : Pass) (resource : String) (demand : Demand)
    (tracks : Tracks) : Tracks × List PlannedBarrier :=
  let batch := planning.batchOf pass.index
  let barrier (boundary : PassIndex) (previous : ResourceState) (entry : Bool) :=
    PlannedBarrier.mk boundary resource (planning.isImage resource) previous demand.state
      (planning.aspect resource) entry
  match tracks.get? resource with
  | none =>
    (tracks.put resource (Track.first demand batch),
      [barrier (planning.entryBoundary pass resource) ImageState.undefined true])
  | some track =>
    (tracks.put resource (track.after demand batch),
      if track.needsBarrier demand batch then [barrier pass.index track.state false] else [])

/-- Plan for some resources of one pass, in order. -/
def useResources (planning : Planning) (pass : Pass) :
    List String → Tracks → Tracks × List PlannedBarrier
  | [], tracks => (tracks, [])
  | resource :: rest, tracks =>
    match pass.demand? (planning.isImage resource) resource with
    | none => planning.useResources pass rest tracks
    | some demand =>
      let (tracks, here) := planning.useResource pass resource demand tracks
      let (tracks, later) := planning.useResources pass rest tracks
      (tracks, here ++ later)

/-- Plan for passes in the order they run. -/
def usePasses (planning : Planning) : List Pass → Tracks → Tracks × List PlannedBarrier
  | [], tracks => (tracks, [])
  | pass :: rest, tracks =>
    let (tracks, here) := planning.useResources pass pass.resources tracks
    let (tracks, later) := planning.usePasses rest tracks
    (tracks, here ++ later)

end Planning

/-- A plan with the resources it is about and the conflicts it met. -/
structure Planned where
  plan : SyncPlan
  registry : Registry
  conflicts : List LayoutConflict
  deriving DecidableEq, Repr

/-- Plan the barriers of passes in the order they run. Their resources are
    registered first, after the ones that are there: what a resource is was
    settled by its first use and no later one changes it, and the aspect of
    a barrier has to be the one that all passes together lead to. -/
def planBarriers (passes : List Pass) (batchOf : PassIndex → Option Nat)
    (registry : Registry) : Planned :=
  let registry := registry.insertAll (passes.flatMap Pass.usages)
  let planning : Planning := ⟨registry, batchOf⟩
  { plan := ⟨(planning.usePasses passes []).2⟩
    registry := registry
    conflicts := passes.flatMap fun pass => pass.conflicts planning.isImage }

/-- The batch of a pass, given the members of each batch. A pass that is in
    several belongs to the last. -/
def batchLookup (members : List (Nat × List PassIndex)) (index : PassIndex) : Option Nat :=
  ((members.filter fun batch => batch.2.contains index).map (·.1)).getLast?

end FrameGraph
