import FrameGraph.Recording.Cursor
import FrameGraph.Recording.Resolution
import FrameGraph.Recording.Transition
import FrameGraph.Sync.Hazard

/-!
# Recording Steps

The steps of a frame: its start, each of its operations, and its end.

Render passes are opened as late as possible and stay open as long as the
context does not change. Three things close one: an operation that cannot
run inside, a pass boundary with barriers, and another context. Barriers of
a boundary are recorded once a frame, when the first operation of its pass
is reached.

Every frame ends with a render pass on the presented image, which is the
one still open if there is one, and whatever is drawn over the finished
frame is drawn there.

## Main definitions

* `Renderers`: What is drawn by others.
* `Scene`: What is fixed while a frame is recorded.
* `Scene.startFrame`, `Scene.recordOp`, `Scene.closeFrame`: The steps.
* `Scene.recordFrame`: All of them.
-/

namespace FrameGraph

open Gpu

/-- What is drawn by others, inside a render pass that is open. -/
structure Renderers where
  /-- What a mesh renderer records. -/
  mesh : Nat → UInt64 → DrawState → List Command
  /-- What is drawn over the finished frame, if anything. -/
  overlay : Option (UInt64 → Rect → List Command)

/-- What is fixed while a frame is recorded. -/
structure Scene where
  plan : SyncPlan
  resolution : Resolution
  renderers : Renderers

namespace Scene

/-- The entries are recorded at the start of the frame, since nothing else
    is due there. -/
def hoists (scene : Scene) : Bool := scene.plan.swapchainBarriers?.isNone

/-- The barriers due at the start of the frame. -/
def startBarriers (scene : Scene) : List PlannedBarrier :=
  scene.plan.swapchainBarriers?.getD scene.plan.entryBarriers

/-- The barriers due at the boundary of a pass. -/
def boundaryBarriers (scene : Scene) (pass : PassIndex) : List PlannedBarrier :=
  if scene.hoists then PlannedBarrier.withoutEntries (scene.plan.barriersAt pass)
  else scene.plan.barriersAt pass

/-- Record planned barriers, images first. -/
def emitBarriers (scene : Scene) (barriers : List PlannedBarrier) : Step := fun cursor =>
  let (states, transitions) :=
    settle scene.resolution.backings (PlannedBarrier.imagesFirst barriers) cursor.states
  let images := transitions.filter (·.planned.isImage)
  let buffers := transitions.filter (!·.planned.isImage)
  Step.andThen (Step.submitImages (images.map Transition.imageBarrier))
    (Step.submitBuffers (buffers.map Transition.bufferBarrier))
    { cursor with states := states }

/-- Record the barrier that answers pending hazards. -/
def emitHazards (hazards : HazardMask) : Step := fun cursor =>
  match HazardMask.barrier? hazards with
  | none => (cursor, [])
  | some barrier => (cursor.countBarrier, [.memoryBarrier [barrier]])

/-- Note that the start of the frame is dealt with. -/
def markStarted (scene : Scene) : Step := fun cursor =>
  ({ cursor with
      passed := frameStart :: cursor.passed
      stats := { cursor.stats with hoistedEntries := scene.hoists } }, [])

/-- Start the frame: pending hazards, then the barriers due. -/
def startFrame (scene : Scene) (hazards : HazardMask) : Step :=
  Step.all [emitHazards hazards, scene.markStarted, scene.emitBarriers scene.startBarriers]

/-- Enter a pass. Its barriers are recorded when it is entered first. -/
def enterPass (scene : Scene) (pass : PassIndex) : Step := fun cursor =>
  if cursor.pass = some pass then (cursor, [])
  else
    let inside := { cursor with pass := some pass }
    if cursor.passed.contains pass then (inside, [])
    else
      let noted := { inside with passed := pass :: cursor.passed }
      if (scene.boundaryBarriers pass).isEmpty then (noted, [])
      else
        Step.andThen Step.closeRenderPass (scene.emitBarriers (scene.boundaryBarriers pass)) noted

/-- Have the render pass of a context open, and go on with its binding. -/
def inRenderPass (scene : Scene) (context : Context)
    (body : TargetBinding → List Command) : Step := fun cursor =>
  match scene.resolution.targets.get? context.target with
  | none => (cursor, [])
  | some binding =>
    if cursor.current = some context then (cursor, body binding)
    else
      let (closed, ending) := Step.closeRenderPass cursor
      (closed.opened context,
        ending ++ [.beginLabel context.target.label Color.renderPass,
          .beginRenderPass binding.renderPass binding.framebuffer binding.area
            binding.clearValues] ++ body binding)

/-- The dynamic state of a draw. -/
def setDrawState (state : DrawState) : List Command :=
  [.setViewport 0 [state.viewport], .setScissor 0 [state.scissor]]

/-- Record a clear. One without any aspect has nothing to record. -/
def recordClear (scene : Scene) (context : Context) (clear : Clear) : Step :=
  if clear.attachments.isEmpty then Step.emit []
  else scene.inRenderPass context fun _ =>
    [.clearAttachments clear.attachments [⟨clear.rect, 0, 1⟩]]

/-- Record a mesh: its state, and then whatever its renderer records. -/
def recordMesh (scene : Scene) (context : Context) (state : DrawState) (renderer : Nat) : Step :=
  scene.inRenderPass context fun binding =>
    setDrawState state ++ [.callMesh renderer binding.renderPass state]
      ++ scene.renderers.mesh renderer binding.renderPass state

/-- Record a draw whose arguments a buffer holds. -/
def recordIndirect (scene : Scene) (context : Context) (draw : IndirectDraw) : Step :=
  scene.inRenderPass context fun _ =>
    setDrawState draw.state ++ [.bindPipeline .graphics draw.state.pipeline,
      if draw.indexed then .drawIndexedIndirect draw.buffer draw.offset draw.drawCount draw.stride
      else .drawIndirect draw.buffer draw.offset draw.drawCount draw.stride]

/-- Record a dispatch, which cannot run inside a render pass. -/
def recordDispatch (dispatch : Dispatch) : Step :=
  Step.closeRenderPass.andThen (Step.emit [.beginLabel "dispatch" Color.compute,
    .bindPipeline .compute dispatch.pipeline, .dispatch dispatch.x dispatch.y dispatch.z,
    .endLabel])

/-- Record a blit, which cannot run inside a render pass. Both images go to
    their transfer layouts before it and back to their steady states after. -/
def recordBlit (scene : Scene) (blit : Blit) : Step :=
  match scene.resolution.targets.get? blit.source,
    scene.resolution.targets.get? blit.destination with
  | some source, some destination =>
    Step.all [Step.closeRenderPass,
      Step.emit [.beginLabel "blit" Color.transfer],
      Step.submitImages [
        surfaceBarrier source.image source.steady ImageState.transferSource,
        surfaceBarrier destination.image destination.steady ImageState.transferDestination],
      Step.emit [.blitImage source.image Layout.transferSource destination.image
        Layout.transferDestination blit.regions blit.filter],
      Step.submitImages [
        surfaceBarrier source.image ImageState.transferSource source.steady,
        surfaceBarrier destination.image ImageState.transferDestination destination.steady],
      Step.emit [.endLabel]]
  | _, _ => Step.emit []

/-- Record the work of an operation. -/
def recordWork (scene : Scene) (op : FrameOp) : Step :=
  match op.work with
  | .clear clear => scene.recordClear op.context clear
  | .mesh state renderer => scene.recordMesh op.context state renderer
  | .blit blit => scene.recordBlit blit
  | .indirect draw => scene.recordIndirect op.context draw
  | .dispatch dispatch => recordDispatch dispatch

/-- Record an operation: enter its pass, do its work, count it. -/
def recordOp (scene : Scene) (op : FrameOp) : Step :=
  Step.all [scene.enterPass op.pass, scene.recordWork op, fun cursor => (cursor.countOp, [])]

/-- The identity of a closing render pass that no operation opened. -/
def closingIdentity : UInt64 := 18446744073709551615

/-- The context of the closing render pass: the open one if it is on the
    presented image. -/
def closingContext (cursor : Cursor) : Context :=
  match cursor.current with
  | some context => if context.targetsSwapchain then context else ⟨closingIdentity, .swapchain⟩
  | none => ⟨closingIdentity, .swapchain⟩

/-- What is recorded over the finished frame. -/
def overlayCommands (scene : Scene) (binding : TargetBinding) : List Command :=
  match scene.renderers.overlay with
  | none => []
  | some overlay =>
    [.beginLabel "overlay" Color.overlay, .callOverlay binding.renderPass binding.area]
      ++ overlay binding.renderPass binding.area ++ [.endLabel]

/-- End the frame with a render pass on the presented image. -/
def closeFrame (scene : Scene) : Step := fun cursor =>
  Step.andThen (scene.inRenderPass (closingContext cursor) scene.overlayCommands)
    Step.closeRenderPass cursor

/-- Record a whole frame. -/
def recordFrame (scene : Scene) (hazards : HazardMask) (ops : List FrameOp) : Step :=
  Step.all ([scene.startFrame hazards] ++ ops.map scene.recordOp ++ [scene.closeFrame])

end Scene

end FrameGraph
