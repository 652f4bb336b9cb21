import FrameGraph.Proofs.Parts
import FrameGraph.Proofs.Reported

/-!
# What a Recorded Frame Leaves

A call that records a frame either fails, and then the pool reports what it
reported before, or it succeeds, and then for every resource the planned
barriers that were recorded and the state handed back are those of
`settleOne`, from the state that the pool reported, over the barriers on it
that came due. `settle_group` says so for the barriers and `record_ok` for
the rest.

Which barriers came due is not asked here. All that is used of them is that
they are in the plan, so that each takes its resource for what the group of
this name is.

## Main definitions

* `frameScene`: What is fixed while a resolved frame is recorded.
* `recordTrace`: The stretches of a frame that resolves.
* `imagesOn`: The planned barriers recorded on an image.
* `Copies`: What a blit records around its copy.
* `Scene.leaves`: The states that a frame leaves.

## Theorems

* `mem_plan_of_mem_dealt`: What comes due was planned.
* `Scene.trace_blit`: A blit brings its images back to where they were.
* `Scene.trace_elsewhere`: No other work records barriers.
* `record_ok`: What a call that succeeds did.
* `reported_record_of_error`: A call that fails changes no report.
* `settle_group`, `settle_linked`: What settling does to one resource.
* `made_of_mem_trace`: A planned barrier is recorded on what was made for its
  resource.
* `record_linked`: The layouts of one frame link up.
* `record_committed`: The state handed back for an image.
-/

namespace FrameGraph

open Gpu

theorem mem_imagesFirst_iff (barriers : List PlannedBarrier) (planned : PlannedBarrier) :
    planned ∈ PlannedBarrier.imagesFirst barriers ↔ planned ∈ barriers := by
  simp only [PlannedBarrier.imagesFirst, List.mem_append, List.mem_filter, Bool.not_eq_true']
  cases planned.isImage with
  | true => simp only [and_true, Bool.true_eq_false, and_false, or_false]
  | false => simp only [Bool.false_eq_true, and_false, and_true, false_or]

/-- Commands copy from one surface to another with a pair of barriers before the
    copy and another one after it. The first pair leads both images from their
    steady layouts to those for copies, and the second one leads them back. -/
structure Copies (blit : Blit) (source destination : TargetBinding) (commands : List Command)
    (sourceTo destinationTo sourceBack destinationBack : ImageBarrier) : Prop where
  commands : commands = [.beginLabel "blit" Color.transfer,
    .imageBarrier 0 [sourceTo, destinationTo],
    .blitImage source.image Layout.transferSource destination.image Layout.transferDestination
      blit.regions blit.filter,
    .imageBarrier 0 [sourceBack, destinationBack], .endLabel]
  sourceTo : sourceTo.Leads source.image source.steady.layout Layout.transferSource
  destinationTo : destinationTo.Leads destination.image destination.steady.layout
    Layout.transferDestination
  sourceBack : sourceBack.Leads source.image Layout.transferSource source.steady.layout
  destinationBack : destinationBack.Leads destination.image Layout.transferDestination
    destination.steady.layout

namespace Scene

variable (scene : Scene)

theorem mem_plan_of_mem_start {planned : PlannedBarrier} (h : planned ∈ scene.startBarriers) :
    planned ∈ scene.plan.barriers := by
  have hat : ∀ boundary, planned ∈ scene.plan.barriersAt boundary →
      planned ∈ scene.plan.barriers :=
    fun boundary hmem => (List.mem_filter.mp hmem).1
  unfold startBarriers SyncPlan.swapchainBarriers? SyncPlan.barriersAt? at h
  split at h
  · -- Without barriers of its own, the start takes every entry.
    rcases List.mem_flatMap.mp h with ⟨boundary, _, hentry⟩
    exact hat boundary (List.mem_filter.mp hentry).1
  · exact hat frameStart h

theorem mem_plan_of_mem_boundary {pass : PassIndex} {planned : PlannedBarrier}
    (h : planned ∈ scene.boundaryBarriers pass) : planned ∈ scene.plan.barriers := by
  unfold boundaryBarriers at h
  split at h
  · exact (List.mem_filter.mp (List.mem_filter.mp h).1).1
  · exact (List.mem_filter.mp h).1

/-- What comes due was planned. -/
theorem mem_plan_of_mem_dealt (ops : List FrameOp) {planned : PlannedBarrier}
    (h : planned ∈ scene.dealt ops) : planned ∈ scene.plan.barriers := by
  unfold dealt at h
  rcases List.mem_append.mp h with hstart | hlater
  · exact scene.mem_plan_of_mem_start ((mem_imagesFirst_iff _ _).mp hstart)
  · rcases List.mem_flatMap.mp hlater with ⟨pass, _, hboundary⟩
    exact scene.mem_plan_of_mem_boundary ((mem_imagesFirst_iff _ _).mp hboundary)

/-- A blit whose surfaces are bound. -/
theorem recordBlit_copies (blit : Blit) (source destination : TargetBinding)
    (hsource : scene.resolution.targets.get? blit.source = some source)
    (hdestination : scene.resolution.targets.get? blit.destination = some destination)
    (cursor : Cursor) :
    ∃ copying, (scene.recordBlit blit cursor).2 = (Step.closeRenderPass cursor).2 ++ copying
      ∧ ∃ sourceTo destinationTo sourceBack destinationBack,
        Copies blit source destination copying sourceTo destinationTo sourceBack
          destinationBack := by
  unfold recordBlit
  rw [hsource, hdestination]
  exact ⟨_, rfl, _, _, _, _, rfl, ⟨rfl, rfl, rfl⟩, ⟨rfl, rfl, rfl⟩, ⟨rfl, rfl, rfl⟩,
    ⟨rfl, rfl, rfl⟩⟩

/-- A blit brings both of its images from where they are to their transfer
    layouts and back. -/
theorem trace_blit (hazards : HazardMask) (ops : List FrameOp) (stretch : Stretch)
    (hstretch : stretch ∈ scene.trace hazards ops) (operation : FrameOp)
    (hpart : stretch.part = .working operation) (blit : Blit) (hwork : operation.work = .blit blit)
    (source destination : TargetBinding)
    (hsource : scene.resolution.targets.get? blit.source = some source)
    (hdestination : scene.resolution.targets.get? blit.destination = some destination) :
    ∃ closing copying, stretch.commands = closing ++ copying ∧ imageBarriersOf closing = []
      ∧ ∃ sourceTo destinationTo sourceBack destinationBack,
        Copies blit source destination copying sourceTo destinationTo sourceBack
          destinationBack := by
  rcases scene.commands_of_mem_play hazards _ _ stretch hstretch with ⟨_, found, hcommands⟩
  rw [hpart] at hcommands
  -- Counting the operation records nothing.
  have hblit : (scene.recordPart hazards (.working operation) found).2
      = (scene.recordBlit blit found).2 := by
    simp only [recordPart, recordWork, hwork, Step.andThen, List.append_nil]
  rcases scene.recordBlit_copies blit source destination hsource hdestination found
    with ⟨copying, hrecorded, hcopies⟩
  rw [hblit, hrecorded] at hcommands
  exact ⟨_, copying, hcommands, (Step.barriers_closeRenderPass found).1, hcopies⟩

end Scene

/-- Among some commands there is no image or buffer barrier. -/
def WithoutBarriers (commands : List Command) : Prop :=
  imageBarriersOf commands = [] ∧ bufferBarriersOf commands = []

theorem WithoutBarriers.append {first second : List Command} (hfirst : WithoutBarriers first)
    (hsecond : WithoutBarriers second) : WithoutBarriers (first ++ second) := by
  constructor
  · rw [imageBarriersOf_append, hfirst.1, hsecond.1, List.append_nil]
  · rw [bufferBarriersOf_append, hfirst.2, hsecond.2, List.append_nil]

/-- What only draws has no barriers. -/
theorem withoutBarriers_of_draws (commands : List Command)
    (h : ∀ command ∈ commands, command.draws = true) : WithoutBarriers commands := by
  constructor
  · refine List.flatMap_eq_nil_iff.mpr ?_
    intro command hcommand
    have hdraws := h command hcommand
    cases command with
    | imageBarrier _ _ => exact absurd hdraws Bool.false_ne_true
    | _ => rfl
  · refine List.flatMap_eq_nil_iff.mpr ?_
    intro command hcommand
    have hdraws := h command hcommand
    cases command with
    | bufferBarrier _ _ => exact absurd hdraws Bool.false_ne_true
    | _ => rfl

namespace Scene

variable (scene : Scene)

/-- A render pass adds none to what is drawn in it. -/
theorem withoutBarriers_inRenderPass (context : Context) (body : TargetBinding → List Command)
    (hbody : ∀ binding, WithoutBarriers (body binding)) (cursor : Cursor) :
    WithoutBarriers (scene.inRenderPass context body cursor).2 := by
  unfold inRenderPass
  split
  · exact ⟨rfl, rfl⟩
  · next binding _ =>
      split
      · exact hbody binding
      · have hclose : WithoutBarriers (Step.closeRenderPass cursor).2 :=
          Step.barriers_closeRenderPass cursor
        have hopen : WithoutBarriers [.beginLabel context.target.label Color.renderPass,
            .beginRenderPass binding.renderPass binding.framebuffer binding.area
              binding.clearValues] := ⟨rfl, rfl⟩
        exact (hclose.append hopen).append (hbody binding)

/-- No work but a blit records barriers, if others only draw. -/
theorem withoutBarriers_recordWork (hdraws : scene.renderers.DrawsOnly) (operation : FrameOp)
    (hwork : ∀ blit, operation.work ≠ .blit blit) (cursor : Cursor) :
    WithoutBarriers (scene.recordWork operation cursor).2 := by
  unfold recordWork
  cases hkind : operation.work with
  | clear clear =>
      simp only [recordClear]
      split
      · exact ⟨rfl, rfl⟩
      · exact scene.withoutBarriers_inRenderPass _ _ (fun _ => ⟨rfl, rfl⟩) cursor
  | mesh state renderer =>
      refine scene.withoutBarriers_inRenderPass _ _ ?_ cursor
      intro binding
      have hown : WithoutBarriers (setDrawState state
          ++ [.callMesh renderer binding.renderPass state]) := ⟨rfl, rfl⟩
      exact hown.append (withoutBarriers_of_draws _ (hdraws.mesh renderer binding.renderPass state))
  | blit blit => exact absurd hkind (hwork blit)
  | indirect draw =>
      refine scene.withoutBarriers_inRenderPass _ _ ?_ cursor
      intro binding
      cases draw.indexed with
      | true => exact ⟨rfl, rfl⟩
      | false => exact ⟨rfl, rfl⟩
  | dispatch dispatch =>
      have hclose : WithoutBarriers (Step.closeRenderPass cursor).2 :=
        Step.barriers_closeRenderPass cursor
      exact hclose.append ⟨rfl, rfl⟩

/-- Neither does the end of a frame. -/
theorem withoutBarriers_closeFrame (hdraws : scene.renderers.DrawsOnly) (cursor : Cursor) :
    WithoutBarriers (scene.closeFrame cursor).2 := by
  have hoverlay : ∀ binding, WithoutBarriers (scene.overlayCommands binding) := by
    intro binding
    unfold overlayCommands
    cases hdrawn : scene.renderers.overlay with
    | none => exact ⟨rfl, rfl⟩
    | some overlay =>
        have hothers := withoutBarriers_of_draws _
          (hdraws.overlay overlay hdrawn binding.renderPass binding.area)
        have hopen : WithoutBarriers [.beginLabel "overlay" Color.overlay,
            .callOverlay binding.renderPass binding.area] := ⟨rfl, rfl⟩
        exact (hopen.append hothers).append ⟨rfl, rfl⟩
  have hpass := scene.withoutBarriers_inRenderPass (closingContext cursor) scene.overlayCommands
    hoverlay cursor
  exact hpass.append (Step.barriers_closeRenderPass _)

/-- Where no planned barrier comes due and no blit is recorded, there are no
    barriers. -/
theorem trace_elsewhere (hdraws : scene.renderers.DrawsOnly) (hazards : HazardMask)
    (ops : List FrameOp) (stretch : Stretch) (hstretch : stretch ∈ scene.trace hazards ops)
    (hboundary : stretch.part.isBoundary = false)
    (hblit : ∀ operation blit, stretch.part = .working operation → operation.work ≠ .blit blit) :
    WithoutBarriers stretch.commands := by
  rcases scene.commands_of_mem_play hazards _ _ stretch hstretch with ⟨_, found, hcommands⟩
  rw [hcommands]
  cases hpart : stretch.part with
  | start =>
      rw [hpart] at hboundary
      exact absurd hboundary.symm Bool.false_ne_true
  | entering pass =>
      rw [hpart] at hboundary
      exact absurd hboundary.symm Bool.false_ne_true
  | working operation =>
      have hwork := scene.withoutBarriers_recordWork hdraws operation
        (fun blit => hblit operation blit hpart) found
      exact hwork.append ⟨rfl, rfl⟩
  | closing => exact scene.withoutBarriers_closeFrame hdraws found

theorem buffers_recordBlit (blit : Blit) (cursor : Cursor) :
    bufferBarriersOf (scene.recordBlit blit cursor).2 = [] := by
  cases hsource : scene.resolution.targets.get? blit.source with
  | none =>
      simp only [recordBlit, hsource]
      rfl
  | some source =>
      cases hdestination : scene.resolution.targets.get? blit.destination with
      | none =>
          simp only [recordBlit, hsource, hdestination]
          rfl
      | some destination =>
          rcases scene.recordBlit_copies blit source destination hsource hdestination cursor
            with ⟨copying, hrecorded, _, _, _, _, hcopies⟩
          rw [hrecorded, bufferBarriersOf_append, (Step.barriers_closeRenderPass cursor).2,
            hcopies.commands]
          rfl

/-- Buffer barriers are recorded only where planned ones come due. -/
theorem trace_buffers (hdraws : scene.renderers.DrawsOnly) (hazards : HazardMask)
    (ops : List FrameOp) (stretch : Stretch) (hstretch : stretch ∈ scene.trace hazards ops)
    (hboundary : stretch.part.isBoundary = false) : bufferBarriersOf stretch.commands = [] := by
  by_cases hblit : ∃ operation blit, stretch.part = .working operation
      ∧ operation.work = .blit blit
  · rcases hblit with ⟨operation, blit, hpart, hwork⟩
    rcases scene.commands_of_mem_play hazards _ _ stretch hstretch with ⟨_, found, hcommands⟩
    rw [hcommands, hpart]
    simp only [recordPart, recordWork, hwork, Step.andThen, List.append_nil]
    exact scene.buffers_recordBlit blit found
  · refine (scene.trace_elsewhere hdraws hazards ops stretch hstretch hboundary ?_).2
    intro operation blit hpart hwork
    exact hblit ⟨operation, blit, hpart, hwork⟩

end Scene

/-- What is fixed while a resolved frame is recorded. -/
def frameScene (compiled : Compiled) (request : Request) (resolution : Resolution) : Scene :=
  ⟨compiled.plan, resolution, request.renderers⟩

/-- What is recorded part by part of a frame, if it resolves. -/
def recordTrace (compiled : Compiled) (request : Request) (pool : Pool) (ops : List FrameOp) :
    List Stretch :=
  match (resolve pool compiled.resources ops).result with
  | .error _ => []
  | .ok resolution => (frameScene compiled request resolution).trace request.hazards ops

/-- The planned barriers recorded on an image, in order. -/
def imagesOn (name : String) (stretches : List Stretch) : List ImageBarrier :=
  Transition.imagesOf ((stretches.flatMap Stretch.transitions).filter fun transition =>
    transition.planned.resource = name)

theorem recordTrace_of_resolved (compiled : Compiled) (request : Request) (pool : Pool)
    (ops : List FrameOp) (resolution : Resolution)
    (h : (resolve pool compiled.resources ops).result = .ok resolution) :
    recordTrace compiled request pool ops
      = (frameScene compiled request resolution).trace request.hazards ops := by
  unfold recordTrace
  rw [h]

/-- Where planned barriers come due, the image barriers of a stretch are these, and
    nowhere else does one come due. -/
theorem recordTrace_barriers (compiled : Compiled) (request : Request) (pool : Pool)
    (ops : List FrameOp) : ∀ stretch ∈ recordTrace compiled request pool ops,
      (stretch.part.isBoundary = true →
        imageBarriersOf stretch.commands = Transition.imagesOf stretch.transitions)
      ∧ (stretch.part.isBoundary = false → stretch.transitions = []) := by
  intro stretch hstretch
  unfold recordTrace at hstretch
  split at hstretch
  · exact absurd hstretch List.not_mem_nil
  · exact ⟨fun hboundary => (Scene.barriers_of_mem_play _ _ _ _ stretch hstretch hboundary).1,
      Scene.transitions_of_mem_play _ _ _ _ stretch hstretch⟩

/-- The states that a resolved frame leaves. -/
def Scene.leaves (scene : Scene) (ops : List FrameOp) : Table String ResourceState :=
  (settle scene.resolution.backings (scene.dealt ops) scene.resolution.states).1

/-- A resolved frame is recorded to its end and its states are handed back,
    or it fails and leaves the pool alone. -/
theorem recordResolved_cases (compiled : Compiled) (request : Request) (replies : Replies)
    (pool : Pool) (device : Device) (resolution : Resolution) (resolving : List Event)
    (ops : List FrameOp) :
    (∃ error, (recordResolved compiled request replies pool device resolution resolving ops).result
          = .error error
        ∧ (recordResolved compiled request replies pool device resolution resolving ops).pool
          = pool)
      ∨ ∃ stats finals,
          (recordResolved compiled request replies pool device resolution resolving ops).result
            = .ok stats
          ∧ finals = finalStates compiled.resources
            ((frameScene compiled request resolution).leaves ops)
          ∧ (recordResolved compiled request replies pool device resolution resolving ops).events
            = resolving
              ++ ([Command.reset, .begin request.usage request.label]
                ++ ((frameScene compiled request resolution).trace request.hazards ops).flatMap
                  Stretch.commands
                ++ [Command.finish]).map Event.command
              ++ finals.map (fun final => Event.pool (.commit final.1 final.2))
          ∧ (recordResolved compiled request replies pool device resolution resolving ops).pool
            = commitAll pool finals := by
  rw [Scene.trace_commands, Scene.leaves, ← Scene.states_recordFrame _ request.hazards]
  unfold recordResolved
  -- Each of the three calls of the stream can put an end to it.
  by_cases hreset : replies.reset = ResultCode.success
  · by_cases hbegin : replies.begin = ResultCode.success
    · by_cases hfinish : replies.finish = ResultCode.success
      · simp only [hreset, hbegin, hfinish, ne_eq, not_true_eq_false, if_false]
        exact Or.inr ⟨_, _, rfl, rfl, rfl, rfl⟩
      · simp only [hreset, hbegin, hfinish, ne_eq, not_true_eq_false, if_false,
          not_false_eq_true, if_true]
        exact Or.inl ⟨_, rfl, rfl⟩
    · simp only [hreset, hbegin, ne_eq, not_true_eq_false, if_false, not_false_eq_true, if_true]
      exact Or.inl ⟨_, rfl, rfl⟩
  · simp only [hreset, ne_eq, not_false_eq_true, if_true]
    exact Or.inl ⟨_, rfl, rfl⟩

/-- What a call that succeeds did: the frame resolved, the stream holds it
    part by part, and the pool was handed the states that it left. -/
theorem record_ok (compiled : Compiled) (request : Request) (replies : Replies) (pool : Pool)
    (device : Device) (ops : List FrameOp) (stats : Stats)
    (h : (record compiled request replies pool device ops).result = .ok stats) :
    ∃ resolution finals, (resolve pool compiled.resources ops).result = .ok resolution
      ∧ finals = finalStates compiled.resources
          ((frameScene compiled request resolution).leaves ops)
      ∧ (record compiled request replies pool device ops).events
        = (resolve pool compiled.resources ops).calls.map Event.pool
          ++ ([Command.reset, .begin request.usage request.label]
            ++ (recordTrace compiled request pool ops).flatMap Stretch.commands
            ++ [Command.finish]).map Event.command
          ++ finals.map (fun final => Event.pool (.commit final.1 final.2))
      ∧ (record compiled request replies pool device ops).pool
        = commitAll (resolve pool compiled.resources ops).pool finals := by
  cases hresolved : (resolve pool compiled.resources ops).result with
  | error error =>
      unfold record at h
      simp only [hresolved, reduceCtorEq] at h
  | ok resolution =>
      rw [recordTrace_of_resolved compiled request pool ops resolution hresolved]
      unfold record at h ⊢
      simp only [hresolved] at h ⊢
      rcases recordResolved_cases compiled request replies
        (resolve pool compiled.resources ops).pool device resolution
        ((resolve pool compiled.resources ops).calls.map Event.pool) ops
        with ⟨error, herror, _⟩ | ⟨_, finals, _, hfinals, hevents, hpool⟩
      · rw [herror] at h
        simp only [reduceCtorEq] at h
      · exact ⟨resolution, finals, rfl, hfinals, hevents, hpool⟩

/-- A call that fails changes no report. -/
theorem reported_record_of_error (compiled : Compiled) (request : Request) (replies : Replies)
    (pool : Pool) (device : Device) (ops : List FrameOp) (error : Error)
    (h : (record compiled request replies pool device ops).result = .error error)
    (isImage : Bool) (name : String) :
    (record compiled request replies pool device ops).pool.reported isImage name
      = pool.reported isImage name := by
  have hresolve := reported_resolve pool compiled.resources ops isImage name
  unfold record at h ⊢
  simp only at h ⊢
  split
  · exact hresolve
  · next resolution hresolved =>
      simp only [hresolved] at h
      rcases recordResolved_cases compiled request replies
        (resolve pool compiled.resources ops).pool device resolution
        ((resolve pool compiled.resources ops).calls.map Event.pool) ops
        with ⟨_, _, hpool⟩ | ⟨_, _, hok, _⟩
      · rw [hpool]
        exact hresolve
      · rw [hok] at h
        simp only [reduceCtorEq] at h

/-- Settling barriers does to the resource of a group what the ones on it do
    by themselves, from the state that was reported. -/
theorem settle_group (compiled : Compiled) (htyped : compiled.Typed) (pool : Pool)
    (ops : List FrameOp) (resolution : Resolution)
    (hresolved : (resolve pool compiled.resources ops).result = .ok resolution)
    (group : ResourceGroup) (hgroup : group ∈ compiled.resources.groups) :
    ∃ backing, (resolve pool compiled.resources ops).pool.made? group.isImage group.name
        = some backing
      ∧ ∀ barriers : List PlannedBarrier,
        (settle resolution.backings barriers resolution.states).1.get? group.name
            = some (settleOne backing (barriers.filter fun planned => planned.resource = group.name)
              (pool.reported group.isImage group.name)).1
          ∧ (settle resolution.backings barriers resolution.states).2.filter
              (fun transition => transition.planned.resource = group.name)
            = (settleOne backing (barriers.filter fun planned => planned.resource = group.name)
              (pool.reported group.isImage group.name)).2 := by
  rcases resolve_backed pool compiled.resources ops resolution hresolved htyped.nodup group hgroup
    with ⟨backing, hbacking, hstate, hmade⟩
  refine ⟨backing, hmade, ?_⟩
  intro barriers
  exact settle_resource resolution.backings barriers resolution.states group.name backing _
    hbacking hstate

/-- Groups of one name are one. -/
theorem Compiled.Typed.eq_of_name {compiled : Compiled} (h : compiled.Typed)
    {first second : ResourceGroup} (hfirst : first ∈ compiled.resources.groups)
    (hsecond : second ∈ compiled.resources.groups) (hname : first.name = second.name) :
    first = second :=
  List.inj_on_of_nodup_map h.nodup hfirst hsecond hname

/-- On an image, every transition is recorded as an image barrier. -/
theorem Compiled.Typed.imagesOf_image {compiled : Compiled} (h : compiled.Typed)
    (transitions : List Transition)
    (hplanned : ∀ transition ∈ transitions, transition.planned ∈ compiled.plan.barriers)
    (group : ResourceGroup) (hgroup : group ∈ compiled.resources.groups)
    (himage : group.isImage = true) :
    Transition.imagesOf (transitions.filter fun transition =>
        transition.planned.resource = group.name)
      = (transitions.filter fun transition => transition.planned.resource = group.name).map
        Transition.imageBarrier := by
  unfold Transition.imagesOf
  congr 1
  rw [List.filter_eq_self]
  intro transition htransition
  rw [List.mem_filter, decide_eq_true_eq] at htransition
  rcases h.registered _ (hplanned transition htransition.1) with ⟨other, hother, hname, hkind⟩
  have hsame := h.eq_of_name hother hgroup (hname.trans htransition.2)
  rw [← hkind, hsame]
  exact himage

/-- On a name that stands for no image, none is. -/
theorem Compiled.Typed.imagesOf_no_image {compiled : Compiled} (h : compiled.Typed)
    (transitions : List Transition)
    (hplanned : ∀ transition ∈ transitions, transition.planned ∈ compiled.plan.barriers)
    (name : String)
    (hnone : ∀ group ∈ compiled.resources.groups, ¬ (group.isImage = true ∧ group.name = name)) :
    Transition.imagesOf (transitions.filter fun transition =>
      transition.planned.resource = name) = [] := by
  unfold Transition.imagesOf
  rw [List.map_eq_nil_iff, List.filter_eq_nil_iff]
  intro transition htransition himage
  rw [List.mem_filter, decide_eq_true_eq] at htransition
  rcases h.registered _ (hplanned transition htransition.1) with ⟨group, hgroup, hname, hkind⟩
  exact hnone group hgroup ⟨hkind.trans himage, hname.trans htransition.2⟩

/-- The layouts of barriers on an image, settled from what was reported, link
    up from the reported layout, and lead to that of the last barrier,
    recorded or not. -/
theorem settle_linked (compiled : Compiled) (htyped : compiled.Typed) (pool : Pool)
    (ops : List FrameOp) (resolution : Resolution)
    (hresolved : (resolve pool compiled.resources ops).result = .ok resolution)
    (group : ResourceGroup) (hgroup : group ∈ compiled.resources.groups)
    (himage : group.isImage = true) (barriers : List PlannedBarrier)
    (hplanned : ∀ planned ∈ barriers, planned ∈ compiled.plan.barriers) :
    ∃ state recorded, (settle resolution.backings barriers resolution.states).1.get? group.name
        = some state
      ∧ recorded = Transition.imagesOf
          ((settle resolution.backings barriers resolution.states).2.filter
            fun transition => transition.planned.resource = group.name)
      ∧ Chained (pool.layout group.name) recorded
      ∧ layoutAfter (pool.layout group.name) recorded = state.layout
      ∧ state.layout = (((barriers.filter fun planned =>
          planned.resource = group.name).getLast?).map
            fun planned => planned.next.layout).getD (pool.layout group.name) := by
  rcases settle_group compiled htyped pool ops resolution hresolved group hgroup
    with ⟨backing, _, hsettle⟩
  rcases hsettle barriers with ⟨hstate, hrecorded⟩
  have hchained := chained_settleOne backing
    (barriers.filter fun planned => planned.resource = group.name)
    (pool.reported group.isImage group.name)
  have himages := htyped.imagesOf_image (settle resolution.backings barriers resolution.states).2
    (fun transition hmem => hplanned _ (planned_mem_of_mem_settle _ _ _ transition hmem))
    group hgroup himage
  rw [hrecorded] at himages
  refine ⟨_, _, hstate, himages.symm.trans (by rw [hrecorded]), ?_⟩
  -- The chain starts from the state reported for the group, which is an image.
  rw [himage] at hchained ⊢
  refine ⟨hchained.1, hchained.2, ?_⟩
  rw [settleOne_state]
  cases (barriers.filter fun planned => planned.resource = group.name).getLast? with
  | none => rfl
  | some last => rfl

/-- What is recorded in a frame was planned. -/
theorem planned_of_mem_trace (compiled : Compiled) (request : Request) (pool : Pool)
    (ops : List FrameOp) (transition : Transition)
    (h : transition ∈ (recordTrace compiled request pool ops).flatMap Stretch.transitions) :
    transition.planned ∈ compiled.plan.barriers := by
  cases hresolved : (resolve pool compiled.resources ops).result with
  | error error =>
      unfold recordTrace at h
      rw [hresolved] at h
      exact absurd h List.not_mem_nil
  | ok resolution =>
      rw [recordTrace_of_resolved compiled request pool ops resolution hresolved,
        Scene.transitions_trace] at h
      exact Scene.mem_plan_of_mem_dealt _ ops (planned_mem_of_mem_settle _ _ _ transition h)

/-- It was recorded on what was made for the resource. -/
theorem made_of_mem_trace (compiled : Compiled) (htyped : compiled.Typed) (request : Request)
    (pool : Pool) (ops : List FrameOp) (transition : Transition)
    (h : transition ∈ (recordTrace compiled request pool ops).flatMap Stretch.transitions) :
    (resolve pool compiled.resources ops).pool.made? transition.planned.isImage
      transition.planned.resource = some transition.backing := by
  rcases htyped.registered _ (planned_of_mem_trace compiled request pool ops transition h)
    with ⟨group, hgroup, hname, hkind⟩
  cases hresolved : (resolve pool compiled.resources ops).result with
  | error error =>
      unfold recordTrace at h
      rw [hresolved] at h
      exact absurd h List.not_mem_nil
  | ok resolution =>
      rw [recordTrace_of_resolved compiled request pool ops resolution hresolved,
        Scene.transitions_trace] at h
      have hbacking := (of_mem_settle _ _ _ transition h).2
      rcases resolve_backed pool compiled.resources ops resolution hresolved htyped.nodup group
        hgroup with ⟨backing, hget, _, hmade⟩
      rw [hname] at hget hmade
      rw [hkind] at hmade
      rw [hmade, ← hget]
      exact hbacking

/-- The layouts of the barriers on an image link up from the one reported,
    and the image is left in the layout they lead to. -/
theorem trace_linked (compiled : Compiled) (htyped : compiled.Typed) (request : Request)
    (pool : Pool) (ops : List FrameOp) (resolution : Resolution)
    (hresolved : (resolve pool compiled.resources ops).result = .ok resolution)
    (group : ResourceGroup) (hgroup : group ∈ compiled.resources.groups)
    (himage : group.isImage = true) :
    Chained (pool.layout group.name)
        (imagesOn group.name (recordTrace compiled request pool ops))
      ∧ ∃ state, ((frameScene compiled request resolution).leaves ops).get? group.name
          = some state
        ∧ state.layout = layoutAfter (pool.layout group.name)
          (imagesOn group.name (recordTrace compiled request pool ops)) := by
  rcases settle_linked compiled htyped pool ops resolution hresolved group hgroup himage
    ((frameScene compiled request resolution).dealt ops)
    (fun planned hplanned => Scene.mem_plan_of_mem_dealt _ ops hplanned)
    with ⟨state, recorded, hleaves, hrecorded, hchained, hlayout, _⟩
  have himages : imagesOn group.name (recordTrace compiled request pool ops) = recorded := by
    unfold imagesOn
    rw [recordTrace_of_resolved compiled request pool ops resolution hresolved,
      Scene.transitions_trace, hrecorded]
    rfl
  rw [himages]
  exact ⟨hchained, state, hleaves, hlayout.symm⟩

/-- Every group of a resolved frame has its resource. -/
theorem resolve_made (compiled : Compiled) (htyped : compiled.Typed) (pool : Pool)
    (ops : List FrameOp) (resolution : Resolution)
    (hresolved : (resolve pool compiled.resources ops).result = .ok resolution)
    (group : ResourceGroup) (hgroup : group ∈ compiled.resources.groups) :
    ((resolve pool compiled.resources ops).pool.made? group.isImage group.name).isSome = true := by
  rcases resolve_backed pool compiled.resources ops resolution hresolved htyped.nodup group hgroup
    with ⟨backing, _, _, hmade⟩
  rw [hmade]
  rfl

/-- One call. The layouts of what was recorded on an image link up from the
    one reported, and the one they lead to is reported next. A name that the
    frame has no image for keeps its report. -/
theorem record_linked (compiled : Compiled) (htyped : compiled.Typed) (request : Request)
    (replies : Replies) (pool : Pool) (device : Device) (ops : List FrameOp) (stats : Stats)
    (h : (record compiled request replies pool device ops).result = .ok stats) (name : String) :
    Chained (pool.layout name) (imagesOn name (recordTrace compiled request pool ops))
      ∧ (record compiled request replies pool device ops).pool.layout name
        = layoutAfter (pool.layout name)
          (imagesOn name (recordTrace compiled request pool ops)) := by
  rcases record_ok compiled request replies pool device ops stats h
    with ⟨resolution, finals, hresolved, hfinals, _, hpool⟩
  have hmade := resolve_made compiled htyped pool ops resolution hresolved
  unfold Pool.layout
  rw [hpool, hfinals]
  by_cases hown : ∃ group ∈ compiled.resources.groups, group.isImage = true ∧ group.name = name
  · rcases hown with ⟨group, hgroup, himage, rfl⟩
    rcases trace_linked compiled htyped request pool ops resolution hresolved group hgroup himage
      with ⟨hchained, state, hleaves, hlayout⟩
    have hreported := reported_commitAll_of_mem (resolve pool compiled.resources ops).pool
      compiled.resources _ hmade group hgroup state hleaves
    rw [himage] at hreported
    rw [hreported]
    exact ⟨hchained, hlayout⟩
  · -- Nothing is recorded on the name and nothing is handed back for it.
    have hnone : ∀ group ∈ compiled.resources.groups,
        ¬ (group.isImage = true ∧ group.name = name) :=
      fun group hgroup hmine => hown ⟨group, hgroup, hmine⟩
    have hempty : imagesOn name (recordTrace compiled request pool ops) = [] :=
      htyped.imagesOf_no_image _ (planned_of_mem_trace compiled request pool ops) name hnone
    rw [hempty, reported_commitAll_of_notMem _ compiled.resources _ hmade true name hnone,
      reported_resolve]
    exact ⟨trivial, rfl⟩

/-- Resolving hands no state back. -/
theorem commit_notMem_resolve (pool : Pool) (resources : Registry) (ops : List FrameOp)
    (group : ResourceGroup) (state : ResourceState) :
    PoolCall.commit group state ∉ (resolve pool resources ops).calls := by
  -- Groups are only made and surfaces only bound.
  have hbacked : PoolCall.commit group state ∉ (backGroups pool resources.groups).calls := by
    induction resources.groups generalizing pool with
    | nil => exact List.not_mem_nil
    | cons first rest ih =>
        rw [backGroups]
        split
        · simp only [List.mem_singleton, reduceCtorEq, not_false_eq_true]
        · simp only [List.mem_cons, reduceCtorEq, false_or]
          exact ih _
  have hbound : ∀ (pool : Pool) (surfaces : List Surface),
      PoolCall.commit group state ∉ (bindSurfaces pool surfaces).calls := by
    intro pool surfaces
    induction surfaces with
    | nil => exact List.not_mem_nil
    | cons first rest ih =>
        rw [bindSurfaces]
        split
        · simp only [List.mem_singleton, reduceCtorEq, not_false_eq_true]
        · simp only [List.mem_cons, reduceCtorEq, false_or]
          exact ih
  unfold resolve
  simp only
  split
  · exact hbacked
  · split
    · exact hbacked
    · rw [List.mem_append, not_or]
      exact ⟨hbacked, hbound _ _⟩

/-- What a call that succeeds hands back: for each group the state it left. -/
theorem mem_commits_iff (compiled : Compiled) (request : Request) (replies : Replies) (pool : Pool)
    (device : Device) (ops : List FrameOp) (stats : Stats)
    (h : (record compiled request replies pool device ops).result = .ok stats) :
    ∃ resolution, (resolve pool compiled.resources ops).result = .ok resolution
      ∧ ∀ group state, Event.pool (.commit group state)
          ∈ (record compiled request replies pool device ops).events
        ↔ group ∈ compiled.resources.groups
          ∧ ((frameScene compiled request resolution).leaves ops).get? group.name
            = some state := by
  rcases record_ok compiled request replies pool device ops stats h
    with ⟨resolution, finals, hresolved, hfinals, hevents, _⟩
  refine ⟨resolution, hresolved, ?_⟩
  intro group state
  -- Only the last part of the events hands states back.
  have hcalls := commit_notMem_resolve pool compiled.resources ops group state
  have hmem : Event.pool (.commit group state)
        ∈ (record compiled request replies pool device ops).events
      ↔ (group, state) ∈ finals := by
    rw [hevents]
    simp only [List.mem_append, List.mem_map, Event.pool.injEq, reduceCtorEq, and_false,
      exists_false, or_false, PoolCall.commit.injEq, exists_eq_right, hcalls, false_or]
    constructor
    · rintro ⟨final, hfinal, rfl, rfl⟩
      exact hfinal
    · intro hfinal
      exact ⟨_, hfinal, rfl, rfl⟩
  rw [hmem, hfinals, mem_finalStates_iff]

/-- For each image of the frame one state is handed back, in the layout that
    was recorded last, or else in the one that was reported. -/
theorem record_committed (compiled : Compiled) (htyped : compiled.Typed) (request : Request)
    (replies : Replies) (pool : Pool) (device : Device) (ops : List FrameOp) (stats : Stats)
    (h : (record compiled request replies pool device ops).result = .ok stats)
    (group : ResourceGroup) (hgroup : group ∈ compiled.resources.groups)
    (himage : group.isImage = true) :
    ∃ state, state.layout = layoutAfter (pool.layout group.name)
          (imagesOn group.name (recordTrace compiled request pool ops))
      ∧ ∀ other, Event.pool (.commit group other)
          ∈ (record compiled request replies pool device ops).events ↔ other = state := by
  rcases mem_commits_iff compiled request replies pool device ops stats h
    with ⟨resolution, hresolved, hcommits⟩
  rcases trace_linked compiled htyped request pool ops resolution hresolved group hgroup himage
    with ⟨_, state, hleaves, hlayout⟩
  refine ⟨state, hlayout, ?_⟩
  intro other
  rw [hcommits, hleaves, Option.some.injEq]
  exact ⟨fun h => h.2.symm, fun h => ⟨hgroup, h.symm⟩⟩

end FrameGraph
