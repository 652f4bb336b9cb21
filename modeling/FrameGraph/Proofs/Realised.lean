import FrameGraph.Proofs.Due
import FrameGraph.Proofs.Window

/-!
# A Complete Frame Realises the Plan

The planner and the recording each keep track of the state of every resource,
and the recording may start a barrier from another state than was planned, or
leave it out. In a frame that reaches every pass in order it does neither,
except for entries, whose planned state only stands for one not known yet.

The two trackers need not agree on the state. The planner adds up the uses
that need no barrier between them, while the recording knows the state that
the last barrier led to. They agree on the layout, and by
`settleOne_callsAlong` that is enough: a barrier that the planner plans is
needed out of the state it was planned from, and it is this state that the
recording starts from as long as the layout is right.

## Main definitions

* `PlannedBarrier.realised`: What a complete frame makes of a planned barrier.
* `Stretch.isBlit`: What was recorded is a blit.

## Theorems

* `settleOne_callsAlong_known`, `settleOne_callsAlong`: The barriers of one
  resource, settled in a row.
* `nodup_planned`: A barrier is planned once.
* `Scene.trace_barriers`: Apart from blits, the barriers of a stream are planned.
* `record_realises_plan`: A complete frame realises the plan.
-/

namespace FrameGraph

open Gpu

namespace Track

/-- A use that needs a barrier needs it out of the state that is known. -/
theorem state_needsBarrier {track : Track} {demand : Demand} {batch : Option Nat}
    (h : track.needsBarrier demand batch = true) :
    track.state.needsBarrier demand.state = true := by
  unfold needsBarrier at h
  rw [Bool.and_eq_true] at h
  exact h.2

/-- After another use the layout is the one it asked for. -/
theorem after_layout (track : Track) (demand : Demand) (batch : Option Nat) :
    (track.after demand batch).state.layout = demand.state.layout := by
  cases hneeds : track.needsBarrier demand batch with
  | true =>
      unfold after
      rw [if_pos hneeds]
  | false =>
      have hlayout := layout_of_not_needsBarrier hneeds
      unfold after
      rw [if_neg (Bool.not_eq_true _ ▸ hneeds)]
      exact hlayout.symm

end Track

namespace PlannedBarrier

/-- What a complete frame makes of a planned barrier. An entry starts from
    the state that was reported, and is left out if that needs no barrier.
    Any other starts from the state it was planned from. -/
def realised (backing : Backing) (reported : ResourceState) (planned : PlannedBarrier) :
    Option Transition :=
  if planned.entry then
    if reported.needsBarrier planned.next then some ⟨planned, reported, backing⟩ else none
  else some ⟨planned, planned.previous, backing⟩

theorem realised_of_entry (backing : Backing) (reported : ResourceState)
    (planned : PlannedBarrier) (h : planned.entry = true) :
    planned.realised backing reported
      = if reported.needsBarrier planned.next then some ⟨planned, reported, backing⟩ else none :=
  if_pos h

theorem realised_of_not_entry (backing : Backing) (reported : ResourceState)
    (planned : PlannedBarrier) (h : planned.entry = false) :
    planned.realised backing reported = some ⟨planned, planned.previous, backing⟩ :=
  if_neg (Bool.not_eq_true _ ▸ h)

end PlannedBarrier

namespace Planning

variable (planning : Planning)

/-- Once a resource is known, each of its barriers is recorded as planned. -/
theorem settleOne_callsAlong_known (resource : String) (passes : List Pass) (track : Track)
    (backing : Backing) (reported state : ResourceState)
    (hlayout : state.layout = track.state.layout) :
    (settleOne backing (planning.callsAlong resource passes (some track)) state).2
      = (planning.callsAlong resource passes (some track)).filterMap
        (PlannedBarrier.realised backing reported) := by
  -- The planner's state and the recording's drift apart with every reader.
  -- What the passes preserve is that the two agree on the layout.
  induction passes generalizing track state with
  | nil => rfl
  | cons pass rest ih =>
      simp only [callsAlong]
      cases hdemand : planning.demand? pass resource with
      | none => exact ih track state hlayout
      | some demand =>
          have hafter := track.after_layout demand (planning.batchOf pass.index)
          simp only [callsFor, follow]
          split
          · next hneeds =>
              -- The layout is right, so the barrier starts where it was planned to.
              have hstate := Track.state_needsBarrier hneeds
              have hstart : (PlannedBarrier.mk pass.index resource (planning.isImage resource)
                  track.state demand.state (planning.aspect resource) false).startingFrom state
                  = track.state := by
                simp only [PlannedBarrier.startingFrom, hlayout, Bool.false_or, bne_self_eq_false,
                  Bool.false_eq_true, if_false]
              simp only [List.cons_append, List.nil_append, settleOne, hstart, hstate, if_true,
                List.filterMap_cons, PlannedBarrier.realised, Bool.false_eq_true, if_false]
              exact congrArg _ (ih _ demand.state hafter.symm)
          · next hneeds =>
              have hsame := Track.layout_of_not_needsBarrier (Bool.not_eq_true _ ▸ hneeds)
              rw [List.nil_append]
              exact ih _ state (hlayout.trans (hsame.symm.trans hafter.symm))

/-- From the state that was reported, the entry is settled on its own, and
    then the resource is known. -/
theorem settleOne_callsAlong (resource : String) (passes : List Pass) (backing : Backing)
    (reported : ResourceState) :
    (settleOne backing (planning.callsAlong resource passes none) reported).2
      = (planning.callsAlong resource passes none).filterMap
        (PlannedBarrier.realised backing reported) := by
  induction passes with
  | nil => rfl
  | cons pass rest ih =>
      simp only [callsAlong]
      cases hdemand : planning.demand? pass resource with
      | none => exact ih
      | some demand =>
          have hrest := planning.settleOne_callsAlong_known resource rest
            (Track.first demand (planning.batchOf pass.index)) backing reported demand.state rfl
          simp only [callsFor, follow, List.cons_append, List.nil_append, settleOne,
            PlannedBarrier.startingFrom, Bool.true_or, if_true, List.filterMap_cons,
            PlannedBarrier.realised, hrest]
          split
          · rfl
          · rfl

end Planning

/-- A barrier is planned once. -/
theorem nodup_planned (passes : List Pass) (compiled : Compiled)
    (h : compile passes = .ok compiled) (hunreserved : compiled.Unreserved) (resource : String) :
    (compiled.plan.barriers.filter fun planned => planned.resource = resource).Nodup := by
  refine (compile_sorted passes compiled h hunreserved resource).imp ?_
  rintro first second ⟨_, hentry, hlt⟩ hsame
  rw [← hsame] at hentry hlt
  exact Nat.lt_irrefl _ (hlt hentry)

/-- The passes keep clear of the reserved index. -/
theorem compile_unreserved (passes : List Pass) (compiled : Compiled)
    (h : compile passes = .ok compiled) (hreserved : ∀ pass ∈ passes, pass.index ≠ frameStart) :
    compiled.Unreserved := by
  intro pass hpass
  exact hreserved pass ((compile_order_perm passes compiled h).mem_iff.mp hpass)

/-- In a frame that reaches every pass, everything planned comes due. -/
theorem isDue_of_complete (passes : List Pass) (compiled : Compiled)
    (h : compile passes = .ok compiled) (hunreserved : compiled.Unreserved) (scene : Scene)
    (ops : List FrameOp)
    (hcomplete : ∀ pass ∈ compiled.order, ∃ operation ∈ ops, operation.pass = pass.index)
    (planned : PlannedBarrier) (hplanned : planned ∈ compiled.plan.barriers) :
    scene.isDue ops planned = true := by
  have hmem : planned.boundary ∈ frameStart :: dealtPasses ops := by
    rcases compile_boundary passes compiled h planned hplanned with ⟨_, hstart⟩
      | ⟨pass, hpass, hboundary⟩
    · rw [hstart]
      exact List.mem_cons_self
    · rw [hboundary]
      exact List.mem_cons_of_mem _ ((mem_dealtPasses_iff ops pass.index).mpr
        ⟨hcomplete pass hpass, hunreserved pass hpass⟩)
  unfold Scene.isDue
  rw [decide_eq_true hmem, Bool.or_true]

/-- In a frame that reaches every pass in order, what comes due on a resource
    is all that is planned on it, in the order of the plan. -/
theorem dealt_complete (passes : List Pass) (compiled : Compiled)
    (h : compile passes = .ok compiled) (hunreserved : compiled.Unreserved) (scene : Scene)
    (hplan : scene.plan = compiled.plan) (ops : List FrameOp) (hinOrder : compiled.InOrder ops)
    (hcomplete : ∀ pass ∈ compiled.order, ∃ operation ∈ ops, operation.pass = pass.index)
    (resource : String) :
    (scene.dealt ops).filter (fun planned => planned.resource = resource)
      = compiled.planning.callsAlong resource compiled.order none := by
  have hall : (compiled.plan.barriers.filter fun planned => planned.resource = resource).filter
      (scene.isDue ops) = compiled.plan.barriers.filter fun planned => planned.resource = resource := by
    rw [List.filter_eq_self]
    intro planned hplanned
    exact isDue_of_complete passes compiled h hunreserved _ ops hcomplete planned
      (List.mem_filter.mp hplanned).1
  rw [dealt_resource passes compiled h hunreserved scene hplan ops hinOrder resource, hall,
    compile_plan passes compiled h, compiled.planning.filter_usePasses]
  rfl

/-- What a complete frame records on one resource. -/
theorem trace_realised (passes : List Pass) (compiled : Compiled)
    (h : compile passes = .ok compiled) (hunreserved : compiled.Unreserved) (request : Request)
    (pool : Pool) (ops : List FrameOp) (hinOrder : compiled.InOrder ops)
    (hcomplete : ∀ pass ∈ compiled.order, ∃ operation ∈ ops, operation.pass = pass.index)
    (resolution : Resolution)
    (hresolved : (resolve pool compiled.resources ops).result = .ok resolution)
    (group : ResourceGroup) (hgroup : group ∈ compiled.resources.groups) :
    ∃ backing, (resolve pool compiled.resources ops).pool.made? group.isImage group.name
        = some backing
      ∧ ((recordTrace compiled request pool ops).flatMap Stretch.transitions).filter
          (fun transition => transition.planned.resource = group.name)
        = (compiled.plan.barriers.filter fun planned => planned.resource = group.name).filterMap
          (PlannedBarrier.realised backing (pool.reported group.isImage group.name)) := by
  have htyped := compile_typed passes compiled h
  rcases settle_group compiled htyped pool ops resolution hresolved group hgroup
    with ⟨backing, hmade, hsettle⟩
  refine ⟨backing, hmade, ?_⟩
  have hrecorded := (hsettle ((frameScene compiled request resolution).dealt ops)).2
  rw [dealt_complete passes compiled h hunreserved (frameScene compiled request resolution) rfl ops
    hinOrder hcomplete group.name] at hrecorded
  rw [recordTrace_of_resolved compiled request pool ops resolution hresolved,
    Scene.transitions_trace, compile_plan passes compiled h, compiled.planning.filter_usePasses]
  refine hrecorded.trans ?_
  exact compiled.planning.settleOne_callsAlong group.name compiled.order backing _

/-- What was recorded is a blit. -/
def Stretch.isBlit (stretch : Stretch) : Bool :=
  match stretch.part with
  | .working operation =>
    match operation.work with
    | .blit _ => true
    | _ => false
  | _ => false

/-- Apart from blits, the barriers of a stream are the planned ones that were
    recorded, and no blit records buffer barriers. -/
theorem Scene.trace_barriers (scene : Scene) (hdraws : scene.renderers.DrawsOnly)
    (hazards : HazardMask) (ops : List FrameOp) :
    ((scene.trace hazards ops).filter (!·.isBlit)).flatMap
        (fun stretch => imageBarriersOf stretch.commands)
      = Transition.imagesOf ((scene.trace hazards ops).flatMap Stretch.transitions)
    ∧ (scene.trace hazards ops).flatMap (fun stretch => bufferBarriersOf stretch.commands)
      = Transition.buffersOf ((scene.trace hazards ops).flatMap Stretch.transitions) := by
  have hplanned := scene.barriers_of_mem_play hazards
    (.start :: Part.ofOps ops ++ [.closing]) (Cursor.start scene.resolution.states)
  have hunplanned := scene.transitions_of_mem_play hazards
    (.start :: Part.ofOps ops ++ [.closing]) (Cursor.start scene.resolution.states)
  have helsewhere := scene.trace_elsewhere hdraws hazards ops
  have hbuffers := scene.trace_buffers hdraws hazards ops
  unfold trace at helsewhere hbuffers ⊢
  -- From here on it is about any stretches of which these four things hold.
  generalize (scene.play hazards (.start :: Part.ofOps ops ++ [.closing])
    (Cursor.start scene.resolution.states)).2 = stretches at *
  induction stretches with
  | nil => exact ⟨rfl, rfl⟩
  | cons stretch rest ih =>
      have hrest := ih (fun other hother => hplanned other (List.mem_cons_of_mem _ hother))
        (fun other hother => hunplanned other (List.mem_cons_of_mem _ hother))
        (fun other hother => helsewhere other (List.mem_cons_of_mem _ hother))
        (fun other hother => hbuffers other (List.mem_cons_of_mem _ hother))
      have hmem : stretch ∈ stretch :: rest := List.mem_cons_self
      simp only [List.flatMap_cons, Transition.imagesOf_append, Transition.buffersOf_append,
        ← hrest.1, ← hrest.2]
      cases hboundary : stretch.part.isBoundary with
      | true =>
          -- What comes due at a boundary is no blit.
          have hnoBlit : stretch.isBlit = false := by
            unfold Stretch.isBlit
            cases hpart : stretch.part with
            | working operation =>
                rw [hpart] at hboundary
                exact absurd hboundary Bool.false_ne_true
            | _ => rfl
          rcases hplanned stretch hmem hboundary with ⟨himages, hothers⟩
          simp only [List.filter_cons, hnoBlit, Bool.not_false, if_true, List.flatMap_cons,
            himages, hothers, and_self]
      | false =>
          have hnone := hunplanned stretch hmem hboundary
          have hnoBuffers := hbuffers stretch hmem hboundary
          rw [hnone, hnoBuffers]
          refine ⟨?_, rfl⟩
          cases hblit : stretch.isBlit with
          | true =>
              simp only [List.filter_cons, hblit, Bool.not_true, Bool.false_eq_true, if_false]
              rfl
          | false =>
              have hnoWork : ∀ operation blit, stretch.part = .working operation →
                  operation.work ≠ .blit blit := by
                intro operation blit hpart hwork
                unfold Stretch.isBlit at hblit
                simp only [hpart, hwork, Bool.true_eq_false] at hblit
              have hnoImages := (helsewhere stretch hmem hboundary hnoWork).1
              simp only [List.filter_cons, hblit, Bool.not_false, if_true, List.flatMap_cons,
                hnoImages]
              rfl

/-- The commands of a frame that resolves and begins, part by part. -/
theorem commandsOf_record (compiled : Compiled) (request : Request) (replies : Replies)
    (pool : Pool) (device : Device) (ops : List FrameOp) (resolution : Resolution)
    (hresolved : (resolve pool compiled.resources ops).result = .ok resolution)
    (hreset : replies.reset = ResultCode.success) (hbegin : replies.begin = ResultCode.success) :
    commandsOf (record compiled request replies pool device ops).events
      = [.reset, .begin request.usage request.label]
        ++ (recordTrace compiled request pool ops).flatMap Stretch.commands ++ [.finish] := by
  have hrecord := record_of_resolved compiled request replies pool device ops resolution hresolved
  rw [hrecord, commandsOf_recordResolved compiled request replies _ device resolution _ ops hreset
    hbegin, Scene.map_snd_stream,
    recordTrace_of_resolved compiled request pool ops resolution hresolved, Scene.trace_commands]
  rfl

/-- Of the transitions that some barriers are realised by, those of one
    barrier are the ones it is realised by itself. -/
theorem filter_realised (backing : Backing) (reported : ResourceState)
    (barriers : List PlannedBarrier) (hnodup : barriers.Nodup) (planned : PlannedBarrier)
    (hplanned : planned ∈ barriers) :
    (barriers.filterMap (PlannedBarrier.realised backing reported)).filter
        (fun transition => transition.planned = planned)
      = (planned.realised backing reported).toList := by
  have hself : ∀ other transition, PlannedBarrier.realised backing reported other
      = some transition → transition.planned = other := by
    intro other transition hsome
    unfold PlannedBarrier.realised at hsome
    split at hsome
    · split at hsome
      · rw [← Option.some.inj hsome]
      · exact absurd hsome.symm (Option.some_ne_none transition)
    · rw [← Option.some.inj hsome]
  have hone : barriers.filter (fun other => other = planned) = [planned] := by
    rw [List.filter_eq, List.count_eq_one_of_mem hnodup hplanned]
    rfl
  -- Looking at what came of a barrier is looking at the barrier.
  have hswap : barriers.filterMap (fun other => Option.filter
      (fun transition => decide (transition.planned = planned))
      (PlannedBarrier.realised backing reported other))
      = barriers.filterMap fun other => if decide (other = planned) = true then
        PlannedBarrier.realised backing reported other else none := by
    refine List.filterMap_congr ?_
    intro other _
    cases hsome : PlannedBarrier.realised backing reported other with
    | none => simp only [Option.filter_none, ite_self]
    | some transition => simp only [Option.filter_some, hself other transition hsome]
  rw [List.filter_filterMap, hswap, ← List.filterMap_filter, hone, List.filterMap_cons,
    List.filterMap_nil]
  cases planned.realised backing reported with
  | none => rfl
  | some transition => rfl

/-- A complete frame realises the plan. Let every pass have an operation, the
    operations stand in the order of the passes, and no pass carry the
    reserved index. Whatever states the pool reports, the image and buffer
    barriers of the stream are those of blits and, one for one, those of the
    planned barriers that were recorded. Each is on what was made for its
    resource, and leads it from the state it was recorded out of to the planned
    one. A planned barrier that is no entry is recorded once, out of the state it
    was planned from. An entry is recorded once, out of the state that was
    reported, unless that state needs no barrier, and then it is left out. -/
theorem record_realises_plan (passes : List Pass) (compiled : Compiled)
    (h : compile passes = .ok compiled) (hreserved : ∀ pass ∈ passes, pass.index ≠ frameStart)
    (request : Request) (hdraws : request.renderers.DrawsOnly) (replies : Replies)
    (hreset : replies.reset = ResultCode.success) (hbegin : replies.begin = ResultCode.success)
    (pool : Pool) (device : Device) (ops : List FrameOp) (hinOrder : compiled.InOrder ops)
    (hcomplete : ∀ pass ∈ passes, ∃ operation ∈ ops, operation.pass = pass.index)
    (resolution : Resolution)
    (hresolved : (resolve pool compiled.resources ops).result = .ok resolution) :
    ∃ stretches recorded images buffers, stretches = recordTrace compiled request pool ops
      ∧ recorded = stretches.flatMap Stretch.transitions
      ∧ commandsOf (record compiled request replies pool device ops).events
        = [.reset, .begin request.usage request.label]
          ++ stretches.flatMap Stretch.commands ++ [.finish]
      ∧ images = (stretches.filter (!·.isBlit)).flatMap
          (fun stretch => imageBarriersOf stretch.commands)
      ∧ buffers = stretches.flatMap (fun stretch => bufferBarriersOf stretch.commands)
      ∧ List.Forall₂ (fun transition barrier =>
          barrier.Moves transition.backing.handle transition.previous transition.planned.next
            (if transition.backing.aspect = 0 then transition.planned.aspect
              else transition.backing.aspect))
        (recorded.filter (·.planned.isImage)) images
      ∧ List.Forall₂ (fun transition barrier =>
          barrier.Moves transition.backing.handle transition.previous transition.planned.next)
        (recorded.filter (!·.planned.isImage)) buffers
      ∧ (∀ transition ∈ recorded, transition.planned ∈ compiled.plan.barriers)
      ∧ ∀ planned ∈ compiled.plan.barriers, ∃ backing reported,
        (resolve pool compiled.resources ops).pool.made? planned.isImage planned.resource
            = some backing
          ∧ reported = pool.reported planned.isImage planned.resource
          ∧ (planned.entry = false →
            recorded.filter (fun transition => transition.planned = planned)
              = [⟨planned, planned.previous, backing⟩])
          ∧ (planned.entry = true → reported.needsBarrier planned.next = true →
            recorded.filter (fun transition => transition.planned = planned)
              = [⟨planned, reported, backing⟩])
          ∧ (planned.entry = true → reported.needsBarrier planned.next = false →
            recorded.filter (fun transition => transition.planned = planned) = []) := by
  have htyped := compile_typed passes compiled h
  have hunreserved := compile_unreserved passes compiled h hreserved
  have hall : ∀ pass ∈ compiled.order, ∃ operation ∈ ops, operation.pass = pass.index :=
    fun pass hpass => hcomplete pass ((compile_order_perm passes compiled h).mem_iff.mp hpass)
  have htrace := recordTrace_of_resolved compiled request pool ops resolution hresolved
  have hbarriers := (frameScene compiled request resolution).trace_barriers hdraws
    request.hazards ops
  rw [← htrace] at hbarriers
  refine ⟨_, _, _, _, rfl, rfl, commandsOf_record compiled request replies pool device ops
    resolution hresolved hreset hbegin, rfl, rfl, ?_, ?_, ?_, ?_⟩
  · rw [hbarriers.1]
    exact Transition.forall₂_imagesOf _
  · rw [hbarriers.2]
    exact Transition.forall₂_buffersOf _
  · exact planned_of_mem_trace compiled request pool ops
  · intro planned hplanned
    rcases htyped.registered planned hplanned with ⟨group, hgroup, hname, hkind⟩
    rcases trace_realised passes compiled h hunreserved request pool ops hinOrder hall resolution
      hresolved group hgroup with ⟨backing, hmade, hrecorded⟩
    rw [hname, hkind] at hmade hrecorded
    have hfilter : ((recordTrace compiled request pool ops).flatMap Stretch.transitions).filter
          (fun transition => transition.planned = planned)
        = (planned.realised backing
            (pool.reported planned.isImage planned.resource)).toList := by
      -- What is recorded for the barrier is among what is recorded on its resource.
      have hmine : planned ∈ compiled.plan.barriers.filter
          fun other => other.resource = planned.resource :=
        List.mem_filter.mpr ⟨hplanned, decide_eq_true rfl⟩
      rw [← filter_realised backing _ _ (nodup_planned passes compiled h hunreserved _) planned
        hmine, ← hrecorded, List.filter_filter]
      refine List.filter_congr ?_
      intro transition _
      by_cases hsame : transition.planned = planned
      · simp only [hsame, decide_true, Bool.and_self]
      · simp only [hsame, decide_false, Bool.false_and]
    refine ⟨backing, _, hmade, rfl, ?_, ?_, ?_⟩
    · intro hentry
      rw [hfilter, planned.realised_of_not_entry backing _ hentry]
      rfl
    · intro hentry hneeds
      rw [hfilter, planned.realised_of_entry backing _ hentry, if_pos hneeds]
      rfl
    · intro hentry hneeds
      rw [hfilter, planned.realised_of_entry backing _ hentry, if_neg (Bool.not_eq_true _ ▸ hneeds)]
      rfl

/-- The image that is drawn and then sampled enters the frame out of the
    state that was reported, and is sampled once the drawing is done. -/
theorem record_realises_drawn :
    ∃ recorded images, recorded = (recordTrace (Compiled.ofOrder drawnThenSampled)
          ⟨0, oneTimeSubmit, "frame", oneDraw⟩ poolOfTwo (mixedOps.take 2)).flatMap
          Stretch.transitions
      ∧ images = ((recordTrace (Compiled.ofOrder drawnThenSampled)
          ⟨0, oneTimeSubmit, "frame", oneDraw⟩ poolOfTwo (mixedOps.take 2)).filter
            (!·.isBlit)).flatMap (fun stretch => imageBarriersOf stretch.commands)
      ∧ List.Forall₂ (fun transition barrier => barrier.Leads transition.backing.handle
          transition.previous.layout transition.planned.next.layout)
        (recorded.filter (·.planned.isImage)) images
      ∧ ∀ planned ∈ (Compiled.ofOrder drawnThenSampled).plan.barriers,
        (recorded.filter fun transition => transition.planned = planned).map
            (fun transition => (transition.previous, transition.planned.next))
          = if planned.entry then [(ImageState.undefined, ImageState.colorAttachmentWrite)]
            else [(ImageState.colorAttachmentWrite, ImageState.shaderReadFragment)] := by
  have hcompile : compile drawnThenSampled = .ok (Compiled.ofOrder drawnThenSampled) := by rfl
  have hinOrder : (Compiled.ofOrder drawnThenSampled).InOrder (mixedOps.take 2) :=
    ⟨by decide, by decide⟩
  rcases record_realises_plan drawnThenSampled _ hcompile (by decide)
    ⟨0, oneTimeSubmit, "frame", oneDraw⟩ drawsOnly_oneDraw Replies.good rfl rfl poolOfTwo
    Device.working (mixedOps.take 2) hinOrder (by decide) _ rfl
    with ⟨_, recorded, images, _, rfl, hrecorded, _, himages, _, hmoves, _, _, hplanned⟩
  refine ⟨recorded, images, hrecorded, himages, hmoves.imp fun _ _ h => h.toLeads, ?_⟩
  intro planned hmem
  rcases hplanned planned hmem with ⟨backing, reported, _, hreported, hlater, hentry, _⟩
  -- Two barriers are planned.
  have hbarriers : (Compiled.ofOrder drawnThenSampled).plan.barriers
      = [⟨0, "color", true, ImageState.undefined, ImageState.colorAttachmentWrite,
          AspectMask.color, true⟩,
        ⟨1, "color", true, ImageState.colorAttachmentWrite, ImageState.shaderReadFragment,
          AspectMask.color, false⟩] := by rfl
  rw [hbarriers] at hmem
  simp only [List.mem_cons, List.not_mem_nil, or_false] at hmem
  rcases hmem with rfl | rfl
  · have hstart : reported = ImageState.undefined := hreported.trans rfl
    rw [hstart] at hentry
    rw [hentry rfl (by decide)]
    rfl
  · rw [hlater rfl]
    rfl

end FrameGraph
