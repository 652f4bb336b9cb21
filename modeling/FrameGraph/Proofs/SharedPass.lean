import FrameGraph.Proofs.Guarded
import FrameGraph.Proofs.IdlePasses

/-!
# When a Batch Shares a Render Pass

The planner leaves out the barrier between two uses of an attachment in one
batch, for a batch is meant to be recorded in one render pass. Whether it is
depends on more than the batch. A render pass ends where planned barriers are
recorded, whatever they are for, and a later pass of the batch may have one on
a texture or a buffer that only this pass uses.

So nothing is said here of attachments. Between two operations that draw, of
one batch and so in one context, the render pass ends exactly if some pass is
reached in between for the first time with barriers at its boundary. What is
drawn before and after it then is in two render passes, and no barrier is on
the attachments.

Only the cursor knows which render pass is open, and it does not see what was
recorded before. The two are tied together by the protocol of the stream: the
begins and ends so far alternate, and the last one is a begin exactly if the
cursor says that a render pass is open.

## Main definitions

* `FrameOp.drawsInPass`: The operation draws in the render pass of its context.
* `Scene.DrawsFor`: A cursor in a render pass that is open for a context.
* `Compiled.OneContext`: Operations of one batch are in one context.
* `decalsOverScene`: Passes of one batch with a barrier between them.

## Theorems

* `Scene.recordWork_of_draws`: What draws is recorded in a render pass.
* `Scene.enterPass_of_not_due`, `Scene.enterPass_ends`: A boundary leaves the
  render pass alone, or ends it.
* `Scene.passEdges_recordOp`, `Scene.passEdges_ops`: When the render pass stays
  open over an operation, and over some of them.
* `Scene.passEdges_front`: A render pass is open after an operation that draws.
* `Compiled.InOrder.dealt_iff`: Which passes were reached up to an operation.
* `compile_ops_between`: What is between two operations of a batch is of it.
* `record_sharedPass`: When two passes of a batch are recorded in one render
  pass.
-/

namespace FrameGraph

open Gpu

namespace FrameOp

/-- The operation draws in the render pass of its context. A clear has to
    have something to clear. -/
def drawsInPass (operation : FrameOp) : Bool :=
  match operation.work with
  | .clear clear => clear.color || clear.depth || clear.stencil
  | .mesh _ _ | .indirect _ => true
  | .blit _ | .dispatch _ => false

/-- What draws needs the surface of its context. -/
theorem mem_surfaces_of_draws {operation : FrameOp} (h : operation.drawsInPass = true) :
    operation.context.target ∈ operation.surfaces := by
  unfold drawsInPass at h
  unfold surfaces
  cases hwork : operation.work with
  | clear clear => exact List.mem_singleton_self _
  | mesh state renderer => exact List.mem_singleton_self _
  | indirect draw => exact List.mem_singleton_self _
  | blit blit => simp only [hwork, Bool.false_eq_true] at h
  | dispatch dispatch => simp only [hwork, Bool.false_eq_true] at h

end FrameOp

/-- A clear has attachments to clear exactly if it has an aspect. -/
theorem Clear.isEmpty_attachments (clear : Clear) :
    clear.attachments.isEmpty = !(clear.color || clear.depth || clear.stencil) := by
  unfold attachments depthStencilAspect
  cases clear.color with
  | true => rfl
  | false =>
      cases clear.depth with
      | true => cases clear.stencil <;> rfl
      | false => cases clear.stencil <;> rfl

theorem passEdges_append (first second : List Command) :
    passEdges (first ++ second) = passEdges first ++ passEdges second :=
  List.filterMap_append

/-- Bindings and draws begin and end nothing. -/
theorem passEdges_of_drawing (commands : List Command)
    (h : ∀ command ∈ commands, command.role = .inside ∨ command.role = .anywhere) :
    passEdges commands = [] := by
  refine List.filterMap_eq_nil_iff.mpr ?_
  intro command hcommand
  unfold PassEdge.of?
  rcases h command hcommand with hrole | hrole
  · rw [hrole]
  · rw [hrole]

namespace Scene

variable (scene : Scene)

/-- What draws is recorded in the render pass of its context, and is itself
    made of bindings and draws. -/
theorem recordWork_of_draws (hdraws : scene.renderers.DrawsOnly) (operation : FrameOp)
    (h : operation.drawsInPass = true) :
    ∃ body, scene.recordWork operation = scene.inRenderPass operation.context body
      ∧ ∀ binding, ∀ command ∈ body binding,
        command.role = .inside ∨ command.role = .anywhere := by
  unfold FrameOp.drawsInPass at h
  unfold recordWork
  cases hwork : operation.work with
  | clear clear =>
      rw [hwork] at h
      simp only [recordClear, Clear.isEmpty_attachments, h, Bool.not_true, Bool.false_eq_true,
        if_false]
      refine ⟨_, rfl, ?_⟩
      intro _ command hcommand
      rw [List.mem_singleton.mp hcommand]
      exact Or.inl rfl
  | mesh state renderer => exact ⟨_, rfl, scene.role_mesh hdraws state renderer⟩
  | indirect draw => exact ⟨_, rfl, fun _ => role_indirect draw⟩
  | blit blit => simp only [hwork, Bool.false_eq_true] at h
  | dispatch dispatch => simp only [hwork, Bool.false_eq_true] at h

/-- A render pass that is open for a context is gone on with. In any case one
    is open for it afterwards. -/
theorem inRenderPass_spec {context : Context} {binding : TargetBinding}
    (hbinding : scene.resolution.targets.get? context.target = some binding)
    (body : TargetBinding → List Command) (cursor : Cursor) :
    (scene.inRenderPass context body cursor).1.current = some context
      ∧ (cursor.current = some context →
        (scene.inRenderPass context body cursor).2 = body binding) := by
  unfold inRenderPass
  rw [hbinding]
  simp only
  by_cases hcurrent : cursor.current = some context
  · rw [if_pos hcurrent]
    exact ⟨hcurrent, fun _ => rfl⟩
  · rw [if_neg hcurrent]
    exact ⟨rfl, fun hsome => absurd hsome hcurrent⟩

/-- Where nothing is due, entering a pass records nothing and leaves the
    render pass alone. -/
theorem enterPass_of_not_due {pass : PassIndex} {cursor : Cursor}
    (h : scene.due cursor (.entering pass) = []) :
    (scene.enterPass pass cursor).1.current = cursor.current
      ∧ (scene.enterPass pass cursor).2 = [] := by
  rw [scene.enterPass_eq, h]
  exact ⟨rfl, rfl⟩

/-- Where something is due, a render pass that is open ends. -/
theorem enterPass_ends {pass : PassIndex} {cursor : Cursor} {context : Context}
    (h : scene.due cursor (.entering pass) ≠ []) (hopen : cursor.current = some context) :
    passEdges (scene.enterPass pass cursor).2 ≠ [] := by
  rw [scene.enterPass_eq, scene.dealWith_of_ne h]
  simp only [noteReached, Step.andThen, Step.closeRenderPass, hopen]
  exact List.cons_ne_nil _ _

/-- A render pass is open for the context, and the pass of the last operation
    counts as reached. -/
structure DrawsFor (context : Context) (cursor : Cursor) : Prop where
  current : cursor.current = some context
  reached : ∀ pass, cursor.pass = some pass → pass ∈ cursor.passed

/-- Nothing is due at a pass that was reached before, or that has no
    barriers. -/
theorem due_entering_iff {context : Context} {cursor : Cursor} (h : DrawsFor context cursor)
    (pass : PassIndex) :
    scene.due cursor (.entering pass) = []
      ↔ pass ∈ cursor.passed ∨ scene.boundaryBarriers pass = [] := by
  simp only [due]
  by_cases hreached : pass ∈ cursor.passed
  · simp only [hreached, or_true, if_true, true_or]
  · have hcurrent : ¬ cursor.pass = some pass := fun hsome => hreached (h.reached pass hsome)
    simp only [hreached, hcurrent, or_self, if_false, false_or]

/-- An operation records what entering its pass does, and then its work. -/
theorem recordOp_commands (operation : FrameOp) (cursor : Cursor) :
    (scene.recordOp operation cursor).2
      = (scene.enterPass operation.pass cursor).2
        ++ (scene.recordWork operation (scene.enterPass operation.pass cursor).1).2 := by
  simp only [recordOp, Step.all, Step.andThen, Step.emit, List.append_nil]

-- One operation. It ends with the render pass of its context open in any case,
-- and what decides is only whether it is still the one that it began with.
theorem passEdges_recordOp (hdraws : scene.renderers.DrawsOnly) (operation : FrameOp)
    (hdrawn : operation.drawsInPass = true) {binding : TargetBinding}
    (hbinding : scene.resolution.targets.get? operation.context.target = some binding)
    (cursor : Cursor) (h : DrawsFor operation.context cursor) :
    DrawsFor operation.context (scene.recordOp operation cursor).1
      ∧ (∀ pass, pass ∈ (scene.recordOp operation cursor).1.passed
        ↔ pass ∈ cursor.passed ∨ pass = operation.pass)
      ∧ (passEdges (scene.recordOp operation cursor).2 = []
        ↔ operation.pass ∈ cursor.passed ∨ scene.boundaryBarriers operation.pass = []) := by
  rcases scene.recordWork_of_draws hdraws operation hdrawn with ⟨body, hwork, hbody⟩
  rcases scene.enterPass_spec operation.pass cursor with ⟨hentered, hpassed, _⟩
  have hkeeps := scene.keeps_recordWork operation (scene.enterPass operation.pass cursor).1
  have hspec := scene.inRenderPass_spec hbinding body (scene.enterPass operation.pass cursor).1
  have hreached : ∀ pass, pass ∈ (scene.recordOp operation cursor).1.passed
      ↔ pass ∈ cursor.passed ∨ pass = operation.pass := by
    intro pass
    change pass ∈ (scene.recordWork operation (scene.enterPass operation.pass cursor).1).1.passed
      ↔ _
    rw [hkeeps.2.1, hpassed]
    split
    · next hbefore =>
        have hmem := hbefore.elim (h.reached _) id
        exact ⟨Or.inl, fun hor => hor.elim id fun hsame => hsame ▸ hmem⟩
    · rw [List.mem_cons, or_comm]
  refine ⟨⟨?_, ?_⟩, hreached, ?_⟩
  · change (scene.recordWork operation (scene.enterPass operation.pass cursor).1).1.current = _
    rw [hwork]
    exact hspec.1
  · intro pass hsome
    change (scene.recordWork operation (scene.enterPass operation.pass cursor).1).1.pass = _
      at hsome
    rw [hkeeps.1, hentered, Option.some.injEq] at hsome
    exact (hreached pass).mpr (Or.inr hsome.symm)
  · rw [← scene.due_entering_iff h]
    rw [scene.recordOp_commands, passEdges_append, List.append_eq_nil_iff]
    constructor
    · rintro ⟨hquiet, _⟩
      by_contra hdue
      exact scene.enterPass_ends hdue h.current hquiet
    · intro hnone
      -- Nothing is recorded on entering, and the body goes on in what is open.
      rcases scene.enterPass_of_not_due hnone with ⟨hsame, hquiet⟩
      rw [hquiet, hwork, hspec.2 (hsame.trans h.current)]
      exact ⟨rfl, passEdges_of_drawing _ (hbody binding)⟩

/-- From a render pass that is open for their context, operations that draw
    are recorded without a begin or an end exactly if no pass among theirs is
    reached for the first time with barriers at its boundary. The induction is
    on the operations, with the render pass open between any two. -/
theorem passEdges_ops (hdraws : scene.renderers.DrawsOnly) {context : Context}
    {binding : TargetBinding}
    (hbinding : scene.resolution.targets.get? context.target = some binding)
    (ops : List FrameOp)
    (hops : ∀ operation ∈ ops, operation.drawsInPass = true ∧ operation.context = context)
    (cursor : Cursor) (h : DrawsFor context cursor) :
    passEdges (Step.all (ops.map scene.recordOp) cursor).2 = []
      ↔ ∀ operation ∈ ops,
        operation.pass ∈ cursor.passed ∨ scene.boundaryBarriers operation.pass = [] := by
  induction ops generalizing cursor with
  | nil => exact ⟨fun _ operation hmem => absurd hmem List.not_mem_nil, fun _ => rfl⟩
  | cons operation rest ih =>
      rw [List.forall_mem_cons] at hops
      rcases hops with ⟨⟨hdrawn, rfl⟩, hrest⟩
      rcases scene.passEdges_recordOp hdraws operation hdrawn hbinding cursor h
        with ⟨hopen, hpassed, hfirst⟩
      have hlater := ih hrest _ hopen
      change passEdges ((scene.recordOp operation cursor).2
        ++ (Step.all (rest.map scene.recordOp) (scene.recordOp operation cursor).1).2) = [] ↔ _
      rw [passEdges_append, List.append_eq_nil_iff, hfirst, hlater, List.forall_mem_cons]
      refine and_congr_right ?_
      intro hquiet
      -- The pass of the operation is reached now, but it had nothing due.
      refine forall₂_congr ?_
      intro other _
      rw [hpassed]
      constructor
      · rintro ((hbefore | hsame) | hnone)
        · exact Or.inl hbefore
        · rw [hsame]
          exact hquiet
        · exact Or.inr hnone
      · rintro (hbefore | hnone)
        · exact Or.inl (Or.inl hbefore)
        · exact Or.inr hnone

/-- After an operation that draws, a render pass is open for its context: the
    begins and ends so far alternate and the last one is a begin. -/
theorem passEdges_front (hdraws : scene.renderers.DrawsOnly) (hazards : HazardMask)
    (front : List FrameOp) (operation : FrameOp) (hdrawn : operation.drawsInPass = true)
    {binding : TargetBinding}
    (hbinding : scene.resolution.targets.get? operation.context.target = some binding) :
    (scene.play hazards (.start :: Part.ofOps (front ++ [operation]))
        (Cursor.start scene.resolution.states)).1.current = some operation.context
      ∧ ∃ count, passEdges ((scene.play hazards (.start :: Part.ofOps (front ++ [operation]))
          (Cursor.start scene.resolution.states)).2.flatMap Stretch.commands)
        = PassEdge.alternating count ++ [.begins] := by
  have hcurrent : (scene.play hazards (.start :: Part.ofOps (front ++ [operation]))
      (Cursor.start scene.resolution.states)).1.current = some operation.context := by
    rcases scene.recordWork_of_draws hdraws operation hdrawn with ⟨body, hwork, _⟩
    rw [ofOps_append, ← List.cons_append, play_append]
    simp only [play, recordPart, hwork, Step.andThen]
    exact (scene.inRenderPass_spec hbinding body _).1
  refine ⟨hcurrent, ?_⟩
  have hparts := scene.play_eq hazards (.start :: Part.ofOps (front ++ [operation]))
    (Cursor.start scene.resolution.states)
  rw [List.map_cons, Step.all, all_ofOps] at hparts
  rw [hparts.1] at hcurrent
  rw [hparts.2]
  rcases scene.leads_startFrame scene.resolution.targets.get? .start hazards
    (Cursor.start scene.resolution.states) [] ⟨rfl, rfl⟩ with ⟨_, hstart, hafter, rfl⟩
  rcases scene.run_ops scene.resolution.targets.get? (fun _ _ hget => hget) hdraws
    (front ++ [operation]) _ [] (Standing.idle hafter) with ⟨last, hrun, hlast⟩
  -- The bracket that is open at the end is the one the cursor knows of.
  have hrunAll := Protocol.run_append_of_eq _ hstart hrun
  have hsingle : Protocol.SinglePass [] := trivial
  rcases Protocol.passEdges_of_run _ hsingle hrunAll with ⟨count, hedges⟩
  rw [List.map_append, Origin.map_snd_sends, map_snd_attributed, scene.map_snd_ops] at hedges
  refine ⟨count, ?_⟩
  cases hlast with
  | idle hnone => exact absurd (hnone.symm.trans hcurrent).symm (Option.some_ne_none _)
  | drawing _ _ => exact hedges

end Scene

namespace Compiled

variable (compiled : Compiled)

/-- Operations of one batch are in one context. -/
def OneContext (ops : List FrameOp) : Prop :=
  ∀ batch ∈ compiled.batches, ∀ first ∈ ops, ∀ second ∈ ops, first.pass ∈ batch.passes →
    second.pass ∈ batch.passes → first.context = second.context

variable {compiled} in
/-- Of the passes that come after an operation, only its own was reached by
    then. An earlier one is not ranked after it. -/
theorem InOrder.dealt_iff {front : List FrameOp} {first : FrameOp} {rest : List FrameOp}
    (h : compiled.InOrder ((front ++ [first]) ++ rest)) (operation : FrameOp)
    (hoperation : operation ∈ rest) :
    operation.pass ∈ FrameGraph.dealtPasses (front ++ [first])
      ↔ operation.pass = first.pass ∧ operation.pass ≠ frameStart := by
  have hfirst : first ∈ front ++ [first] :=
    List.mem_append_right _ (List.mem_singleton_self first)
  rw [mem_dealtPasses_iff]
  constructor
  · rintro ⟨⟨earlier, hearlier, hsame⟩, hunreserved⟩
    have hbefore := h.front.rank_le_last earlier hearlier
    have hafter := (List.pairwise_append.mp h.ascending).2.2 first hfirst operation hoperation
    rw [hsame] at hbefore
    refine ⟨compiled.rankOrLowest_injective ?_ ?_ (by omega), hunreserved⟩
    · exact h.known operation (List.mem_append_right _ hoperation)
    · exact h.known first (List.mem_append_left _ hfirst)
  · rintro ⟨hsame, hunreserved⟩
    exact ⟨⟨first, hfirst, hsame.symm⟩, hunreserved⟩

end Compiled

/-- What is between two operations of a batch is of the batch. -/
theorem compile_ops_between (passes : List Pass) (compiled : Compiled)
    (h : compile passes = .ok compiled) (front : List FrameOp) (first : FrameOp)
    (middle : List FrameOp) (second : FrameOp) (back : List FrameOp)
    (hinOrder : compiled.InOrder ((front ++ [first]) ++ ((middle ++ [second]) ++ back)))
    (batch : Batch) (hbatch : batch ∈ compiled.batches) (hfirst : first.pass ∈ batch.passes)
    (hsecond : second.pass ∈ batch.passes) :
    ∀ operation ∈ middle ++ [second], operation.pass ∈ batch.passes := by
  intro operation hoperation
  have hreached : compiled.InOrder (((front ++ [first]) ++ middle) ++ [second]) := by
    have hwhole : compiled.InOrder ((((front ++ [first]) ++ middle) ++ [second]) ++ back) := by
      simpa only [List.append_assoc] using hinOrder
    exact hwhole.front
  have hplace : operation ∈ ((front ++ [first]) ++ middle) ++ [second] := by
    rw [List.append_assoc]
    exact List.mem_append_right _ hoperation
  have hafter := (List.pairwise_append.mp hinOrder.ascending).2.2 first
    (List.mem_append_right _ (List.mem_singleton_self first)) operation
    (List.mem_append_left _ hoperation)
  exact compile_batch_between passes compiled h batch hbatch hfirst hsecond
    (hreached.known operation hplace) hafter (hreached.rank_le_last operation hplace)

/-- When two passes of a batch are recorded in one render pass. Let the
    operations draw, stand in the order of their passes and share a context
    within a batch. From the work of one operation up to the work of a later
    one of the same batch, the render pass that is open stays open, and no
    other is begun, exactly if every other pass reached in between has no
    barriers at its boundary, whatever they would be for. -/
theorem record_sharedPass (passes : List Pass) (compiled : Compiled)
    (h : compile passes = .ok compiled) (request : Request)
    (hdraws : request.renderers.DrawsOnly) (replies : Replies)
    (hreset : replies.reset = ResultCode.success) (hbegin : replies.begin = ResultCode.success)
    (pool : Pool) (device : Device) (ops front : List FrameOp) (first : FrameOp)
    (middle : List FrameOp) (second : FrameOp) (back : List FrameOp)
    (hops : ops = front ++ first :: (middle ++ second :: back))
    (hinOrder : compiled.InOrder ops) (hdrawn : ∀ operation ∈ ops, operation.drawsInPass = true)
    (hcontexts : compiled.OneContext ops) (batch : Batch) (hbatch : batch ∈ compiled.batches)
    (hfirst : first.pass ∈ batch.passes) (hsecond : second.pass ∈ batch.passes)
    (resolution : Resolution)
    (hresolved : (resolve pool compiled.resources ops).result = .ok resolution) :
    ∃ before between after count,
      recordTrace compiled request pool ops = before ++ (between ++ after)
      ∧ commandsOf (record compiled request replies pool device ops).events
        = [.reset, .begin request.usage request.label]
          ++ (before ++ (between ++ after)).flatMap Stretch.commands ++ [.finish]
      ∧ before.map Stretch.part = .start :: Part.ofOps (front ++ [first])
      ∧ between.map Stretch.part = Part.ofOps (middle ++ [second])
      ∧ passEdges (before.flatMap Stretch.commands) = PassEdge.alternating count ++ [.begins]
      ∧ (passEdges (between.flatMap Stretch.commands) = []
        ↔ ∀ operation ∈ middle ++ [second], operation.pass ≠ first.pass →
          operation.pass ≠ frameStart →
          (frameScene compiled request resolution).boundaryBarriers operation.pass = []) := by
  -- The frame is cut right after the work of either operation.
  have hcut : ops = (front ++ [first]) ++ ((middle ++ [second]) ++ back) := by
    rw [hops]
    simp only [List.append_assoc, List.singleton_append]
  clear hops
  subst hcut
  have hfirstMem : first ∈ (front ++ [first]) ++ ((middle ++ [second]) ++ back) :=
    List.mem_append_left _ (List.mem_append_right _ (List.mem_singleton_self first))
  have hmem : ∀ operation ∈ middle ++ [second],
      operation ∈ (front ++ [first]) ++ ((middle ++ [second]) ++ back) :=
    fun operation hoperation => List.mem_append_right _ (List.mem_append_left _ hoperation)
  rcases resolve_bound pool compiled.resources _ resolution hresolved first.context.target
    (mem_neededSurfaces hfirstMem (FrameOp.mem_surfaces_of_draws (hdrawn first hfirstMem)))
    with ⟨binding, hbinding⟩
  have hparts : Part.start :: Part.ofOps ((front ++ [first]) ++ ((middle ++ [second]) ++ back))
        ++ [Part.closing]
      = (Part.start :: Part.ofOps (front ++ [first]))
        ++ (Part.ofOps (middle ++ [second]) ++ (Part.ofOps back ++ [.closing])) := by
    simp only [Part.ofOps, List.flatMap_append, List.flatMap_cons, List.flatMap_nil,
      List.cons_append, List.nil_append, List.append_assoc]
  have hcommands := commandsOf_record compiled request replies pool device _ resolution hresolved
    hreset hbegin
  have htrace := recordTrace_of_resolved compiled request pool _ resolution hresolved
  unfold Scene.trace at htrace
  rw [hparts, Scene.play_append, Scene.play_append] at htrace
  rw [htrace] at hcommands
  rcases (frameScene compiled request resolution).passEdges_front hdraws request.hazards front first
    (hdrawn first hfirstMem) hbinding with ⟨hcurrent, count, hedges⟩
  refine ⟨_, _, _, count, htrace, hcommands, Scene.parts_play _ _ _ _, Scene.parts_play _ _ _ _,
    hedges, ?_⟩
  -- In between everything draws in the context of the first operation.
  have hbetween := compile_ops_between passes compiled h front first middle second back hinOrder
    batch hbatch hfirst hsecond
  have hopsBetween : ∀ operation ∈ middle ++ [second],
      operation.drawsInPass = true ∧ operation.context = first.context := by
    intro operation hoperation
    have hin := hmem operation hoperation
    exact ⟨hdrawn operation hin, hcontexts batch hbatch operation hin first hfirstMem
      (hbetween operation hoperation) hfirst⟩
  have hat := ((frameScene compiled request resolution).play_ops request.hazards
    (front ++ [first])).1
  rw [((frameScene compiled request resolution).play_eq request.hazards _ _).2, Scene.all_ofOps,
    (frameScene compiled request resolution).passEdges_ops hdraws hbinding (middle ++ [second])
      hopsBetween _ ⟨hcurrent, hat.current⟩]
  refine forall₂_congr ?_
  intro operation hoperation
  rw [hat.passed, hinOrder.dealt_iff operation (List.mem_append_left _ hoperation)]
  constructor
  · rintro ((hstart | ⟨hsame, _⟩) | hnone) hother hunreserved
    · exact absurd hstart hunreserved
    · exact absurd hsame hother
    · exact hnone
  · intro hall
    by_cases hstart : operation.pass = frameStart
    · exact Or.inl (Or.inl hstart)
    · by_cases hsame : operation.pass = first.pass
      · exact Or.inl (Or.inr ⟨hsame, hstart⟩)
      · exact Or.inr (hall hsame hstart)

/-- Lights are culled, a scene is drawn, and decals are drawn over it that read
    the lights. -/
def decalsOverScene : List Pass := [
  ⟨0, "cull", .compute, [Usage.plain .write .storageBuffer "lights"]⟩,
  ⟨1, "opaque", .graphics,
    [Usage.attachment .colorAttachment "hdr" LoadOp.load StoreOp.store]⟩,
  ⟨2, "decals", .graphics, [Usage.plain .read .storageBuffer "lights",
    Usage.attachment .colorAttachment "hdr" LoadOp.load StoreOp.store]⟩]

theorem compile_decalsOverScene :
    compile decalsOverScene = .ok (Compiled.ofOrder decalsOverScene) := by
  rfl

/-- The scene and the decals are one batch. -/
theorem batch_decalsOverScene :
    (⟨1, .graphics, "color:hdr:LOAD:STORE", [1, 2]⟩ : Batch)
      ∈ (Compiled.ofOrder decalsOverScene).batches := by
  decide +kernel

theorem inOrder_decalsOverScene :
    (Compiled.ofOrder decalsOverScene).InOrder [clearOp 1, clearOp 2] :=
  ⟨by decide, by decide⟩

/-- All operations are in one context. -/
theorem oneContext_decalsOverScene :
    (Compiled.ofOrder decalsOverScene).OneContext [clearOp 1, clearOp 2] := by
  intro batch _ first hfirst second hsecond _ _
  simp only [List.mem_cons, List.not_mem_nil, or_false] at hfirst hsecond
  rcases hfirst with rfl | rfl <;> rcases hsecond with rfl | rfl <;> rfl

/-- The barrier on the lights before the decals. -/
def lightsRead : PlannedBarrier :=
  ⟨2, "lights", false, BufferState.storageWriteCompute, BufferState.storageReadGraphics, 0, false⟩

/-- It is the only one there. -/
theorem barriersAt_decalsOverScene :
    (Compiled.ofOrder decalsOverScene).plan.barriersAt 2 = [lightsRead] := by
  decide +kernel

/-- It is recorded at the boundary of the decals, whatever else is known. -/
theorem boundary_decalsOverScene (request : Request) (resolution : Resolution) :
    (frameScene (Compiled.ofOrder decalsOverScene) request resolution).boundaryBarriers 2
      = [lightsRead] := by
  have hhoists : (frameScene (Compiled.ofOrder decalsOverScene) request resolution).hoists
      = true := by
    change (Compiled.ofOrder decalsOverScene).plan.swapchainBarriers?.isNone = true
    decide +kernel
  unfold Scene.boundaryBarriers
  rw [if_pos hhoists]
  change PlannedBarrier.withoutEntries ((Compiled.ofOrder decalsOverScene).plan.barriersAt 2) = _
  rw [barriersAt_decalsOverScene]
  rfl

/-- A clear in either pass is recorded. -/
def decalsTrace : List Stretch :=
  recordTrace (Compiled.ofOrder decalsOverScene) ⟨0, oneTimeSubmit, "", oneDraw⟩ poolOfTwo
    [clearOp 1, clearOp 2]

/-- The barrier on the lights parts them. -/
theorem record_sharedPass_decals :
    ∃ before between after, decalsTrace = before ++ (between ++ after)
      ∧ between.map Stretch.part = [.entering 2, .working (clearOp 2)]
      ∧ passEdges (between.flatMap Stretch.commands) ≠ [] := by
  rcases record_sharedPass decalsOverScene _ compile_decalsOverScene
    ⟨0, oneTimeSubmit, "", oneDraw⟩ drawsOnly_oneDraw Replies.good rfl rfl poolOfTwo Device.working
    [clearOp 1, clearOp 2] [] (clearOp 1) [] (clearOp 2) [] rfl inOrder_decalsOverScene
    (by decide) oneContext_decalsOverScene _ batch_decalsOverScene (by decide) (by decide) _ rfl
    with ⟨before, between, after, _, htrace, _, _, hparts, _, hshared⟩
  refine ⟨before, between, after, htrace, hparts, ?_⟩
  intro hnone
  have hboundary := hshared.mp hnone (clearOp 2) (by decide) (by decide) (by decide)
  exact List.cons_ne_nil _ _ ((boundary_decalsOverScene _ _).symm.trans hboundary)

/-- So two passes of a batch that attach an image, without a barrier on it
    between them, need not be recorded in one render pass. -/
theorem sharedPass_ends_decals :
    ¬ ∀ (passes : List Pass) (compiled : Compiled), compile passes = .ok compiled →
        ∀ (request : Request), request.renderers.DrawsOnly →
        ∀ (pool : Pool) (ops front : List FrameOp) (first : FrameOp) (middle : List FrameOp)
          (second : FrameOp) (back : List FrameOp),
          ops = front ++ first :: (middle ++ second :: back) → compiled.InOrder ops →
          (∀ operation ∈ ops, operation.drawsInPass = true) → compiled.OneContext ops →
        ∀ (resolution : Resolution),
          (resolve pool compiled.resources ops).result = .ok resolution →
        ∀ p ∈ compiled.order, ∀ q ∈ compiled.order, first.pass = p.index → second.pass = q.index →
          compiled.Before p.index q.index → compiled.SameBatch p q →
        ∀ (resource : String), p.attaches resource = true → q.attaches resource = true →
          (∀ pass ∈ compiled.order, compiled.Before p.index pass.index →
            ¬ compiled.Before q.index pass.index →
            ∀ barrier ∈ compiled.plan.barriersAt pass.index, barrier.resource ≠ resource) →
        ∀ before between after,
          recordTrace compiled request pool ops = before ++ (between ++ after) →
          before.map Stretch.part = .start :: Part.ofOps (front ++ [first]) →
          between.map Stretch.part = Part.ofOps (middle ++ [second]) →
          Command.endRenderPass ∉ between.flatMap Stretch.commands := by
  intro hall
  have hsame : (Compiled.ofOrder decalsOverScene).SameBatch decalsOverScene[1]
      decalsOverScene[2] := ⟨_, batch_decalsOverScene, by decide, by decide⟩
  have hbefore : (Compiled.ofOrder decalsOverScene).Before 1 2 := ⟨1, 2, rfl, rfl, by decide⟩
  have hunplanned : ∀ barrier ∈ (Compiled.ofOrder decalsOverScene).plan.barriersAt 2,
      barrier.resource ≠ "hdr" := by
    rw [barriersAt_decalsOverScene]
    decide
  have hplan : ∀ pass ∈ (Compiled.ofOrder decalsOverScene).order,
      (Compiled.ofOrder decalsOverScene).Before 1 pass.index →
      ¬ (Compiled.ofOrder decalsOverScene).Before 2 pass.index →
      ∀ barrier ∈ (Compiled.ofOrder decalsOverScene).plan.barriersAt pass.index,
        barrier.resource ≠ "hdr" := by
    intro pass hpass hafter _
    change pass ∈ decalsOverScene at hpass
    simp only [decalsOverScene, List.mem_cons, List.not_mem_nil, or_false] at hpass
    rcases hpass with rfl | rfl | rfl
    · have hearlier : (Compiled.ofOrder decalsOverScene).Before 0 1 := ⟨0, 1, rfl, rfl, by decide⟩
      exact absurd hafter hearlier.asymm
    · exact absurd hafter hafter.asymm
    · exact hunplanned
  have hends := hall decalsOverScene _ compile_decalsOverScene ⟨0, oneTimeSubmit, "", oneDraw⟩
    drawsOnly_oneDraw poolOfTwo [clearOp 1, clearOp 2] [] (clearOp 1) [] (clearOp 2) [] rfl
    inOrder_decalsOverScene (by decide) oneContext_decalsOverScene _ rfl
    decalsOverScene[1] (by decide) decalsOverScene[2] (by decide) rfl rfl hbefore hsame "hdr"
    (by decide) (by decide) hplan (decalsTrace.take 3) ((decalsTrace.drop 3).take 2)
    ((decalsTrace.drop 3).drop 2)
    (by rw [List.take_append_drop, List.take_append_drop]; rfl) rfl rfl
  exact hends (by decide +kernel)

end FrameGraph
