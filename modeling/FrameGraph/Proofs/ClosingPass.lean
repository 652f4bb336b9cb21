import FrameGraph.Proofs.Restarts
import FrameGraph.Proofs.Work

/-!
# The Closing Pass

Every frame ends with a render pass on the presented image, and what is drawn
over the frame is drawn there. It need not be a render pass of its own: if one
on the presented image is still open after the last operation, it is gone on
with, and if one is open on something else, it is ended first.

Operations choose their identities freely, also the one that is reserved for
the end of a frame. That makes no difference. An offscreen render pass of that
identity is in another context, and a render pass of that identity on the
presented image is one on the presented image.

Which render pass is the last of a stream cannot be read off the cursor. But
the protocol pairs every stream with its open brackets, and a render pass that
is open there was begun last, with no begin or end after it. So it is enough to
know what is open where the overlay is drawn.

## Main definitions

* `Command.callsOverlay`: What is drawn over the frame is asked for.
* `Scene.closingCommands`: What makes sure that a render pass is open on the
  presented image.
* `Scene.frontStream`: The commands before the end of a frame.
* `reservedOps`: Operations with the reserved identity.

## Theorems

* `Protocol.openPass_advance`, `Protocol.begun_of_run`: A render pass that is
  open was begun last.
* `Scene.closeFrame_commands`, `Scene.stream_eq_front`: The end of a frame.
* `Scene.run_frontStream`: What is open after the operations.
* `Scene.begun_closing`: Where the overlay is drawn, a render pass on the
  presented image is open and was begun last.
* `callsOverlay_record`: The overlay is called once.
* `record_closes`: Every frame ends on the presented image.
-/

namespace FrameGraph

open Gpu

namespace Gpu.Command

/-- The command asks for what is drawn over the frame. -/
def callsOverlay : Command → Bool
  | callOverlay .. => true
  | _ => false

theorem isWork_of_callsOverlay (command : Command) (h : command.callsOverlay = true) :
    command.isWork = true := by
  cases command <;> first
    | rfl
    | exact absurd h Bool.false_ne_true

theorem callsOverlay_of_draws (command : Command) (h : command.draws = true) :
    command.callsOverlay = false := by
  cases command <;> first
    | rfl
    | exact absurd h Bool.false_ne_true

/-- Whoever only draws does not call the overlay. -/
theorem filter_callsOverlay_of_draws {commands : List Command}
    (h : ∀ command ∈ commands, command.draws = true) :
    commands.filter callsOverlay = [] := by
  rw [List.filter_eq_nil_iff]
  intro command hcommand
  rw [callsOverlay_of_draws command (h command hcommand)]
  exact Bool.false_ne_true

/-- Only a begin opens a render pass. -/
theorem eq_beginRenderPass {command : Command} {renderPass framebuffer : UInt64}
    (h : command.role = .opensPass renderPass framebuffer) :
    ∃ area clearValues, command = .beginRenderPass renderPass framebuffer area clearValues := by
  cases command with
  | beginRenderPass other buffer area clearValues =>
      rcases Role.opensPass.inj h with ⟨rfl, rfl⟩
      exact ⟨area, clearValues, rfl⟩
  | _ => simp only [role, reduceCtorEq] at h

end Gpu.Command

namespace Protocol

variable (target? : Surface → Option TargetBinding)

/-- A render pass that is open after a command was open before it, and then
    the command is no edge, or the command begins it. -/
theorem openPass_advance {stack next : List Bracket} {origin : Origin} {command : Command}
    {begun : Begun} (hsingle : SinglePass stack)
    (h : advance target? stack origin command = some next)
    (hopen : Bracket.openPass? next = some begun) :
    (Bracket.openPass? stack = some begun ∧ PassEdge.of? command = none)
      ∨ (command.role = .opensPass begun.renderPass begun.framebuffer
        ∧ origin.context? = some begun.context) := by
  unfold advance at h
  unfold PassEdge.of?
  cases hrole : command.role with
  | framing =>
      rw [hrole] at h
      exact absurd h.symm (Option.some_ne_none next)
  | opensLabel =>
      rw [hrole] at h
      rcases Option.some.inj h with rfl
      exact Or.inl ⟨hopen, rfl⟩
  | closesLabel =>
      rw [hrole] at h
      match stack, h with
      | .label :: rest, h =>
          rcases Option.some.inj h with rfl
          exact Or.inl ⟨hopen, rfl⟩
  | opensPass renderPass framebuffer =>
      rw [hrole] at h
      cases hstack : Bracket.openPass? stack with
      | some other => simp only [hstack, reduceCtorEq] at h
      | none =>
          cases hcontext : origin.context? with
          | none => simp only [hstack, hcontext, reduceCtorEq] at h
          | some context =>
              simp only [hstack, hcontext, Option.some.injEq] at h
              subst h
              rcases Option.some.inj hopen with rfl
              exact Or.inr ⟨rfl, rfl⟩
  | closesPass =>
      rw [hrole] at h
      -- The one that is closed was the only one, so none is left.
      match stack, h, hsingle with
      | .renderPass other :: rest, h, hsingle =>
          rcases Option.some.inj h with rfl
          have hrest : Bracket.openPass? rest = none := hsingle
          exact absurd (hrest.symm.trans hopen).symm (Option.some_ne_none begun)
  | outside =>
      rw [hrole] at h
      simp only [Option.ite_none_right_eq_some, Option.some.injEq] at h
      rcases h with ⟨_, rfl⟩
      exact Or.inl ⟨hopen, rfl⟩
  | inside =>
      rw [hrole] at h
      cases hstack : Bracket.openPass? stack with
      | none => simp only [hstack, reduceCtorEq] at h
      | some other =>
          simp only [hstack, Option.ite_none_right_eq_some, Option.some.injEq] at h
          rcases h with ⟨_, rfl⟩
          exact Or.inl ⟨hstack.symm.trans hopen, rfl⟩
  | anywhere =>
      rw [hrole] at h
      rcases Option.some.inj h with rfl
      exact Or.inl ⟨hopen, rfl⟩

/-- At most one render pass is open after a stream. -/
theorem singlePass_run {stream : List (Origin × Command)} {stack last : List Bracket}
    (hsingle : SinglePass stack) (h : run target? stream stack = some last) :
    SinglePass last := by
  induction stream generalizing stack with
  | nil =>
      rcases Option.some.inj h with rfl
      exact hsingle
  | cons sent rest ih =>
      rw [run] at h
      rcases Option.bind_eq_some_iff.mp h with ⟨next, hnext, hrest⟩
      exact ih (singlePass_advance target? hsingle hnext).1 hrest

/-- A render pass that is open after a stream was begun in it, for its
    context, and since then none was begun or ended. The induction is on the
    stream, from its last command. -/
theorem begun_of_run {stream : List (Origin × Command)} {stack : List Bracket} {begun : Begun}
    (h : run target? stream [] = some stack) (hopen : Bracket.openPass? stack = some begun) :
    ∃ before origin area clearValues during,
      stream = before
        ++ (origin, .beginRenderPass begun.renderPass begun.framebuffer area clearValues) :: during
      ∧ origin.context? = some begun.context
      ∧ passEdges (during.map Prod.snd) = [] := by
  induction stream using List.reverseRecOn generalizing stack with
  | nil =>
      rcases Option.some.inj h with rfl
      exact absurd hopen.symm (Option.some_ne_none begun)
  | append_singleton front sent ih =>
      rw [run_append] at h
      rcases Option.bind_eq_some_iff.mp h with ⟨middle, hfront, hlast⟩
      rw [run] at hlast
      rcases Option.bind_eq_some_iff.mp hlast with ⟨next, hnext, hnone⟩
      rcases Option.some.inj hnone with rfl
      have hsingle : SinglePass [] := trivial
      rcases openPass_advance target? (singlePass_run target? hsingle hfront) hnext hopen
        with ⟨hbefore, hedge⟩ | ⟨hrole, hcontext⟩
      · -- It was open before, and the last command is no edge.
        rcases ih hfront hbefore
          with ⟨before, origin, area, clearValues, during, rfl, hcontext, hduring⟩
        refine ⟨before, origin, area, clearValues, during ++ [sent], ?_, hcontext, ?_⟩
        · rw [List.append_assoc]
          rfl
        · rw [List.map_append, passEdges_append, hduring, List.map_singleton, passEdges_cons, hedge]
          rfl
      · -- The last command begins it.
        rcases sent with ⟨origin, command⟩
        rcases Command.eq_beginRenderPass hrole with ⟨area, clearValues, rfl⟩
        exact ⟨front, origin, area, clearValues, [], rfl, hcontext, rfl⟩

end Protocol

namespace Scene

variable (scene : Scene)

/-- What makes sure at the end of a frame that a render pass is open on the
    presented image, given the context of the one that is open, if one is. -/
def closingCommands (binding : TargetBinding) (open? : Option Context) : List Command :=
  let begins : List Command := [.beginLabel "swapchain" Color.renderPass,
    .beginRenderPass binding.renderPass binding.framebuffer binding.area binding.clearValues]
  match open? with
  | none => begins
  | some context =>
    if context.targetsSwapchain then [] else [.endRenderPass, .endLabel] ++ begins

/-- The commands of a frame before its end, each with who it is recorded
    for. -/
def frontStream (hazards : HazardMask) (ops : List FrameOp) : List (Origin × Command) :=
  attributed ((.start, scene.startFrame hazards)
    :: ops.map (fun operation => (Origin.op operation, scene.recordOp operation)))
    (Cursor.start scene.resolution.states)

/-- The end of a frame: a render pass on the presented image, what is drawn
    over the frame in it, and its end. -/
theorem closeFrame_commands {binding : TargetBinding}
    (hbinding : scene.resolution.targets.get? .swapchain = some binding) (cursor : Cursor) :
    (scene.closeFrame cursor).2
      = closingCommands binding cursor.current ++ scene.overlayCommands binding
        ++ [.endRenderPass, .endLabel] := by
  have htarget : (closingContext cursor).target = .swapchain :=
    of_decide_eq_true (closingContext_target cursor)
  have hget := hbinding
  rw [← htarget] at hget
  rcases scene.inRenderPass_spec hget scene.overlayCommands cursor with ⟨hcurrent, hsame⟩
  have hcommands : (scene.closeFrame cursor).2
      = (scene.inRenderPass (closingContext cursor) scene.overlayCommands cursor).2
        ++ [.endRenderPass, .endLabel] := by
    unfold closeFrame Step.andThen Step.closeRenderPass
    simp only [hcurrent]
  rw [hcommands]
  refine congrArg (· ++ [Command.endRenderPass, .endLabel]) ?_
  by_cases hopen : cursor.current = some (closingContext cursor)
  · -- What is open is gone on with.
    rw [hsame hopen, hopen]
    simp only [closingCommands, closingContext_target, if_true, List.nil_append]
  · -- What is open is on another surface, or nothing is.
    unfold inRenderPass
    simp only [htarget, hbinding, if_neg hopen, Surface.label]
    refine congrArg (· ++ scene.overlayCommands binding) ?_
    unfold closingContext at hopen
    unfold closingCommands Step.closeRenderPass
    cases hcurrent : cursor.current with
    | none => rfl
    | some context =>
        by_cases hswapchain : context.targetsSwapchain = true
        · rw [hcurrent] at hopen
          simp only [hswapchain, if_true, not_true_eq_false] at hopen
        · simp only [hswapchain, Bool.false_eq_true, if_false]

/-- A frame is what comes before its end, and its end. -/
theorem stream_eq_front {binding : TargetBinding}
    (hbinding : scene.resolution.targets.get? .swapchain = some binding) (hazards : HazardMask)
    (ops : List FrameOp) :
    (scene.stream hazards ops).map Prod.snd
      = (scene.frontStream hazards ops).map Prod.snd
        ++ closingCommands binding (scene.openAfter hazards ops)
        ++ scene.overlayCommands binding ++ [.endRenderPass, .endLabel] := by
  have hstages : scene.stages hazards ops
      = ((.start, scene.startFrame hazards)
        :: ops.map (fun operation => (Origin.op operation, scene.recordOp operation)))
        ++ [(.closing, scene.closeFrame)] := rfl
  unfold stream frontStream openAfter
  rw [hstages, attributed_append, List.map_append, List.map_cons, map_snd_ops]
  simp only [attributed, List.append_nil, Origin.map_snd_sends, scene.closeFrame_commands hbinding,
    List.append_assoc]

/-- What is open after the operations is what the cursor says. -/
theorem run_frontStream (target? : Surface → Option TargetBinding)
    (hbound : scene.BoundAs target?) (hdraws : scene.renderers.DrawsOnly) (hazards : HazardMask)
    (ops : List FrameOp) :
    ∃ cursor stack, cursor.current = scene.openAfter hazards ops
      ∧ Protocol.run target? (scene.frontStream hazards ops) [] = some stack
      ∧ scene.Standing cursor stack := by
  rcases scene.leads_startFrame target? .start hazards
    (Cursor.start scene.resolution.states) [] ⟨rfl, rfl⟩ with ⟨_, hstart, hafter, rfl⟩
  rcases scene.run_ops target? hbound hdraws ops _ [] (Standing.idle hafter)
    with ⟨stack, hops, hstands⟩
  exact ⟨_, stack, rfl, Protocol.run_append_of_eq target? hstart hops, hstands⟩

/-- Where the overlay is drawn, a render pass is open on the presented image. -/
theorem run_closingCommands (target? : Surface → Option TargetBinding)
    {binding : TargetBinding}
    (hbinding : scene.resolution.targets.get? .swapchain = some binding) {cursor : Cursor}
    {stack : List Bracket} (hstands : scene.Standing cursor stack) :
    ∃ last context, Protocol.run target?
        (Origin.closing.sends (closingCommands binding cursor.current)) stack = some last
      ∧ Bracket.openPass? last = some ⟨context, binding.renderPass, binding.framebuffer⟩
      ∧ context.targetsSwapchain = true := by
  cases hstands with
  | idle hnone =>
      rw [hnone]
      exact ⟨_, ⟨closingIdentity, .swapchain⟩, rfl, rfl, rfl⟩
  | drawing hcurrent hother =>
      next context other =>
      rw [hcurrent]
      unfold closingCommands
      by_cases hswapchain : context.targetsSwapchain = true
      · -- It is the one that is open, with the binding of the presented image.
        have htarget : context.target = .swapchain := of_decide_eq_true hswapchain
        rw [htarget, hbinding] at hother
        rcases Option.some.inj hother with rfl
        simp only [hswapchain, if_true]
        exact ⟨_, context, rfl, rfl, hswapchain⟩
      · simp only [hswapchain]
        exact ⟨_, ⟨closingIdentity, .swapchain⟩, rfl, rfl, rfl⟩

/-- So the render pass that is open there was begun last, with the binding of
    the presented image. -/
theorem begun_closing (target? : Surface → Option TargetBinding)
    (hbound : scene.BoundAs target?) (hdraws : scene.renderers.DrawsOnly) {binding : TargetBinding}
    (hbinding : scene.resolution.targets.get? .swapchain = some binding) (hazards : HazardMask)
    (ops : List FrameOp) :
    ∃ before area clearValues during,
      (scene.frontStream hazards ops).map Prod.snd
          ++ closingCommands binding (scene.openAfter hazards ops)
        = before ++ .beginRenderPass binding.renderPass binding.framebuffer area clearValues
          :: during
      ∧ passEdges during = [] := by
  rcases scene.run_frontStream target? hbound hdraws hazards ops
    with ⟨cursor, stack, hcurrent, hrun, hstands⟩
  rcases scene.run_closingCommands target? hbinding hstands
    with ⟨last, context, hclosing, hopen, _⟩
  rcases Protocol.begun_of_run target? (Protocol.run_append_of_eq target? hrun hclosing) hopen
    with ⟨before, origin, area, clearValues, during, hstream, _, hduring⟩
  have hcommands := congrArg (List.map Prod.snd) hstream
  rw [List.map_append, Origin.map_snd_sends, hcurrent, List.map_append, List.map_cons]
    at hcommands
  exact ⟨before.map Prod.snd, area, clearValues, during.map Prod.snd, hcommands, hduring⟩

/-- What is drawn over the frame begins and ends no render pass. -/
theorem passEdges_overlayCommands (hdraws : scene.renderers.DrawsOnly)
    (binding : TargetBinding) : passEdges (scene.overlayCommands binding) = [] := by
  unfold overlayCommands
  cases hoverlay : scene.renderers.overlay with
  | none => rfl
  | some overlay =>
      have hothers := passEdges_of_drawing (overlay binding.renderPass binding.area)
        fun command hcommand => command.role_of_draws
          (hdraws.overlay overlay hoverlay binding.renderPass binding.area command hcommand)
      simp only [passEdges_append, hothers]
      rfl

/-- And it holds one call of the overlay, if there is one to call. -/
theorem callsOverlay_overlayCommands (hdraws : scene.renderers.DrawsOnly)
    (binding : TargetBinding) :
    (scene.overlayCommands binding).filter Command.callsOverlay
      = scene.renderers.overlay.toList.map
        fun _ => .callOverlay binding.renderPass binding.area := by
  unfold overlayCommands
  cases hoverlay : scene.renderers.overlay with
  | none => rfl
  | some overlay =>
      have hothers := Command.filter_callsOverlay_of_draws
        (hdraws.overlay overlay hoverlay binding.renderPass binding.area)
      simp only [List.filter_append, hothers]
      rfl

end Scene

/-- What is recorded for an operation does not call the overlay. -/
theorem FrameOp.callsOverlay_block (target? : Surface → Option TargetBinding)
    {renderers : Renderers} (hdraws : renderers.DrawsOnly) (operation : FrameOp) :
    (operation.block target? renderers).filter Command.callsOverlay = [] := by
  unfold block
  cases operation.work with
  | clear clear =>
      dsimp only
      split
      · rfl
      · rfl
  | mesh state renderer =>
      dsimp only
      split
      · rfl
      · next binding _ =>
        have hothers := Command.filter_callsOverlay_of_draws
          (hdraws.mesh renderer binding.renderPass state)
        rw [List.filter_append, hothers]
        rfl
  | blit blit =>
      dsimp only
      split
      · rfl
      · rfl
  | indirect draw =>
      cases hindexed : draw.indexed with
      | true => simp [Command.callsOverlay, hindexed]
      | false => simp [Command.callsOverlay, hindexed]
  | dispatch dispatch => rfl

/-- In a frame that resolves and begins the overlay is called once, with the
    render pass and the area of the presented image. -/
theorem callsOverlay_record (compiled : Compiled) (request : Request)
    (hdraws : request.renderers.DrawsOnly) (replies : Replies) (pool : Pool) (device : Device)
    (ops : List FrameOp) (resolution : Resolution)
    (hresolved : (resolve pool compiled.resources ops).result = .ok resolution)
    (hreset : replies.reset = ResultCode.success) (hbegin : replies.begin = ResultCode.success)
    {binding : TargetBinding} (htarget : pool.supply.target? .swapchain = some binding) :
    (commandsOf (record compiled request replies pool device ops).events).filter
        Command.callsOverlay
      = request.renderers.overlay.toList.map
        fun _ => .callOverlay binding.renderPass binding.area := by
  rcases record_tallies compiled request replies pool device ops resolution hresolved hreset hbegin
    with ⟨_, _, htallies⟩
  have hwork := (countP_of_isWork (hdraws.isWork_frameWork pool.supply.target? ops)).1
  -- A call is work, so it is enough to look for calls in the work of the frame.
  have hcalls : ∀ commands : List Command, commands.filter Command.callsOverlay
      = (commands.filter Command.isWork).filter Command.callsOverlay := by
    intro commands
    rw [List.filter_filter]
    refine List.filter_congr ?_
    intro command _
    cases hcall : command.callsOverlay with
    | true => simp [command.isWork_of_callsOverlay hcall]
    | false => simp
  have hblocks : (ops.flatMap (FrameOp.block pool.supply.target? request.renderers)).filter
      Command.callsOverlay = [] := by
    rw [List.filter_flatMap, List.flatMap_eq_nil_iff]
    exact fun operation _ => operation.callsOverlay_block _ hdraws
  rw [hcalls, htallies.kept, hwork, frameWork, List.filter_append, hblocks, List.nil_append]
  unfold Renderers.overlayWork
  rw [htarget]
  cases hoverlay : request.renderers.overlay with
  | none => rfl
  | some overlay =>
      have hothers := Command.filter_callsOverlay_of_draws
        (hdraws.overlay overlay hoverlay binding.renderPass binding.area)
      exact (List.filter_cons_of_pos rfl).trans (congrArg _ hothers)

/-- Every frame ends on the presented image. After the commands of the
    operations comes what makes sure that a render pass is open on it, then
    what is drawn over the frame, and then the end of the render pass and of
    the stream. A render pass on the presented image that is open after the
    last operation is gone on with, and anything else that is open is ended
    for a new one. If others only draw, what counts as open is really open,
    the last render pass of the whole stream is the one that the presented
    image is bound to, nothing after its begin ends it before the overlay, and
    the overlay, if there is one, is called in it and nowhere else. Of
    identities nothing is asked. -/
theorem record_closes (compiled : Compiled) (request : Request) (replies : Replies)
    (pool : Pool) (device : Device) (ops : List FrameOp) (stats : Stats)
    (h : (record compiled request replies pool device ops).result = .ok stats) :
    ∃ resolution scene binding front opening overlay trace,
      (resolve pool compiled.resources ops).result = .ok resolution
      ∧ scene = frameScene compiled request resolution
      ∧ pool.supply.target? .swapchain = some binding
      ∧ front = scene.frontStream request.hazards ops
      ∧ opening = Scene.closingCommands binding (scene.openAfter request.hazards ops)
      ∧ overlay = scene.overlayCommands binding
      ∧ trace = commandsOf (record compiled request replies pool device ops).events
      ∧ trace = [.reset, .begin request.usage request.label] ++ front.map Prod.snd ++ opening
          ++ overlay ++ [.endRenderPass, .endLabel] ++ [.finish]
      ∧ (request.renderers.DrawsOnly →
        (∃ stack, Protocol.run pool.supply.target? front [] = some stack
          ∧ (Bracket.openPass? stack).map Begun.context = scene.openAfter request.hazards ops)
        ∧ (∃ before area clearValues during,
            [.reset, .begin request.usage request.label] ++ front.map Prod.snd ++ opening
              = before ++ .beginRenderPass binding.renderPass binding.framebuffer area clearValues
                :: during
            ∧ passEdges (during ++ overlay) = [])
        ∧ overlay.filter Command.callsOverlay = request.renderers.overlay.toList.map
          (fun _ => .callOverlay binding.renderPass binding.area)
        ∧ trace.filter Command.callsOverlay = overlay.filter Command.callsOverlay) := by
  rcases record_begun compiled request replies pool device ops stats h
    with ⟨resolution, hresolved, hreset, hbegin⟩
  rcases resolve_bound pool compiled.resources ops resolution hresolved _
    (swapchain_mem_neededSurfaces ops) with ⟨binding, hbinding⟩
  have htarget := resolve_target pool compiled.resources ops resolution hresolved _ binding hbinding
  have hget : (frameScene compiled request resolution).resolution.targets.get? .swapchain
      = some binding := hbinding
  refine ⟨resolution, _, binding, _, _, _, _, hresolved, rfl, htarget, rfl, rfl, rfl, rfl, ?_, ?_⟩
  · rw [commandsOf_record compiled request replies pool device ops resolution hresolved hreset
      hbegin, recordTrace_of_resolved compiled request pool ops resolution hresolved,
      Scene.trace_commands, ← Scene.map_snd_stream, Scene.stream_eq_front _ hget]
    simp only [List.append_assoc]
  · intro hdraws
    have hbound : (frameScene compiled request resolution).BoundAs pool.supply.target? := by
      intro surface other hother
      exact resolve_target pool compiled.resources ops resolution hresolved surface other hother
    rcases (frameScene compiled request resolution).run_frontStream pool.supply.target? hbound
      hdraws request.hazards ops with ⟨cursor, stack, hcurrent, hrun, hstands⟩
    have hoverlay := (frameScene compiled request resolution).callsOverlay_overlayCommands hdraws
      binding
    refine ⟨⟨stack, hrun, ?_⟩, ?_, hoverlay, ?_⟩
    · rw [← hcurrent]
      cases hstands with
      | idle hnone =>
          rw [hnone]
          rfl
      | drawing hsome _ =>
          rw [hsome]
          rfl
    · -- What is open where the overlay is drawn was begun last.
      rcases (frameScene compiled request resolution).begun_closing pool.supply.target? hbound
        hdraws hget request.hazards ops with ⟨before, area, clearValues, during, hbegun, hduring⟩
      refine ⟨[.reset, .begin request.usage request.label] ++ before, area, clearValues, during,
        ?_, ?_⟩
      · rw [List.append_assoc, hbegun, List.append_assoc]
      · rw [passEdges_append, hduring,
          (frameScene compiled request resolution).passEdges_overlayCommands hdraws]
        rfl
    · rw [hoverlay]
      exact callsOverlay_record compiled request hdraws replies pool device ops resolution
        hresolved hreset hbegin htarget

/-- Operations that all carry the reserved identity: the presented image is
    cleared, and then another one. -/
def reservedOps : List FrameOp :=
  let clear : Clear := ⟨true, false, false, ⟨0, 0, 0, 0⟩, 0, 0, ⟨0, 0, 64, 64⟩⟩
  [⟨0, ⟨Scene.closingIdentity, .swapchain⟩, .clear clear⟩,
    ⟨0, ⟨Scene.closingIdentity, .offscreen 7⟩, .clear clear⟩]

/-- After the clear of the other image its render pass is ended and one on the
    presented image is begun, though the identities are the same. -/
theorem record_closes_reserved :
    ∃ front trace, trace = commandsOf (record (Compiled.ofOrder drawnThenSampled)
          ⟨0, oneTimeSubmit, "frame", oneDraw⟩ Replies.good poolOfTwo Device.working
          reservedOps).events
      ∧ trace = front ++ [.endRenderPass, .endLabel, .beginLabel "swapchain" Color.renderPass,
            .beginRenderPass 1 11 ⟨0, 0, 640, 480⟩ []]
          ++ [.beginLabel "overlay" Color.overlay, .callOverlay 1 ⟨0, 0, 640, 480⟩,
            .bindPipeline .graphics 9, .draw 3 1 0 0, .endLabel]
          ++ [.endRenderPass, .endLabel] ++ [.finish]
      ∧ trace.filter Command.callsOverlay = [.callOverlay 1 ⟨0, 0, 640, 480⟩] := by
  have hresult : (record (Compiled.ofOrder drawnThenSampled)
      ⟨0, oneTimeSubmit, "frame", oneDraw⟩ Replies.good poolOfTwo Device.working
      reservedOps).result = .ok ⟨3, 1, 2, true⟩ := by
    decide +kernel
  rcases record_closes (Compiled.ofOrder drawnThenSampled)
    ⟨0, oneTimeSubmit, "frame", oneDraw⟩ Replies.good poolOfTwo Device.working reservedOps _ hresult
    with ⟨resolution, scene, binding, front, opening, overlay, trace, hresolved, rfl, htarget, _,
      hopening, hoverlay, htrace, hcommands, hdraws⟩
  rcases Option.some.inj htarget with rfl
  rcases Except.ok.inj hresolved with rfl
  have hopen : opening = [.endRenderPass, .endLabel, .beginLabel "swapchain" Color.renderPass,
      .beginRenderPass 1 11 ⟨0, 0, 640, 480⟩ []] := hopening.trans (by decide +kernel)
  rcases hdraws drawsOnly_oneDraw with ⟨_, _, hcalled, hcalls⟩
  rw [hopen, hoverlay] at hcommands
  exact ⟨_, trace, htrace, hcommands, hcalls.trans hcalled⟩

end FrameGraph
