import FrameGraph.Proofs.Steps
import FrameGraph.Recording.Basic

/-!
# The Stream of a Recorded Frame

What an encoder sees of a frame that resolves and begins: a reset, a begin,
the stages of the frame, and one last call that ends the stream. The stages
keep the protocol, so whatever the operations were and in whatever order, a
device can take the stream.

The protocol asks that a render pass has the framebuffer that its surface is
bound to. The recording knows surfaces through a table it filled while
resolving, and `resolve_target` says that the table holds nothing that the
owner of the pool did not answer.

## Theorems

* `commandsOf_append`, `commandsOf_pool`, `commandsOf_command`: The commands
  among some events.
* `bindSurfaces_get?`, `resolve_target`: Surfaces are bound as they were
  answered.
* `record_of_resolved`, `commandsOf_recordResolved`: The commands of a resolved
  frame.
* `record_stream`: The stream of a frame keeps the protocol.
-/

namespace FrameGraph

open Gpu

theorem commandsOf_append (first second : List Event) :
    commandsOf (first ++ second) = commandsOf first ++ commandsOf second :=
  List.filterMap_append

theorem commandsOf_pool {α : Type} (call : α → PoolCall) (xs : List α) :
    commandsOf (xs.map fun x => Event.pool (call x)) = [] := by
  unfold commandsOf
  rw [List.filterMap_map, List.filterMap_eq_nil_iff]
  exact fun _ _ => rfl

theorem commandsOf_command (commands : List Command) :
    commandsOf (commands.map Event.command) = commands := by
  unfold commandsOf
  rw [List.filterMap_map]
  exact List.filterMap_some

/-- A table of bindings holds what the owner of the pool answers. -/
theorem bindSurfaces_get? (pool : Pool) (surfaces : List Surface)
    (targets : Table Surface TargetBinding)
    (h : (bindSurfaces pool surfaces).result = .ok targets) (surface : Surface)
    (binding : TargetBinding) (hget : targets.get? surface = some binding) :
    pool.supply.target? surface = some binding := by
  induction surfaces generalizing targets with
  | nil =>
      rcases Except.ok.inj h with rfl
      exact absurd hget.symm (Option.some_ne_none binding)
  | cons first rest ih =>
      rw [bindSurfaces] at h
      cases hfirst : pool.supply.target? first with
      | none =>
          rw [hfirst] at h
          simp only [reduceCtorEq] at h
      | some answer =>
          rw [hfirst] at h
          simp only at h
          cases hrest : (bindSurfaces pool rest).result with
          | error error =>
              simp only [hrest, Except.map, reduceCtorEq] at h
          | ok later =>
              rw [hrest] at h
              rcases Except.ok.inj h with rfl
              -- The first entry holds the answer just given, and behind it is the rest.
              rw [Table.get?] at hget
              split at hget
              · next hsame =>
                  rw [Option.some.injEq] at hget
                  rw [← hsame, ← hget]
                  exact hfirst
              · exact ih later hrest hget

/-- Making resources does not change what the owner answers. -/
theorem supply_backGroups (pool : Pool) (groups : List ResourceGroup) :
    (backGroups pool groups).pool.supply = pool.supply := by
  induction groups generalizing pool with
  | nil => rfl
  | cons group rest ih =>
      have hensure : (pool.ensure group).1.supply = pool.supply := by
        unfold Pool.ensure
        split
        · split
          · rfl
          · unfold Pool.store
            split
            · rfl
            · rfl
        · rfl
      rw [backGroups]
      split
      · next heq =>
          rw [heq] at hensure
          exact hensure
      · next heq =>
          rw [heq] at hensure
          exact (ih _).trans hensure

/-- A resolved frame knows a surface as the owner of the pool answers. -/
theorem resolve_target (pool : Pool) (resources : Registry) (ops : List FrameOp)
    (resolution : Resolution) (h : (resolve pool resources ops).result = .ok resolution)
    (surface : Surface) (binding : TargetBinding)
    (hget : resolution.targets.get? surface = some binding) :
    pool.supply.target? surface = some binding := by
  unfold resolve at h
  simp only at h
  split at h
  · simp only [reduceCtorEq] at h
  · split at h
    · simp only [reduceCtorEq] at h
    · rw [← supply_backGroups pool resources.groups]
      cases hbound : (bindSurfaces (backGroups pool resources.groups).pool
          (neededSurfaces ops)).result with
      | error error =>
          simp only [hbound, Except.map, reduceCtorEq] at h
      | ok targets =>
          simp only [hbound, Except.map, Except.ok.injEq] at h
          subst h
          exact bindSurfaces_get? _ _ targets hbound surface binding hget

/-- A frame that resolves is recorded. -/
theorem record_of_resolved (compiled : Compiled) (request : Request) (replies : Replies)
    (pool : Pool) (device : Device) (ops : List FrameOp) (resolution : Resolution)
    (hresolved : (resolve pool compiled.resources ops).result = .ok resolution) :
    record compiled request replies pool device ops
      = recordResolved compiled request replies (resolve pool compiled.resources ops).pool
        device resolution ((resolve pool compiled.resources ops).calls.map Event.pool) ops := by
  unfold record
  simp only [hresolved]

/-- The commands of a frame that resolves and begins. Whether its last call
    fails makes no difference to them. -/
theorem commandsOf_recordResolved (compiled : Compiled) (request : Request) (replies : Replies)
    (pool : Pool) (device : Device) (resolution : Resolution) (calls : List PoolCall)
    (ops : List FrameOp) (hreset : replies.reset = ResultCode.success)
    (hbegin : replies.begin = ResultCode.success) :
    commandsOf (recordResolved compiled request replies pool device resolution
        (calls.map Event.pool) ops).events
      = [.reset, .begin request.usage request.label]
        ++ (Scene.stream ⟨compiled.plan, resolution, request.renderers⟩ request.hazards ops).map
          Prod.snd
        ++ [.finish] := by
  have hcalls : commandsOf (calls.map Event.pool) = [] := commandsOf_pool id calls
  unfold recordResolved
  rw [Scene.map_snd_stream]
  simp only [hreset, hbegin, ne_eq, not_true_eq_false, if_false]
  split
  · simp only [Recording.failed, commandsOf_append, commandsOf_command, hcalls, List.nil_append]
  · simp only [commandsOf_append, commandsOf_command, hcalls, List.nil_append,
      commandsOf_pool (fun final : ResourceGroup × ResourceState => PoolCall.commit final.1 final.2),
      List.append_nil]

/-- The stream of a frame that resolves and begins. It starts with a reset
    and a begin and ends with one last call, and in between are the commands
    of the frame, each recorded for the start, an operation or the closing
    pass. These keep the protocol from no open bracket to no open bracket:
    labels and render passes nest; a barrier, blit or dispatch has no render
    pass around it; a clear or a draw has one, and if it is for an operation,
    one that was begun for its context, with the render pass and framebuffer
    that the surface of its context is bound to. Render passes begin and end
    in turn, beginning first. -/
theorem record_stream (compiled : Compiled) (request : Request) (replies : Replies)
    (pool : Pool) (device : Device) (ops : List FrameOp) (resolution : Resolution)
    (hresolved : (resolve pool compiled.resources ops).result = .ok resolution)
    (hreset : replies.reset = ResultCode.success) (hbegin : replies.begin = ResultCode.success)
    (hdraws : request.renderers.DrawsOnly) :
    ∃ stream, stream
        = Scene.stream ⟨compiled.plan, resolution, request.renderers⟩ request.hazards ops
      ∧ commandsOf (record compiled request replies pool device ops).events
        = [.reset, .begin request.usage request.label] ++ stream.map Prod.snd ++ [.finish]
      ∧ Protocol.run pool.supply.target? stream [] = some []
      ∧ (∀ front sent back, stream = front ++ sent :: back →
          ∃ stack, Protocol.run pool.supply.target? front [] = some stack
            ∧ (sent.2.role = .outside → Bracket.openPass? stack = none)
            ∧ (sent.2.role = .inside → ∃ begun, Bracket.openPass? stack = some begun
              ∧ sent.1.drawsIn begun.context = true
              ∧ begun.isBound pool.supply.target? = true))
      ∧ ∃ count, passEdges (stream.map Prod.snd) = PassEdge.alternating count := by
  -- The table that was resolved holds the pool's own answers.
  have hbound : (Scene.mk compiled.plan resolution request.renderers).BoundAs
      pool.supply.target? := by
    intro surface binding hget
    exact resolve_target pool compiled.resources ops resolution hresolved surface binding hget
  have hrun := Scene.run_stream pool.supply.target? _ hbound hdraws request.hazards ops
  refine ⟨_, rfl, ?_, hrun, ?_, ?_⟩
  · have hrecord : record compiled request replies pool device ops
        = recordResolved compiled request replies (resolve pool compiled.resources ops).pool
          device resolution ((resolve pool compiled.resources ops).calls.map Event.pool) ops := by
      unfold record
      simp only [hresolved]
    rw [hrecord]
    exact commandsOf_recordResolved compiled request replies _ device resolution _ ops hreset
      hbegin
  · intro front sent back hsplit
    exact Protocol.openPass_of_run pool.supply.target? hrun hsplit
  · have hsingle : Protocol.SinglePass [] := trivial
    rcases Protocol.passEdges_of_run pool.supply.target? hsingle hrun with ⟨count, hedges⟩
    refine ⟨count, ?_⟩
    have hnone : PassEdge.into [] = [] := rfl
    rw [hnone, List.nil_append, List.append_nil] at hedges
    exact hedges

/-- Two surfaces can be drawn to: the presented image and one other. -/
def twoSurfaces : Surface → Option TargetBinding
  | .swapchain =>
    some ⟨1, 11, ⟨0, 0, 640, 480⟩, [], 101, ImageState.present⟩
  | .offscreen target =>
    if target = 7 then some ⟨2, 12, ⟨0, 0, 64, 64⟩, [], 102, ImageState.shaderReadFragment⟩
    else none

/-- A pool for them that has made nothing yet. -/
def poolOfTwo : Pool :=
  Pool.new ⟨fun _ => true, fun _ => 0, fun _ => ImageState.undefined,
    fun _ => BufferState.undefined, twoSurfaces⟩ 1000 2000

/-- A mesh is one draw, and a triangle is drawn over the frame. -/
def oneDraw : Renderers where
  mesh := fun _ _ _ => [.draw 3 1 0 0]
  overlay := some fun _ _ => [.bindPipeline BindPoint.graphics 9, .draw 3 1 0 0]

theorem drawsOnly_oneDraw : oneDraw.DrawsOnly where
  mesh := by
    intro renderer renderPass state command hcommand
    rw [List.mem_singleton.mp hcommand]
    rfl
  overlay := by
    intro overlay hoverlay renderPass area command hcommand
    rcases Option.some.inj hoverlay with rfl
    simp only [List.mem_cons, List.not_mem_nil, or_false] at hcommand
    rcases hcommand with rfl | rfl
    · rfl
    · rfl

/-- An image is drawn and then sampled. -/
def drawnThenSampled : List Pass := [
  ⟨0, "draw", .graphics,
    [Usage.attachment .colorAttachment "color" LoadOp.clear StoreOp.store]⟩,
  ⟨1, "light", .graphics, [Usage.plain .read .sampledImage "color"]⟩]

/-- Operations that leave a context and come back to it, of the two passes
    out of order and of one that nobody declared. -/
def mixedOps : List FrameOp :=
  let state : DrawState := ⟨⟨0, 0, 0, 0, 0, 0⟩, ⟨0, 0, 64, 64⟩, 5⟩
  let clear : Clear := ⟨true, true, false, ⟨0, 0, 0, 0⟩, 0, 0, ⟨0, 0, 64, 64⟩⟩
  let offscreen : Context := ⟨1, .offscreen 7⟩
  [⟨0, offscreen, .clear clear⟩,
    ⟨1, offscreen, .mesh state 4⟩,
    ⟨99, offscreen, .dispatch ⟨6, 1, 1, 1⟩⟩,
    ⟨0, offscreen, .indirect ⟨state, 3000, 0, 1, 16, true⟩⟩,
    ⟨1, ⟨2, .swapchain⟩, .mesh state 4⟩,
    ⟨99, offscreen, .blit ⟨.offscreen 7, .swapchain, [], Filter.linear⟩⟩,
    ⟨0, ⟨2, .swapchain⟩, .clear clear⟩]

/-- Five render passes: the barrier before the second pass, the dispatch,
    another context and the blit each close one, and the overlay is drawn in
    the last. -/
theorem record_stream_mixed :
    ∃ resolution,
      (resolve poolOfTwo (Compiled.ofOrder drawnThenSampled).resources mixedOps).result
        = .ok resolution
      ∧ ∃ stream, commandsOf (record (Compiled.ofOrder drawnThenSampled)
            ⟨3, oneTimeSubmit, "frame", oneDraw⟩ Replies.good poolOfTwo Device.working
            mixedOps).events
          = [.reset, .begin oneTimeSubmit "frame"] ++ stream.map Prod.snd ++ [.finish]
        ∧ Protocol.run twoSurfaces stream [] = some []
        ∧ passEdges (stream.map Prod.snd) = PassEdge.alternating 5 := by
  refine ⟨_, rfl, ?_⟩
  rcases record_stream (Compiled.ofOrder drawnThenSampled)
    ⟨3, oneTimeSubmit, "frame", oneDraw⟩ Replies.good poolOfTwo Device.working mixedOps _ rfl rfl
    rfl drawsOnly_oneDraw with ⟨stream, hstream, hcommands, hrun, _⟩
  refine ⟨stream, hcommands, hrun, ?_⟩
  rw [hstream]
  rfl

end FrameGraph
