import FrameGraph.Proofs.Protocol

/-!
# Steps Keep the Protocol

Every step of a recording, whatever cursor it is given, appends commands that
the protocol allows. For this the cursor has to tell the truth: if it says
that the render pass of a context is open, then that render pass and its
label are the open brackets, and if it says that none is, no bracket is open.
`Scene.Standing` is this invariant. It holds between any two operations, and
each operation is shown to keep it by itself, so their order does not matter.

Inside an operation it does not always hold. A blit opens a label while no
render pass is open, and what is drawn over the frame opens one inside. So a
step is described by what holds before and after it, as `Leads`, and steps
compose if what holds after the first is what holds before the second.

The commands of a frame are paired with who they are recorded for by walking
the same steps, one for the start, one for each operation and one for the
closing pass. Forgetting the pairing gives the recorded commands back.

## Main definitions

* `Leads`: A step leads from some brackets to others.
* `Scene.Standing`, `Outside`: What is open between steps.
* `Scene.BoundAs`: Surfaces are bound in a scene as they are outside of it.
* `Scene.stages`, `Scene.stream`: The steps and the commands of a frame, with
  who they are recorded for.

## Theorems

* `Leads.andThen`: Steps compose.
* `Scene.leads_closeRenderPass`, `Scene.leads_enterPass`,
  `Scene.run_inRenderPass`, `Scene.leads_recordWork`: What each step does.
* `Scene.leads_startFrame`, `Scene.leads_recordOp`, `Scene.leads_closeFrame`:
  The stages of a frame.
* `Scene.map_snd_stream`: Without the pairing, the recorded commands.
* `Scene.run_ops`: Operations leave open what the cursor says.
* `Scene.run_stream`: A frame keeps the protocol and leaves nothing open.
-/

namespace FrameGraph

open Gpu

/-- What is open when a cursor stands somewhere. -/
abbrev Assertion := Cursor → List Bracket → Prop

/-- A step, recorded for someone, leads from one assertion to another. -/
def Leads (target? : Surface → Option TargetBinding) (origin : Origin) (before : Assertion)
    (step : Step) (after : Assertion) : Prop :=
  ∀ cursor stack, before cursor stack →
    ∃ last, Protocol.run target? (origin.sends (step cursor).2) stack = some last
      ∧ after (step cursor).1 last

/-- No render pass is open, and these brackets are. -/
def Outside (brackets : List Bracket) : Assertion := fun cursor stack =>
  cursor.current = none ∧ stack = brackets

namespace Leads

variable {target? : Surface → Option TargetBinding} {origin : Origin}

/-- Steps compose. -/
theorem andThen {before middle after : Assertion} {first second : Step}
    (hfirst : Leads target? origin before first middle)
    (hsecond : Leads target? origin middle second after) :
    Leads target? origin before (first.andThen second) after := by
  intro cursor stack hbefore
  rcases hfirst cursor stack hbefore with ⟨between, hrun, hmiddle⟩
  rcases hsecond _ between hmiddle with ⟨last, hrun', hafter⟩
  refine ⟨last, ?_, hafter⟩
  change Protocol.run target?
    (origin.sends ((first cursor).2 ++ (second (first cursor).1).2)) stack = some last
  rw [Origin.sends_append]
  exact Protocol.run_append_of_eq target? hrun hrun'

/-- A step without commands that leaves the open render pass alone. -/
theorem silent {assertion : Assertion} {step : Step}
    (hstep : ∀ cursor stack, assertion cursor stack →
      (step cursor).2 = [] ∧ assertion (step cursor).1 stack) :
    Leads target? origin assertion step assertion := by
  intro cursor stack hbefore
  rcases hstep cursor stack hbefore with ⟨hnone, hafter⟩
  refine ⟨stack, ?_, hafter⟩
  rw [hnone]
  rfl

theorem all_nil {assertion : Assertion} :
    Leads target? origin assertion (Step.all []) assertion :=
  silent fun _ _ hbefore => ⟨rfl, hbefore⟩

/-- Commands outside of a render pass that lead from brackets to others. -/
theorem emit {before after : List Bracket} {commands : List Command}
    (hrun : Protocol.run target? (origin.sends commands) before = some after) :
    Leads target? origin (Outside before) (Step.emit commands) (Outside after) := by
  rintro cursor stack ⟨hcurrent, rfl⟩
  exact ⟨after, hrun, hcurrent, rfl⟩

end Leads

section Barriers

variable (target? : Surface → Option TargetBinding) (origin : Origin)

/-- One command that must stand outside, outside. -/
theorem run_outside {brackets : List Bracket} (hopen : Bracket.openPass? brackets = none)
    (command : Command) (hrole : command.role = .outside) :
    Protocol.run target? (origin.sends [command]) brackets = some brackets := by
  change (Protocol.advance target? brackets origin command).bind _ = _
  unfold Protocol.advance
  rw [hrole, hopen]
  rfl

theorem leads_submitImages {brackets : List Bracket} (hopen : Bracket.openPass? brackets = none)
    (barriers : List ImageBarrier) :
    Leads target? origin (Outside brackets) (Step.submitImages barriers) (Outside brackets) := by
  rintro cursor stack ⟨hcurrent, rfl⟩
  unfold Step.submitImages
  split
  · exact ⟨stack, rfl, hcurrent, rfl⟩
  · exact ⟨stack, run_outside target? origin hopen _ rfl, hcurrent, rfl⟩

theorem leads_submitBuffers {brackets : List Bracket} (hopen : Bracket.openPass? brackets = none)
    (barriers : List BufferBarrier) :
    Leads target? origin (Outside brackets) (Step.submitBuffers barriers) (Outside brackets) := by
  rintro cursor stack ⟨hcurrent, rfl⟩
  unfold Step.submitBuffers
  split
  · exact ⟨stack, rfl, hcurrent, rfl⟩
  · exact ⟨stack, run_outside target? origin hopen _ rfl, hcurrent, rfl⟩

end Barriers

namespace Scene

variable (target? : Surface → Option TargetBinding) (origin : Origin) (scene : Scene)

/-- The render pass of a context with its label, innermost first. -/
def drawingIn (context : Context) (binding : TargetBinding) : List Bracket :=
  [.renderPass ⟨context, binding.renderPass, binding.framebuffer⟩, .label]

/-- What is open is what the cursor says. -/
inductive Standing : Assertion
  | idle {cursor : Cursor} (hcurrent : cursor.current = none) : Standing cursor []
  | drawing {cursor : Cursor} {context : Context} {binding : TargetBinding}
      (hcurrent : cursor.current = some context)
      (hbinding : scene.resolution.targets.get? context.target = some binding) :
      Standing cursor (drawingIn context binding)

theorem standing_of_outside {cursor : Cursor} {stack : List Bracket}
    (h : Outside [] cursor stack) : scene.Standing cursor stack := by
  rcases h with ⟨hcurrent, rfl⟩
  exact Standing.idle hcurrent

/-- What is open does not depend on what else the cursor knows. -/
theorem Standing.of_current {scene : Scene} {cursor other : Cursor} {stack : List Bracket}
    (h : scene.Standing cursor stack) (hcurrent : other.current = cursor.current) :
    scene.Standing other stack := by
  cases h with
  | idle hnone => exact Standing.idle (hcurrent.trans hnone)
  | drawing hsome hbinding => exact Standing.drawing (hcurrent.trans hsome) hbinding

end Scene

/-- A step that ends with no bracket open ends as the cursor says. -/
theorem Leads.standing {target? : Surface → Option TargetBinding} {origin : Origin}
    {scene : Scene} {before : Assertion} {step : Step}
    (h : Leads target? origin before step (Outside [])) :
    Leads target? origin before step scene.Standing := by
  intro cursor stack hbefore
  rcases h cursor stack hbefore with ⟨last, hrun, hafter⟩
  exact ⟨last, hrun, scene.standing_of_outside hafter⟩

namespace Scene

variable (target? : Surface → Option TargetBinding) (origin : Origin) (scene : Scene)

/-- Closing the render pass closes its label too. -/
theorem leads_closeRenderPass :
    Leads target? origin scene.Standing Step.closeRenderPass (Outside []) := by
  intro cursor stack hstanding
  unfold Step.closeRenderPass
  cases hstanding with
  | idle hcurrent =>
      rw [hcurrent]
      exact ⟨[], rfl, hcurrent, rfl⟩
  | drawing hcurrent _ =>
      rw [hcurrent]
      exact ⟨[], rfl, rfl, rfl⟩

/-- Barriers are recorded where nothing is open. -/
theorem leads_emitBarriers (barriers : List PlannedBarrier) :
    Leads target? origin (Outside []) (scene.emitBarriers barriers) (Outside []) := by
  intro cursor stack hbefore
  unfold emitBarriers
  exact ((leads_submitImages target? origin rfl _).andThen
    (leads_submitBuffers target? origin rfl _)) _ stack hbefore

theorem leads_emitHazards (hazards : HazardMask) :
    Leads target? origin (Outside []) (emitHazards hazards) (Outside []) := by
  rintro cursor stack ⟨hcurrent, rfl⟩
  unfold emitHazards
  split
  · exact ⟨[], rfl, hcurrent, rfl⟩
  · exact ⟨[], run_outside target? origin rfl _ rfl, hcurrent, rfl⟩

/-- The start of a frame opens nothing. -/
theorem leads_startFrame (hazards : HazardMask) :
    Leads target? origin (Outside []) (scene.startFrame hazards) (Outside []) := by
  have hmark : Leads target? origin (Outside []) scene.markStarted (Outside []) :=
    Leads.silent fun _ _ hbefore => ⟨rfl, hbefore⟩
  exact (leads_emitHazards target? origin hazards).andThen
    (hmark.andThen ((scene.leads_emitBarriers target? origin _).andThen Leads.all_nil))

/-- Entering a pass closes the render pass if there are barriers to record,
    and else leaves it alone. -/
theorem leads_enterPass (pass : PassIndex) :
    Leads target? origin scene.Standing (scene.enterPass pass) scene.Standing := by
  intro cursor stack hstanding
  unfold enterPass
  split
  · exact ⟨stack, rfl, hstanding⟩
  · simp only
    split
    · exact ⟨stack, rfl, hstanding.of_current rfl⟩
    · split
      · exact ⟨stack, rfl, hstanding.of_current rfl⟩
      · -- Barriers are due, so nothing may stay open.
        have hsteps := (scene.leads_closeRenderPass target? origin).andThen
          (scene.leads_emitBarriers target? origin (scene.boundaryBarriers pass))
        exact hsteps.standing _ stack (hstanding.of_current rfl)

/-- Surfaces are bound in the scene as they are outside of it. -/
def BoundAs (target? : Surface → Option TargetBinding) : Prop :=
  ∀ surface binding, scene.resolution.targets.get? surface = some binding →
    target? surface = some binding

/-- What is drawn in a render pass for its context is allowed there, also
    below labels. -/
theorem run_drawing (hbound : scene.BoundAs target?) {context : Context}
    {binding : TargetBinding} {stack : List Bracket}
    (hbinding : scene.resolution.targets.get? context.target = some binding)
    (hopen : Bracket.openPass? stack = some ⟨context, binding.renderPass, binding.framebuffer⟩)
    (hdraws : origin.drawsIn context = true) (commands : List Command)
    (h : ∀ command ∈ commands, command.role = .inside ∨ command.role = .anywhere) :
    Protocol.run target? (origin.sends commands) stack = some stack := by
  refine Protocol.run_of_drawing target? hopen hdraws ?_ commands h
  unfold Begun.isBound
  rw [hbound _ _ hbinding]
  simp only [decide_true, Bool.and_self]

/-- A render pass is opened for the context, unless it is open already. -/
theorem run_inRenderPass (context : Context) (body : TargetBinding → List Command)
    (cursor : Cursor) (stack : List Bracket) (hstanding : scene.Standing cursor stack)
    (hcontext : cursor.current = some context ∨ origin.context? = some context)
    (hbody : ∀ binding, scene.resolution.targets.get? context.target = some binding →
      Protocol.run target? (origin.sends (body binding)) (drawingIn context binding)
        = some (drawingIn context binding)) :
    ∃ last, Protocol.run target?
        (origin.sends (scene.inRenderPass context body cursor).2) stack = some last
      ∧ scene.Standing (scene.inRenderPass context body cursor).1 last := by
  unfold inRenderPass
  cases hbinding : scene.resolution.targets.get? context.target with
  | none => exact ⟨stack, rfl, hstanding⟩
  | some binding =>
      simp only
      split
      · next hcurrent =>
          -- The open render pass is the one to draw in.
          cases hstanding with
          | idle hnone => exact absurd (hnone.symm.trans hcurrent).symm (Option.some_ne_none _)
          | drawing hsome hother =>
              rw [hsome, Option.some.injEq] at hcurrent
              subst hcurrent
              rw [hbinding, Option.some.injEq] at hother
              subst hother
              exact ⟨_, hbody binding hbinding, Standing.drawing hsome hbinding⟩
      · next hcurrent =>
          -- Whatever is open is closed first, and then the context is opened.
          have hopens := hcontext.resolve_left hcurrent
          rcases scene.leads_closeRenderPass target? origin cursor stack hstanding
            with ⟨_, hclosed, _, rfl⟩
          refine ⟨drawingIn context binding, ?_, Standing.drawing rfl hbinding⟩
          have hbegin : Protocol.run target? (origin.sends
              [.beginLabel context.target.label Color.renderPass,
                .beginRenderPass binding.renderPass binding.framebuffer binding.area
                  binding.clearValues]) [] = some (drawingIn context binding) := by
            simp only [Origin.sends, List.map_cons, List.map_nil, Protocol.run,
              Protocol.advance, Command.role, Bracket.openPass?, hopens, Option.bind_some]
            rfl
          rw [Origin.sends_append, Origin.sends_append]
          exact Protocol.run_append_of_eq target?
            (Protocol.run_append_of_eq target? hclosed hbegin) (hbody binding hbinding)

/-- An operation may draw in the render pass of its context. -/
theorem leads_draw (hbound : scene.BoundAs target?) (operation : FrameOp)
    (body : TargetBinding → List Command)
    (hbody : ∀ binding, ∀ command ∈ body binding,
      command.role = .inside ∨ command.role = .anywhere) :
    Leads target? (.op operation) scene.Standing (scene.inRenderPass operation.context body)
      scene.Standing := by
  intro cursor stack hstanding
  refine scene.run_inRenderPass target? (.op operation) operation.context body cursor stack
    hstanding (Or.inr rfl) ?_
  intro binding hbinding
  exact scene.run_drawing target? (.op operation) hbound hbinding rfl (decide_eq_true rfl)
    (body binding) (hbody binding)

theorem leads_recordClear (hbound : scene.BoundAs target?) (operation : FrameOp)
    (clear : Clear) :
    Leads target? (.op operation) scene.Standing (scene.recordClear operation.context clear)
      scene.Standing := by
  unfold recordClear
  split
  · exact Leads.silent fun _ _ hbefore => ⟨rfl, hbefore⟩
  · refine scene.leads_draw target? hbound operation _ ?_
    intro binding command hcommand
    rw [List.mem_singleton.mp hcommand]
    exact Or.inl rfl

/-- A mesh is recorded by bindings and draws. -/
theorem role_mesh (hdraws : scene.renderers.DrawsOnly) (state : DrawState) (renderer : Nat)
    (binding : TargetBinding) :
    ∀ command ∈ setDrawState state ++ [.callMesh renderer binding.renderPass state]
      ++ scene.renderers.mesh renderer binding.renderPass state,
      command.role = .inside ∨ command.role = .anywhere := by
  intro command hcommand
  rcases List.mem_append.mp hcommand with hown | hothers
  · simp only [setDrawState, List.cons_append, List.nil_append, List.mem_cons, List.not_mem_nil,
      or_false] at hown
    rcases hown with rfl | rfl | rfl
    · exact Or.inr rfl
    · exact Or.inr rfl
    · exact Or.inl rfl
  · exact command.role_of_draws (hdraws.mesh renderer binding.renderPass state command hothers)

theorem leads_recordMesh (hbound : scene.BoundAs target?)
    (hdraws : scene.renderers.DrawsOnly) (operation : FrameOp) (state : DrawState)
    (renderer : Nat) :
    Leads target? (.op operation) scene.Standing
      (scene.recordMesh operation.context state renderer) scene.Standing :=
  scene.leads_draw target? hbound operation _ (scene.role_mesh hdraws state renderer)

/-- So is a draw whose arguments a buffer holds. -/
theorem role_indirect (draw : IndirectDraw) :
    ∀ command ∈ setDrawState draw.state ++ [.bindPipeline .graphics draw.state.pipeline,
      if draw.indexed then .drawIndexedIndirect draw.buffer draw.offset draw.drawCount draw.stride
      else .drawIndirect draw.buffer draw.offset draw.drawCount draw.stride],
      command.role = .inside ∨ command.role = .anywhere := by
  intro command hcommand
  simp only [setDrawState, List.cons_append, List.nil_append, List.mem_cons, List.not_mem_nil,
    or_false] at hcommand
  rcases hcommand with rfl | rfl | rfl | rfl
  · exact Or.inr rfl
  · exact Or.inr rfl
  · exact Or.inr rfl
  · split
    · exact Or.inl rfl
    · exact Or.inl rfl

theorem leads_recordIndirect (hbound : scene.BoundAs target?) (operation : FrameOp)
    (draw : IndirectDraw) :
    Leads target? (.op operation) scene.Standing (scene.recordIndirect operation.context draw)
      scene.Standing :=
  scene.leads_draw target? hbound operation _ fun _ => role_indirect draw

/-- A dispatch is recorded where nothing is open. -/
theorem leads_recordDispatch (dispatch : Dispatch) :
    Leads target? origin scene.Standing (recordDispatch dispatch) scene.Standing :=
  ((scene.leads_closeRenderPass target? origin).andThen (Leads.emit rfl)).standing

/-- A blit is recorded where nothing is open but its own label. -/
theorem leads_recordBlit (blit : Blit) :
    Leads target? origin scene.Standing (scene.recordBlit blit) scene.Standing := by
  have hlabel : Bracket.openPass? [.label] = none := rfl
  have hopens : Leads target? origin (Outside [])
      (Step.emit [.beginLabel "blit" Color.transfer]) (Outside [.label]) := Leads.emit rfl
  have hcloses : Leads target? origin (Outside [.label]) (Step.emit [.endLabel])
      (Outside []) := Leads.emit rfl
  unfold recordBlit
  split
  · refine Leads.standing ((scene.leads_closeRenderPass target? origin).andThen ?_)
    refine hopens.andThen ?_
    refine (leads_submitImages target? origin hlabel _).andThen ?_
    refine (Leads.emit (run_outside target? origin hlabel _ rfl)).andThen ?_
    refine (leads_submitImages target? origin hlabel _).andThen ?_
    exact hcloses.andThen Leads.all_nil
  · exact Leads.silent fun _ _ hbefore => ⟨rfl, hbefore⟩

/-- The work of an operation, by its kind. -/
theorem leads_recordWork (hbound : scene.BoundAs target?) (hdraws : scene.renderers.DrawsOnly)
    (operation : FrameOp) :
    Leads target? (.op operation) scene.Standing (scene.recordWork operation)
      scene.Standing := by
  unfold recordWork
  cases operation.work with
  | clear clear => exact scene.leads_recordClear target? hbound operation clear
  | mesh state renderer =>
      exact scene.leads_recordMesh target? hbound hdraws operation state renderer
  | blit blit => exact scene.leads_recordBlit target? (.op operation) blit
  | indirect draw => exact scene.leads_recordIndirect target? hbound operation draw
  | dispatch dispatch => exact scene.leads_recordDispatch target? (.op operation) dispatch

/-- Every operation leaves open what the cursor says. -/
theorem leads_recordOp (hbound : scene.BoundAs target?) (hdraws : scene.renderers.DrawsOnly)
    (operation : FrameOp) :
    Leads target? (.op operation) scene.Standing (scene.recordOp operation) scene.Standing := by
  have hcount : Leads target? (.op operation) scene.Standing
      (fun cursor => (cursor.countOp, [])) scene.Standing :=
    Leads.silent fun _ _ hbefore => ⟨rfl, hbefore.of_current rfl⟩
  exact (scene.leads_enterPass target? _ operation.pass).andThen
    ((scene.leads_recordWork target? hbound hdraws operation).andThen
      (hcount.andThen Leads.all_nil))

/-- The closing pass is on the presented image. -/
theorem closingContext_target (cursor : Cursor) :
    (closingContext cursor).targetsSwapchain = true := by
  unfold closingContext
  split
  · split
    · assumption
    · rfl
  · rfl

/-- The closing pass is the open render pass or has an identity of its own. -/
theorem closingContext_cases (cursor : Cursor) :
    cursor.current = some (closingContext cursor)
      ∨ Origin.closing.context? = some (closingContext cursor) := by
  unfold closingContext
  split
  · next context hcurrent =>
      split
      · exact Or.inl hcurrent
      · exact Or.inr rfl
  · exact Or.inr rfl

/-- What is drawn over the frame has a label of its own in the render pass. -/
theorem run_overlayCommands (hbound : scene.BoundAs target?)
    (hdraws : scene.renderers.DrawsOnly) {context : Context} {binding : TargetBinding}
    (hswapchain : context.targetsSwapchain = true)
    (hbinding : scene.resolution.targets.get? context.target = some binding) :
    Protocol.run target? (Origin.closing.sends (scene.overlayCommands binding))
      (drawingIn context binding) = some (drawingIn context binding) := by
  unfold overlayCommands
  cases hoverlay : scene.renderers.overlay with
  | none => rfl
  | some overlay =>
      -- The label is on top of the render pass, which stays the open one.
      have hlabelled : ∀ commands : List Command,
          (∀ command ∈ commands, command.role = .inside ∨ command.role = .anywhere) →
          Protocol.run target? (Origin.closing.sends commands)
            (.label :: drawingIn context binding) = some (.label :: drawingIn context binding) :=
        scene.run_drawing target? .closing hbound hbinding rfl hswapchain
      have hown := hlabelled [.callOverlay binding.renderPass binding.area] (by
        intro command hcommand
        rw [List.mem_singleton.mp hcommand]
        exact Or.inl rfl)
      have hothers := hlabelled (overlay binding.renderPass binding.area) (by
        intro command hcommand
        exact command.role_of_draws
          (hdraws.overlay overlay hoverlay binding.renderPass binding.area command hcommand))
      have hopens : Protocol.run target? (Origin.closing.sends
          [.beginLabel "overlay" Color.overlay]) (drawingIn context binding)
            = some (.label :: drawingIn context binding) := rfl
      have hcloses : Protocol.run target? (Origin.closing.sends [.endLabel])
          (.label :: drawingIn context binding) = some (drawingIn context binding) := rfl
      have hbegins := Protocol.run_append_of_eq target? hopens hown
      simp only [Origin.sends_append]
      exact Protocol.run_append_of_eq target?
        (Protocol.run_append_of_eq target? hbegins hothers) hcloses

/-- The closing pass leaves nothing open. -/
theorem leads_closeFrame (hbound : scene.BoundAs target?)
    (hdraws : scene.renderers.DrawsOnly) :
    Leads target? .closing scene.Standing scene.closeFrame (Outside []) := by
  -- Which context closes the frame depends on the cursor it is closed from.
  have hinside : ∀ cursor, Leads target? .closing
      (fun other stack => other = cursor ∧ scene.Standing cursor stack)
      (scene.inRenderPass (closingContext cursor) scene.overlayCommands) scene.Standing := by
    rintro cursor _ stack ⟨rfl, hstanding⟩
    refine scene.run_inRenderPass target? .closing _ _ _ stack hstanding
      (closingContext_cases _) ?_
    intro binding hbinding
    exact scene.run_overlayCommands target? hbound hdraws (closingContext_target _) hbinding
  intro cursor stack hstanding
  exact ((hinside cursor).andThen (scene.leads_closeRenderPass target? .closing)) cursor stack
    ⟨rfl, hstanding⟩

/-- The steps of a frame, each with who it is recorded for. -/
def stages (hazards : HazardMask) (ops : List FrameOp) : List (Origin × Step) :=
  (.start, scene.startFrame hazards)
    :: (ops.map (fun operation => (Origin.op operation, scene.recordOp operation))
      ++ [(.closing, scene.closeFrame)])

end Scene

/-- The commands of some stages, each with who it is recorded for. -/
def attributed : List (Origin × Step) → Cursor → List (Origin × Command)
  | [], _ => []
  | stage :: rest, cursor =>
    stage.1.sends (stage.2 cursor).2 ++ attributed rest (stage.2 cursor).1

namespace Scene

variable (target? : Surface → Option TargetBinding) (scene : Scene)

/-- The commands of a frame, each with who it is recorded for. -/
def stream (hazards : HazardMask) (ops : List FrameOp) : List (Origin × Command) :=
  attributed (scene.stages hazards ops) (Cursor.start scene.resolution.states)

theorem map_snd_attributed (stages : List (Origin × Step)) (cursor : Cursor) :
    (attributed stages cursor).map Prod.snd = (Step.all (stages.map Prod.snd) cursor).2 := by
  induction stages generalizing cursor with
  | nil => rfl
  | cons stage rest ih =>
      rw [attributed, List.map_append, Origin.map_snd_sends, ih]
      rfl

/-- Without who they are recorded for, they are the commands of the frame. -/
theorem map_snd_stream (hazards : HazardMask) (ops : List FrameOp) :
    (scene.stream hazards ops).map Prod.snd
      = (scene.recordFrame hazards ops (Cursor.start scene.resolution.states)).2 := by
  unfold stream
  rw [map_snd_attributed]
  have hsteps : (scene.stages hazards ops).map Prod.snd
      = [scene.startFrame hazards] ++ ops.map scene.recordOp ++ [scene.closeFrame] := by
    unfold stages
    rw [List.map_cons, List.map_append, List.map_map]
    rfl
  rw [hsteps]
  rfl

/-- The commands of stages that come after others. -/
theorem attributed_append (first second : List (Origin × Step)) (cursor : Cursor) :
    attributed (first ++ second) cursor
      = attributed first cursor ++ attributed second (Step.all (first.map Prod.snd) cursor).1 := by
  induction first generalizing cursor with
  | nil => rfl
  | cons stage rest ih =>
      rw [List.cons_append, attributed, ih, ← List.append_assoc]
      rfl

/-- The stages of operations are the steps that record them. -/
theorem map_snd_ops (ops : List FrameOp) :
    (ops.map fun operation => (Origin.op operation, scene.recordOp operation)).map Prod.snd
      = ops.map scene.recordOp := by
  rw [List.map_map]
  rfl

/-- From anywhere between two operations, more of them keep the protocol, and
    what is open afterwards is what the cursor says. -/
theorem run_ops (hbound : scene.BoundAs target?) (hdraws : scene.renderers.DrawsOnly)
    (ops : List FrameOp) (cursor : Cursor) (stack : List Bracket)
    (hstanding : scene.Standing cursor stack) :
    ∃ last, Protocol.run target? (attributed
        (ops.map fun operation => (Origin.op operation, scene.recordOp operation)) cursor) stack
        = some last
      ∧ scene.Standing (Step.all (ops.map scene.recordOp) cursor).1 last := by
  induction ops generalizing cursor stack with
  | nil => exact ⟨stack, rfl, hstanding⟩
  | cons operation rest ih =>
      rcases scene.leads_recordOp target? hbound hdraws operation cursor stack hstanding
        with ⟨middle, hrun, hstands⟩
      rcases ih _ middle hstands with ⟨last, hrest, hlast⟩
      exact ⟨last, Protocol.run_append_of_eq target? hrun hrest, hlast⟩

/-- From anywhere between two operations, the rest of a frame keeps the
    protocol and leaves nothing open. -/
theorem run_rest (hbound : scene.BoundAs target?) (hdraws : scene.renderers.DrawsOnly)
    (ops : List FrameOp) (cursor : Cursor) (stack : List Bracket)
    (hstanding : scene.Standing cursor stack) :
    Protocol.run target?
      (attributed (ops.map (fun operation => (Origin.op operation, scene.recordOp operation))
        ++ [(.closing, scene.closeFrame)]) cursor) stack = some [] := by
  rcases scene.run_ops target? hbound hdraws ops cursor stack hstanding with ⟨middle, hops, hstands⟩
  rcases scene.leads_closeFrame target? hbound hdraws _ middle hstands with ⟨_, hrun, _, rfl⟩
  rw [attributed_append, map_snd_ops]
  exact Protocol.run_append_of_eq target? hops (Protocol.run_append_of_eq target? hrun rfl)

/-- A frame keeps the protocol and leaves nothing open. -/
theorem run_stream (hbound : scene.BoundAs target?) (hdraws : scene.renderers.DrawsOnly)
    (hazards : HazardMask) (ops : List FrameOp) :
    Protocol.run target? (scene.stream hazards ops) [] = some [] := by
  rcases scene.leads_startFrame target? .start hazards
    (Cursor.start scene.resolution.states) [] ⟨rfl, rfl⟩ with ⟨_, hrun, hafter, rfl⟩
  exact Protocol.run_append_of_eq target? hrun
    (scene.run_rest target? hbound hdraws ops _ [] (Standing.idle hafter))

end Scene

end FrameGraph
