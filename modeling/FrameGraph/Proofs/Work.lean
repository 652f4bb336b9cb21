import FrameGraph.Proofs.Recorded
import FrameGraph.Proofs.SharedPass

/-!
# The Work in a Stream

Between the work that a frame was asked for stands much that nobody asked
for: labels, the begins and ends of render passes, and barriers. Which of
these are recorded, and where, depends on the graph and on what is open at the
time. The work does not. Whatever is put around an operation, its own block
follows the block of the operation before, so a stream without its
surroundings is the blocks in a row and what is drawn over the frame.

A recording counts what it adds around the work, and what others draw it
cannot count. So a step is described by the work in it, and `Accounts` says
three things at once: what is left of its commands without surroundings, how
the counters moved, and that both fit together. A step may be described from
one cursor only, because the closing pass depends on what is open.

The counters are 32 bits wide, and one that is full starts again at zero. What
they hold at the end says how much was added only if that is less than they can
count, so with each step goes the most that it adds (`Room`).

The barrier that answers hazards is kept apart. It is the only one that is no
surrounding but comes before everything, and its place is a result of its own.

## Main definitions

* `Command.isWork`, `Command.beginsPass`, `Command.isBarrier`,
  `Command.surrounds`: Kinds of commands.
* `bare`: Commands without surroundings.
* `Counted`: A counter that went up by what was added to some work.
* `Around`, `Accounts`: Commands with work in them, and a step that counts
  what it adds to the work.
* `Clear.asked`, `FrameOp.block`, `Renderers.overlayWork`, `frameWork`: The work
  of a clear, of an operation, of the overlay and of a frame.
* `Renderers.Records`: What is from a renderer.
* `Tallies`: A whole stream that keeps some work and counts the rest.

## Theorems

* `filter_of_bare`: What is kept without surroundings is kept in any case.
* `Counted.append`, `Accounts.andThen`: Steps compose.
* `Scene.accounts_enterPass`, `Scene.accounts_inRenderPass`,
  `Scene.accounts_recordWork`, `Scene.accounts_closeFrame`: What each step
  adds.
* `Scene.accounts_recordFrame`: A frame is the answer to its hazards, and
  then its work with surroundings.
* `isWork_or_records`: What is in the work of a frame is work, or it is from a
  renderer.
* `record_commands`, `record_tallies`: The stream of a frame that resolves and
  begins.
* `record_keepsWork`: Recording keeps the work and counts what it adds.
-/

namespace FrameGraph

open Gpu

namespace Gpu.Command

/-- The command is a part of what was asked for. -/
def isWork : Command → Bool
  | reset | begin _ _ | finish | beginRenderPass .. | endRenderPass | beginLabel _ _ | endLabel
  | memoryBarrier _ | imageBarrier _ _ | bufferBarrier _ _ => false
  | clearAttachments _ _ | setViewport _ _ | setScissor _ _ | bindPipeline _ _ | blitImage ..
  | dispatch .. | draw .. | drawIndexed .. | drawIndirect .. | drawIndexedIndirect ..
  | callMesh .. | callOverlay .. => true

/-- The command begins a render pass. -/
def beginsPass : Command → Bool
  | beginRenderPass .. => true
  | _ => false

/-- The command is a barrier on all memory. -/
def isMemoryBarrier : Command → Bool
  | memoryBarrier _ => true
  | _ => false

/-- The command is a barrier of some kind. -/
def isBarrier : Command → Bool
  | memoryBarrier _ | imageBarrier _ _ | bufferBarrier _ _ => true
  | _ => false

/-- The command may be put around work: an edge of a render pass or of a
    label, or a barrier on images or buffers. -/
def surrounds : Command → Bool
  | beginRenderPass .. | endRenderPass | beginLabel _ _ | endLabel | imageBarrier _ _
  | bufferBarrier _ _ => true
  | _ => false

theorem isWork_of_surrounds (command : Command) (h : command.surrounds = true) :
    command.isWork = false := by
  cases command <;> first
    | rfl
    | exact absurd h Bool.false_ne_true

theorem isMemoryBarrier_of_surrounds (command : Command) (h : command.surrounds = true) :
    command.isMemoryBarrier = false := by
  cases command <;> first
    | rfl
    | exact absurd h Bool.false_ne_true

theorem isWork_of_draws (command : Command) (h : command.draws = true) :
    command.isWork = true := by
  cases command <;> first
    | rfl
    | exact absurd h Bool.false_ne_true

/-- Work is not counted as something added to it. -/
theorem uncounted_of_isWork (command : Command) (h : command.isWork = true) :
    command.beginsPass = false ∧ command.isBarrier = false ∧ command.isMemoryBarrier = false := by
  cases command <;> first
    | exact ⟨rfl, rfl, rfl⟩
    | exact absurd h Bool.false_ne_true

end Gpu.Command

/-- Commands without what may be put around work. -/
def bare (commands : List Command) : List Command :=
  commands.filter fun command => !command.surrounds

@[simp] theorem bare_append (first second : List Command) :
    bare (first ++ second) = bare first ++ bare second :=
  List.filter_append first second

/-- Where surroundings are not kept, nothing else matters than what is left
    without them. -/
theorem filter_of_bare (keep : Command → Bool)
    (hkeep : ∀ command, command.surrounds = true → keep command = false)
    {first second : List Command} (h : bare first = bare second) :
    first.filter keep = second.filter keep := by
  have hbare : ∀ commands : List Command, (bare commands).filter keep = commands.filter keep := by
    intro commands
    unfold bare
    rw [List.filter_filter]
    refine List.filter_congr ?_
    intro command _
    cases hsurrounds : command.surrounds with
    | true => simp [hkeep command hsurrounds]
    | false => simp
  rw [← hbare first, h, hbare]

/-- The commands are some work with surroundings, none of which is counted. -/
structure Around (work commands : List Command) : Prop where
  bare : bare commands = bare work
  begins : commands.countP Command.beginsPass = work.countP Command.beginsPass
  barriers : commands.countP Command.isBarrier = work.countP Command.isBarrier

theorem around_self (work : List Command) : Around work work := ⟨rfl, rfl, rfl⟩

/-- From one value to another a counter went up by as many commands of a kind as
    there are besides those in the work, and these are no more than some
    number. A counter that is full starts again at zero. -/
def Counted (kind : Command → Bool) (most : Nat) (work commands : List Command)
    (before after : UInt32) : Prop :=
  ∃ added ≤ most, commands.countP kind = added + work.countP kind
    ∧ after = before + UInt32.ofNat added

namespace Counted

variable {kind : Command → Bool} {most : Nat} {work commands : List Command}
  {before after : UInt32}

/-- Nothing was added, and the counter stands still. -/
theorem still (h : commands.countP kind = work.countP kind) (counter : UInt32) :
    Counted kind 0 work commands counter counter :=
  ⟨0, Nat.le_refl 0, h.trans (Nat.zero_add _).symm, (UInt32.add_zero counter).symm⟩

theorem succ (h : commands.countP kind = 1 + work.countP kind) (counter : UInt32) :
    Counted kind 1 work commands counter (counter + 1) :=
  ⟨1, Nat.le_refl 1, h, rfl⟩

/-- What two stretches add, both add together. -/
theorem append {more : Nat} {rest later : List Command} {last : UInt32}
    (hfirst : Counted kind most work commands before after)
    (hsecond : Counted kind more rest later after last) :
    Counted kind (most + more) (work ++ rest) (commands ++ later) before last := by
  rcases hfirst with ⟨here, hhere, hcount, hafter⟩
  rcases hsecond with ⟨there, hthere, hlater, hlast⟩
  refine ⟨here + there, Nat.add_le_add hhere hthere, ?_, ?_⟩
  · rw [List.countP_append, List.countP_append, hcount, hlater]
    omega
  · rw [hlast, hafter, UInt32.ofNat_add, UInt32.add_assoc]

theorem within {more : Nat} (h : Counted kind most work commands before after)
    (hmore : most ≤ more) : Counted kind more work commands before after := by
  rcases h with ⟨added, hadded, hrest⟩
  exact ⟨added, hadded.trans hmore, hrest⟩

/-- Commands of other kinds around it do not count. -/
theorem between {front back : List Command} (hfront : front.countP kind = 0)
    (hback : back.countP kind = 0) (h : Counted kind most work commands before after) :
    Counted kind most work (front ++ commands ++ back) before after := by
  rcases h with ⟨added, hadded, hcount, hafter⟩
  refine ⟨added, hadded, ?_, hafter⟩
  rw [List.countP_append, List.countP_append, hfront, hback, Nat.zero_add, Nat.add_zero]
  exact hcount

/-- A counter that starts at zero holds what was added, modulo its width. -/
theorem toNat (h : Counted kind most work commands 0 after) :
    ∃ added ≤ most, commands.countP kind = added + work.countP kind
      ∧ after.toNat = added % UInt32.size := by
  rcases h with ⟨added, hadded, hcount, hafter⟩
  refine ⟨added, hadded, hcount, ?_⟩
  rw [hafter, UInt32.zero_add]
  exact UInt32.toNat_ofNat'

end Counted

/-- The most that a step adds to the work. -/
structure Room where
  begins : Nat
  barriers : Nat
  deriving DecidableEq, Repr

/-- From a cursor, a step came to another one with some work in its commands
    and so many operations done. What it added to the work it counted, and
    there was room for it. -/
structure Accounts (work : List Command) (count : Nat) (room : Room) (before : Cursor)
    (made : Cursor × List Command) : Prop where
  bare : bare made.2 = bare work
  begins : Counted Command.beginsPass room.begins work made.2 before.stats.renderPassBegins
    made.1.stats.renderPassBegins
  barriers : Counted Command.isBarrier room.barriers work made.2 before.stats.barrierBatches
    made.1.stats.barrierBatches
  ops : made.1.stats.opsRecorded = before.stats.opsRecorded + UInt32.ofNat count

namespace Accounts

/-- Without commands and with the counters as they were there is no work. -/
theorem silent {before after : Cursor}
    (hbegins : after.stats.renderPassBegins = before.stats.renderPassBegins)
    (hbarriers : after.stats.barrierBatches = before.stats.barrierBatches)
    (hops : after.stats.opsRecorded = before.stats.opsRecorded) :
    Accounts [] 0 ⟨0, 0⟩ before (after, []) where
  bare := rfl
  begins := by
    rw [hbegins]
    exact Counted.still rfl _
  barriers := by
    rw [hbarriers]
    exact Counted.still rfl _
  ops := hops.trans (UInt32.add_zero _).symm

theorem same (cursor : Cursor) : Accounts [] 0 ⟨0, 0⟩ cursor (cursor, []) := silent rfl rfl rfl

theorem emit {work commands : List Command} (h : Around work commands) (cursor : Cursor) :
    Accounts work 0 ⟨0, 0⟩ cursor (Step.emit commands cursor) where
  bare := h.bare
  begins := Counted.still h.begins _
  barriers := Counted.still h.barriers _
  ops := (UInt32.add_zero _).symm

/-- Steps compose, and so does their work. -/
theorem andThen {first second : Step} {cursor : Cursor} {before after : List Command}
    {done more : Nat} {here there : Room}
    (hfirst : Accounts before done here cursor (first cursor))
    (hsecond : Accounts after more there (first cursor).1 (second (first cursor).1)) :
    Accounts (before ++ after) (done + more)
      ⟨here.begins + there.begins, here.barriers + there.barriers⟩ cursor
      (first.andThen second cursor) where
  bare := by
    simp only [Step.andThen, bare_append, hfirst.bare, hsecond.bare]
  begins := hfirst.begins.append hsecond.begins
  barriers := hfirst.barriers.append hsecond.barriers
  ops := by
    have hboth := hsecond.ops
    rw [hfirst.ops, UInt32.add_assoc, ← UInt32.ofNat_add] at hboth
    exact hboth

/-- Of the cursor before a step only what was counted matters. -/
theorem of_stats {work : List Command} {count : Nat} {room : Room} {before other : Cursor}
    {made : Cursor × List Command} (h : Accounts work count room before made)
    (hstats : other.stats = before.stats) : Accounts work count room other made := by
  constructor
  · exact h.bare
  · rw [hstats]
    exact h.begins
  · rw [hstats]
    exact h.barriers
  · rw [hstats]
    exact h.ops

/-- There may be more room than is needed. -/
theorem within {work : List Command} {count : Nat} {room wider : Room} {before : Cursor}
    {made : Cursor × List Command} (h : Accounts work count room before made)
    (hbegins : room.begins ≤ wider.begins) (hbarriers : room.barriers ≤ wider.barriers) :
    Accounts work count wider before made :=
  ⟨h.bare, h.begins.within hbegins, h.barriers.within hbarriers, h.ops⟩

/-- What comes after a step that does no work does all of it. -/
theorem thenWork {first second : Step} {cursor : Cursor} {work : List Command} {count : Nat}
    {here there : Room} (hfirst : Accounts [] 0 here cursor (first cursor))
    (hsecond : Accounts work count there (first cursor).1 (second (first cursor).1)) :
    Accounts work count ⟨here.begins + there.begins, here.barriers + there.barriers⟩ cursor
      (first.andThen second cursor) := by
  have hboth := hfirst.andThen hsecond
  rw [Nat.zero_add] at hboth
  exact hboth

/-- So does what comes before one. -/
theorem thenSilent {first second : Step} {cursor : Cursor} {work : List Command} {count : Nat}
    {here there : Room} (hfirst : Accounts work count here cursor (first cursor))
    (hsecond : Accounts [] 0 there (first cursor).1 (second (first cursor).1)) :
    Accounts work count ⟨here.begins + there.begins, here.barriers + there.barriers⟩ cursor
      (first.andThen second cursor) := by
  have hboth := hfirst.andThen hsecond
  rw [List.append_nil] at hboth
  exact hboth

end Accounts

namespace Step

theorem accounts_closeRenderPass (cursor : Cursor) :
    Accounts [] 0 ⟨0, 0⟩ cursor (closeRenderPass cursor) := by
  unfold closeRenderPass
  split
  · exact Accounts.same cursor
  · -- An end of a render pass and one of its label, and neither is counted.
    exact ⟨rfl, Counted.still rfl _, Counted.still rfl _, (UInt32.add_zero _).symm⟩

theorem accounts_submitImages (barriers : List ImageBarrier) (cursor : Cursor) :
    Accounts [] 0 ⟨0, 1⟩ cursor (submitImages barriers cursor) := by
  unfold submitImages
  split
  · exact (Accounts.same cursor).within (Nat.le_refl 0) (Nat.zero_le 1)
  · exact ⟨rfl, Counted.still rfl _, Counted.succ rfl _, (UInt32.add_zero _).symm⟩

theorem accounts_submitBuffers (barriers : List BufferBarrier) (cursor : Cursor) :
    Accounts [] 0 ⟨0, 1⟩ cursor (submitBuffers barriers cursor) := by
  unfold submitBuffers
  split
  · exact (Accounts.same cursor).within (Nat.le_refl 0) (Nat.zero_le 1)
  · exact ⟨rfl, Counted.still rfl _, Counted.succ rfl _, (UInt32.add_zero _).symm⟩

end Step

/-- The attachments that a clear asks for: the first one of colour, and one of
    depth, of stencil or of both together. -/
def Clear.asked (clear : Clear) : List ClearAttachment :=
  let value : ClearValue := .depthStencil clear.clearDepth clear.clearStencil
  (if clear.color then [⟨AspectMask.color, 0, .color clear.clearColor⟩] else [])
    ++ match clear.depth, clear.stencil with
      | true, true => [⟨AspectMask.depth ||| AspectMask.stencil, attachmentUnused, value⟩]
      | true, false => [⟨AspectMask.depth, attachmentUnused, value⟩]
      | false, true => [⟨AspectMask.stencil, attachmentUnused, value⟩]
      | false, false => []

theorem Clear.attachments_eq_asked (clear : Clear) : clear.attachments = clear.asked := by
  unfold attachments asked depthStencilAspect
  cases clear.depth with
  | true =>
      cases clear.stencil with
      | true => rfl
      | false => rfl
  | false =>
      cases clear.stencil with
      | true => rfl
      | false => rfl

namespace FrameOp

/-- The work of an operation, with surfaces bound in some way: one clear of the
    aspects that are asked for, if any; a draw with its viewport and its
    scissor, by a renderer or from a buffer; one copy; or one dispatch. -/
def block (target? : Surface → Option TargetBinding) (renderers : Renderers)
    (operation : FrameOp) : List Command :=
  match operation.work with
  | .clear clear =>
    if clear.color || clear.depth || clear.stencil then
      [.clearAttachments clear.asked [⟨clear.rect, 0, 1⟩]]
    else []
  | .mesh state renderer =>
    match target? operation.context.target with
    | none => []
    | some binding =>
      [.setViewport 0 [state.viewport], .setScissor 0 [state.scissor],
        .callMesh renderer binding.renderPass state]
        ++ renderers.mesh renderer binding.renderPass state
  | .blit blit =>
    match target? blit.source, target? blit.destination with
    | some source, some destination =>
      [.blitImage source.image Layout.transferSource destination.image
        Layout.transferDestination blit.regions blit.filter]
    | _, _ => []
  | .indirect draw =>
    [.setViewport 0 [draw.state.viewport], .setScissor 0 [draw.state.scissor],
      .bindPipeline .graphics draw.state.pipeline,
      if draw.indexed then .drawIndexedIndirect draw.buffer draw.offset draw.drawCount draw.stride
      else .drawIndirect draw.buffer draw.offset draw.drawCount draw.stride]
  | .dispatch dispatch =>
    [.bindPipeline .compute dispatch.pipeline, .dispatch dispatch.x dispatch.y dispatch.z]

end FrameOp

/-- What is drawn over the finished frame. -/
def Renderers.overlayWork (target? : Surface → Option TargetBinding) (renderers : Renderers) :
    List Command :=
  match renderers.overlay, target? .swapchain with
  | some overlay, some binding =>
    .callOverlay binding.renderPass binding.area :: overlay binding.renderPass binding.area
  | _, _ => []

/-- The work of a frame. -/
def frameWork (target? : Surface → Option TargetBinding) (renderers : Renderers)
    (ops : List FrameOp) : List Command :=
  ops.flatMap (FrameOp.block target? renderers) ++ renderers.overlayWork target?

namespace Scene

variable (scene : Scene)

theorem accounts_emitBarriers (barriers : List PlannedBarrier) (cursor : Cursor) :
    Accounts [] 0 ⟨0, 2⟩ cursor (scene.emitBarriers barriers cursor) := by
  unfold emitBarriers
  generalize settle scene.resolution.backings (PlannedBarrier.imagesFirst barriers)
    cursor.states = settled
  have hboth := (Step.accounts_submitImages
    ((settled.2.filter (·.planned.isImage)).map Transition.imageBarrier)
    { cursor with states := settled.1 }).thenWork
    (Step.accounts_submitBuffers
      ((settled.2.filter (!·.planned.isImage)).map Transition.bufferBarrier) _)
  exact hboth.of_stats rfl

/-- Entering a pass adds only surroundings. -/
theorem accounts_enterPass (pass : PassIndex) (cursor : Cursor) :
    Accounts [] 0 ⟨0, 2⟩ cursor (scene.enterPass pass cursor) := by
  have hnone : ∀ after : Cursor, after.stats = cursor.stats →
      Accounts [] 0 ⟨0, 2⟩ cursor (after, []) := by
    intro after hstats
    exact (Accounts.silent (by rw [hstats]) (by rw [hstats]) (by rw [hstats])).within
      (Nat.le_refl 0) (Nat.zero_le 2)
  unfold enterPass
  split
  · exact hnone cursor rfl
  · simp only
    split
    · exact hnone _ rfl
    · split
      · exact hnone _ rfl
      · have hboth := (Step.accounts_closeRenderPass
          { cursor with pass := some pass, passed := pass :: cursor.passed }).thenWork
          (scene.accounts_emitBarriers (scene.boundaryBarriers pass) _)
        exact hboth.of_stats rfl

/-- A render pass is gone on with, or one that is begun is counted. -/
theorem accounts_inRenderPass {context : Context} {binding : TargetBinding}
    (hbinding : scene.resolution.targets.get? context.target = some binding)
    {body : TargetBinding → List Command} {work : List Command}
    (hbody : Around work (body binding)) (cursor : Cursor) :
    Accounts work 0 ⟨1, 0⟩ cursor (scene.inRenderPass context body cursor) := by
  unfold inRenderPass
  rw [hbinding]
  simp only
  split
  · exact (Accounts.emit hbody cursor).within (Nat.zero_le 1) (Nat.le_refl 0)
  · -- The open one is closed first, which is not counted.
    have hclose := Step.accounts_closeRenderPass cursor
    have hopen (counter : UInt32) : Counted Command.beginsPass 1 []
        [.beginLabel context.target.label Color.renderPass,
          .beginRenderPass binding.renderPass binding.framebuffer binding.area
            binding.clearValues] counter (counter + 1) := Counted.succ rfl counter
    have hquiet (counter : UInt32) : Counted Command.isBarrier 0 []
        [.beginLabel context.target.label Color.renderPass,
          .beginRenderPass binding.renderPass binding.framebuffer binding.area
            binding.clearValues] counter counter := Counted.still rfl counter
    constructor
    · simp only [bare_append, hclose.bare, hbody.bare]
      rfl
    · exact (hclose.begins.append (hopen _)).append (Counted.still hbody.begins _)
    · exact (hclose.barriers.append (hquiet _)).append (Counted.still hbody.barriers _)
    · exact hclose.ops

theorem accounts_recordBlit {blit : Blit} {source destination : TargetBinding}
    (hsource : scene.resolution.targets.get? blit.source = some source)
    (hdestination : scene.resolution.targets.get? blit.destination = some destination)
    (cursor : Cursor) :
    Accounts [.blitImage source.image Layout.transferSource destination.image
        Layout.transferDestination blit.regions blit.filter] 0 ⟨0, 2⟩ cursor
      (scene.recordBlit blit cursor) := by
  have hlabel : ∀ cursor, Accounts [] 0 ⟨0, 0⟩ cursor
      (Step.emit [.beginLabel "blit" Color.transfer] cursor) := Accounts.emit ⟨rfl, rfl, rfl⟩
  have hend : ∀ cursor, Accounts [] 0 ⟨0, 0⟩ cursor (Step.emit [.endLabel] cursor) :=
    Accounts.emit ⟨rfl, rfl, rfl⟩
  -- The copy is the work; what follows it moves the images back.
  have hblit (before after : List ImageBarrier) :=
    (Step.accounts_closeRenderPass cursor).thenWork <| (hlabel _).thenWork <|
    (Step.accounts_submitImages before _).thenWork <|
    (Accounts.emit (around_self [.blitImage source.image Layout.transferSource destination.image
      Layout.transferDestination blit.regions blit.filter]) _).thenSilent <|
    (Step.accounts_submitImages after _).thenWork <| (hend _).thenWork <|
    Accounts.emit (around_self []) _
  unfold recordBlit
  rw [hsource, hdestination]
  exact hblit _ _

/-- The work of an operation is its block, if its surfaces are bound in the
    scene as they are outside of it. -/
theorem accounts_recordWork (target? : Surface → Option TargetBinding) (operation : FrameOp)
    (hbound : ∀ surface ∈ operation.surfaces, ∃ binding,
      scene.resolution.targets.get? surface = some binding ∧ target? surface = some binding)
    (cursor : Cursor) :
    Accounts (operation.block target? scene.renderers) 0 ⟨1, 2⟩ cursor
      (scene.recordWork operation cursor) := by
  have hdraws : operation.drawsInPass = true → ∃ binding,
      scene.resolution.targets.get? operation.context.target = some binding
        ∧ target? operation.context.target = some binding :=
    fun h => hbound _ (FrameOp.mem_surfaces_of_draws h)
  unfold recordWork FrameOp.block
  cases hwork : operation.work with
  | clear clear =>
      -- Whether there is something to clear is asked in two ways.
      simp only [recordClear]
      rw [Clear.isEmpty_attachments, Clear.attachments_eq_asked]
      cases haspect : clear.color || clear.depth || clear.stencil with
      | true =>
          rcases hdraws (by simp only [FrameOp.drawsInPass, hwork, haspect]) with ⟨_, hget, _⟩
          refine (scene.accounts_inRenderPass hget ?_ cursor).within (Nat.le_refl 1)
            (Nat.zero_le 2)
          exact around_self _
      | false => exact (Accounts.same cursor).within (Nat.zero_le 1) (Nat.zero_le 2)
  | mesh state renderer =>
      rcases hdraws (by simp only [FrameOp.drawsInPass, hwork]) with ⟨_, hget, htarget⟩
      simp only [htarget]
      unfold recordMesh
      refine (scene.accounts_inRenderPass hget ?_ cursor).within (Nat.le_refl 1) (Nat.zero_le 2)
      exact around_self _
  | blit blit =>
      have hsurfaces : operation.surfaces = [blit.source, blit.destination] := by
        unfold FrameOp.surfaces
        rw [hwork]
      rcases hbound blit.source (by simp [hsurfaces]) with ⟨_, hsource, hfrom⟩
      rcases hbound blit.destination (by simp [hsurfaces]) with ⟨_, hdestination, hto⟩
      simp only [hfrom, hto]
      exact (scene.accounts_recordBlit hsource hdestination cursor).within (Nat.zero_le 1)
        (Nat.le_refl 2)
  | indirect draw =>
      rcases hdraws (by simp only [FrameOp.drawsInPass, hwork]) with ⟨_, hget, _⟩
      simp only [recordIndirect]
      refine (scene.accounts_inRenderPass hget ?_ cursor).within (Nat.le_refl 1) (Nat.zero_le 2)
      exact around_self _
  | dispatch dispatch =>
      simp only
      have hdispatch : Around [.bindPipeline .compute dispatch.pipeline,
            .dispatch dispatch.x dispatch.y dispatch.z]
          [.beginLabel "dispatch" Color.compute, .bindPipeline .compute dispatch.pipeline,
            .dispatch dispatch.x dispatch.y dispatch.z, .endLabel] := ⟨rfl, rfl, rfl⟩
      exact ((Step.accounts_closeRenderPass cursor).thenWork (Accounts.emit hdispatch _)).within
        (Nat.zero_le 1) (Nat.zero_le 2)

/-- An operation is counted once. It begins one render pass at most, and has two
    barrier commands at its boundary and two of its own at most. -/
theorem accounts_recordOp (target? : Surface → Option TargetBinding) (operation : FrameOp)
    (hbound : ∀ surface ∈ operation.surfaces, ∃ binding,
      scene.resolution.targets.get? surface = some binding ∧ target? surface = some binding)
    (cursor : Cursor) :
    Accounts (operation.block target? scene.renderers) 1 ⟨1, 4⟩ cursor
      (scene.recordOp operation cursor) := by
  have hcount : ∀ cursor, Accounts [] 1 ⟨0, 0⟩ cursor
      (Step.all [fun cursor => (cursor.countOp, [])] cursor) :=
    fun _ => ⟨rfl, Counted.still rfl _, Counted.still rfl _, rfl⟩
  have hwork := scene.accounts_recordWork target? operation hbound
    (scene.enterPass operation.pass cursor).1
  have hboth := hwork.andThen (hcount _)
  rw [List.append_nil, Nat.zero_add] at hboth
  exact (scene.accounts_enterPass operation.pass cursor).thenWork hboth

/-- Operations record their blocks, one after the other. -/
theorem accounts_ops (target? : Surface → Option TargetBinding) (ops : List FrameOp)
    (hbound : ∀ operation ∈ ops, ∀ surface ∈ operation.surfaces, ∃ binding,
      scene.resolution.targets.get? surface = some binding ∧ target? surface = some binding)
    (cursor : Cursor) :
    Accounts (ops.flatMap (FrameOp.block target? scene.renderers)) ops.length
      ⟨ops.length, 4 * ops.length⟩ cursor (Step.all (ops.map scene.recordOp) cursor) := by
  induction ops generalizing cursor with
  | nil => exact Accounts.same cursor
  | cons operation rest ih =>
      rw [List.forall_mem_cons] at hbound
      have hboth := (scene.accounts_recordOp target? operation hbound.1 cursor).andThen
        (ih hbound.2 _)
      rw [Nat.add_comm] at hboth
      refine hboth.within ?_ ?_
      · simp only [List.length_cons]
        omega
      · simp only [List.length_cons]
        omega

/-- The closing pass holds what is drawn over the frame. -/
theorem accounts_closeFrame (target? : Surface → Option TargetBinding) {binding : TargetBinding}
    (hget : scene.resolution.targets.get? .swapchain = some binding)
    (htarget : target? .swapchain = some binding) (cursor : Cursor) :
    Accounts (scene.renderers.overlayWork target?) 0 ⟨1, 0⟩ cursor (scene.closeFrame cursor) := by
  have hcontext : (closingContext cursor).target = .swapchain :=
    of_decide_eq_true (closingContext_target cursor)
  have hbody : Around (scene.renderers.overlayWork target?) (scene.overlayCommands binding) := by
    unfold Renderers.overlayWork overlayCommands
    rw [htarget]
    cases scene.renderers.overlay with
    | none => exact around_self []
    | some overlay =>
        -- The label around it is no work and is not counted.
        constructor
        · simp [bare, Command.surrounds]
        · simp [List.countP_append, Command.beginsPass]
        · simp [List.countP_append, Command.isBarrier]
  rw [← hcontext] at hget
  exact (scene.accounts_inRenderPass hget hbody cursor).thenSilent
    (Step.accounts_closeRenderPass _)

/-- The commands that answer hazards. -/
def hazardCommands (hazards : HazardMask) : List Command :=
  (HazardMask.barrier? hazards).toList.map fun barrier => .memoryBarrier [barrier]

/-- They are no work, and one barrier at most. -/
theorem kinds_hazardCommands (hazards : HazardMask) :
    (hazardCommands hazards).filter Command.isWork = []
      ∧ (hazardCommands hazards).countP Command.beginsPass = 0
      ∧ (hazardCommands hazards).countP Command.isBarrier = (hazardCommands hazards).length := by
  unfold hazardCommands
  cases HazardMask.barrier? hazards with
  | none => exact ⟨rfl, rfl, rfl⟩
  | some barrier => exact ⟨rfl, rfl, rfl⟩

/-- They are counted, and all else is as it was. -/
theorem emitHazards_eq (hazards : HazardMask) (cursor : Cursor) :
    (emitHazards hazards cursor).2 = hazardCommands hazards
      ∧ Counted Command.beginsPass 0 [] (hazardCommands hazards) cursor.stats.renderPassBegins
        (emitHazards hazards cursor).1.stats.renderPassBegins
      ∧ Counted Command.isBarrier 1 [] (hazardCommands hazards) cursor.stats.barrierBatches
        (emitHazards hazards cursor).1.stats.barrierBatches
      ∧ (emitHazards hazards cursor).1.stats.opsRecorded = cursor.stats.opsRecorded := by
  unfold emitHazards hazardCommands
  cases HazardMask.barrier? hazards with
  | none => exact ⟨rfl, Counted.still rfl _, (Counted.still rfl _).within (Nat.zero_le 1), rfl⟩
  | some barrier => exact ⟨rfl, Counted.still rfl _, Counted.succ rfl _, rfl⟩

/-- A frame answers its hazards, and all the rest of it is its work with
    surroundings. -/
theorem accounts_recordFrame (target? : Surface → Option TargetBinding) (hazards : HazardMask)
    (ops : List FrameOp)
    (hbound : ∀ operation ∈ ops, ∀ surface ∈ operation.surfaces, ∃ binding,
      scene.resolution.targets.get? surface = some binding ∧ target? surface = some binding)
    {binding : TargetBinding} (hget : scene.resolution.targets.get? .swapchain = some binding)
    (htarget : target? .swapchain = some binding) (cursor : Cursor) :
    ∃ rest, (scene.recordFrame hazards ops cursor).2 = hazardCommands hazards ++ rest
      ∧ Accounts (frameWork target? scene.renderers ops) ops.length
        ⟨ops.length + 1, 4 * ops.length + 2⟩ (emitHazards hazards cursor).1
        ((scene.recordFrame hazards ops cursor).1, rest) := by
  have hstarted : ∀ cursor, Accounts [] 0 ⟨0, 0⟩ cursor (scene.markStarted cursor) :=
    fun _ => Accounts.silent rfl rfl rfl
  -- The answer is kept apart, so all that comes after it is one step.
  generalize hlater : scene.markStarted.andThen ((scene.emitBarriers scene.startBarriers).andThen
    ((Step.all (ops.map scene.recordOp)).andThen scene.closeFrame)) = later
  have hsteps : scene.recordFrame hazards ops = (emitHazards hazards).andThen later := by
    rw [← hlater]
    unfold recordFrame startFrame
    funext cursor
    simp [Step.all, Step.all_append, Step.andThen, Step.emit]
  have hwork : ∀ cursor, Accounts (frameWork target? scene.renderers ops) ops.length
      ⟨ops.length + 1, 4 * ops.length + 2⟩ cursor (later cursor) := by
    intro cursor
    rw [← hlater]
    have hframe := (hstarted cursor).thenWork <|
      (scene.accounts_emitBarriers scene.startBarriers _).thenWork <|
      (scene.accounts_ops target? ops hbound _).andThen
        (scene.accounts_closeFrame target? hget htarget _)
    refine hframe.within ?_ ?_
    · simp only [Nat.zero_add, Nat.le_refl]
    · simp only
      omega
  rw [hsteps]
  refine ⟨(later (emitHazards hazards cursor).1).2, ?_, hwork _⟩
  simp only [Step.andThen, (emitHazards_eq hazards cursor).1]

end Scene

/-- The work does not depend on how surfaces are bound that are not needed. -/
theorem frameWork_congr {target? other? : Surface → Option TargetBinding} (renderers : Renderers)
    (ops : List FrameOp) (h : ∀ surface ∈ neededSurfaces ops, target? surface = other? surface) :
    frameWork target? renderers ops = frameWork other? renderers ops := by
  have hswapchain : target? .swapchain = other? .swapchain :=
    h _ (swapchain_mem_neededSurfaces ops)
  have hblock : ∀ operation ∈ ops, operation.block target? renderers
      = operation.block other? renderers := by
    intro operation hmem
    have hsurface : ∀ surface ∈ operation.surfaces, target? surface = other? surface :=
      fun surface hsurface => h surface (mem_neededSurfaces hmem hsurface)
    unfold FrameOp.surfaces at hsurface
    unfold FrameOp.block
    cases hwork : operation.work with
    | clear clear => rfl
    | mesh state renderer =>
        simp only [hwork, List.forall_mem_singleton] at hsurface
        simp only [hsurface]
    | blit blit =>
        simp only [hwork, List.forall_mem_cons] at hsurface
        simp only [hsurface.1, hsurface.2.1]
    | indirect draw => rfl
    | dispatch dispatch => rfl
  unfold frameWork Renderers.overlayWork
  rw [hswapchain, List.flatMap_congr hblock]

/-- Some renderer recorded the command. -/
def Renderers.Records (renderers : Renderers) (command : Command) : Prop :=
  (∃ renderer renderPass state, command ∈ renderers.mesh renderer renderPass state)
    ∨ ∃ overlay renderPass area, renderers.overlay = some overlay
      ∧ command ∈ overlay renderPass area

theorem Renderers.DrawsOnly.isWork {renderers : Renderers} (hdraws : renderers.DrawsOnly)
    {command : Command} (h : renderers.Records command) : command.isWork = true := by
  rcases h with ⟨renderer, renderPass, state, hmem⟩ | ⟨overlay, renderPass, area, hoverlay, hmem⟩
  · exact command.isWork_of_draws (hdraws.mesh _ _ _ command hmem)
  · exact command.isWork_of_draws (hdraws.overlay overlay hoverlay _ _ command hmem)

/-- What is in a block and not from a renderer is work. -/
theorem FrameOp.isWork_or_records (target? : Surface → Option TargetBinding)
    (renderers : Renderers) (operation : FrameOp) :
    ∀ command ∈ operation.block target? renderers,
      command.isWork = true ∨ renderers.Records command := by
  unfold FrameOp.block
  cases operation.work with
  | clear clear =>
      dsimp only
      split
      · simp [Command.isWork]
      · exact List.forall_mem_nil _
  | mesh state renderer =>
      dsimp only
      split
      · exact List.forall_mem_nil _
      · next binding _ =>
        refine List.forall_mem_append.mpr ⟨by simp [Command.isWork], ?_⟩
        exact fun command hmem => Or.inr (Or.inl ⟨renderer, binding.renderPass, state, hmem⟩)
  | blit blit =>
      dsimp only
      split
      · simp [Command.isWork]
      · exact List.forall_mem_nil _
  | indirect draw =>
      cases hindexed : draw.indexed with
      | true => simp [Command.isWork, hindexed]
      | false => simp [Command.isWork, hindexed]
  | dispatch dispatch => simp [Command.isWork]

/-- What is in the work of a frame and not from a renderer is work. -/
theorem isWork_or_records (target? : Surface → Option TargetBinding) (renderers : Renderers)
    (ops : List FrameOp) : ∀ command ∈ frameWork target? renderers ops,
      command.isWork = true ∨ renderers.Records command := by
  unfold frameWork
  refine List.forall_mem_append.mpr ⟨?_, ?_⟩
  · intro command hcommand
    rcases List.mem_flatMap.mp hcommand with ⟨operation, _, hmem⟩
    exact operation.isWork_or_records target? renderers command hmem
  · unfold Renderers.overlayWork
    split
    · next overlay binding hoverlay _ =>
      refine List.forall_mem_cons.mpr ⟨Or.inl rfl, ?_⟩
      exact fun command hmem =>
        Or.inr (Or.inr ⟨overlay, binding.renderPass, binding.area, hoverlay, hmem⟩)
    · exact List.forall_mem_nil _

/-- If the renderers only draw, everything in the work of a frame is work. -/
theorem Renderers.DrawsOnly.isWork_frameWork {renderers : Renderers} (hdraws : renderers.DrawsOnly)
    (target? : Surface → Option TargetBinding) (ops : List FrameOp) :
    ∀ command ∈ frameWork target? renderers ops, command.isWork = true := by
  intro command hcommand
  rcases isWork_or_records target? renderers ops command hcommand with hwork | hrecords
  · exact hwork
  · exact hdraws.isWork hrecords

/-- A frame that resolves and begins answers its hazards right after that,
    and all the rest of it is its work with surroundings. -/
theorem record_commands (compiled : Compiled) (request : Request) (replies : Replies) (pool : Pool)
    (device : Device) (ops : List FrameOp) (resolution : Resolution)
    (hresolved : (resolve pool compiled.resources ops).result = .ok resolution)
    (hreset : replies.reset = ResultCode.success) (hbegin : replies.begin = ResultCode.success) :
    ∃ final rest, commandsOf (record compiled request replies pool device ops).events
        = [.reset, .begin request.usage request.label]
          ++ (Scene.hazardCommands request.hazards ++ rest) ++ [.finish]
      ∧ (replies.finish = ResultCode.success →
        (record compiled request replies pool device ops).result = .ok final.stats)
      ∧ Accounts (frameWork pool.supply.target? request.renderers ops) ops.length
        ⟨ops.length + 1, 4 * ops.length + 2⟩
        (Scene.emitHazards request.hazards (Cursor.start resolution.states)).1 (final, rest) := by
  have hbound : ∀ surface ∈ neededSurfaces ops, ∃ binding,
      resolution.targets.get? surface = some binding
        ∧ pool.supply.target? surface = some binding := by
    intro surface hsurface
    rcases resolve_bound pool compiled.resources ops resolution hresolved surface hsurface
      with ⟨binding, hbinding⟩
    exact ⟨binding, hbinding,
      resolve_target pool compiled.resources ops resolution hresolved surface binding hbinding⟩
  rcases hbound .swapchain (swapchain_mem_neededSurfaces ops) with ⟨binding, hget, htarget⟩
  have hrecord := record_of_resolved compiled request replies pool device ops resolution hresolved
  rcases Scene.accounts_recordFrame ⟨compiled.plan, resolution, request.renderers⟩
    pool.supply.target? request.hazards ops
    (fun operation hmem surface hsurface => hbound surface (mem_neededSurfaces hmem hsurface))
    hget htarget (Cursor.start resolution.states) with ⟨rest, hcommands, hwork⟩
  refine ⟨_, rest, ?_, ?_, hwork⟩
  · rw [hrecord, commandsOf_recordResolved compiled request replies _ device resolution _ ops
      hreset hbegin, Scene.map_snd_stream, hcommands]
  · intro hfinish
    rw [hrecord]
    unfold recordResolved
    simp only [hreset, hbegin, hfinish, ne_eq, not_true_eq_false, if_false]

/-- A good recording resolved, and its stream was begun. -/
theorem record_begun (compiled : Compiled) (request : Request) (replies : Replies) (pool : Pool)
    (device : Device) (ops : List FrameOp) (stats : Stats)
    (h : (record compiled request replies pool device ops).result = .ok stats) :
    ∃ resolution, (resolve pool compiled.resources ops).result = .ok resolution
      ∧ replies.reset = ResultCode.success ∧ replies.begin = ResultCode.success := by
  unfold record at h
  cases hresolved : (resolve pool compiled.resources ops).result with
  | error error => simp only [hresolved, reduceCtorEq] at h
  | ok resolution =>
      simp only [hresolved, recordResolved] at h
      split at h
      · simp only [Recording.failed, reduceCtorEq] at h
      · next hreset =>
        split at h
        · simp only [Recording.failed, reduceCtorEq] at h
        · next hbegin => exact ⟨resolution, rfl, of_not_not hreset, of_not_not hbegin⟩

/-- A trace keeps some work, and what it adds to it was counted. For each
    operation it adds one begin of a render pass and four barrier commands at
    most, and for the frame another begin and three more barrier commands. -/
structure Tallies (work : List Command) (count : Nat) (stats : Stats) (trace : List Command) :
    Prop where
  kept : trace.filter Command.isWork = work.filter Command.isWork
  begins : Counted Command.beginsPass (count + 1) work trace 0 stats.renderPassBegins
  barriers : Counted Command.isBarrier (4 * count + 3) work trace 0 stats.barrierBatches
  ops : stats.opsRecorded = UInt32.ofNat count

/-- If there is nothing in it but work, all of it is kept, and nothing in it is
    counted. -/
theorem countP_of_isWork {work : List Command} (h : ∀ command ∈ work, command.isWork = true) :
    work.filter Command.isWork = work ∧ work.countP Command.beginsPass = 0
      ∧ work.countP Command.isBarrier = 0 := by
  refine ⟨List.filter_eq_self.mpr h, ?_, ?_⟩
  · rw [List.countP_eq_zero]
    intro command hcommand
    simp [(command.uncounted_of_isWork (h command hcommand)).1]
  · rw [List.countP_eq_zero]
    intro command hcommand
    simp [(command.uncounted_of_isWork (h command hcommand)).2.1]

/-- The opening, the answer to hazards and the end are no work, and of these
    only the answer is counted. So a whole stream is accounted for. -/
theorem record_tallies (compiled : Compiled) (request : Request) (replies : Replies) (pool : Pool)
    (device : Device) (ops : List FrameOp) (resolution : Resolution)
    (hresolved : (resolve pool compiled.resources ops).result = .ok resolution)
    (hreset : replies.reset = ResultCode.success) (hbegin : replies.begin = ResultCode.success) :
    ∃ stats, (replies.finish = ResultCode.success →
        (record compiled request replies pool device ops).result = .ok stats)
      ∧ Tallies (frameWork pool.supply.target? request.renderers ops) ops.length stats
        (commandsOf (record compiled request replies pool device ops).events) := by
  rcases record_commands compiled request replies pool device ops resolution hresolved hreset hbegin
    with ⟨final, rest, hcommands, hresult, haccounts⟩
  have hnoWork := (Scene.kinds_hazardCommands request.hazards).1
  rcases Scene.emitHazards_eq request.hazards (Cursor.start resolution.states)
    with ⟨_, hanswerBegins, hanswerBarriers, hanswerOps⟩
  have hwork := filter_of_bare Command.isWork Command.isWork_of_surrounds haccounts.bare
  refine ⟨final.stats, hresult, ?_, ?_, ?_, ?_⟩
  · rw [hcommands]
    simp [Command.isWork, hwork, hnoWork]
  · rw [hcommands]
    refine Counted.between rfl rfl ?_
    exact (hanswerBegins.append haccounts.begins).within (Nat.le_of_eq (Nat.zero_add _))
  · rw [hcommands]
    refine Counted.between rfl rfl ?_
    exact (hanswerBarriers.append haccounts.barriers).within (by simp only; omega)
  · rw [haccounts.ops, hanswerOps]
    exact UInt32.zero_add _

/-- Recording keeps the work of a frame and counts what it adds. A stream
    that has ended well is the work of its operations, in the order given,
    and then what is drawn over the frame, with nothing between but edges,
    labels and barriers. What was counted is what was begun, what was waited
    for and what was asked for, apart from what others draw. The counters are
    32 bits wide and go round, but not for fewer operations than a quarter of
    their size. Nothing of this depends on the graph, and for the same bindings
    the work is the same with any other. -/
theorem record_keepsWork (compiled : Compiled) (request : Request) (replies : Replies)
    (pool : Pool) (device : Device) (ops : List FrameOp) (resolution : Resolution)
    (hresolved : (resolve pool compiled.resources ops).result = .ok resolution)
    (hreset : replies.reset = ResultCode.success) (hbegin : replies.begin = ResultCode.success)
    (hfinish : replies.finish = ResultCode.success) :
    ∃ stats trace work begins barriers,
      (record compiled request replies pool device ops).result = .ok stats
      ∧ trace = commandsOf (record compiled request replies pool device ops).events
      ∧ work = frameWork pool.supply.target? request.renderers ops
      ∧ trace.filter Command.isWork = work.filter Command.isWork
      ∧ trace.countP Command.beginsPass = begins + work.countP Command.beginsPass
      ∧ trace.countP Command.isBarrier = barriers + work.countP Command.isBarrier
      ∧ (stats.renderPassBegins.toNat = begins % UInt32.size
        ∧ stats.barrierBatches.toNat = barriers % UInt32.size
        ∧ stats.opsRecorded.toNat = ops.length % UInt32.size)
      ∧ (4 * ops.length < UInt32.size → stats.renderPassBegins.toNat = begins
        ∧ stats.barrierBatches.toNat = barriers ∧ stats.opsRecorded.toNat = ops.length)
      ∧ (request.renderers.DrawsOnly → trace.filter Command.isWork = work
        ∧ trace.countP Command.beginsPass = begins ∧ trace.countP Command.isBarrier = barriers)
      ∧ ∀ (graph : Compiled) (asked : Request) (answers : Replies) (other : Pool)
          (elsewhere : Device) (found : Resolution),
        (resolve other graph.resources ops).result = .ok found →
        answers.reset = ResultCode.success → answers.begin = ResultCode.success →
        asked.renderers = request.renderers →
        (∀ surface ∈ neededSurfaces ops,
          other.supply.target? surface = pool.supply.target? surface) →
        (commandsOf (record graph asked answers other elsewhere ops).events).filter
            Command.isWork
          = trace.filter Command.isWork := by
  rcases record_tallies compiled request replies pool device ops resolution hresolved hreset hbegin
    with ⟨stats, hresult, htallies⟩
  rcases htallies.begins.toNat with ⟨begins, hfewBegins, hbegins, hcountedBegins⟩
  rcases htallies.barriers.toNat with ⟨barriers, hfewBarriers, hbarriers, hcountedBarriers⟩
  have hops : stats.opsRecorded.toNat = ops.length % UInt32.size := by
    rw [htallies.ops]
    exact UInt32.toNat_ofNat'
  refine ⟨stats, _, _, begins, barriers, hresult hfinish, rfl, rfl, htallies.kept, hbegins,
    hbarriers, ⟨hcountedBegins, hcountedBarriers, hops⟩, ?_, ?_, ?_⟩
  · -- With so few operations there is room for all that is added.
    have hsize : UInt32.size = 4294967296 := rfl
    intro hfew
    rw [hcountedBegins, hcountedBarriers, hops]
    refine ⟨Nat.mod_eq_of_lt ?_, Nat.mod_eq_of_lt ?_, Nat.mod_eq_of_lt ?_⟩
    · omega
    · omega
    · omega
  · intro hdraws
    rcases countP_of_isWork (hdraws.isWork_frameWork pool.supply.target? ops)
      with ⟨hself, hnoBegins, hnoBarriers⟩
    exact ⟨htallies.kept.trans hself, by rw [hbegins, hnoBegins, Nat.add_zero],
      by rw [hbarriers, hnoBarriers, Nat.add_zero]⟩
  · intro graph asked answers other elsewhere found hfound hclean hopen hrenderers hsame
    rcases record_tallies graph asked answers other elsewhere ops found hfound hclean hopen
      with ⟨_, _, hother⟩
    -- Both traces keep the same work, and of the graphs nothing is left.
    rw [hother.kept, htallies.kept, hrenderers, frameWork_congr request.renderers ops hsame]

/-- Operations of every kind, recorded with some graph. -/
def mixedRecording (compiled : Compiled) : Recording :=
  record compiled ⟨3, oneTimeSubmit, "frame", oneDraw⟩ Replies.good poolOfTwo Device.working
    mixedOps

/-- Nothing of the work is lost over five render passes, and without any
    passes in the graph it is the same. -/
theorem record_keepsWork_mixed :
    ∃ stats trace, (mixedRecording (Compiled.ofOrder drawnThenSampled)).result = .ok stats
      ∧ trace = commandsOf (mixedRecording (Compiled.ofOrder drawnThenSampled)).events
      ∧ trace.filter Command.isWork = frameWork twoSurfaces oneDraw mixedOps
      ∧ stats.renderPassBegins = 5 ∧ trace.countP Command.beginsPass = 5
      ∧ stats.barrierBatches = 5 ∧ trace.countP Command.isBarrier = 5
      ∧ stats.opsRecorded.toNat = 7
      ∧ (commandsOf (mixedRecording Compiled.empty).events).filter Command.isWork
        = trace.filter Command.isWork := by
  rcases record_keepsWork (Compiled.ofOrder drawnThenSampled)
    ⟨3, oneTimeSubmit, "frame", oneDraw⟩ Replies.good poolOfTwo Device.working mixedOps _ rfl rfl
    rfl rfl with
    ⟨stats, trace, _, begins, barriers, hresult, htrace, rfl, _, _, _, _, hfew, hdraws, hother⟩
  rcases hfew (by decide) with ⟨hcountedBegins, hcountedBarriers, hops⟩
  rcases hdraws drawsOnly_oneDraw with ⟨hkept, hbegins, hbarriers⟩
  have hcounted : (mixedRecording (Compiled.ofOrder drawnThenSampled)).result.toOption.map
      (fun stats => (stats.renderPassBegins, stats.barrierBatches)) = some (5, 5) := by
    decide +kernel
  have hresult : (mixedRecording (Compiled.ofOrder drawnThenSampled)).result = .ok stats := hresult
  rw [hresult] at hcounted
  rcases Prod.mk.inj (Option.some.inj hcounted) with ⟨hfive, hbatches⟩
  rw [hfive] at hcountedBegins
  rw [hbatches] at hcountedBarriers
  rcases (⟨_, rfl⟩ : ∃ found, (resolve poolOfTwo Compiled.empty.resources mixedOps).result
    = .ok found) with ⟨found, hfound⟩
  have hsame := hother Compiled.empty ⟨3, oneTimeSubmit, "frame", oneDraw⟩ Replies.good poolOfTwo
    Device.working found hfound rfl rfl rfl fun _ _ => rfl
  exact ⟨stats, trace, hresult, htrace, hkept, hfive, hbegins.trans hcountedBegins.symm, hbatches,
    hbarriers.trans hcountedBarriers.symm, hops, hsame⟩

end FrameGraph
