import FrameGraph.Proofs.Edges
import FrameGraph.Proofs.Settle
import FrameGraph.Recording.Scene
import Mathlib.Data.List.Induction
import Mathlib.Tactic.Tauto

/-!
# The Parts of a Frame

A recorded frame is a list of commands, and the list does not say which of
its barriers were planned and which a blit put around its own copy, nor
which resource a barrier is for. This module walks the same steps part by
part and keeps both. A part is the start of the frame, the entering of a
pass, the work of an operation, or the closing; what was recorded in it is a
`Stretch`, which pairs its commands with the planned barriers among them.

Planned barriers come due only at the start and on entering a pass, and
nothing else touches the states of the resources. That makes the whole walk
one call of `settle`, on the barriers that came due, in the order in which
they did. `dealt` is this list. It depends on the operations only through
the order in which their passes were first reached, so a frame can be
reasoned about without its cursor.

## Main definitions

* `imageBarriersOf`, `bufferBarriersOf`: The barriers among some commands.
* `ImageBarrier.Leads`, `ImageBarrier.Moves`, `BufferBarrier.Moves`: Between which
  layouts and states a barrier stands.
* `Transition.imagesOf`, `Transition.buffersOf`: The barriers of transitions.
* `Part`, `Stretch`: A part of a frame, and what was recorded in it.
* `Scene.due`, `Scene.transitionsIn`: What comes due in a part.
* `Scene.play`, `Scene.trace`: The stretches of some parts, and of a frame.
* `Step.Keeps`: A step that leaves states and passes alone.
* `Scene.dealWith`, `Scene.noteReached`: What entering a pass is made of.
* `dealtPasses`, `Scene.dealt`: The barriers that have come due.
* `Scene.At`: What a cursor knows once some operations are recorded.

## Theorems

* `Transition.forall₂_imagesOf`, `Transition.forall₂_buffersOf`: What the barriers
  of transitions are.
* `Scene.trace_commands`: The stretches in a row are the recorded frame.
* `Scene.keeps_recordWork`, `Scene.keeps_closeFrame`: Work touches no state.
* `Scene.commands_of_mem_play`: A stretch holds what its part records.
* `Scene.enterPass_eq`: Entering a pass deals with what is due there.
* `Scene.barriers_of_mem_play`: The barriers of a stretch are its planned ones.
* `Scene.play_ops`, `Scene.play_entering`: The planned barriers recorded so
  far are the ones dealt with, settled.
* `Scene.transitions_trace`, `Scene.states_recordFrame`: So are those of a
  frame, and the states it leaves.
-/

namespace FrameGraph

open Gpu

/-- The image barriers among some commands. -/
def imageBarriersOf (commands : List Command) : List ImageBarrier :=
  commands.flatMap fun
    | .imageBarrier _ barriers => barriers
    | _ => []

/-- The buffer barriers among some commands. -/
def bufferBarriersOf (commands : List Command) : List BufferBarrier :=
  commands.flatMap fun
    | .bufferBarrier _ barriers => barriers
    | _ => []

theorem imageBarriersOf_append (first second : List Command) :
    imageBarriersOf (first ++ second) = imageBarriersOf first ++ imageBarriersOf second :=
  List.flatMap_append

theorem bufferBarriersOf_append (first second : List Command) :
    bufferBarriersOf (first ++ second) = bufferBarriersOf first ++ bufferBarriersOf second :=
  List.flatMap_append

/-- A barrier leads an image from one layout to another. -/
structure Gpu.ImageBarrier.Leads (barrier : ImageBarrier) (image : UInt64)
    (before after : Layout) : Prop where
  image : barrier.image = image
  oldLayout : barrier.oldLayout = before
  newLayout : barrier.newLayout = after

/-- A barrier leads an image from one state to another. It waits for the stages of
    the first state and makes its writes available, and it holds back the stages
    of the other and makes all of their accesses see them. -/
structure Gpu.ImageBarrier.Moves (barrier : ImageBarrier) (image : UInt64)
    (before after : ResourceState) (aspect : AspectMask) : Prop
    extends ImageBarrier.Leads barrier image before.layout after.layout where
  sourceStages : barrier.source.stages = before.stages
  sourceAccess : barrier.source.access = before.access &&& AccessMask.writing
  destinationStages : barrier.destination.stages = after.stages
  destinationAccess : barrier.destination.access = after.access
  aspect : barrier.aspect = aspect

/-- A barrier leads a buffer, from its first byte on, from one state to another. -/
structure Gpu.BufferBarrier.Moves (barrier : BufferBarrier) (buffer : UInt64)
    (before after : ResourceState) : Prop where
  buffer : barrier.buffer = buffer
  whole : barrier.offset = 0 ∧ barrier.size = wholeSize
  sourceStages : barrier.source.stages = before.stages
  sourceAccess : barrier.source.access = before.access &&& AccessMask.writing
  destinationStages : barrier.destination.stages = after.stages
  destinationAccess : barrier.destination.access = after.access

namespace Transition

/-- The aspect that is known of the image is better than the one that was planned. -/
theorem moves_imageBarrier (transition : Transition) :
    transition.imageBarrier.Moves transition.backing.handle transition.previous
      transition.planned.next (if transition.backing.aspect = 0 then transition.planned.aspect
        else transition.backing.aspect) :=
  ⟨⟨rfl, rfl, rfl⟩, rfl, rfl, rfl, rfl, rfl⟩

theorem moves_bufferBarrier (transition : Transition) :
    transition.bufferBarrier.Moves transition.backing.handle transition.previous
      transition.planned.next :=
  ⟨rfl, ⟨rfl, rfl⟩, rfl, rfl, rfl, rfl⟩

/-- The image barriers of some transitions. -/
def imagesOf (transitions : List Transition) : List ImageBarrier :=
  (transitions.filter (·.planned.isImage)).map imageBarrier

/-- The buffer barriers of some transitions. -/
def buffersOf (transitions : List Transition) : List BufferBarrier :=
  (transitions.filter (!·.planned.isImage)).map bufferBarrier

/-- One for one, image barriers lead from where their transitions start to what was
    planned. -/
theorem forall₂_imagesOf (transitions : List Transition) :
    List.Forall₂ (fun transition barrier =>
        barrier.Moves transition.backing.handle transition.previous transition.planned.next
          (if transition.backing.aspect = 0 then transition.planned.aspect
            else transition.backing.aspect))
      (transitions.filter (·.planned.isImage)) (imagesOf transitions) :=
  List.forall₂_map_right_iff.mpr
    (List.forall₂_same.mpr fun transition _ => transition.moves_imageBarrier)

theorem forall₂_buffersOf (transitions : List Transition) :
    List.Forall₂ (fun transition barrier =>
        barrier.Moves transition.backing.handle transition.previous transition.planned.next)
      (transitions.filter (!·.planned.isImage)) (buffersOf transitions) :=
  List.forall₂_map_right_iff.mpr
    (List.forall₂_same.mpr fun transition _ => transition.moves_bufferBarrier)

theorem imagesOf_append (first second : List Transition) :
    imagesOf (first ++ second) = imagesOf first ++ imagesOf second := by
  simp only [imagesOf, List.filter_append, List.map_append]

theorem buffersOf_append (first second : List Transition) :
    buffersOf (first ++ second) = buffersOf first ++ buffersOf second := by
  simp only [buffersOf, List.filter_append, List.map_append]

end Transition

/-- The parts a frame is recorded in. -/
inductive Part where
  | start
  | entering (pass : PassIndex)
  | working (operation : FrameOp)
  | closing
  deriving DecidableEq, Repr

namespace Part

/-- Planned barriers can come due in the part. -/
def isBoundary : Part → Bool
  | start | entering _ => true
  | working _ | closing => false

/-- The parts of some operations. -/
def ofOps (ops : List FrameOp) : List Part :=
  ops.flatMap fun operation => [.entering operation.pass, .working operation]

end Part

/-- What was recorded in a part of a frame. -/
structure Stretch where
  part : Part
  /-- The planned barriers that were recorded. -/
  transitions : List Transition
  commands : List Command
  deriving DecidableEq, Repr

namespace Step

theorem andThen_assoc (first second third : Step) :
    (first.andThen second).andThen third = first.andThen (second.andThen third) := by
  funext cursor
  simp only [andThen, List.append_assoc]

theorem emit_nil_andThen (step : Step) : (emit []).andThen step = step := by
  funext cursor
  simp only [andThen, emit, List.nil_append]

theorem all_append (first second : List Step) :
    all (first ++ second) = (all first).andThen (all second) := by
  induction first with
  | nil => exact (emit_nil_andThen (all second)).symm
  | cons step rest ih => rw [List.cons_append, all, ih, all, andThen_assoc]

/-- A step leaves alone what the cursor knows of passes and states. -/
def Keeps (step : Step) : Prop :=
  ∀ cursor, (step cursor).1.pass = cursor.pass ∧ (step cursor).1.passed = cursor.passed
    ∧ (step cursor).1.states = cursor.states

theorem keeps_emit (commands : List Command) : (emit commands).Keeps :=
  fun _ => ⟨rfl, rfl, rfl⟩

theorem Keeps.andThen {first second : Step} (hfirst : first.Keeps) (hsecond : second.Keeps) :
    (first.andThen second).Keeps := by
  intro cursor
  have h1 := hfirst cursor
  have h2 := hsecond (first cursor).1
  exact ⟨h2.1.trans h1.1, h2.2.1.trans h1.2.1, h2.2.2.trans h1.2.2⟩

theorem keeps_closeRenderPass : closeRenderPass.Keeps := by
  intro cursor
  unfold closeRenderPass
  split
  · exact ⟨rfl, rfl, rfl⟩
  · exact ⟨rfl, rfl, rfl⟩

theorem keeps_submitImages (barriers : List ImageBarrier) : (submitImages barriers).Keeps := by
  intro cursor
  unfold submitImages
  split
  · exact ⟨rfl, rfl, rfl⟩
  · exact ⟨rfl, rfl, rfl⟩

theorem keeps_submitBuffers (barriers : List BufferBarrier) : (submitBuffers barriers).Keeps := by
  intro cursor
  unfold submitBuffers
  split
  · exact ⟨rfl, rfl, rfl⟩
  · exact ⟨rfl, rfl, rfl⟩

theorem barriers_submitImages (barriers : List ImageBarrier) (cursor : Cursor) :
    imageBarriersOf (submitImages barriers cursor).2 = barriers
      ∧ bufferBarriersOf (submitImages barriers cursor).2 = [] := by
  unfold submitImages
  split
  · next h => exact ⟨(List.isEmpty_iff.mp h).symm, rfl⟩
  · exact ⟨List.append_nil barriers, rfl⟩

theorem barriers_submitBuffers (barriers : List BufferBarrier) (cursor : Cursor) :
    imageBarriersOf (submitBuffers barriers cursor).2 = []
      ∧ bufferBarriersOf (submitBuffers barriers cursor).2 = barriers := by
  unfold submitBuffers
  split
  · next h => exact ⟨rfl, (List.isEmpty_iff.mp h).symm⟩
  · exact ⟨rfl, List.append_nil barriers⟩

theorem barriers_closeRenderPass (cursor : Cursor) :
    imageBarriersOf (closeRenderPass cursor).2 = []
      ∧ bufferBarriersOf (closeRenderPass cursor).2 = [] := by
  unfold closeRenderPass
  split
  · exact ⟨rfl, rfl⟩
  · exact ⟨rfl, rfl⟩

end Step

namespace Scene

variable (scene : Scene)

/-- The planned barriers that come due in a part. A pass that was reached
    before has nothing due. -/
def due (cursor : Cursor) : Part → List PlannedBarrier
  | .start => scene.startBarriers
  | .entering pass =>
    if cursor.pass = some pass ∨ pass ∈ cursor.passed then [] else scene.boundaryBarriers pass
  | .working _ => []
  | .closing => []

/-- The planned barriers that are recorded in a part. -/
def transitionsIn (part : Part) (cursor : Cursor) : List Transition :=
  (settle scene.resolution.backings (PlannedBarrier.imagesFirst (scene.due cursor part))
    cursor.states).2

/-- Record a part. -/
def recordPart (hazards : HazardMask) : Part → Step
  | .start => scene.startFrame hazards
  | .entering pass => scene.enterPass pass
  | .working operation =>
    (scene.recordWork operation).andThen fun cursor => (cursor.countOp, [])
  | .closing => scene.closeFrame

/-- Record some parts, and keep what was recorded in each. -/
def play (hazards : HazardMask) : List Part → Cursor → Cursor × List Stretch
  | [], cursor => (cursor, [])
  | part :: rest, cursor =>
    let here := scene.recordPart hazards part cursor
    let later := play hazards rest here.1
    (later.1, ⟨part, scene.transitionsIn part cursor, here.2⟩ :: later.2)

/-- The stretches of a whole frame. -/
def trace (hazards : HazardMask) (ops : List FrameOp) : List Stretch :=
  (scene.play hazards (.start :: Part.ofOps ops ++ [.closing])
    (Cursor.start scene.resolution.states)).2

theorem play_append (hazards : HazardMask) (first second : List Part) (cursor : Cursor) :
    scene.play hazards (first ++ second) cursor
      = ((scene.play hazards second (scene.play hazards first cursor).1).1,
        (scene.play hazards first cursor).2
          ++ (scene.play hazards second (scene.play hazards first cursor).1).2) := by
  induction first generalizing cursor with
  | nil => rfl
  | cons part rest ih => simp only [List.cons_append, play, ih]

/-- Recording part by part records the steps in a row. -/
theorem play_eq (hazards : HazardMask) (parts : List Part) (cursor : Cursor) :
    (scene.play hazards parts cursor).1
        = (Step.all (parts.map (scene.recordPart hazards)) cursor).1
      ∧ (scene.play hazards parts cursor).2.flatMap Stretch.commands
        = (Step.all (parts.map (scene.recordPart hazards)) cursor).2 := by
  induction parts generalizing cursor with
  | nil => exact ⟨rfl, rfl⟩
  | cons part rest ih =>
      have hrest := ih (scene.recordPart hazards part cursor).1
      simp only [play, List.map_cons, Step.all, Step.andThen, List.flatMap_cons, hrest, and_self]

/-- The steps of an operation are those of its parts. -/
theorem all_ofOps (hazards : HazardMask) (ops : List FrameOp) :
    Step.all ((Part.ofOps ops).map (scene.recordPart hazards))
      = Step.all (ops.map scene.recordOp) := by
  induction ops with
  | nil => rfl
  | cons operation rest ih =>
      have hone : Step.all ([Part.entering operation.pass, .working operation].map
          (scene.recordPart hazards)) = scene.recordOp operation := by
        simp only [List.map_cons, List.map_nil, Step.all, recordPart, recordOp,
          Step.andThen_assoc]
      rw [Part.ofOps, List.flatMap_cons, List.map_append, Step.all_append, hone, List.map_cons,
        Step.all]
      exact congrArg _ ih

/-- The steps of a frame are those of its parts. -/
theorem all_frame (hazards : HazardMask) (ops : List FrameOp) :
    Step.all ((Part.start :: Part.ofOps ops ++ [Part.closing]).map (scene.recordPart hazards))
      = scene.recordFrame hazards ops := by
  rw [List.map_append, Step.all_append, List.map_cons, Step.all, all_ofOps]
  unfold recordFrame
  rw [List.append_assoc, List.singleton_append, Step.all, Step.all_append, Step.andThen_assoc]
  rfl

/-- The stretches in a row are the recorded frame. -/
theorem trace_commands (hazards : HazardMask) (ops : List FrameOp) :
    (scene.trace hazards ops).flatMap Stretch.commands
      = (scene.recordFrame hazards ops (Cursor.start scene.resolution.states)).2 := by
  unfold trace
  rw [(scene.play_eq hazards _ _).2, all_frame]

/-- There is a stretch for each part. -/
theorem parts_play (hazards : HazardMask) (parts : List Part) (cursor : Cursor) :
    (scene.play hazards parts cursor).2.map Stretch.part = parts := by
  induction parts generalizing cursor with
  | nil => rfl
  | cons part rest ih => exact congrArg (part :: ·) (ih _)

/-- A stretch holds what recording its part gave. -/
theorem commands_of_mem_play (hazards : HazardMask) (parts : List Part) (cursor : Cursor) :
    ∀ stretch ∈ (scene.play hazards parts cursor).2, stretch.part ∈ parts
      ∧ ∃ found, stretch.commands = (scene.recordPart hazards stretch.part found).2 := by
  induction parts generalizing cursor with
  | nil =>
      intro stretch hmem
      exact absurd hmem List.not_mem_nil
  | cons part rest ih =>
      intro stretch hmem
      rcases List.mem_cons.mp hmem with rfl | hlater
      · exact ⟨List.mem_cons_self, cursor, rfl⟩
      · rcases ih _ stretch hlater with ⟨hpart, hfound⟩
        exact ⟨List.mem_cons_of_mem _ hpart, hfound⟩

theorem keeps_inRenderPass (context : Context) (body : TargetBinding → List Command) :
    (scene.inRenderPass context body).Keeps := by
  intro cursor
  unfold inRenderPass
  split
  · exact ⟨rfl, rfl, rfl⟩
  · split
    · exact ⟨rfl, rfl, rfl⟩
    · exact Step.keeps_closeRenderPass cursor

theorem keeps_recordBlit (blit : Blit) : (scene.recordBlit blit).Keeps := by
  unfold recordBlit
  split
  · exact Step.keeps_closeRenderPass.andThen <| (Step.keeps_emit _).andThen <|
      (Step.keeps_submitImages _).andThen <| (Step.keeps_emit _).andThen <|
      (Step.keeps_submitImages _).andThen <| (Step.keeps_emit _).andThen (Step.keeps_emit _)
  · exact Step.keeps_emit _

/-- Work touches no state of a resource. -/
theorem keeps_recordWork (operation : FrameOp) : (scene.recordWork operation).Keeps := by
  unfold recordWork
  split
  · unfold recordClear
    split
    · exact Step.keeps_emit _
    · exact scene.keeps_inRenderPass _ _
  · exact scene.keeps_inRenderPass _ _
  · exact scene.keeps_recordBlit _
  · exact scene.keeps_inRenderPass _ _
  · exact Step.keeps_closeRenderPass.andThen (Step.keeps_emit _)

theorem keeps_working (hazards : HazardMask) (operation : FrameOp) :
    (scene.recordPart hazards (.working operation)).Keeps :=
  (scene.keeps_recordWork operation).andThen fun _ => ⟨rfl, rfl, rfl⟩

theorem keeps_closeFrame : scene.closeFrame.Keeps := by
  intro cursor
  exact ((scene.keeps_inRenderPass (closingContext cursor) scene.overlayCommands).andThen
    Step.keeps_closeRenderPass) cursor

/-- What recording planned barriers does to the cursor, and the barriers
    that are recorded. -/
theorem emitBarriers_spec (barriers : List PlannedBarrier) (cursor : Cursor) :
    (scene.emitBarriers barriers cursor).1.pass = cursor.pass
      ∧ (scene.emitBarriers barriers cursor).1.passed = cursor.passed
      ∧ (scene.emitBarriers barriers cursor).1.states
        = (settle scene.resolution.backings (PlannedBarrier.imagesFirst barriers)
            cursor.states).1
      ∧ imageBarriersOf (scene.emitBarriers barriers cursor).2
        = Transition.imagesOf (settle scene.resolution.backings
            (PlannedBarrier.imagesFirst barriers) cursor.states).2
      ∧ bufferBarriersOf (scene.emitBarriers barriers cursor).2
        = Transition.buffersOf (settle scene.resolution.backings
            (PlannedBarrier.imagesFirst barriers) cursor.states).2 := by
  unfold emitBarriers
  generalize settle scene.resolution.backings (PlannedBarrier.imagesFirst barriers)
    cursor.states = settled
  -- Both kinds are submitted from a cursor with the new states.
  have himages := Step.barriers_submitImages (Transition.imagesOf settled.2)
  have hbuffers := Step.barriers_submitBuffers (Transition.buffersOf settled.2)
  have hkeeps := (Step.keeps_submitImages (Transition.imagesOf settled.2)).andThen
    (Step.keeps_submitBuffers (Transition.buffersOf settled.2))
    { cursor with states := settled.1 }
  refine ⟨hkeeps.1, hkeeps.2.1, hkeeps.2.2, ?_, ?_⟩
  · change imageBarriersOf ((Step.submitImages (Transition.imagesOf settled.2) _).2
      ++ (Step.submitBuffers (Transition.buffersOf settled.2) _).2) = _
    rw [imageBarriersOf_append, (himages _).1, (hbuffers _).1, List.append_nil]
  · change bufferBarriersOf ((Step.submitImages (Transition.imagesOf settled.2) _).2
      ++ (Step.submitBuffers (Transition.buffersOf settled.2) _).2) = _
    rw [bufferBarriersOf_append, (himages _).2, (hbuffers _).2, List.nil_append]

/-- Deal with planned barriers: end the render pass that is open and record
    the ones that are needed. -/
def dealWith (barriers : List PlannedBarrier) : Step :=
  if barriers.isEmpty then Step.emit []
  else Step.closeRenderPass.andThen (scene.emitBarriers barriers)

theorem dealWith_of_ne {barriers : List PlannedBarrier} (h : barriers ≠ []) :
    scene.dealWith barriers = Step.closeRenderPass.andThen (scene.emitBarriers barriers) := by
  unfold dealWith
  rw [if_neg fun hnone => h (List.isEmpty_iff.mp hnone)]

/-- What dealing with planned barriers does to the cursor, and the barriers
    that are recorded. -/
theorem dealWith_spec (barriers : List PlannedBarrier) (cursor : Cursor) :
    (scene.dealWith barriers cursor).1.pass = cursor.pass
      ∧ (scene.dealWith barriers cursor).1.passed = cursor.passed
      ∧ (scene.dealWith barriers cursor).1.states
        = (settle scene.resolution.backings (PlannedBarrier.imagesFirst barriers)
            cursor.states).1
      ∧ imageBarriersOf (scene.dealWith barriers cursor).2
        = Transition.imagesOf (settle scene.resolution.backings
            (PlannedBarrier.imagesFirst barriers) cursor.states).2
      ∧ bufferBarriersOf (scene.dealWith barriers cursor).2
        = Transition.buffersOf (settle scene.resolution.backings
            (PlannedBarrier.imagesFirst barriers) cursor.states).2 := by
  by_cases hbarriers : barriers = []
  · rw [hbarriers]
    exact ⟨rfl, rfl, rfl, rfl, rfl⟩
  · -- The open render pass is closed first, which no barrier is part of.
    have hclose := Step.keeps_closeRenderPass cursor
    have hnone := Step.barriers_closeRenderPass cursor
    have hemit := scene.emitBarriers_spec barriers (Step.closeRenderPass cursor).1
    simp only [hclose] at hemit
    rw [scene.dealWith_of_ne hbarriers]
    refine ⟨hemit.1, hemit.2.1, hemit.2.2.1, ?_, ?_⟩
    · simp only [Step.andThen, imageBarriersOf_append, hnone.1, hemit.2.2.2.1, List.nil_append]
    · simp only [Step.andThen, bufferBarriersOf_append, hnone.2, hemit.2.2.2.2, List.nil_append]

/-- Note that a pass is reached. -/
def noteReached (pass : PassIndex) : Step := fun cursor =>
  ({ cursor with
      pass := some pass
      passed := if cursor.pass = some pass ∨ pass ∈ cursor.passed then cursor.passed
        else pass :: cursor.passed }, [])

/-- Entering a pass notes that it is reached and deals with what is due. -/
theorem enterPass_eq (pass : PassIndex) (cursor : Cursor) :
    scene.enterPass pass cursor
      = (noteReached pass).andThen (scene.dealWith (scene.due cursor (.entering pass))) cursor := by
  unfold enterPass due dealWith noteReached
  by_cases hcurrent : cursor.pass = some pass
  · simp only [hcurrent, true_or, if_true, List.isEmpty_nil, Step.andThen, Step.emit,
      List.append_nil]
    rw [← hcurrent]
  · by_cases hpassed : pass ∈ cursor.passed
    · simp only [hcurrent, hpassed, List.contains_iff_mem.mpr hpassed, or_true, if_true, if_false,
        List.isEmpty_nil, Step.andThen, Step.emit, List.append_nil]
    · have hcontains : ¬ cursor.passed.contains pass = true :=
        fun hmem => hpassed (List.contains_iff_mem.mp hmem)
      simp only [hcurrent, hpassed, hcontains, or_self, if_false, Bool.false_eq_true, Step.andThen]
      split
      · rfl
      · rfl

/-- Entering a pass deals with what is due there, once. -/
theorem enterPass_spec (pass : PassIndex) (cursor : Cursor) :
    (scene.enterPass pass cursor).1.pass = some pass
      ∧ (scene.enterPass pass cursor).1.passed
        = (if cursor.pass = some pass ∨ pass ∈ cursor.passed then cursor.passed
          else pass :: cursor.passed)
      ∧ (scene.enterPass pass cursor).1.states
        = (settle scene.resolution.backings
            (PlannedBarrier.imagesFirst (scene.due cursor (.entering pass))) cursor.states).1
      ∧ imageBarriersOf (scene.enterPass pass cursor).2
        = Transition.imagesOf (scene.transitionsIn (.entering pass) cursor)
      ∧ bufferBarriersOf (scene.enterPass pass cursor).2
        = Transition.buffersOf (scene.transitionsIn (.entering pass) cursor) := by
  rw [scene.enterPass_eq]
  exact scene.dealWith_spec (scene.due cursor (.entering pass)) (noteReached pass cursor).1

/-- Starting a frame deals with what is due there. -/
theorem startFrame_spec (hazards : HazardMask) (cursor : Cursor) :
    (scene.startFrame hazards cursor).1.pass = cursor.pass
      ∧ (scene.startFrame hazards cursor).1.passed = frameStart :: cursor.passed
      ∧ (scene.startFrame hazards cursor).1.states
        = (settle scene.resolution.backings (PlannedBarrier.imagesFirst scene.startBarriers)
            cursor.states).1
      ∧ imageBarriersOf (scene.startFrame hazards cursor).2
        = Transition.imagesOf (scene.transitionsIn .start cursor)
      ∧ bufferBarriersOf (scene.startFrame hazards cursor).2
        = Transition.buffersOf (scene.transitionsIn .start cursor) := by
  have hkeeps : (emitHazards hazards cursor).1.pass = cursor.pass
      ∧ (emitHazards hazards cursor).1.passed = cursor.passed
      ∧ (emitHazards hazards cursor).1.states = cursor.states := by
    unfold emitHazards
    split
    · exact ⟨rfl, rfl, rfl⟩
    · exact ⟨rfl, rfl, rfl⟩
  have hnone : imageBarriersOf (emitHazards hazards cursor).2 = []
      ∧ bufferBarriersOf (emitHazards hazards cursor).2 = [] := by
    unfold emitHazards
    split
    · exact ⟨rfl, rfl⟩
    · exact ⟨rfl, rfl⟩
  -- What comes before the barriers is the one for hazards, which is of memory.
  have hemit := scene.emitBarriers_spec scene.startBarriers
    (scene.markStarted (emitHazards hazards cursor).1).1
  simp only [markStarted, hkeeps] at hemit
  simp only [startFrame, Step.all, Step.andThen, Step.emit, markStarted, List.nil_append,
    List.append_nil, imageBarriersOf_append, bufferBarriersOf_append, hnone, hkeeps]
  exact hemit

/-- The barriers recorded where planned ones come due are the planned ones. -/
theorem barriers_of_mem_play (hazards : HazardMask) (parts : List Part) (cursor : Cursor) :
    ∀ stretch ∈ (scene.play hazards parts cursor).2, stretch.part.isBoundary = true →
      imageBarriersOf stretch.commands = Transition.imagesOf stretch.transitions
        ∧ bufferBarriersOf stretch.commands = Transition.buffersOf stretch.transitions := by
  induction parts generalizing cursor with
  | nil =>
      intro stretch hmem
      exact absurd hmem List.not_mem_nil
  | cons part rest ih =>
      intro stretch hmem hboundary
      rcases List.mem_cons.mp hmem with rfl | hlater
      · cases part with
        | start => exact (scene.startFrame_spec hazards cursor).2.2.2
        | entering pass => exact (scene.enterPass_spec pass cursor).2.2.2
        | working operation => exact absurd hboundary Bool.false_ne_true
        | closing => exact absurd hboundary Bool.false_ne_true
      · exact ih _ stretch hlater hboundary

/-- Elsewhere no planned barrier is recorded. -/
theorem transitions_of_mem_play (hazards : HazardMask) (parts : List Part) (cursor : Cursor) :
    ∀ stretch ∈ (scene.play hazards parts cursor).2, stretch.part.isBoundary = false →
      stretch.transitions = [] := by
  induction parts generalizing cursor with
  | nil =>
      intro stretch hmem
      exact absurd hmem List.not_mem_nil
  | cons part rest ih =>
      intro stretch hmem hboundary
      rcases List.mem_cons.mp hmem with rfl | hlater
      · cases part with
        | start => exact absurd hboundary (Ne.symm Bool.false_ne_true)
        | entering pass => exact absurd hboundary (Ne.symm Bool.false_ne_true)
        | working operation => rfl
        | closing => rfl
      · exact ih _ stretch hlater hboundary

end Scene

/-- The passes that some operations reach, in the order they are reached. The
    start of the frame is dealt with before any of them. -/
def dealtPasses (ops : List FrameOp) : List PassIndex :=
  ((ops.map FrameOp.pass).filter fun pass => pass ≠ frameStart).eraseDups

theorem mem_dealtPasses_iff (ops : List FrameOp) (pass : PassIndex) :
    pass ∈ dealtPasses ops ↔ (∃ operation ∈ ops, operation.pass = pass) ∧ pass ≠ frameStart := by
  simp only [dealtPasses, List.mem_eraseDups, List.mem_filter, List.mem_map, decide_eq_true_eq]

/-- One more operation reaches its pass, unless it was reached before. -/
theorem dealtPasses_append (ops : List FrameOp) (operation : FrameOp) :
    dealtPasses (ops ++ [operation])
      = dealtPasses ops
        ++ (if operation.pass = frameStart ∨ operation.pass ∈ dealtPasses ops then []
          else [operation.pass]) := by
  unfold dealtPasses
  rw [List.map_append, List.filter_append, List.map_singleton, List.filter_cons, List.filter_nil]
  by_cases hstart : operation.pass = frameStart
  · simp only [hstart, ne_eq, not_true_eq_false, decide_false, Bool.false_eq_true, if_false,
      List.append_nil, true_or, if_true]
  · simp only [ne_eq, hstart, not_false_eq_true, decide_true, if_true, false_or,
      eraseDups_concat, List.mem_eraseDups]

namespace Scene

variable (scene : Scene)

/-- The planned barriers that have come due once some operations are
    recorded, in the order in which they did. -/
def dealt (ops : List FrameOp) : List PlannedBarrier :=
  PlannedBarrier.imagesFirst scene.startBarriers
    ++ (dealtPasses ops).flatMap fun pass =>
      PlannedBarrier.imagesFirst (scene.boundaryBarriers pass)

/-- What a cursor knows once some operations are recorded. -/
structure At (ops : List FrameOp) (cursor : Cursor) : Prop where
  passed : ∀ pass, pass ∈ cursor.passed ↔ pass = frameStart ∨ pass ∈ dealtPasses ops
  current : ∀ pass, cursor.pass = some pass → pass ∈ cursor.passed
  states : cursor.states
    = (settle scene.resolution.backings (scene.dealt ops) scene.resolution.states).1

variable {scene} in
/-- Only passes and states matter. -/
theorem At.of_keeps {ops : List FrameOp} {cursor : Cursor} (h : scene.At ops cursor) {step : Step}
    (hkeeps : step.Keeps) : scene.At ops (step cursor).1 := by
  rcases hkeeps cursor with ⟨hpass, hpassed, hstates⟩
  refine ⟨?_, ?_, hstates.trans h.states⟩
  · rw [hpassed]
    exact h.passed
  · rw [hpass, hpassed]
    exact h.current

/-- The start of the frame. -/
theorem at_start (hazards : HazardMask) :
    scene.At [] (scene.startFrame hazards (Cursor.start scene.resolution.states)).1 := by
  rcases scene.startFrame_spec hazards (Cursor.start scene.resolution.states)
    with ⟨hpass, hpassed, hstates, _⟩
  refine ⟨?_, ?_, ?_⟩
  · intro pass
    rw [hpassed, List.mem_cons]
    rfl
  · intro pass hcurrent
    rw [hpass] at hcurrent
    exact absurd hcurrent.symm (Option.some_ne_none pass)
  · rw [hstates]
    simp only [dealt, dealtPasses, List.map_nil, List.filter_nil, List.eraseDups_nil,
      List.flatMap_nil, List.append_nil]
    rfl

/-- Entering the pass of one more operation deals with what is due there. -/
theorem at_entering (ops : List FrameOp) (operation : FrameOp) (cursor : Cursor)
    (h : scene.At ops cursor) :
    scene.At (ops ++ [operation]) (scene.enterPass operation.pass cursor).1
      ∧ (settle scene.resolution.backings (scene.dealt (ops ++ [operation]))
          scene.resolution.states).2
        = (settle scene.resolution.backings (scene.dealt ops) scene.resolution.states).2
          ++ scene.transitionsIn (.entering operation.pass) cursor := by
  rcases scene.enterPass_spec operation.pass cursor with ⟨hpass, hpassed, hstates, _⟩
  -- The cursor takes a pass for reached exactly if it is.
  have hreached : (cursor.pass = some operation.pass ∨ operation.pass ∈ cursor.passed)
      ↔ (operation.pass = frameStart ∨ operation.pass ∈ dealtPasses ops) := by
    rw [← h.passed]
    exact ⟨fun hor => hor.elim (h.current _) id, Or.inr⟩
  have hdealt : scene.dealt (ops ++ [operation])
      = scene.dealt ops
        ++ PlannedBarrier.imagesFirst (scene.due cursor (.entering operation.pass)) := by
    simp only [dealt, due, dealtPasses_append, List.flatMap_append, List.append_assoc, hreached]
    split
    · rfl
    · simp only [List.flatMap_cons, List.flatMap_nil, List.append_nil]
  have hsettle := settle_append scene.resolution.backings (scene.dealt ops)
    (PlannedBarrier.imagesFirst (scene.due cursor (.entering operation.pass)))
    scene.resolution.states
  rw [← hdealt, ← h.states] at hsettle
  refine ⟨⟨?_, ?_, ?_⟩, ?_⟩
  · intro pass
    simp only [hpassed, dealtPasses_append, List.mem_append, hreached]
    split
    · simp only [h.passed, List.not_mem_nil, or_false]
    · simp only [List.mem_cons, h.passed, List.not_mem_nil, or_false]
      tauto
  · intro pass hcurrent
    rw [hpass, Option.some.injEq] at hcurrent
    subst hcurrent
    rw [hpassed]
    split
    · next hor => exact hor.elim (h.current _) id
    · exact List.mem_cons_self
  · rw [hstates, hsettle]
  · rw [hsettle]
    rfl

/-- The parts of one more operation come last. -/
theorem ofOps_append (ops : List FrameOp) (operation : FrameOp) :
    Part.ofOps (ops ++ [operation])
      = Part.ofOps ops ++ [.entering operation.pass, .working operation] := by
  simp only [Part.ofOps, List.flatMap_append, List.flatMap_cons, List.flatMap_nil, List.append_nil]

/-- Recording some operations records the planned barriers that came due,
    settled. -/
theorem play_ops (hazards : HazardMask) (ops : List FrameOp) :
    scene.At ops (scene.play hazards (.start :: Part.ofOps ops)
        (Cursor.start scene.resolution.states)).1
      ∧ (scene.play hazards (.start :: Part.ofOps ops)
          (Cursor.start scene.resolution.states)).2.flatMap Stretch.transitions
        = (settle scene.resolution.backings (scene.dealt ops) scene.resolution.states).2 := by
  -- What is due on entering a pass depends on the operations before, so the
  -- induction goes from the end, with what the cursor knows as invariant.
  induction ops using List.reverseRecOn with
  | nil =>
      refine ⟨scene.at_start hazards, ?_⟩
      simp only [Part.ofOps, List.flatMap_nil, play, List.flatMap_cons, List.append_nil, dealt,
        dealtPasses, List.map_nil, List.filter_nil, List.eraseDups_nil]
      rfl
  | append_singleton ops operation ih =>
      have hentering := scene.at_entering ops operation _ ih.1
      have hkeeps := scene.keeps_working hazards operation
      rw [ofOps_append, ← List.cons_append, play_append]
      refine ⟨hentering.1.of_keeps hkeeps, ?_⟩
      -- The work adds no transition to what entering the pass added.
      rw [List.flatMap_append, ih.2, hentering.2]
      exact congrArg _ (List.append_nil _)

/-- So far, when the pass of one more operation has been entered. -/
theorem play_entering (hazards : HazardMask) (ops : List FrameOp) (operation : FrameOp) :
    scene.At (ops ++ [operation]) (scene.play hazards
        (.start :: Part.ofOps ops ++ [.entering operation.pass])
        (Cursor.start scene.resolution.states)).1
      ∧ (scene.play hazards (.start :: Part.ofOps ops ++ [.entering operation.pass])
          (Cursor.start scene.resolution.states)).2.flatMap Stretch.transitions
        = (settle scene.resolution.backings (scene.dealt (ops ++ [operation]))
            scene.resolution.states).2 := by
  have hops := scene.play_ops hazards ops
  have hentering := scene.at_entering ops operation _ hops.1
  rw [play_append]
  simp only [List.flatMap_append, hops.2]
  refine ⟨hentering.1, ?_⟩
  rw [hentering.2]
  exact congrArg _ (List.append_nil _)

/-- The planned barriers recorded in a frame are those that came due,
    settled. -/
theorem transitions_trace (hazards : HazardMask) (ops : List FrameOp) :
    (scene.trace hazards ops).flatMap Stretch.transitions
      = (settle scene.resolution.backings (scene.dealt ops) scene.resolution.states).2 := by
  unfold trace
  rw [play_append, List.flatMap_append, (scene.play_ops hazards ops).2]
  exact List.append_nil _

/-- So are the states it leaves. -/
theorem states_recordFrame (hazards : HazardMask) (ops : List FrameOp) :
    (scene.recordFrame hazards ops (Cursor.start scene.resolution.states)).1.states
      = (settle scene.resolution.backings (scene.dealt ops) scene.resolution.states).1 := by
  rw [← all_frame, ← (scene.play_eq hazards _ _).1, play_append]
  exact (scene.keeps_closeFrame _).2.2.trans (scene.play_ops hazards ops).1.states

end Scene

end FrameGraph
