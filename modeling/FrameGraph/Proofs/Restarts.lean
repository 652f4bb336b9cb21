import FrameGraph.Proofs.DealtOnce

/-!
# Needless Restarts of a Render Pass

A render pass that is ended and begun again for the same context loads its
attachments anew, and where they are cleared on loading, what was drawn is
gone. That is the price of recording something in between that no render pass
may be open around: a barrier, a blit or a dispatch. If nothing of the kind is
recorded, the restart is needless.

Whether barriers are recorded at a boundary is known only once they are
settled, out of the states that the frame has led to so far. The render pass
is ended before that, on the ground that barriers are planned. So there are
needless restarts, and `record_restarts_iff` says which: a render pass is open
where barriers are due, none of them is needed, and the next thing recorded is
drawn in the same context.

The stream is reduced to its marks, the begins and ends of render passes and
what has to be recorded outside of them. A restart is a pattern in the marks,
and `RestartsFrom` looks for it with two things in mind: the context that is
open, which is what the cursor says, and the context that was just ended,
which is remembered only until another mark comes.

## Main definitions

* `Mark`, `marksOf`: What commands mean to render passes.
* `Restarts`, `RestartsFrom`: A needless restart, and the search for one.
* `Cursor.Ended`: What may be remembered as just ended.
* `Scene.neededAfter`: The barriers recorded before an operation.
* `Scene.ResumesIn`: The next thing recorded is drawn in a context.
* `Scene.openAfter`: What is open after some operations.
* `uiOverScene`: An interface over a scene, and its font.

## Theorems

* `restartsFrom_iff`: What the search finds.
* `Scene.restartsFrom_enterPass`, `Scene.restartsFrom_recordWork`,
  `Scene.restartsFrom_closeFrame`: The search along each step.
* `Scene.restartsFrom_rest`, `Scene.restarts_stream_iff`: Along a frame.
* `record_restarts_iff`: When a render pass is restarted needlessly.
-/

namespace FrameGraph

open Gpu

/-- What a command means to the render passes of a stream. -/
inductive Mark where
  /-- A render pass is begun for a context. -/
  | begins (context : Context)
  /-- The render pass is ended. -/
  | ends
  /-- What needs that no render pass is open: a barrier, a blit or a
      dispatch. -/
  | works
  deriving DecidableEq, Repr

namespace Mark

/-- The mark of a command, if it has one. -/
def of? (sent : Origin × Command) : Option Mark :=
  match sent.2.role with
  | .opensPass _ _ => sent.1.context?.map begins
  | .closesPass => some ends
  | .outside => some works
  | _ => none

end Mark

/-- The marks of a stream. -/
def marksOf (stream : List (Origin × Command)) : List Mark := stream.filterMap Mark.of?

/-- A render pass is ended, and the next one is begun for an equal context
    with nothing in between that needs it to be ended. -/
def Restarts (marks : List Mark) : Prop :=
  ∃ front inside back context,
    marks = front ++ .begins context :: (inside ++ .ends :: .begins context :: back)
      ∧ ∀ mark ∈ inside, mark = .works

/-- The same, looked for along the marks, with the context that is open in
    mind and the one that was ended last, if no mark came after that. -/
def RestartsFrom : Option Context → Option Context → List Mark → Prop
  | _, _, [] => False
  | _, idle?, .begins context :: rest =>
    idle? = some context ∨ RestartsFrom (some context) none rest
  | open?, _, .ends :: rest => RestartsFrom none open? rest
  | open?, _, .works :: rest => RestartsFrom open? none rest

/-- What is open for a context is ended and begun again. -/
def Reopens (context : Context) (marks : List Mark) : Prop :=
  ∃ inside back, marks = inside ++ .ends :: .begins context :: back
    ∧ ∀ mark ∈ inside, mark = .works

theorem reopens_works_iff (context : Context) (rest : List Mark) :
    Reopens context (.works :: rest) ↔ Reopens context rest := by
  constructor
  · rintro ⟨inside, back, hsplit, hinside⟩
    cases inside with
    | nil => exact absurd (List.cons.inj hsplit).1 (by decide)
    | cons mark inside =>
        exact ⟨inside, back, (List.cons.inj hsplit).2,
          fun other hother => hinside other (List.mem_cons_of_mem _ hother)⟩
  · rintro ⟨inside, back, rfl, hinside⟩
    refine ⟨.works :: inside, back, rfl, ?_⟩
    rw [List.forall_mem_cons]
    exact ⟨rfl, hinside⟩

theorem reopens_ends_iff (context : Context) (rest : List Mark) :
    Reopens context (.ends :: rest) ↔ ∃ back, rest = .begins context :: back := by
  constructor
  · rintro ⟨inside, back, hsplit, hinside⟩
    cases inside with
    | nil => exact ⟨back, (List.cons.inj hsplit).2⟩
    | cons mark inside =>
        have hmark := hinside mark List.mem_cons_self
        rw [← (List.cons.inj hsplit).1] at hmark
        exact absurd hmark (by decide)
  · rintro ⟨back, rfl⟩
    exact ⟨[], back, rfl, fun _ hmem => absurd hmem List.not_mem_nil⟩

theorem not_reopens_begins (context other : Context) (rest : List Mark) :
    ¬ Reopens context (.begins other :: rest) := by
  rintro ⟨inside, back, hsplit, hinside⟩
  cases inside with
  | nil =>
      have hhead := (List.cons.inj hsplit).1
      simp only [reduceCtorEq] at hhead
  | cons mark inside =>
      have hmark := hinside mark List.mem_cons_self
      rw [← (List.cons.inj hsplit).1] at hmark
      simp only [reduceCtorEq] at hmark

/-- A restart is at the first mark or later. -/
theorem restarts_cons_iff (mark : Mark) (rest : List Mark) :
    Restarts (mark :: rest)
      ↔ (∃ context, mark = .begins context ∧ Reopens context rest) ∨ Restarts rest := by
  constructor
  · rintro ⟨front, inside, back, context, hsplit, hinside⟩
    cases front with
    | nil =>
        rcases List.cons.inj hsplit with ⟨rfl, hrest⟩
        exact Or.inl ⟨context, rfl, inside, back, hrest, hinside⟩
    | cons first front =>
        exact Or.inr ⟨front, inside, back, context, (List.cons.inj hsplit).2, hinside⟩
  · rintro (⟨context, rfl, inside, back, rfl, hinside⟩
      | ⟨front, inside, back, context, rfl, hinside⟩)
    · exact ⟨[], inside, back, context, rfl, hinside⟩
    · exact ⟨mark :: front, inside, back, context, rfl, hinside⟩

/-- What is found: the context that was ended is begun right away, or the one
    that is open is ended and begun again, or there is a restart later on. -/
theorem restartsFrom_iff (marks : List Mark) (open? idle? : Option Context) :
    RestartsFrom open? idle? marks
      ↔ (∃ context back, idle? = some context ∧ marks = .begins context :: back)
        ∨ (∃ context, open? = some context ∧ Reopens context marks) ∨ Restarts marks := by
  induction marks generalizing open? idle? with
  | nil =>
      constructor
      · exact False.elim
      · rintro (⟨_, _, _, hnone⟩ | ⟨_, _, inside, back, hnone, _⟩
          | ⟨front, inside, back, _, hnone, _⟩)
        · exact absurd hnone.symm (List.cons_ne_nil _ _)
        · cases inside <;> simp only [List.nil_append, List.cons_append, reduceCtorEq] at hnone
        · cases front <;> simp only [List.nil_append, List.cons_append, reduceCtorEq] at hnone
  | cons mark rest ih =>
      rw [restarts_cons_iff]
      cases mark with
      | begins context =>
          simp only [RestartsFrom, ih, not_reopens_begins, List.cons.injEq, Mark.begins.injEq,
            reduceCtorEq, false_and, exists_false, and_false, false_or, Option.some.injEq,
            exists_eq_left']
          simp only [exists_and_left, exists_eq', and_true, exists_eq_right']
      | ends =>
          simp only [RestartsFrom, ih, reopens_ends_iff, reduceCtorEq, false_and, exists_false,
            and_false, false_or, List.cons.injEq, exists_and_left]
      | works =>
          simp only [RestartsFrom, ih, reopens_works_iff, reduceCtorEq, false_and, exists_false,
            and_false, false_or, List.cons.injEq]

/-- A list with a first element is split right at that or behind it. -/
theorem exists_split_cons_iff {α : Type} (first : α) (rest : List α)
    (p : List α → α → List α → Prop) :
    (∃ before a back, first :: rest = before ++ a :: back ∧ p before a back)
      ↔ p [] first rest
        ∨ ∃ before a back, rest = before ++ a :: back ∧ p (first :: before) a back := by
  constructor
  · rintro ⟨before, a, back, hsplit, hp⟩
    cases before with
    | nil =>
        rcases List.cons.inj hsplit with ⟨rfl, rfl⟩
        exact Or.inl hp
    | cons other before =>
        rcases List.cons.inj hsplit with ⟨rfl, hrest⟩
        exact Or.inr ⟨before, a, back, hrest, hp⟩
  · rintro (hp | ⟨before, a, back, rfl, hp⟩)
    · exact ⟨[], first, rest, rfl, hp⟩
    · exact ⟨first :: before, a, back, rfl, hp⟩

theorem marksOf_append (first second : List (Origin × Command)) :
    marksOf (first ++ second) = marksOf first ++ marksOf second :=
  List.filterMap_append

/-- Bindings and draws mean nothing to render passes. -/
theorem marksOf_drawing (origin : Origin) (commands : List Command)
    (h : ∀ command ∈ commands, command.role = .inside ∨ command.role = .anywhere) :
    marksOf (origin.sends commands) = [] := by
  refine List.filterMap_eq_nil_iff.mpr ?_
  intro sent hsent
  rcases List.mem_map.mp hsent with ⟨command, hcommand, rfl⟩
  unfold Mark.of?
  rcases h command hcommand with hrole | hrole
  · rw [hrole]
  · rw [hrole]

/-- A label and the render pass under it are one begin for the context that
    they are recorded for. -/
theorem marksOf_opening {origin : Origin} {context : Context}
    (h : origin.context? = some context) (label : String) (color : Color)
    (renderPass framebuffer : UInt64) (area : Rect) (clearValues : List Color) :
    marksOf (origin.sends [.beginLabel label color,
      .beginRenderPass renderPass framebuffer area clearValues]) = [.begins context] := by
  have hlabel : Mark.of? (origin, .beginLabel label color) = none := rfl
  have hpass : Mark.of? (origin, .beginRenderPass renderPass framebuffer area clearValues)
      = some (.begins context) := congrArg (Option.map Mark.begins) h
  exact (List.filterMap_cons_none hlabel).trans (List.filterMap_cons_some hpass)

/-- After what has to be recorded outside, nothing counts as just ended. -/
theorem restartsFrom_outside (origin : Origin) (commands : List Command)
    (h : ∀ command ∈ commands, command.role = .outside) (open? idle? : Option Context)
    (rest : List Mark) :
    RestartsFrom open? idle? (marksOf (origin.sends commands) ++ rest)
      ↔ RestartsFrom open? (if commands = [] then idle? else none) rest := by
  induction commands generalizing idle? with
  | nil => exact Iff.rfl
  | cons command commands ih =>
      rw [List.forall_mem_cons] at h
      have hmark : Mark.of? (origin, command) = some .works := by
        unfold Mark.of?
        rw [h.1]
      have hmarks : marksOf (origin.sends (command :: commands))
          = .works :: marksOf (origin.sends commands) := List.filterMap_cons_some hmark
      have hrest := ih h.2 none
      rw [ite_self] at hrest
      rw [hmarks, if_neg (List.cons_ne_nil _ _)]
      exact hrest

/-- What was just ended is remembered only while nothing is open. -/
def Cursor.Ended (cursor : Cursor) (idle? : Option Context) : Prop :=
  ∀ context, idle? = some context → cursor.current = none

namespace Cursor.Ended

variable {cursor : Cursor} {idle? : Option Context} (h : cursor.Ended idle?)
include h

theorem eq_none {context : Context} (hopen : cursor.current = some context) : idle? = none := by
  cases idle? with
  | none => rfl
  | some ended => exact absurd (hopen.symm.trans (h ended rfl)) (Option.some_ne_none _)

/-- Once the render pass is ended, what was open counts as just ended, or else
    what did before. -/
theorem or_eq_some_iff (context : Context) :
    cursor.current.or idle? = some context
      ↔ idle? = some context ∨ cursor.current = some context := by
  rw [Option.or_eq_some_iff]
  constructor
  · rintro (hopen | ⟨_, hended⟩)
    · exact Or.inr hopen
    · exact Or.inl hended
  · rintro (hended | hopen)
    · exact Or.inr ⟨h context hended, hended⟩
    · exact Or.inl hopen

end Cursor.Ended

namespace Step

/-- Submitting barriers records one command that must be outside, or none if
    there are no barriers. -/
theorem submit_outside {α : Type} (barriers : List α) {submission : Command}
    (hrole : submission.role = .outside) (cursor : Cursor) :
    (∀ command ∈ (if barriers.isEmpty then (cursor, [])
        else (cursor.countBarrier, [submission])).2, command.role = .outside)
      ∧ ((if barriers.isEmpty then (cursor, []) else (cursor.countBarrier, [submission])).2 = []
        ↔ barriers = [])
      ∧ (if barriers.isEmpty then (cursor, [])
        else (cursor.countBarrier, [submission])).1.current = cursor.current := by
  cases barriers with
  | nil => exact ⟨List.forall_mem_nil _, iff_of_true rfl rfl, rfl⟩
  | cons first rest =>
      refine ⟨?_, iff_of_false (List.cons_ne_nil _ _) (List.cons_ne_nil _ _), rfl⟩
      intro command hcommand
      rw [List.mem_singleton.mp hcommand]
      exact hrole

/-- Closing makes what was open just ended. -/
theorem restartsFrom_closeRenderPass (origin : Origin) (cursor : Cursor) (idle? : Option Context)
    (rest : List Mark) :
    (closeRenderPass cursor).1.current = none
      ∧ (RestartsFrom cursor.current idle?
          (marksOf (origin.sends (closeRenderPass cursor).2) ++ rest)
        ↔ RestartsFrom none (cursor.current.or idle?) rest) := by
  unfold closeRenderPass
  cases hcurrent : cursor.current with
  | none => exact ⟨hcurrent, Iff.rfl⟩
  | some context => exact ⟨rfl, Iff.rfl⟩

end Step

namespace FrameOp

/-- The operation records nothing: it is a clear without an aspect. -/
def recordsNothing (operation : FrameOp) : Bool :=
  match operation.work with
  | .clear clear => !(clear.color || clear.depth || clear.stencil)
  | _ => false

/-- What draws records something. -/
theorem recordsNothing_of_draws {operation : FrameOp} (h : operation.drawsInPass = true) :
    operation.recordsNothing = false := by
  unfold drawsInPass at h
  unfold recordsNothing
  cases hwork : operation.work with
  | clear clear =>
      rw [hwork] at h
      simp only [h, Bool.not_true]
  | _ => rfl

end FrameOp

namespace Scene

variable (scene : Scene)

/-- The planned barriers recorded before an operation that comes after some
    others: of those that are due, the ones that are needed out of the states
    that the others leave. -/
def neededAfter (front : List FrameOp) (operation : FrameOp) : List Transition :=
  (settle scene.resolution.backings
    (PlannedBarrier.imagesFirst (scene.dueAfter front operation)) (scene.leaves front)).2

/-- The next thing that is recorded, by some operations that come after others
    or by the end of the frame, is drawn in a context. -/
def ResumesIn (context : Context) : List FrameOp → List FrameOp → Prop
  | _, [] => context = ⟨closingIdentity, .swapchain⟩
  | front, operation :: rest =>
    scene.neededAfter front operation = []
      ∧ ((operation.drawsInPass = true ∧ operation.context = context)
        ∨ (operation.recordsNothing = true ∧ ResumesIn context (front ++ [operation]) rest))

/-- The context whose render pass is open after some operations. -/
def openAfter (hazards : HazardMask) (front : List FrameOp) : Option Context :=
  (Step.all (scene.startFrame hazards :: front.map scene.recordOp)
    (Cursor.start scene.resolution.states)).1.current

/-- Planned barriers are recorded outside, and there are none exactly if none
    is needed. -/
theorem emitBarriers_outside (barriers : List PlannedBarrier) (cursor : Cursor) :
    (∀ command ∈ (scene.emitBarriers barriers cursor).2, command.role = .outside)
      ∧ ((scene.emitBarriers barriers cursor).2 = []
        ↔ (settle scene.resolution.backings (PlannedBarrier.imagesFirst barriers)
          cursor.states).2 = [])
      ∧ (scene.emitBarriers barriers cursor).1.current = cursor.current := by
  unfold emitBarriers
  generalize settle scene.resolution.backings (PlannedBarrier.imagesFirst barriers)
    cursor.states = settled
  have himages := Step.submit_outside (Transition.imagesOf settled.2)
    (rfl : (Command.imageBarrier 0 (Transition.imagesOf settled.2)).role = .outside)
    { cursor with states := settled.1 }
  have hbuffers := Step.submit_outside (Transition.buffersOf settled.2)
    (rfl : (Command.bufferBarrier 0 (Transition.buffersOf settled.2)).role = .outside)
    (Step.submitImages (Transition.imagesOf settled.2) { cursor with states := settled.1 }).1
  refine ⟨List.forall_mem_append.mpr ⟨himages.1, hbuffers.1⟩, ?_,
    hbuffers.2.2.trans himages.2.2⟩
  · refine List.append_eq_nil_iff.trans ((and_congr himages.2.1 hbuffers.2.1).trans ?_)
    -- A transition is of an image or of a buffer.
    constructor
    · rintro ⟨himage, hbuffer⟩
      rw [List.eq_nil_iff_forall_not_mem]
      intro transition hmem
      have hnot := List.filter_eq_nil_iff.mp (List.map_eq_nil_iff.mp himage) transition hmem
      have hother := List.filter_eq_nil_iff.mp (List.map_eq_nil_iff.mp hbuffer) transition hmem
      rw [Bool.not_eq_true] at hnot
      rw [hnot] at hother
      exact hother rfl
    · intro hnone
      rw [hnone]
      exact ⟨rfl, rfl⟩

/-- Dealing with barriers: what was open counts as just ended if none of them
    is needed. -/
theorem restartsFrom_dealWith {barriers : List PlannedBarrier} (hbarriers : barriers ≠ [])
    (origin : Origin) (cursor : Cursor) (idle? : Option Context) (rest : List Mark) :
    (scene.dealWith barriers cursor).1.current = none
      ∧ (RestartsFrom cursor.current idle?
          (marksOf (origin.sends (scene.dealWith barriers cursor).2) ++ rest)
        ↔ RestartsFrom none (if (settle scene.resolution.backings
            (PlannedBarrier.imagesFirst barriers) cursor.states).2 = []
          then cursor.current.or idle? else none) rest) := by
  have hclose := Step.restartsFrom_closeRenderPass origin cursor idle?
  rcases scene.emitBarriers_outside barriers (Step.closeRenderPass cursor).1
    with ⟨houtside, hneeded, hkept⟩
  rw [(Step.keeps_closeRenderPass cursor).2.2] at hneeded
  rw [scene.dealWith_of_ne hbarriers]
  refine ⟨hkept.trans (hclose []).1, ?_⟩
  simp only [Step.andThen, Origin.sends_append, marksOf_append, List.append_assoc]
  rw [(hclose _).2, restartsFrom_outside origin _ houtside]
  simp only [hneeded]

/-- Entering a pass: what was open counts as just ended if something is due
    and nothing of it is needed. -/
theorem restartsFrom_enterPass {front : List FrameOp} {cursor : Cursor}
    (h : scene.At front cursor) (operation : FrameOp) (origin : Origin) (idle? : Option Context)
    (hidle : cursor.Ended idle?) :
    ∃ later?, (scene.enterPass operation.pass cursor).1.Ended later?
      ∧ (∀ context, later? = some context ↔ scene.neededAfter front operation = []
        ∧ (idle? = some context
          ∨ (scene.dueAfter front operation ≠ [] ∧ cursor.current = some context)))
      ∧ ∀ rest, RestartsFrom cursor.current idle?
          (marksOf (origin.sends (scene.enterPass operation.pass cursor).2) ++ rest)
        ↔ RestartsFrom (scene.enterPass operation.pass cursor).1.current later? rest := by
  have hentered := scene.enterPass_eq operation.pass cursor
  rw [h.due_entering] at hentered
  rw [hentered]
  by_cases hdue : scene.dueAfter front operation = []
  · -- Nothing is due, so nothing is needed and nothing happens.
    have hneeded : scene.neededAfter front operation = [] := by
      unfold neededAfter
      rw [hdue]
      rfl
    rw [hdue]
    refine ⟨idle?, hidle, ?_, fun rest => Iff.rfl⟩
    intro context
    simp only [hneeded, ne_eq, not_true_eq_false, false_and, or_false, true_and]
  · -- The barriers are settled out of the states of the cursor.
    have hdeal := scene.restartsFrom_dealWith hdue origin (noteReached operation.pass cursor).1
      idle?
    have hstates : (noteReached operation.pass cursor).1.states = scene.leaves front := h.states
    rw [hstates] at hdeal
    refine ⟨if scene.neededAfter front operation = [] then cursor.current.or idle? else none,
      fun _ _ => (hdeal []).1, ?_, ?_⟩
    · intro context
      rw [Option.ite_none_right_eq_some, hidle.or_eq_some_iff]
      simp only [hdue, ne_eq, not_false_eq_true, true_and]
    · intro rest
      have hcurrent : ((noteReached operation.pass).andThen
          (scene.dealWith (scene.dueAfter front operation)) cursor).1.current = none :=
        (hdeal []).1
      rw [hcurrent]
      exact (hdeal rest).2

/-- What is drawn in a render pass: a restart if its context was just ended. -/
theorem restartsFrom_inRenderPass {context : Context} {binding : TargetBinding}
    (hbinding : scene.resolution.targets.get? context.target = some binding)
    (body : TargetBinding → List Command) (origin : Origin)
    (hbody : marksOf (origin.sends (body binding)) = []) (cursor : Cursor)
    (hcontext : cursor.current = some context ∨ origin.context? = some context)
    (idle? : Option Context) (hidle : cursor.Ended idle?) (rest : List Mark) :
    RestartsFrom cursor.current idle?
        (marksOf (origin.sends (scene.inRenderPass context body cursor).2) ++ rest)
      ↔ idle? = some context ∨ RestartsFrom (some context) none rest := by
  unfold inRenderPass
  rw [hbinding]
  simp only
  by_cases hcurrent : cursor.current = some context
  · rw [if_pos hcurrent, hbody, hcurrent, hidle.eq_none hcurrent]
    simp only [List.nil_append, reduceCtorEq, false_or]
  · have hopens := hcontext.resolve_left hcurrent
    have hbegins := marksOf_opening hopens context.target.label Color.renderPass
      binding.renderPass binding.framebuffer binding.area binding.clearValues
    rw [if_neg hcurrent]
    simp only [Origin.sends_append, marksOf_append, List.append_assoc, hbegins, hbody]
    rw [(Step.restartsFrom_closeRenderPass origin cursor idle? _).2]
    -- What was open is another context, and what was ended is this one or not.
    change cursor.current.or idle? = some context ∨ RestartsFrom (some context) none rest ↔ _
    rw [hidle.or_eq_some_iff, or_iff_left hcurrent]

/-- The work of an operation: a restart if it is drawn in the context that was
    just ended. Nothing counts as just ended afterwards, unless nothing is
    recorded. -/
theorem restartsFrom_recordWork (hdraws : scene.renderers.DrawsOnly) (operation : FrameOp)
    (hbound : ∀ surface ∈ operation.surfaces,
      ∃ binding, scene.resolution.targets.get? surface = some binding)
    (cursor : Cursor) (idle? : Option Context) (hidle : cursor.Ended idle?) :
    ∃ later?, (scene.recordWork operation cursor).1.Ended later?
      ∧ (∀ context, later? = some context
        ↔ operation.recordsNothing = true ∧ idle? = some context)
      ∧ ∀ rest, RestartsFrom cursor.current idle?
          (marksOf ((Origin.op operation).sends (scene.recordWork operation cursor).2) ++ rest)
        ↔ (operation.drawsInPass = true ∧ idle? = some operation.context)
          ∨ RestartsFrom (scene.recordWork operation cursor).1.current later? rest := by
  have hends := Step.restartsFrom_closeRenderPass (.op operation) cursor idle?
  cases hdrawn : operation.drawsInPass with
  | true =>
      rcases scene.recordWork_of_draws hdraws operation hdrawn with ⟨body, hwork, hbody⟩
      rcases hbound _ (FrameOp.mem_surfaces_of_draws hdrawn) with ⟨binding, hbinding⟩
      have hcurrent := (scene.inRenderPass_spec hbinding body cursor).1
      refine ⟨none, ?_, ?_, ?_⟩
      · intro context hnone
        exact absurd hnone.symm (Option.some_ne_none context)
      · intro context
        simp only [FrameOp.recordsNothing_of_draws hdrawn, reduceCtorEq, Bool.false_eq_true,
          false_and]
      · intro rest
        rw [hwork, hcurrent, scene.restartsFrom_inRenderPass hbinding body _
          (marksOf_drawing _ _ (hbody binding)) cursor (Or.inr rfl) idle? hidle rest]
        simp only [true_and]
  | false =>
      simp only [Bool.false_eq_true, false_and, false_or]
      unfold FrameOp.drawsInPass at hdrawn
      unfold FrameOp.surfaces at hbound
      unfold FrameOp.recordsNothing recordWork
      cases hkind : operation.work with
      | clear clear =>
          rw [hkind] at hdrawn
          simp only [recordClear, Clear.isEmpty_attachments, hdrawn, Bool.not_false, if_true,
            true_and]
          exact ⟨idle?, hidle, fun _ => Iff.rfl, fun _ => Iff.rfl⟩
      | mesh state renderer => simp only [hkind, Bool.true_eq_false] at hdrawn
      | indirect draw => simp only [hkind, Bool.true_eq_false] at hdrawn
      | blit blit =>
          simp only [hkind, List.forall_mem_cons] at hbound
          rcases hbound with ⟨⟨source, hsource⟩, ⟨destination, hdestination⟩, _⟩
          have hcurrent : (scene.recordBlit blit cursor).1.current = none := by
            unfold recordBlit
            rw [hsource, hdestination]
            exact (hends []).1
          refine ⟨none, fun _ _ => hcurrent, ?_, ?_⟩
          · simp only [reduceCtorEq, Bool.false_eq_true, false_and, implies_true]
          · intro rest
            rcases scene.recordBlit_copies blit source destination hsource hdestination cursor
              with ⟨copying, hrecorded, _, _, _, _, hcopies⟩
            rw [hcurrent, hrecorded, Origin.sends_append, marksOf_append, List.append_assoc,
              (hends _).2, hcopies.commands]
            exact Iff.rfl
      | dispatch dispatch =>
          refine ⟨none, fun _ _ => (hends []).1, ?_, ?_⟩
          · simp only [reduceCtorEq, Bool.false_eq_true, false_and, implies_true]
          · intro rest
            have hcurrent : (recordDispatch dispatch cursor).1.current = none := (hends []).1
            have hcommands : (recordDispatch dispatch cursor).2
                = (Step.closeRenderPass cursor).2 ++ [.beginLabel "dispatch" Color.compute,
                  .bindPipeline .compute dispatch.pipeline,
                  .dispatch dispatch.x dispatch.y dispatch.z, .endLabel] := rfl
            rw [hcurrent, hcommands, Origin.sends_append, marksOf_append, List.append_assoc,
              (hends _).2]
            exact Iff.rfl

/-- An operation that comes after some others. -/
theorem restartsFrom_recordOp (hdraws : scene.renderers.DrawsOnly) {front : List FrameOp}
    {cursor : Cursor} (h : scene.At front cursor) (operation : FrameOp)
    (hbound : ∀ surface ∈ operation.surfaces,
      ∃ binding, scene.resolution.targets.get? surface = some binding)
    (idle? : Option Context) (hidle : cursor.Ended idle?) :
    ∃ later?, (scene.recordOp operation cursor).1.Ended later?
      ∧ (∀ context, later? = some context ↔ operation.recordsNothing = true
        ∧ scene.neededAfter front operation = []
        ∧ (idle? = some context
          ∨ (scene.dueAfter front operation ≠ [] ∧ cursor.current = some context)))
      ∧ ∀ rest, RestartsFrom cursor.current idle?
          (marksOf ((Origin.op operation).sends (scene.recordOp operation cursor).2) ++ rest)
        ↔ (operation.drawsInPass = true ∧ scene.neededAfter front operation = []
            ∧ (idle? = some operation.context
              ∨ (scene.dueAfter front operation ≠ []
                ∧ cursor.current = some operation.context)))
          ∨ RestartsFrom (scene.recordOp operation cursor).1.current later? rest := by
  rcases scene.restartsFrom_enterPass h operation (.op operation) idle? hidle
    with ⟨between?, hbetween, hended, hentering⟩
  rcases scene.restartsFrom_recordWork hdraws operation hbound
    (scene.enterPass operation.pass cursor).1 between? hbetween
    with ⟨later?, hlater, hkept, hworking⟩
  refine ⟨later?, hlater, ?_, ?_⟩
  · intro context
    rw [hkept, hended]
  · intro rest
    rw [scene.recordOp_commands, Origin.sends_append, marksOf_append, List.append_assoc, hentering,
      hworking, hended]
    exact Iff.rfl

/-- What is drawn over the frame means nothing to render passes. -/
theorem marksOf_overlayCommands (hdraws : scene.renderers.DrawsOnly) (binding : TargetBinding) :
    marksOf (Origin.closing.sends (scene.overlayCommands binding)) = [] := by
  unfold overlayCommands
  cases hoverlay : scene.renderers.overlay with
  | none => rfl
  | some overlay =>
      have hothers := marksOf_drawing .closing (overlay binding.renderPass binding.area)
        fun command hcommand => command.role_of_draws
          (hdraws.overlay overlay hoverlay binding.renderPass binding.area command hcommand)
      simp only [Origin.sends_append, marksOf_append, hothers]
      rfl

/-- The end of a frame: a restart if the context of its own render pass was
    just ended. -/
theorem restartsFrom_closeFrame (hdraws : scene.renderers.DrawsOnly) {binding : TargetBinding}
    (hbinding : scene.resolution.targets.get? .swapchain = some binding) (cursor : Cursor)
    (idle? : Option Context) (hidle : cursor.Ended idle?) :
    RestartsFrom cursor.current idle?
        (marksOf (Origin.closing.sends (scene.closeFrame cursor).2))
      ↔ idle? = some ⟨closingIdentity, .swapchain⟩ := by
  have htarget : (closingContext cursor).target = .swapchain :=
    of_decide_eq_true (closingContext_target cursor)
  rw [← htarget] at hbinding
  have hcurrent := (scene.inRenderPass_spec hbinding scene.overlayCommands cursor).1
  have hcommands : (scene.closeFrame cursor).2
      = (scene.inRenderPass (closingContext cursor) scene.overlayCommands cursor).2
        ++ [.endRenderPass, .endLabel] := by
    unfold closeFrame Step.andThen Step.closeRenderPass
    simp only [hcurrent]
  have hlast : ¬ RestartsFrom (some (closingContext cursor)) none
      (marksOf (Origin.closing.sends [.endRenderPass, .endLabel])) := id
  rw [hcommands, Origin.sends_append, marksOf_append,
    scene.restartsFrom_inRenderPass hbinding scene.overlayCommands _
      (scene.marksOf_overlayCommands hdraws binding) cursor (closingContext_cases cursor) idle?
      hidle,
    or_iff_left hlast]
  -- Where something was just ended nothing is open, and the frame begins its own.
  cases idle? with
  | none => simp only [reduceCtorEq]
  | some ended =>
      have hclosing : closingContext cursor = ⟨closingIdentity, .swapchain⟩ := by
        unfold closingContext
        rw [hidle ended rfl]
      rw [hclosing]

/-- Something resumes in the next operation, if that draws and is in its
    context, or behind it, if that records nothing. -/
theorem exists_resumesIn_cons_iff (front : List FrameOp) (operation : FrameOp)
    (rest : List FrameOp) (ended : Context → Prop) :
    (∃ context, ended context ∧ scene.ResumesIn context front (operation :: rest))
      ↔ (operation.drawsInPass = true ∧ scene.neededAfter front operation = []
          ∧ ended operation.context)
        ∨ ∃ context, (operation.recordsNothing = true ∧ scene.neededAfter front operation = []
          ∧ ended context) ∧ scene.ResumesIn context (front ++ [operation]) rest := by
  constructor
  · rintro ⟨context, hended, hneeded, ⟨hdrawn, rfl⟩ | ⟨hnothing, hresumes⟩⟩
    · exact Or.inl ⟨hdrawn, hneeded, hended⟩
    · exact Or.inr ⟨context, ⟨hnothing, hneeded, hended⟩, hresumes⟩
  · rintro (⟨hdrawn, hneeded, hended⟩ | ⟨context, ⟨hnothing, hneeded, hended⟩, hresumes⟩)
    · exact ⟨operation.context, hended, hneeded, Or.inl ⟨hdrawn, rfl⟩⟩
    · exact ⟨context, hended, hneeded, Or.inr ⟨hnothing, hresumes⟩⟩

/-- Operations that come after some others, and the end of the frame. The
    induction carries the context that was just ended. -/
theorem restartsFrom_rest (hdraws : scene.renderers.DrawsOnly) {binding : TargetBinding}
    (hbinding : scene.resolution.targets.get? .swapchain = some binding) (ops : List FrameOp)
    (hbound : ∀ operation ∈ ops, ∀ surface ∈ operation.surfaces,
      ∃ binding, scene.resolution.targets.get? surface = some binding)
    (front : List FrameOp) (cursor : Cursor) (h : scene.At front cursor) (idle? : Option Context)
    (hidle : cursor.Ended idle?) :
    RestartsFrom cursor.current idle? (marksOf (attributed
        (ops.map (fun operation => (Origin.op operation, scene.recordOp operation))
          ++ [(.closing, scene.closeFrame)]) cursor))
      ↔ (∃ context, idle? = some context ∧ scene.ResumesIn context front ops)
        ∨ ∃ before operation back, ops = before ++ operation :: back ∧ ∃ context,
          (Step.all (before.map scene.recordOp) cursor).1.current = some context
          ∧ scene.dueAfter (front ++ before) operation ≠ []
          ∧ scene.ResumesIn context (front ++ before) (operation :: back) := by
  induction ops generalizing front cursor idle? with
  | nil =>
      have hclosing := scene.restartsFrom_closeFrame hdraws hbinding cursor idle? hidle
      have hcommands : attributed (([] : List FrameOp).map
          (fun operation => (Origin.op operation, scene.recordOp operation))
          ++ [(.closing, scene.closeFrame)]) cursor
          = Origin.closing.sends (scene.closeFrame cursor).2 := List.append_nil _
      rw [hcommands, hclosing]
      constructor
      · intro hended
        exact Or.inl ⟨_, hended, rfl⟩
      · rintro (⟨context, hended, hresumes⟩ | ⟨before, operation, back, hnone, _⟩)
        · rw [hended, hresumes]
        · exact absurd hnone.symm (List.append_ne_nil_of_right_ne_nil _ (List.cons_ne_nil _ _))
  | cons operation rest ih =>
      rw [List.forall_mem_cons] at hbound
      rcases scene.restartsFrom_recordOp hdraws h operation hbound.1 idle? hidle
        with ⟨later?, hlater, hended, hrecorded⟩
      have hrest := ih hbound.2 (front ++ [operation]) _ (h.recordOp operation) later? hlater
      have hcommands : attributed ((operation :: rest).map
          (fun operation => (Origin.op operation, scene.recordOp operation))
          ++ [(.closing, scene.closeFrame)]) cursor
          = (Origin.op operation).sends (scene.recordOp operation cursor).2
            ++ attributed (rest.map
              (fun operation => (Origin.op operation, scene.recordOp operation))
                ++ [(.closing, scene.closeFrame)]) (scene.recordOp operation cursor).1 := rfl
      -- A restart is of what was ended before or right here, or it is later.
      have hhere := scene.exists_resumesIn_cons_iff front operation rest fun context =>
        idle? = some context
          ∨ (scene.dueAfter front operation ≠ [] ∧ cursor.current = some context)
      simp only [← hended] at hhere
      rw [exists_split_cons_iff, hcommands, marksOf_append, hrecorded, hrest, ← or_assoc, ← hhere,
        ← or_assoc]
      refine or_congr ?_ ?_
      · have hnone : (Step.all (([] : List FrameOp).map scene.recordOp) cursor).1.current
            = cursor.current := rfl
        rw [List.append_nil, hnone]
        simp only [or_and_right, exists_or, and_assoc, and_left_comm]
      · simp only [List.append_assoc, List.singleton_append]
        rfl

/-- The start of a frame opens nothing and ends nothing. -/
theorem startFrame_outside (hazards : HazardMask) :
    (∀ command ∈ (scene.startFrame hazards (Cursor.start scene.resolution.states)).2,
        command.role = .outside)
      ∧ (scene.startFrame hazards (Cursor.start scene.resolution.states)).1.current = none := by
  have hhazards : (∀ command ∈ (emitHazards hazards (Cursor.start scene.resolution.states)).2,
        command.role = .outside)
      ∧ (emitHazards hazards (Cursor.start scene.resolution.states)).1.current = none := by
    unfold emitHazards
    split
    · exact ⟨List.forall_mem_nil _, rfl⟩
    · refine ⟨?_, rfl⟩
      intro command hcommand
      rw [List.mem_singleton.mp hcommand]
      rfl
  rcases scene.emitBarriers_outside scene.startBarriers
    (scene.markStarted (emitHazards hazards (Cursor.start scene.resolution.states)).1).1
    with ⟨hbarriers, _, hkept⟩
  refine ⟨?_, hkept.trans hhazards.2⟩
  simp only [startFrame, Step.all, Step.andThen, Step.emit, List.append_nil]
  exact List.forall_mem_append.mpr ⟨hhazards.1, hbarriers⟩

/-- A whole frame. -/
theorem restarts_stream_iff (hdraws : scene.renderers.DrawsOnly) {binding : TargetBinding}
    (hbinding : scene.resolution.targets.get? .swapchain = some binding) (hazards : HazardMask)
    (ops : List FrameOp)
    (hbound : ∀ operation ∈ ops, ∀ surface ∈ operation.surfaces,
      ∃ binding, scene.resolution.targets.get? surface = some binding) :
    Restarts (marksOf (scene.stream hazards ops))
      ↔ ∃ front operation back context, ops = front ++ operation :: back
        ∧ scene.openAfter hazards front = some context
        ∧ scene.dueAfter front operation ≠ []
        ∧ scene.ResumesIn context front (operation :: back) := by
  rcases scene.startFrame_outside hazards with ⟨houtside, hcurrent⟩
  have hrest := scene.restartsFrom_rest hdraws hbinding ops hbound [] _ (scene.at_start hazards)
    none (fun context hnone => absurd hnone.symm (Option.some_ne_none context))
  have hwhole : Restarts (marksOf (scene.stream hazards ops))
      ↔ RestartsFrom none none (marksOf (scene.stream hazards ops)) := by
    simp only [restartsFrom_iff, reduceCtorEq, false_and, exists_false, false_or]
  have hcommands : scene.stream hazards ops
      = Origin.start.sends (scene.startFrame hazards (Cursor.start scene.resolution.states)).2
        ++ attributed (ops.map (fun operation => (Origin.op operation, scene.recordOp operation))
          ++ [(.closing, scene.closeFrame)])
            (scene.startFrame hazards (Cursor.start scene.resolution.states)).1 := rfl
  rw [hcurrent] at hrest
  rw [hwhole, hcommands, marksOf_append, restartsFrom_outside .start _ houtside, ite_self, hrest]
  simp only [reduceCtorEq, false_and, exists_false, false_or, List.nil_append, exists_and_left]
  rfl

end Scene

/-- When a render pass is restarted for nothing, in a frame that resolves and
    begins: it is ended, and the next one is begun for an equal context with
    no barrier, blit or dispatch in between. This happens exactly if some
    operation finds a render pass open and planned barriers due before it,
    none of these is needed out of the states that the operations before
    leave, and the next thing recorded is drawn in the same context. What is
    needed depends on the states that were reported, and so on the frames
    before. -/
theorem record_restarts_iff (compiled : Compiled) (request : Request)
    (hdraws : request.renderers.DrawsOnly) (replies : Replies)
    (hreset : replies.reset = ResultCode.success) (hbegin : replies.begin = ResultCode.success)
    (pool : Pool) (device : Device) (ops : List FrameOp) (resolution : Resolution)
    (hresolved : (resolve pool compiled.resources ops).result = .ok resolution) :
    ∃ scene stream, scene = frameScene compiled request resolution
      ∧ stream = scene.stream request.hazards ops
      ∧ commandsOf (record compiled request replies pool device ops).events
        = [.reset, .begin request.usage request.label] ++ stream.map Prod.snd ++ [.finish]
      ∧ (Restarts (marksOf stream)
        ↔ ∃ front operation back context, ops = front ++ operation :: back
          ∧ scene.openAfter request.hazards front = some context
          ∧ scene.dueAfter front operation ≠ []
          ∧ scene.ResumesIn context front (operation :: back)) := by
  have hbound : ∀ surface ∈ neededSurfaces ops,
      ∃ binding, resolution.targets.get? surface = some binding :=
    resolve_bound pool compiled.resources ops resolution hresolved
  rcases hbound .swapchain (swapchain_mem_neededSurfaces ops) with ⟨binding, hbinding⟩
  refine ⟨_, _, rfl, rfl, ?_, ?_⟩
  · rw [commandsOf_record compiled request replies pool device ops resolution hresolved hreset
      hbegin, recordTrace_of_resolved compiled request pool ops resolution hresolved,
      Scene.trace_commands, Scene.map_snd_stream]
  · refine (frameScene compiled request resolution).restarts_stream_iff hdraws hbinding
      request.hazards ops ?_
    intro operation hoperation surface hsurface
    exact hbound surface (mem_neededSurfaces hoperation hsurface)

/-- A scene is drawn to the presented image, and an interface over it that
    reads a font. -/
def uiOverScene : List Pass := [
  ⟨0, "scene", .graphics,
    [Usage.attachment .colorAttachment "swapchain" LoadOp.clear StoreOp.store]⟩,
  ⟨1, "ui", .graphics, [Usage.plain .read .sampledImage "font",
    Usage.attachment .colorAttachment "swapchain" LoadOp.clear StoreOp.store]⟩]

/-- A clear of the presented image. -/
def presentedClear (pass : PassIndex) : FrameOp :=
  ⟨pass, ⟨1, .swapchain⟩, .clear ⟨true, false, false, ⟨0, 0, 0, 0⟩, 0, 0, ⟨0, 0, 640, 480⟩⟩⟩

/-- A pool in which the font is as a frame before left it. -/
def poolWithFont : Pool :=
  Pool.new ⟨fun _ => true, fun _ => 0,
    fun name => if name = "font" then ImageState.shaderReadFragment else ImageState.undefined,
    fun _ => BufferState.undefined, twoSurfaces⟩ 1000 2000

/-- The interface is drawn in the render pass of the scene, but that is ended
    for a barrier on the font, which is not needed. -/
theorem record_restarts_uiOverScene :
    ∃ scene stream, stream = Scene.stream scene 0 [presentedClear 0, presentedClear 1]
      ∧ commandsOf (record (Compiled.ofOrder uiOverScene) ⟨0, oneTimeSubmit, "", oneDraw⟩
          Replies.good poolWithFont Device.working [presentedClear 0, presentedClear 1]).events
        = [.reset, .begin oneTimeSubmit ""] ++ stream.map Prod.snd ++ [.finish]
      ∧ Restarts (marksOf stream) := by
  rcases record_restarts_iff (Compiled.ofOrder uiOverScene) ⟨0, oneTimeSubmit, "", oneDraw⟩
    drawsOnly_oneDraw Replies.good rfl rfl poolWithFont Device.working
    [presentedClear 0, presentedClear 1] _ rfl
    with ⟨scene, stream, hscene, hstream, hcommands, hiff⟩
  refine ⟨scene, stream, hstream, hcommands, ?_⟩
  rw [hiff, hscene]
  exact ⟨[presentedClear 0], presentedClear 1, [], ⟨1, .swapchain⟩, rfl, by decide +kernel,
    by decide +kernel, by decide +kernel, Or.inl ⟨rfl, rfl⟩⟩

/-- So a boundary ends the render pass also where no barrier is recorded. -/
theorem restarts_needlessly_uiOverScene :
    ¬ ∀ (passes : List Pass) (compiled : Compiled), compile passes = .ok compiled →
        ∀ (request : Request), request.renderers.DrawsOnly →
        ∀ (pool : Pool) (ops : List FrameOp) (resolution : Resolution),
          (resolve pool compiled.resources ops).result = .ok resolution →
          ¬ Restarts (marksOf
            ((frameScene compiled request resolution).stream request.hazards ops)) := by
  intro hall
  refine hall uiOverScene (Compiled.ofOrder uiOverScene) rfl ⟨0, oneTimeSubmit, "", oneDraw⟩
    drawsOnly_oneDraw poolWithFont [presentedClear 0, presentedClear 1] _ rfl ?_
  exact ⟨[.works], [], [.ends], ⟨1, .swapchain⟩, by decide +kernel, List.forall_mem_nil _⟩

end FrameGraph
