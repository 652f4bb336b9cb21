import FrameGraph.Proofs.Recorded

/-!
# Layouts Over a Run

Frames are recorded one after the other with one pool between them. Any of
them may fail, each may be of other passes, and what the owner of the pool
can provide may change from call to call. All that joins one frame to the
next is the state that the pool reports.

The layout an image is really in is nowhere in the pool: it is what the
barriers recorded so far lead to. `layouts_linked_over_run` says that the two
never part. It is an induction on the calls whose step is `record_linked` for
a call that succeeds, and for one that fails that no report changes.

A blit moves its images too, behind the back of all this. It brings them back
to where they were, which is part of `FrameCall.Recorded`.

## Main definitions

* `FrameCall`: A call that records a frame.
* `poolAfter`, `goodFrames`: The pool after some calls, and the calls that
  succeeded.
* `imagesOnFrames`: The planned barriers recorded on an image in some frames.
* `FrameCall.Recorded`: What a call that succeeded did.

## Theorems

* `run_linked`: The layouts of a run link up.
* `recorded_of_ok`: What a call that succeeded did.
* `layouts_linked_over_run`: Both, for every frame of a run.
-/

namespace FrameGraph

open Gpu

/-- A call that records a frame of passes that compiled, with what the owner
    of the pool can provide at the time. -/
structure FrameCall where
  compiled : Compiled
  compiles : ∃ passes, compile passes = .ok compiled
  request : Request
  replies : Replies
  device : Device
  ops : List FrameOp
  provides : String → Bool
  target? : Surface → Option TargetBinding

namespace FrameCall

variable (call : FrameCall) (pool : Pool)

/-- The pool as the call finds it. -/
def offered : Pool := pool.offering call.provides call.target?

/-- What came of the call. -/
def recording : Recording :=
  record call.compiled call.request call.replies (call.offered pool) call.device call.ops

/-- What the call recorded part by part, if the frame resolved. -/
def trace : List Stretch :=
  recordTrace call.compiled call.request (call.offered pool) call.ops

theorem typed : call.compiled.Typed := by
  rcases call.compiles with ⟨passes, hcompile⟩
  exact compile_typed passes call.compiled hcompile

end FrameCall

/-- The pool after some calls, one after the other. -/
def poolAfter : List FrameCall → Pool → Pool
  | [], pool => pool
  | call :: rest, pool => poolAfter rest (call.recording pool).pool

/-- The calls that succeeded, each with the pool it was made with. -/
def goodFrames : List FrameCall → Pool → List (FrameCall × Pool)
  | [], _ => []
  | call :: rest, pool =>
    let later := goodFrames rest (call.recording pool).pool
    match (call.recording pool).result with
    | .ok _ => (call, pool) :: later
    | .error _ => later

/-- The planned barriers recorded on an image in some frames, in order. -/
def imagesOnFrames (name : String) (frames : List (FrameCall × Pool)) : List ImageBarrier :=
  frames.flatMap fun frame => imagesOn name (frame.1.trace frame.2)

/-- What a call did that succeeded with a pool. The stream holds the frame
    part by part. Where planned barriers come due, the barriers of the stream
    are these and no others, each on what was made for its resource. A blit
    brings both of its images from where they are to their transfer layouts and
    back, and nothing else records image barriers unless the renderers do. And
    one state is handed back for each image, in the layout recorded last in the
    frame, or else in the one that was reported. -/
structure FrameCall.Recorded (call : FrameCall) (pool : Pool) : Prop where
  stream : commandsOf (call.recording pool).events
    = [.reset, .begin call.request.usage call.request.label]
      ++ (call.trace pool).flatMap Stretch.commands ++ [.finish]
  planned : ∀ stretch ∈ call.trace pool, stretch.part.isBoundary = true →
    imageBarriersOf stretch.commands = Transition.imagesOf stretch.transitions
  backed : ∀ stretch ∈ call.trace pool, ∀ transition ∈ stretch.transitions,
    (resolve (call.offered pool) call.compiled.resources call.ops).pool.made?
        transition.planned.isImage transition.planned.resource = some transition.backing
      ∧ transition.imageBarrier.Leads transition.backing.handle transition.previous.layout
        transition.planned.next.layout
  unplanned : ∀ stretch ∈ call.trace pool, stretch.part.isBoundary = false →
    stretch.transitions = []
  blits : ∀ stretch ∈ call.trace pool, ∀ operation blit, stretch.part = .working operation →
    operation.work = .blit blit →
    ∃ source destination, call.target? blit.source = some source
      ∧ call.target? blit.destination = some destination
      ∧ ∃ closing copying, stretch.commands = closing ++ copying ∧ imageBarriersOf closing = []
        ∧ ∃ sourceTo destinationTo sourceBack destinationBack,
          Copies blit source destination copying sourceTo destinationTo sourceBack
            destinationBack
  elsewhere : call.request.renderers.DrawsOnly → ∀ stretch ∈ call.trace pool,
    stretch.part.isBoundary = false →
    (∀ operation blit, stretch.part = .working operation → operation.work ≠ .blit blit) →
    imageBarriersOf stretch.commands = []
  committed : ∀ group ∈ call.compiled.resources.groups, group.isImage = true →
    ∃ state, state.layout = layoutAfter (pool.layout group.name)
          (imagesOn group.name (call.trace pool))
      ∧ ∀ other, Event.pool (.commit group other) ∈ (call.recording pool).events
        ↔ other = state

/-- The parts of a frame that work on an operation are those of the frame. -/
theorem mem_of_working {ops : List FrameOp} {operation : FrameOp}
    (h : Part.working operation ∈ Part.start :: Part.ofOps ops ++ [Part.closing]) :
    operation ∈ ops := by
  simp only [Part.ofOps, List.cons_append, List.mem_cons, reduceCtorEq, List.mem_append,
    List.mem_flatMap, Part.working.injEq, List.not_mem_nil, or_false, false_or] at h
  rcases h with ⟨other, hother, rfl⟩
  exact hother

/-- A surface that a recorded operation needs was bound, to what the owner of
    the pool had for it. -/
theorem bound_of_working (pool : Pool) (resources : Registry) (ops : List FrameOp)
    (resolution : Resolution) (hresolved : (resolve pool resources ops).result = .ok resolution)
    {operation : FrameOp}
    (hpart : Part.working operation ∈ Part.start :: Part.ofOps ops ++ [Part.closing])
    {surface : Surface} (hsurface : surface ∈ operation.surfaces) :
    ∃ binding, resolution.targets.get? surface = some binding
      ∧ pool.supply.target? surface = some binding := by
  have hneeded := mem_neededSurfaces (mem_of_working hpart) hsurface
  rcases resolve_bound pool resources ops resolution hresolved surface hneeded
    with ⟨binding, hbinding⟩
  exact ⟨binding, hbinding,
    resolve_target pool resources ops resolution hresolved surface binding hbinding⟩

/-- What a call that succeeded did. -/
theorem recorded_of_ok (call : FrameCall) (pool : Pool) (stats : Stats)
    (h : (call.recording pool).result = .ok stats) : call.Recorded pool := by
  rcases record_ok _ _ _ _ _ _ stats h with ⟨resolution, finals, hresolved, _, hevents, _⟩
  have htrace : call.trace pool
      = (frameScene call.compiled call.request resolution).trace call.request.hazards call.ops :=
    recordTrace_of_resolved _ _ _ _ resolution hresolved
  constructor
  · have hcalls : commandsOf ((resolve (call.offered pool) call.compiled.resources
        call.ops).calls.map Event.pool) = [] := commandsOf_pool id _
    have hcommits : commandsOf (finals.map fun final => Event.pool (.commit final.1 final.2)) = [] :=
      commandsOf_pool (fun final : ResourceGroup × ResourceState => .commit final.1 final.2) finals
    unfold FrameCall.recording
    rw [hevents, commandsOf_append, commandsOf_append, commandsOf_command, hcalls, hcommits,
      List.append_nil, List.nil_append]
    rfl
  · exact fun stretch hstretch => (recordTrace_barriers _ _ _ _ stretch hstretch).1
  · intro stretch hstretch transition htransition
    exact ⟨made_of_mem_trace call.compiled call.typed _ _ _ transition
      (List.mem_flatMap.mpr ⟨stretch, hstretch, htransition⟩),
      transition.moves_imageBarrier.toLeads⟩
  · exact fun stretch hstretch => (recordTrace_barriers _ _ _ _ stretch hstretch).2
  · intro stretch hstretch operation blit hpart hwork
    rw [htrace] at hstretch
    -- The operation is one of the frame, so both of its surfaces were bound.
    have hmem := (Scene.commands_of_mem_play _ _ _ _ stretch hstretch).1
    rw [hpart] at hmem
    have hsurfaces : operation.surfaces = [blit.source, blit.destination] := by
      unfold FrameOp.surfaces
      rw [hwork]
    have hneeded : blit.source ∈ operation.surfaces ∧ blit.destination ∈ operation.surfaces := by
      rw [hsurfaces]
      exact ⟨List.mem_cons_self, List.mem_cons_of_mem _ List.mem_cons_self⟩
    rcases bound_of_working _ _ _ resolution hresolved hmem hneeded.1
      with ⟨source, hsource, hofferedSource⟩
    rcases bound_of_working _ _ _ resolution hresolved hmem hneeded.2
      with ⟨destination, hdestination, hofferedDestination⟩
    exact ⟨source, destination, hofferedSource, hofferedDestination,
      Scene.trace_blit _ _ _ stretch hstretch operation hpart blit hwork source destination
        hsource hdestination⟩
  · intro hdraws stretch hstretch hboundary hblit
    rw [htrace] at hstretch
    exact (Scene.trace_elsewhere _ hdraws _ _ stretch hstretch hboundary hblit).1
  · intro group hgroup himage
    exact record_committed _ call.typed _ _ _ _ _ stats h group hgroup himage

/-- The layouts of a run link up from the one reported at its beginning, and
    the one they lead to is reported at its end. -/
theorem run_linked (calls : List FrameCall) (pool : Pool) (name : String) :
    Chained (pool.layout name) (imagesOnFrames name (goodFrames calls pool))
      ∧ (poolAfter calls pool).layout name
        = layoutAfter (pool.layout name) (imagesOnFrames name (goodFrames calls pool)) := by
  -- What links one call to the rest is the pool it leaves, so the induction
  -- is over all pools.
  induction calls generalizing pool with
  | nil => exact ⟨trivial, rfl⟩
  | cons call rest ih =>
      have hrest := ih (call.recording pool).pool
      simp only [goodFrames, poolAfter]
      cases hresult : (call.recording pool).result with
      | ok stats =>
          -- The frame goes on from what was reported, and the rest from what it left.
          rcases record_linked _ call.typed _ _ _ _ _ stats hresult name with ⟨hchained, hlayout⟩
          have hcall : (call.recording pool).pool.layout name
              = layoutAfter (pool.layout name) (imagesOn name (call.trace pool)) := hlayout
          rw [hcall] at hrest
          simp only [imagesOnFrames, List.flatMap_cons, chained_append_iff, layoutAfter_append]
          exact ⟨⟨hchained, hrest.1⟩, hrest.2⟩
      | error error =>
          have hcall : (call.recording pool).pool.layout name = pool.layout name :=
            congrArg ResourceState.layout
              (reported_record_of_error _ _ _ _ _ _ error hresult true name)
          rw [hcall] at hrest
          exact hrest

/-- A frame of a run was recorded by a call that succeeded, with the pool
    that the calls before it had left. -/
theorem mem_goodFrames (calls : List FrameCall) (pool : Pool)
    (front : List (FrameCall × Pool)) (frame : FrameCall × Pool) (back : List (FrameCall × Pool))
    (h : goodFrames calls pool = front ++ frame :: back) :
    ∃ before after, calls = before ++ frame.1 :: after ∧ goodFrames before pool = front
      ∧ frame.2 = poolAfter before pool
      ∧ ∃ stats, (frame.1.recording frame.2).result = .ok stats := by
  -- A call that fails makes no frame, so only the calls before grow by it.
  induction calls generalizing pool front with
  | nil => exact absurd h (by simp only [goodFrames, List.nil_eq, List.append_eq_nil_iff,
      reduceCtorEq, and_false, not_false_eq_true])
  | cons call rest ih =>
      simp only [goodFrames] at h
      cases hresult : (call.recording pool).result with
      | ok stats =>
          rw [hresult] at h
          simp only at h
          cases front with
          | nil =>
              rw [List.nil_append, List.cons.injEq] at h
              rcases h with ⟨rfl, _⟩
              exact ⟨[], rest, rfl, rfl, rfl, stats, hresult⟩
          | cons first others =>
              rw [List.cons_append, List.cons.injEq] at h
              rcases h with ⟨rfl, hlater⟩
              rcases ih _ others hlater with ⟨before, after, hcalls, hgood, hpool, hok⟩
              refine ⟨call :: before, after, by rw [hcalls]; rfl, ?_, hpool, hok⟩
              simp only [goodFrames, hresult, hgood]
      | error error =>
          rw [hresult] at h
          rcases ih _ front h with ⟨before, after, hcalls, hgood, hpool, hok⟩
          refine ⟨call :: before, after, by rw [hcalls]; rfl, ?_, hpool, hok⟩
          simp only [goodFrames, hresult, hgood]

/-- Layouts over a run. Whatever is recorded with one pool, in whatever order
    the operations come, and whichever calls fail: the planned barriers that
    the good frames recorded on an image link up, the first from the layout
    that was reported at the beginning and each other from where the one
    before it led, in this frame or in an earlier one. What the pool reports
    to a frame is where the frames before it led, and each frame was recorded
    and handed back as `FrameCall.Recorded` says. -/
theorem layouts_linked_over_run (calls : List FrameCall) (pool : Pool) (name : String) :
    Chained (pool.layout name) (imagesOnFrames name (goodFrames calls pool))
      ∧ (poolAfter calls pool).layout name
        = layoutAfter (pool.layout name) (imagesOnFrames name (goodFrames calls pool))
      ∧ ∀ front call found back, goodFrames calls pool = front ++ (call, found) :: back →
        found.layout name = layoutAfter (pool.layout name) (imagesOnFrames name front)
          ∧ call.Recorded found := by
  rcases run_linked calls pool name with ⟨hchained, hlayout⟩
  refine ⟨hchained, hlayout, ?_⟩
  intro front call found back hsplit
  rcases mem_goodFrames calls pool front (call, found) back hsplit
    with ⟨before, _, _, hgood, hfound, stats, hok⟩
  refine ⟨?_, recorded_of_ok call found stats hok⟩
  have hbefore := (run_linked before pool name).2
  simp only at hfound
  rw [hfound, hbefore, hgood]

/-- A frame of an image that is drawn and then sampled. -/
def drawnFrame (replies : Replies) (ops : List FrameOp) : FrameCall where
  compiled := Compiled.ofOrder drawnThenSampled
  compiles := ⟨drawnThenSampled, rfl⟩
  request := ⟨0, oneTimeSubmit, "frame", oneDraw⟩
  replies := replies
  device := Device.working
  ops := ops
  provides := fun _ => true
  target? := twoSurfaces

/-- The first frame is good, the stream of the second does not end, and in
    the third nothing is drawn before the image is sampled. -/
def drawnOverRun : List FrameCall :=
  [drawnFrame Replies.good mixedOps,
    drawnFrame ⟨ResultCode.success, ResultCode.success, ResultCode.deviceLost⟩ mixedOps,
    drawnFrame Replies.good (mixedOps.drop 6)]

/-- The third frame goes on from where the first one led. -/
theorem layouts_linked_drawnOverRun :
    Chained Layout.undefined (imagesOnFrames "color" (goodFrames drawnOverRun poolOfTwo))
      ∧ (imagesOnFrames "color" (goodFrames drawnOverRun poolOfTwo)).map ImageBarrier.newLayout
        = [Layout.colorAttachment, Layout.shaderReadOnly, Layout.colorAttachment]
      ∧ (poolAfter drawnOverRun poolOfTwo).layout "color" = Layout.colorAttachment := by
  have hlinked := layouts_linked_over_run drawnOverRun poolOfTwo "color"
  have hstart : poolOfTwo.layout "color" = Layout.undefined := rfl
  have hnew : (imagesOnFrames "color" (goodFrames drawnOverRun poolOfTwo)).map
      ImageBarrier.newLayout
      = [Layout.colorAttachment, Layout.shaderReadOnly, Layout.colorAttachment] := by
    decide +kernel
  rw [hstart] at hlinked
  refine And.imp_right ?_ hlinked
  rintro ⟨hlayout, _⟩
  refine ⟨hnew, ?_⟩
  rw [hlayout, layoutAfter_eq, hnew]
  rfl

end FrameGraph
