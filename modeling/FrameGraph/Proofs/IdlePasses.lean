import FrameGraph.Proofs.Realised

/-!
# Frames With Idle Passes

A plan is made for all passes, and a frame may leave some without an
operation. The barriers of an idle pass are not recorded, and a barrier that
comes later starts from the layout the image is really in. So the layouts
that are recorded are true ones, but whether an image is in the layout that a
pass asks for is another matter.

The planner gives a reader that agrees with the ones before it no barrier of
its own. It relies on the barrier of another pass, the opener, and if that
pass is idle the barrier is missing. `layout_before_work` says what layout an
image is in when the work of an operation begins: the one that the last
barrier that is due leads to, or else the one reported. This is the layout
asked for as soon as the opener is due. `layout_wrong_idleReader` is a frame
in which the opener is idle and the layout is wrong.

## Main definitions

* `Planning.callsOf`: The barriers that a pass gets on a resource.
* `Compiled.openers`: The barriers planned on a resource up to a pass.

## Theorems

* `Planning.callsAlong_append`: The plan of one resource in two parts.
* `Planning.mem_callsAlong_iff`, `compile_mem_barriers_iff`: What the passes get
  one by one.
* `Planning.last_callsAlong`: The last barrier leads to the layout known.
* `Planning.last_callsAlong_of_demand`: That is the one asked for last.
* `compile_openers`: The barrier that a use relies on.
* `due_openers`: Nothing is due that stands after the pass reached.
* `trace_before_work`: What is recorded before the work of an operation.
* `layout_before_work`: The layout of an image before the work on it.
-/

namespace FrameGraph

open Gpu

namespace Planning

variable (planning : Planning)

/-- The plan of one resource in two parts. -/
theorem callsAlong_append (resource : String) (first second : List Pass) :
    planning.callsAlong resource (first ++ second) none
      = planning.callsAlong resource first none
        ++ planning.callsAlong resource second (planning.trackOf resource first) := by
  have hwhole := planning.filter_usePasses (first ++ second) [] resource
  rw [planning.usePasses_append, List.filter_append, planning.filter_usePasses,
    planning.filter_usePasses] at hwhole
  exact hwhole.symm

/-- The barriers that a pass gets on a resource, after some passes. -/
def callsOf (resource : String) (before : List Pass) (pass : Pass) : List PlannedBarrier :=
  match planning.demand? pass resource with
  | none => []
  | some demand => planning.callsFor pass resource demand (planning.trackOf resource before)

theorem mem_callsOf_iff (resource : String) (before : List Pass) (pass : Pass)
    (planned : PlannedBarrier) :
    planned ∈ planning.callsOf resource before pass
      ↔ ∃ demand, planning.demand? pass resource = some demand
        ∧ planned ∈ planning.callsFor pass resource demand (planning.trackOf resource before) := by
  unfold callsOf
  cases planning.demand? pass resource with
  | none => simp only [List.not_mem_nil, reduceCtorEq, false_and, exists_false]
  | some demand => simp only [Option.some.injEq, exists_eq_left']

/-- The plan of one resource, from the next pass on. -/
theorem callsAlong_cons (resource : String) (before : List Pass) (pass : Pass)
    (rest : List Pass) :
    planning.callsAlong resource (pass :: rest) (planning.trackOf resource before)
      = planning.callsOf resource before pass
        ++ planning.callsAlong resource rest (planning.trackOf resource (before ++ [pass])) := by
  rw [callsAlong, callsOf, planning.trackOf_append]
  cases planning.demand? pass resource with
  | none => rfl
  | some demand => rfl

/-- The plan of one resource holds what each pass gets, and nothing else. -/
theorem mem_callsAlong_iff (resource : String) (before passes : List Pass)
    (planned : PlannedBarrier) :
    planned ∈ planning.callsAlong resource passes (planning.trackOf resource before)
      ↔ ∃ front pass back, passes = front ++ pass :: back
        ∧ planned ∈ planning.callsOf resource (before ++ front) pass := by
  induction passes generalizing before with
  | nil =>
      refine iff_of_false List.not_mem_nil ?_
      rintro ⟨front, pass, back, hsplit, _⟩
      exact absurd hsplit.symm (List.append_ne_nil_of_right_ne_nil _ (List.cons_ne_nil _ _))
  | cons next rest ih =>
      rw [callsAlong_cons, List.mem_append, ih]
      constructor
      · rintro (hhere | ⟨front, pass, back, rfl, hlater⟩)
        · exact ⟨[], next, rest, rfl, by rwa [List.append_nil]⟩
        · exact ⟨next :: front, pass, back, rfl, by rwa [List.append_assoc] at hlater⟩
      · rintro ⟨front, pass, back, hsplit, hplanned⟩
        cases front with
        | nil =>
            rw [List.nil_append, List.cons.injEq] at hsplit
            rw [List.append_nil, ← hsplit.1] at hplanned
            exact Or.inl hplanned
        | cons first front =>
            rw [List.cons_append, List.cons.injEq] at hsplit
            rw [← hsplit.1] at hplanned
            exact Or.inr ⟨front, pass, back, hsplit.2, by rwa [List.append_assoc]⟩

/-- Nothing is planned for what is not used, and otherwise the last barrier
    leads to the layout that is known. -/
theorem last_callsAlong (resource : String) (passes : List Pass) :
    (planning.trackOf resource passes = none
        ∧ planning.callsAlong resource passes none = [])
      ∨ ∃ track front last, planning.trackOf resource passes = some track
        ∧ planning.callsAlong resource passes none = front ++ [last]
        ∧ last.next.layout = track.state.layout := by
  -- The last pass either adds a barrier or is a reader like those before it,
  -- so the induction goes from the end.
  induction passes using List.reverseRecOn with
  | nil => exact Or.inl ⟨rfl, rfl⟩
  | append_singleton passes pass ih =>
      rw [planning.callsAlong_append, planning.trackOf_append]
      simp only [callsAlong]
      cases hdemand : planning.demand? pass resource with
      | none =>
          rw [List.append_nil]
          exact ih
      | some demand =>
          right
          simp only [List.append_nil]
          rcases ih with ⟨htrack, hcalls⟩ | ⟨track, front, last, htrack, hcalls, hlayout⟩
          · -- The first use: its entry is the only barrier.
            rw [htrack, hcalls]
            exact ⟨_, [], _, rfl, rfl, rfl⟩
          · rw [htrack, hcalls]
            have hafter := track.after_layout demand (planning.batchOf pass.index)
            simp only [callsFor, follow]
            cases hneeds : track.needsBarrier demand (planning.batchOf pass.index) with
            | true => exact ⟨_, front ++ [last], _, rfl, rfl, hafter.symm⟩
            | false =>
                have hsame := Track.layout_of_not_needsBarrier hneeds
                refine ⟨_, front, last, rfl, ?_, ?_⟩
                · rw [if_neg Bool.false_ne_true, List.append_nil]
                · rw [hafter, hlayout, hsame]

end Planning

namespace Compiled

variable (compiled : Compiled)

/-- The barriers planned on a resource up to a pass. The last of them is the
    one that a use of the resource in this pass relies on. -/
def openers (resource : String) (pass : Pass) : List PlannedBarrier :=
  (compiled.plan.barriers.filter fun planned => planned.resource = resource).filter
    fun planned => compiled.turn planned.boundary ≤ compiled.turn pass.index

end Compiled

/-- Once a pass is planned that uses a resource, the last barrier on it leads
    to the layout that this pass asks for. -/
theorem Planning.last_callsAlong_of_demand (planning : Planning) (resource : String)
    (before : List Pass) (pass : Pass) (demand : Demand)
    (hdemand : planning.demand? pass resource = some demand) :
    ∃ track front opener, planning.trackOf resource (before ++ [pass]) = some track
      ∧ planning.callsAlong resource (before ++ [pass]) none = front ++ [opener]
      ∧ opener.next.layout = demand.state.layout := by
  have htrack := planning.trackOf_append resource before pass
  rw [hdemand] at htrack
  rcases planning.last_callsAlong resource (before ++ [pass])
    with ⟨hnone, _⟩ | ⟨track, front, opener, hknown, hcalls, hlayout⟩
  · rw [hnone] at htrack
    exact absurd htrack.symm (Option.some_ne_none _)
  · refine ⟨track, front, opener, hknown, hcalls, hlayout.trans ?_⟩
    rw [hknown, Option.some.injEq] at htrack
    rw [htrack]
    cases planning.trackOf resource before with
    | none => rfl
    | some earlier => exact earlier.after_layout demand _

/-- A barrier is planned for one pass of the order. -/
theorem compile_mem_barriers_iff (passes : List Pass) (compiled : Compiled)
    (h : compile passes = .ok compiled) (planned : PlannedBarrier) :
    planned ∈ compiled.plan.barriers
      ↔ ∃ before pass after, compiled.order = before ++ pass :: after
        ∧ planned ∈ compiled.planning.callsOf planned.resource before pass := by
  have hfilter : planned ∈ compiled.plan.barriers
      ↔ planned ∈ compiled.plan.barriers.filter
        (fun other => other.resource = planned.resource) := by
    rw [List.mem_filter, decide_eq_true_eq]
    exact (and_iff_left rfl).symm
  rw [hfilter, compile_plan passes compiled h, compiled.planning.filter_usePasses]
  exact compiled.planning.mem_callsAlong_iff planned.resource [] compiled.order planned

/-- The plan of a resource is what stands up to a pass that uses it, the last
    of which leads to the layout that is asked for, and then what stands
    after the pass. -/
theorem compile_openers (passes : List Pass) (compiled : Compiled)
    (h : compile passes = .ok compiled) (hunreserved : compiled.Unreserved) (pass : Pass)
    (hpass : pass ∈ compiled.order) (resource : String) (demand : Demand)
    (hdemand : compiled.demand? pass resource = some demand) :
    ∃ front opener later, compiled.openers resource pass = front ++ [opener]
      ∧ opener.next.layout = demand.state.layout
      ∧ compiled.plan.barriers.filter (fun planned => planned.resource = resource)
        = compiled.openers resource pass ++ later
      ∧ ∀ planned ∈ later, planned.entry = false
        ∧ compiled.turn pass.index < compiled.turn planned.boundary := by
  rcases List.append_of_mem hpass with ⟨before, after, horder⟩
  have hsplit : compiled.order = (before ++ [pass]) ++ after := by
    rw [horder, List.append_assoc]
    rfl
  have hturns := compile_turn_lt passes compiled h hunreserved
  rw [hsplit, List.pairwise_append] at hturns
  rcases hturns with ⟨hfront, _, hacross⟩
  rcases compiled.planning.last_callsAlong_of_demand resource before pass demand hdemand
    with ⟨track, front, opener, hknown, hcalls, hlayout⟩
  -- The plan, walked up to the pass and from there on.
  have hplan : compiled.plan.barriers.filter (fun planned => planned.resource = resource)
      = compiled.planning.callsAlong resource (before ++ [pass]) none
        ++ compiled.planning.callsAlong resource after (some track) := by
    rw [compile_plan passes compiled h, compiled.planning.filter_usePasses, ← hknown,
      ← compiled.planning.callsAlong_append, ← hsplit]
    rfl
  have hearlier : ∀ planned ∈ compiled.planning.callsAlong resource (before ++ [pass]) none,
      compiled.turn planned.boundary ≤ compiled.turn pass.index := by
    intro planned hplanned
    refine compiled.planning.turn_callsAlong_le compiled.turn compiled.turn_frameStart ?_ hplanned
    intro user huser
    rcases List.mem_append.mp huser with hbefore | hlast
    · have hlt := (List.pairwise_append.mp hfront).2.2 user hbefore pass
        (List.mem_singleton_self pass)
      omega
    · rw [List.mem_singleton.mp hlast]
  have hlater : ∀ planned ∈ compiled.planning.callsAlong resource after (some track),
      planned.entry = false ∧ compiled.turn pass.index < compiled.turn planned.boundary := by
    intro planned hplanned
    rcases compiled.planning.mem_callsAlong hplanned with ⟨_, hnone, _⟩
      | ⟨hentry, user, huser, hboundary⟩
    · exact absurd hnone (Option.some_ne_none track)
    · rw [hboundary]
      exact ⟨hentry, hacross pass (List.mem_append_right _ (List.mem_singleton_self pass))
        user huser⟩
  -- So the turn of the pass tells the two apart.
  have hopeners : compiled.openers resource pass
      = compiled.planning.callsAlong resource (before ++ [pass]) none := by
    unfold Compiled.openers
    rw [hplan, List.filter_append, List.filter_eq_self.mpr, List.filter_eq_nil_iff.mpr,
      List.append_nil]
    · intro planned hplanned
      have hlt := (hlater planned hplanned).2
      rw [decide_eq_true_eq]
      omega
    · intro planned hplanned
      exact decide_eq_true (hearlier planned hplanned)
  refine ⟨front, opener, _, hopeners.trans hcalls, hlayout, ?_, hlater⟩
  rw [hopeners]
  exact hplan

/-- When the work of an operation begins, what is due on a resource of its
    pass stands up to this pass. -/
theorem due_openers (passes : List Pass) (compiled : Compiled)
    (h : compile passes = .ok compiled) (hunreserved : compiled.Unreserved) (scene : Scene)
    (front : List FrameOp) (operation : FrameOp)
    (hinOrder : compiled.InOrder (front ++ [operation])) (pass : Pass)
    (hpass : pass ∈ compiled.order) (hindex : operation.pass = pass.index) (resource : String)
    (demand : Demand) (hdemand : compiled.demand? pass resource = some demand) :
    (compiled.plan.barriers.filter fun planned => planned.resource = resource).filter
        (scene.isDue (front ++ [operation]))
      = (compiled.openers resource pass).filter (scene.isDue (front ++ [operation])) := by
  rcases compile_openers passes compiled h hunreserved pass hpass resource demand hdemand
    with ⟨_, _, later, _, _, hplan, hlater⟩
  have hnone : later.filter (scene.isDue (front ++ [operation])) = [] := by
    rw [List.filter_eq_nil_iff]
    intro planned hplanned hdue
    rcases hlater planned hplanned with ⟨hentry, hlt⟩
    unfold Scene.isDue at hdue
    rw [hentry, Bool.and_false, Bool.false_or, decide_eq_true_eq] at hdue
    -- A later boundary would have been reached by an operation of a later pass.
    rcases List.mem_cons.mp hdue with hstart | hreached
    · rw [hstart, compiled.turn_frameStart] at hlt
      omega
    · rcases (mem_dealtPasses_iff _ _).mp hreached with ⟨⟨other, hother, hsame⟩, hne⟩
      have hle := hinOrder.rank_le_last other hother
      rw [compiled.turn_of_ne hne, compiled.turn_of_ne (hunreserved pass hpass)] at hlt
      rw [hsame, hindex] at hle
      omega
  rw [hplan, List.filter_append, hnone, List.append_nil]

/-- What is recorded before the work of an operation: the barriers that have
    come due once its pass is entered, settled. -/
theorem trace_before_work (compiled : Compiled) (request : Request) (pool : Pool)
    (front : List FrameOp) (operation : FrameOp) (back : List FrameOp) (resolution : Resolution)
    (hresolved : (resolve pool compiled.resources (front ++ operation :: back)).result
      = .ok resolution) :
    ∃ stretches work rest,
      recordTrace compiled request pool (front ++ operation :: back) = stretches ++ work :: rest
      ∧ stretches.map Stretch.part = .start :: Part.ofOps front ++ [.entering operation.pass]
      ∧ work.part = .working operation
      ∧ stretches.flatMap Stretch.transitions
        = (settle resolution.backings
            ((frameScene compiled request resolution).dealt (front ++ [operation]))
            resolution.states).2 := by
  -- The parts are cut right before the work of the operation.
  have hparts : Part.start :: Part.ofOps (front ++ operation :: back) ++ [Part.closing]
      = (Part.start :: Part.ofOps front ++ [Part.entering operation.pass])
        ++ .working operation :: (Part.ofOps back ++ [.closing]) := by
    simp only [Part.ofOps, List.flatMap_append, List.flatMap_cons, List.cons_append,
      List.nil_append, List.append_assoc]
  rw [recordTrace_of_resolved compiled request pool _ resolution hresolved]
  unfold Scene.trace
  rw [hparts, Scene.play_append]
  exact ⟨_, _, _, rfl, Scene.parts_play _ _ _ _, rfl,
    ((frameScene compiled request resolution).play_entering request.hazards front operation).2⟩

/-- The layout of an image before the work on it. Let the operations stand in
    the order of their passes, any of which may be idle, and no pass carry
    the reserved index. The planned barriers of the frame are recorded where a
    pass is entered, and there is no other image barrier there. When the work of
    an operation begins, an image that its pass uses is in the layout that the
    last barrier that is due on it leads to, or in the one that was reported if
    none is. It is in the layout that the pass asks for whenever the last barrier
    planned up to the pass is due, that is, if the pass of this barrier has an
    operation too or the barrier is due at the start of the frame. -/
theorem layout_before_work (passes : List Pass) (compiled : Compiled)
    (h : compile passes = .ok compiled) (hreserved : ∀ pass ∈ passes, pass.index ≠ frameStart)
    (request : Request) (replies : Replies) (hreset : replies.reset = ResultCode.success)
    (hbegin : replies.begin = ResultCode.success) (pool : Pool) (device : Device)
    (front : List FrameOp) (operation : FrameOp) (back : List FrameOp)
    (hinOrder : compiled.InOrder (front ++ operation :: back)) (resolution : Resolution)
    (hresolved : (resolve pool compiled.resources (front ++ operation :: back)).result
      = .ok resolution)
    (pass : Pass) (hpass : pass ∈ passes) (hindex : operation.pass = pass.index)
    (resource : String) (himage : compiled.planning.isImage resource = true) (demand : Demand)
    (hdemand : compiled.demand? pass resource = some demand) :
    ∃ stretches work rest layout,
      recordTrace compiled request pool (front ++ operation :: back) = stretches ++ work :: rest
      ∧ commandsOf (record compiled request replies pool device
          (front ++ operation :: back)).events
        = [.reset, .begin request.usage request.label]
          ++ (stretches ++ work :: rest).flatMap Stretch.commands ++ [.finish]
      ∧ (∀ stretch ∈ stretches ++ work :: rest,
        (stretch.part.isBoundary = true →
          imageBarriersOf stretch.commands = Transition.imagesOf stretch.transitions)
        ∧ (stretch.part.isBoundary = false → stretch.transitions = []))
      ∧ stretches.map Stretch.part = .start :: Part.ofOps front ++ [.entering operation.pass]
      ∧ work.part = .working operation
      ∧ layout = layoutAfter (pool.layout resource) (imagesOn resource stretches)
      ∧ layout = ((((compiled.openers resource pass).filter
          ((frameScene compiled request resolution).isDue (front ++ [operation]))).getLast?).map
            fun planned => planned.next.layout).getD (pool.layout resource)
      ∧ ∃ opener, (compiled.openers resource pass).getLast? = some opener
        ∧ opener.next.layout = demand.state.layout
        ∧ ((frameScene compiled request resolution).isDue (front ++ [operation]) opener = true →
          layout = demand.state.layout) := by
  have hunreserved := compile_unreserved passes compiled h hreserved
  have hordered : pass ∈ compiled.order :=
    (compile_order_perm passes compiled h).mem_iff.mpr hpass
  have hreached : compiled.InOrder (front ++ [operation]) := by
    have hwhole : compiled.InOrder ((front ++ [operation]) ++ back) := by
      rw [List.append_assoc]
      exact hinOrder
    exact hwhole.front
  rcases trace_before_work compiled request pool front operation back resolution hresolved
    with ⟨stretches, work, rest, htrace, hparts, hwork, hrecorded⟩
  have hcommands := commandsOf_record compiled request replies pool device _ resolution hresolved
    hreset hbegin
  rw [htrace] at hcommands
  have hbarriers := recordTrace_barriers compiled request pool
    (front ++ operation :: back)
  rw [htrace] at hbarriers
  -- The image has a group.
  rcases compiled.resources.exists_group himage with ⟨group, hgroup, hname, hkind⟩
  rcases settle_linked compiled (compile_typed passes compiled h) pool _ resolution hresolved group
    hgroup hkind ((frameScene compiled request resolution).dealt (front ++ [operation]))
    (fun planned hplanned => Scene.mem_plan_of_mem_dealt _ _ hplanned)
    with ⟨state, recorded, _, himages, _, hlayout, hlast⟩
  rw [hname] at himages hlayout hlast
  -- The last barrier that came due is the last one planned up to the pass
  -- that did.
  rw [dealt_resource passes compiled h hunreserved _ rfl _ hreached,
    due_openers passes compiled h hunreserved _ front operation hreached pass hordered hindex
      resource demand hdemand] at hlast
  have hbefore : imagesOn resource stretches = recorded := by
    unfold imagesOn
    rw [hrecorded, himages]
  refine ⟨stretches, work, rest, state.layout, htrace, hcommands, hbarriers, hparts, hwork, ?_,
    hlast, ?_⟩
  · rw [hbefore, hlayout]
  · rcases compile_openers passes compiled h hunreserved pass hordered resource demand hdemand
      with ⟨earlier, opener, _, hopeners, hasked, _, _⟩
    refine ⟨opener, by rw [hopeners, List.getLast?_concat], hasked, ?_⟩
    intro hdue
    rw [hlast, hopeners, List.filter_append, List.filter_cons_of_pos hdue, List.filter_nil,
      List.getLast?_concat, Option.map_some, Option.getD_some, hasked]

/-- An image is drawn, and two passes sample it in the same stage. -/
def sampledTwice : List Pass := [
  ⟨0, "draw", .graphics,
    [Usage.attachment .colorAttachment "color" LoadOp.clear StoreOp.store]⟩,
  ⟨1, "light", .compute, [Usage.plain .read .sampledImage "color"]⟩,
  ⟨2, "blur", .compute, [Usage.plain .read .sampledImage "color"]⟩]

/-- A clear of the offscreen surface. -/
def clearOp (pass : PassIndex) : FrameOp :=
  ⟨pass, ⟨1, .offscreen 7⟩, .clear ⟨true, false, false, ⟨0, 0, 0, 0⟩, 0, 0, ⟨0, 0, 64, 64⟩⟩⟩

/-- A dispatch. -/
def dispatchOp (pass : PassIndex) : FrameOp :=
  ⟨pass, ⟨2, .offscreen 7⟩, .dispatch ⟨5, 1, 1, 1⟩⟩

/-- With an operation in every pass the second reader finds the image in the
    layout that the first one had it brought to. -/
theorem layout_before_blur :
    ∃ stretches, stretches.map Stretch.part
        = [.start, .entering 0, .working (clearOp 0), .entering 1, .working (dispatchOp 1),
          .entering 2]
      ∧ layoutAfter Layout.undefined (imagesOn "color" stretches) = Layout.shaderReadOnly := by
  have hcompile : compile sampledTwice = .ok (Compiled.ofOrder sampledTwice) := by rfl
  rcases layout_before_work sampledTwice _ hcompile (by decide)
    ⟨0, oneTimeSubmit, "frame", oneDraw⟩ Replies.good rfl rfl poolOfTwo Device.working
    [clearOp 0, dispatchOp 1] (dispatchOp 2) [] ⟨by decide, by decide⟩ _ rfl sampledTwice[2]
    (by decide) rfl "color" rfl ⟨ImageState.shaderReadCompute, false⟩ rfl
    with ⟨stretches, _, _, layout, _, _, _, hparts, _, hlayout, _, opener, hopener, hasked, hdue⟩
  refine ⟨stretches, hparts, ?_⟩
  have hopeners : ((Compiled.ofOrder sampledTwice).openers "color" sampledTwice[2]).getLast?
      = some ⟨1, "color", true, ImageState.colorAttachmentWrite, ImageState.shaderReadCompute,
        AspectMask.color, false⟩ := by rfl
  rw [hopeners, Option.some.injEq] at hopener
  rw [← hopener] at hdue
  exact hlayout.symm.trans (hdue rfl)

/-- With the first reader idle it finds the image as it was drawn. -/
theorem layout_wrong_idleReader :
    compile sampledTwice = .ok (Compiled.ofOrder sampledTwice)
      ∧ (∀ pass ∈ sampledTwice, pass.index ≠ frameStart)
      ∧ (Compiled.ofOrder sampledTwice).InOrder [clearOp 0, dispatchOp 2]
      ∧ (Compiled.ofOrder sampledTwice).demand? sampledTwice[2] "color"
        = some ⟨ImageState.shaderReadCompute, false⟩
      ∧ ∃ stretches work rest,
        recordTrace (Compiled.ofOrder sampledTwice) ⟨0, oneTimeSubmit, "frame", oneDraw⟩ poolOfTwo
            [clearOp 0, dispatchOp 2] = stretches ++ work :: rest
          ∧ work.part = .working (dispatchOp 2)
          ∧ layoutAfter (poolOfTwo.layout "color") (imagesOn "color" stretches)
            = Layout.colorAttachment
          ∧ Layout.colorAttachment ≠ ImageState.shaderReadCompute.layout := by
  refine ⟨rfl, by decide, ⟨by decide, by decide⟩, rfl, ?_⟩
  exact ⟨(recordTrace (Compiled.ofOrder sampledTwice) ⟨0, oneTimeSubmit, "frame", oneDraw⟩
    poolOfTwo [clearOp 0, dispatchOp 2]).take 4, _, _, rfl, rfl, rfl, by decide⟩

end FrameGraph
