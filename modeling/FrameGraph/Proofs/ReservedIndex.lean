import FrameGraph.Proofs.Entries
import FrameGraph.Proofs.Scheduled

/-!
# The Reserved Index

The start of a frame is a boundary like those of the passes, and it has the one
index that no pass should carry. Nothing keeps a pass from carrying it.
`record_reserved` says what follows.

What stands at the start of the frame is the entry of the presented image, and
whatever is planned for a pass with the reserved index. So nothing else stands
there exactly if there is no such pass, or it neither enters another resource
nor separates from the users of one. And what is recorded at the start are
entries exactly if it does not separate. An entry can be recorded early without
harm. A barrier between two uses cannot: recorded at the start it comes before
the work of the passes that it waits for.

Every other barrier between two uses is recorded where it belongs. For operations
in the order of their passes, everything of an earlier pass comes before it.

## Main definitions

* `PlannedBarrier.IsPresentedEntry`: The entry of the presented image.
* `Compiled.Carries`: A pass carries the reserved index.
* `Compiled.ReservedEnters`: Such a pass is the first user of something else.
* `Compiled.ReservedSeparates`: Such a pass separates from earlier users.

## Theorems

* `Planning.callsOf_boundary`: Where the barriers of a pass stand.
* `compile_frameStart`: What stands at the start of the frame.
* `compile_presented_iff`: When that is the entry of the presented image only.
* `compile_startBarriers_iff`: When only entries are recorded at the start.
* `Compiled.InOrder.mem_front`: In order, work of earlier passes comes first.
* `record_reserved`: All of this together, of a recorded frame.
* `record_reserved_uiOverScene`, `not_presented_litLast`: Passes without the
  reserved index, and a pass that carries it.
-/

namespace FrameGraph

open Gpu

/-- The entry of the presented image. -/
def PlannedBarrier.IsPresentedEntry (planned : PlannedBarrier) : Prop :=
  planned.entry = true ∧ planned.isImage = true ∧ planned.resource = swapchainName

instance (planned : PlannedBarrier) : Decidable planned.IsPresentedEntry :=
  inferInstanceAs (Decidable (_ ∧ _))

/-- A barrier that a pass gets stands at the start of the frame if the pass
    carries the reserved index, or if it is the entry of the presented image. -/
theorem Planning.callsOf_boundary (planning : Planning) {resource : String} {before : List Pass}
    {pass : Pass} {planned : PlannedBarrier}
    (h : planned ∈ planning.callsOf resource before pass) :
    planned.resource = resource
      ∧ planned.isImage = planning.isImage resource
      ∧ (planned.boundary = frameStart
        ↔ planned.IsPresentedEntry ∨ pass.index = frameStart) := by
  rcases (planning.mem_callsOf_iff _ _ _ _).mp h with ⟨demand, _, hcalls⟩
  refine ⟨planning.callsFor_resource pass resource demand _ planned hcalls,
    planning.callsFor_isImage pass resource demand _ planned hcalls, ?_⟩
  unfold PlannedBarrier.IsPresentedEntry
  rcases planning.callsFor_cases hcalls with ⟨_, rfl⟩ | ⟨_, _, rfl⟩
  · simp only [entryBoundary, Bool.and_eq_true, decide_eq_true_eq, true_and]
    split
    · next hpresented => exact iff_of_true rfl (Or.inl hpresented)
    · next hother => exact (or_iff_right hother).symm
  · simp only [Bool.false_eq_true, false_and, false_or]

namespace Compiled

variable (compiled : Compiled)

/-- A pass of the order, which comes after some others, carries the reserved
    index. As indices differ there is one such pass at most. -/
def Carries (before : List Pass) (pass : Pass) : Prop :=
  pass.index = frameStart ∧ ∃ after, compiled.order = before ++ pass :: after

/-- The pass with the reserved index is the first user of a resource other than
    the presented image. -/
def ReservedEnters : Prop :=
  ∃ before pass, compiled.Carries before pass ∧ ∃ resource ∈ pass.resources,
    compiled.usersOf resource before = []
      ∧ ¬ (compiled.planning.isImage resource = true ∧ resource = swapchainName)

/-- The pass with the reserved index separates from earlier users of a
    resource. -/
def ReservedSeparates : Prop :=
  ∃ before pass, compiled.Carries before pass ∧ ∃ resource demand,
    compiled.demand? pass resource = some demand
      ∧ compiled.Separates resource before pass demand

/-- A pass asks something of what it uses, and of nothing else. -/
theorem mem_resources_iff (pass : Pass) (resource : String) :
    resource ∈ pass.resources ↔ ∃ demand, compiled.demand? pass resource = some demand := by
  rw [← Option.ne_none_iff_exists', ne_eq, demand?, Planning.demand?, pass.demand?_eq_none_iff,
    not_not]

variable {compiled}

theorem Unreserved.not_carries (h : compiled.Unreserved) (before : List Pass) (pass : Pass) :
    ¬ compiled.Carries before pass := by
  rintro ⟨hindex, after, horder⟩
  refine h pass ?_ hindex
  rw [horder]
  exact List.mem_append_right _ List.mem_cons_self

end Compiled

section

variable (passes : List Pass) (compiled : Compiled) (h : compile passes = .ok compiled)

include h

/-- At the start of the frame stand the entry of the presented image and what is
    planned for a pass with the reserved index. -/
theorem compile_frameStart (planned : PlannedBarrier) :
    planned ∈ compiled.plan.barriersAt frameStart
      ↔ planned ∈ compiled.plan.barriers
        ∧ (planned.IsPresentedEntry ∨ ∃ before pass, compiled.Carries before pass
          ∧ planned ∈ compiled.planning.callsOf planned.resource before pass) := by
  unfold SyncPlan.barriersAt
  rw [List.mem_filter, decide_eq_true_eq]
  refine and_congr_right fun hplanned => ?_
  constructor
  · intro hstart
    rcases (compile_mem_barriers_iff passes compiled h planned).mp hplanned
      with ⟨before, pass, after, horder, hcalls⟩
    refine ((compiled.planning.callsOf_boundary hcalls).2.2.mp hstart).imp_right ?_
    intro hindex
    exact ⟨before, pass, ⟨hindex, after, horder⟩, hcalls⟩
  · rintro (hpresented | ⟨before, pass, ⟨hindex, _⟩, hcalls⟩)
    · rcases (compile_mem_barriers_iff passes compiled h planned).mp hplanned
        with ⟨before, pass, after, horder, hcalls⟩
      exact (compiled.planning.callsOf_boundary hcalls).2.2.mpr (Or.inl hpresented)
    · exact (compiled.planning.callsOf_boundary hcalls).2.2.mpr (Or.inr hindex)

/-- What a pass with the reserved index gets stands at the start. -/
theorem compile_carried {before : List Pass} {pass : Pass} (hcarries : compiled.Carries before pass)
    {resource : String} {planned : PlannedBarrier}
    (hplanned : planned ∈ compiled.planning.callsOf resource before pass) :
    planned ∈ compiled.plan.barriersAt frameStart := by
  have hresource := (compiled.planning.callsOf_boundary hplanned).1
  rw [← hresource] at hplanned
  refine (compile_frameStart passes compiled h planned).mpr ⟨?_, Or.inr ⟨_, _, hcarries, hplanned⟩⟩
  rcases hcarries with ⟨_, after, horder⟩
  exact (compile_mem_barriers_iff passes compiled h planned).mpr
    ⟨before, pass, after, horder, hplanned⟩

/-- If the pass with the reserved index separates, a barrier that is no entry
    stands at the start. -/
theorem compile_separates_start (hseparates : compiled.ReservedSeparates) :
    ∃ planned ∈ compiled.plan.barriersAt frameStart, planned.entry = false := by
  rcases hseparates with ⟨before, pass, hcarries, resource, demand, hdemand, hseparates⟩
  rcases hcarries.2 with ⟨after, horder⟩
  -- The pass gets a barrier, and as there are earlier users it is no entry.
  have hcalls := (compile_callsOf_ne_nil_iff passes compiled h horder hdemand).mpr
    (Or.inr hseparates)
  rcases List.exists_mem_of_ne_nil _ hcalls with ⟨planned, hplanned⟩
  refine ⟨planned, compile_carried passes compiled h hcarries hplanned, ?_⟩
  rw [← Bool.not_eq_true, compile_entry_iff passes compiled h horder hplanned]
  rcases hseparates.2 with ⟨last, hlast, _⟩
  intro hnone
  rw [hnone, List.getLast?_nil] at hlast
  exact Option.some_ne_none last hlast.symm

/-- A barrier of the pass with the reserved index is the entry of a resource
    that the pass is the first user of, unless the pass separates. -/
theorem compile_carried_cases {before : List Pass} {pass : Pass}
    (hcarries : compiled.Carries before pass) {resource : String} {planned : PlannedBarrier}
    (hplanned : planned ∈ compiled.planning.callsOf resource before pass) :
    (planned.entry = true ∧ resource ∈ pass.resources ∧ compiled.usersOf resource before = [])
      ∨ compiled.ReservedSeparates := by
  rcases hcarries.2 with ⟨after, horder⟩
  rcases (compiled.planning.mem_callsOf_iff _ _ _ _).mp hplanned with ⟨demand, hdemand, _⟩
  rcases (compile_callsOf_ne_nil_iff passes compiled h horder hdemand).mp
    (List.ne_nil_of_mem hplanned) with hfirst | hseparates
  · exact Or.inl ⟨(compile_entry_iff passes compiled h horder hplanned).mpr hfirst,
      (compiled.mem_resources_iff pass resource).mpr ⟨demand, hdemand⟩, hfirst⟩
  · exact Or.inr ⟨before, pass, hcarries, resource, demand, hdemand, hseparates⟩

/-- Nothing but the entry of the presented image stands at the start exactly if
    no pass with the reserved index enters another resource or separates. -/
theorem compile_presented_iff :
    (∀ planned ∈ compiled.plan.barriersAt frameStart, planned.IsPresentedEntry)
      ↔ ¬ compiled.ReservedEnters ∧ ¬ compiled.ReservedSeparates := by
  constructor
  · intro hall
    constructor
    · rintro ⟨before, pass, hcarries, resource, hused, hfirst, hother⟩
      rcases hcarries.2 with ⟨after, horder⟩
      rcases (compiled.mem_resources_iff pass resource).mp hused with ⟨demand, hdemand⟩
      have hcalls := (compile_callsOf_ne_nil_iff passes compiled h horder hdemand).mpr
        (Or.inl hfirst)
      rcases List.exists_mem_of_ne_nil _ hcalls with ⟨planned, hplanned⟩
      rcases hall planned (compile_carried passes compiled h hcarries hplanned)
        with ⟨_, himage, hname⟩
      rcases compiled.planning.callsOf_boundary hplanned with ⟨hresource, hkind, _⟩
      exact hother ⟨hkind.symm.trans himage, hresource.symm.trans hname⟩
    · intro hseparates
      rcases compile_separates_start passes compiled h hseparates with ⟨planned, hplanned, hchange⟩
      rw [(hall planned hplanned).1] at hchange
      exact Bool.noConfusion hchange
  · rintro ⟨hnotEnters, hnotSeparates⟩ planned hplanned
    rcases ((compile_frameStart passes compiled h planned).mp hplanned).2
      with hpresented | ⟨before, pass, hcarries, hcalls⟩
    · exact hpresented
    · rcases compile_carried_cases passes compiled h hcarries hcalls
        with ⟨hentry, hused, hfirst⟩ | hseparates
      · by_contra hother
        refine hnotEnters ⟨before, pass, hcarries, planned.resource, hused, hfirst, ?_⟩
        rintro ⟨himage, hname⟩
        have hkind := (compiled.planning.callsOf_boundary hcalls).2.1
        exact hother ⟨hentry, hkind.trans himage, hname⟩
      · exact absurd hseparates hnotSeparates

/-- Only entries are recorded at the start exactly if no pass with the reserved
    index separates. -/
theorem compile_startBarriers_iff (request : Request) (resolution : Resolution) :
    (∀ planned ∈ (frameScene compiled request resolution).startBarriers, planned.entry = true)
      ↔ ¬ compiled.ReservedSeparates := by
  cases hhoists : (frameScene compiled request resolution).hoists with
  | true =>
      rw [Scene.startBarriers_of_hoists hhoists]
      -- Entries are recorded early because nothing stands at the start.
      have hnone : compiled.plan.barriersAt frameStart = [] := (Scene.hoists_iff _).mp hhoists
      refine iff_of_true ?_ ?_
      · intro planned hplanned
        have hentry := (Scene.entryBarriers_perm compiled.plan).mem_iff.mp hplanned
        exact (List.mem_filter.mp hentry).2
      · intro hseparates
        rcases compile_separates_start passes compiled h hseparates with ⟨planned, hplanned, _⟩
        rw [hnone] at hplanned
        exact List.not_mem_nil hplanned
  | false =>
      rw [Scene.startBarriers_of_not_hoists hhoists]
      constructor
      · intro hall hseparates
        rcases compile_separates_start passes compiled h hseparates
          with ⟨planned, hplanned, hchange⟩
        rw [hall planned hplanned] at hchange
        exact Bool.noConfusion hchange
      · intro hnotSeparates planned hplanned
        rcases ((compile_frameStart passes compiled h planned).mp hplanned).2
          with hpresented | ⟨before, pass, hcarries, hcalls⟩
        · exact hpresented.1
        · rcases compile_carried_cases passes compiled h hcarries hcalls
            with ⟨hentry, _⟩ | hseparates
          · exact hentry
          · exact absurd hseparates hnotSeparates

end

/-- In order, everything of an earlier pass comes before an operation. -/
theorem Compiled.InOrder.mem_front {compiled : Compiled} {front : List FrameOp}
    {operation : FrameOp} {back : List FrameOp}
    (h : compiled.InOrder (front ++ operation :: back)) {other : FrameOp}
    (hmem : other ∈ front ++ operation :: back)
    (hbefore : compiled.Before other.pass operation.pass) : other ∈ front := by
  have hlt := hbefore.rankOrLowest_lt
  rcases List.mem_append.mp hmem with hfront | hlater
  · exact hfront
  · rcases List.mem_cons.mp hlater with hsame | hback
    -- Ranks do not go down, so what has a lower one stands in front.
    · rw [hsame] at hlt
      exact absurd hlt (Nat.lt_irrefl _)
    · have hascending := (List.pairwise_append.mp h.ascending).2.1
      have hle := List.rel_of_pairwise_cons hascending hback
      omega

/-- What is due before an operation stands at the boundary of its pass. -/
theorem Scene.boundary_of_mem_dueAfter (scene : Scene) {front : List FrameOp}
    {operation : FrameOp} {planned : PlannedBarrier}
    (h : planned ∈ scene.dueAfter front operation) : planned.boundary = operation.pass := by
  have hat : planned ∈ scene.plan.barriersAt operation.pass := by
    unfold dueAfter at h
    split at h
    · exact absurd h List.not_mem_nil
    · unfold boundaryBarriers at h
      split at h
      · exact (List.mem_filter.mp h).1
      · exact h
  exact of_decide_eq_true (List.mem_filter.mp hat).2

/-- What stands at the start of a frame, for passes of which one may carry the
    reserved index. That is the entry of the presented image and what is planned
    for the pass with the reserved index. Nothing but the entry stands there
    exactly if no such pass enters another resource or separates. A frame that
    resolves and begins is recorded as a program without decisions, in which the
    barriers of the start come before all operations. These are entries exactly
    if no pass with the reserved index separates. Any other barrier is due
    before an operation of the pass it stands before, and for operations in order
    everything of the earlier passes has been recorded then. -/
theorem record_reserved (passes : List Pass) (compiled : Compiled)
    (h : compile passes = .ok compiled) (request : Request) (replies : Replies)
    (hreset : replies.reset = ResultCode.success) (hbegin : replies.begin = ResultCode.success)
    (pool : Pool) (device : Device) (ops : List FrameOp) (resolution : Resolution)
    (hresolved : (resolve pool compiled.resources ops).result = .ok resolution) :
    (∀ planned, planned ∈ compiled.plan.barriersAt frameStart
        ↔ planned ∈ compiled.plan.barriers
          ∧ (planned.IsPresentedEntry ∨ ∃ before pass, compiled.Carries before pass
            ∧ planned ∈ compiled.planning.callsOf planned.resource before pass))
      ∧ ((∀ planned ∈ compiled.plan.barriersAt frameStart, planned.IsPresentedEntry)
        ↔ ¬ compiled.ReservedEnters ∧ ¬ compiled.ReservedSeparates)
      ∧ ∃ scene, scene = frameScene compiled request resolution
        ∧ commandsOf (record compiled request replies pool device ops).events
          = [.reset, .begin request.usage request.label]
            ++ (scene.plainFrame request.hazards ops (Cursor.start resolution.states)).2
            ++ [.finish]
        ∧ ((∀ planned ∈ scene.startBarriers, planned.entry = true)
          ↔ ¬ compiled.ReservedSeparates)
        ∧ (compiled.InOrder ops → ∀ front operation back, ops = front ++ operation :: back →
          ∀ planned ∈ scene.dueAfter front operation, planned.boundary = operation.pass
            ∧ ∀ other ∈ ops, compiled.Before other.pass operation.pass → other ∈ front) := by
  refine ⟨compile_frameStart passes compiled h, compile_presented_iff passes compiled h, _, rfl,
    ?_, compile_startBarriers_iff passes compiled h request resolution, ?_⟩
  · rw [commandsOf_record compiled request replies pool device ops resolution hresolved hreset
      hbegin, recordTrace_of_resolved compiled request pool ops resolution hresolved,
      Scene.trace_commands, Scene.recordFrame_eq_plain]
    rfl
  · rintro hinOrder front operation back rfl planned hplanned
    refine ⟨Scene.boundary_of_mem_dueAfter _ hplanned, ?_⟩
    intro other hother hbefore
    exact hinOrder.mem_front hother hbefore

/-- Without the reserved index, only the entry of the presented image stands at
    the start, and only entries are recorded there. -/
theorem record_reserved_uiOverScene :
    (∀ planned ∈ (Compiled.ofOrder uiOverScene).plan.barriersAt frameStart,
        planned.IsPresentedEntry)
      ∧ ∃ resolution, ∀ planned ∈ (frameScene (Compiled.ofOrder uiOverScene)
          ⟨0, oneTimeSubmit, "", oneDraw⟩ resolution).startBarriers, planned.entry = true := by
  have hunreserved : (Compiled.ofOrder uiOverScene).Unreserved :=
    compile_unreserved uiOverScene _ rfl (by decide)
  have hnotSeparates : ¬ (Compiled.ofOrder uiOverScene).ReservedSeparates := by
    rintro ⟨before, pass, hcarries, _⟩
    exact hunreserved.not_carries before pass hcarries
  have hnotEnters : ¬ (Compiled.ofOrder uiOverScene).ReservedEnters := by
    rintro ⟨before, pass, hcarries, _⟩
    exact hunreserved.not_carries before pass hcarries
  rcases record_reserved uiOverScene (Compiled.ofOrder uiOverScene) rfl
    ⟨0, oneTimeSubmit, "", oneDraw⟩ Replies.good rfl rfl poolWithFont Device.working
    [presentedClear 0, presentedClear 1] _ rfl
    with ⟨_, hpresented, scene, hscene, _, hstart, _⟩
  have honlyEntries := hstart.mpr hnotSeparates
  rw [hscene] at honlyEntries
  exact ⟨hpresented.mpr ⟨hnotEnters, hnotSeparates⟩, _, honlyEntries⟩

/-- An image is drawn, and lit by a pass that carries the reserved index. -/
def litLast : List Pass := [
  ⟨0, "draw", .graphics,
    [Usage.attachment .colorAttachment "color" LoadOp.clear StoreOp.store]⟩,
  ⟨4294967295, "light", .compute, [Usage.plain .read .sampledImage "color"]⟩]

/-- Its barrier stands at the start of the frame, before the drawing. -/
theorem not_presented_litLast :
    ¬ ∀ passes compiled, compile passes = .ok compiled →
        ∀ planned ∈ compiled.plan.barriersAt frameStart, planned.IsPresentedEntry := by
  intro hall
  have hstart := hall litLast (Compiled.ofOrder litLast) rfl
  exact absurd hstart (by decide +kernel)

end FrameGraph
