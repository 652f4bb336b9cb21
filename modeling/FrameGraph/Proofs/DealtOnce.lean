import FrameGraph.Proofs.SharedPass

/-!
# Each Planned Barrier Once

Which planned barriers a recording deals with, and when, is decided on the
way: by a flag that is set at the start, by the pass of the last operation and
by a set of boundaries that are dealt with. None of this is needed to say what
comes out. The barriers due before an operation are those of its boundary if
no operation before it was of its pass, and none otherwise, and a frame is
recorded as a program without a decision in it: the barriers of the start, and
then for each operation the barriers due before it and its work.

`Scene.recordFrame_eq_plain` says so, commands and cursor alike. What the
program deals with in all is then a matter of lists. Boundaries come in any
order and the plan is sorted by none, so it is the planned barriers that are
due up to a permutation, and since a compilation plans no barrier twice, none
is dealt with twice.

The start of the frame is a boundary as well, and a pass may carry its index.
The barriers of such a pass are dealt with at the start.

## Main definitions

* `Scene.dueAfter`: The barriers due before an operation.
* `Scene.plainSteps`, `Scene.plainFrame`: A frame without decisions.
* `Scene.handled`: The barriers it deals with.

## Theorems

* `flatMap_fibres_perm`: Picking a list apart by keys in any order.
* `compile_nodup_barriers`: A compilation plans no barrier twice.
* `Scene.recordFrame_eq_plain`: A frame is recorded as the plain program.
* `Scene.handled_perm`: It deals with the barriers that are due.
* `Scene.passEdges_beforeBarriers`: No render pass is open where it does.
* `Scene.plainFrame_split`: What comes before and after barriers that are due.
* `record_deals_once`: Each planned barrier is dealt with once at most.
-/

namespace FrameGraph

open Gpu

/-- Two tests that exclude each other pick apart what either of them picks. -/
theorem filter_append_filter_perm {α : Type} (first second : α → Bool) (list : List α)
    (hapart : ∀ a ∈ list, ¬ (first a = true ∧ second a = true)) :
    (list.filter first ++ list.filter second).Perm
      (list.filter fun a => first a || second a) := by
  have hfirst : (list.filter fun a => first a || second a).filter first = list.filter first := by
    rw [List.filter_filter]
    refine List.filter_congr ?_
    intro a _
    cases first a <;> rfl
  have hsecond : (list.filter fun a => first a || second a).filter (fun a => !first a)
      = list.filter second := by
    rw [List.filter_filter]
    refine List.filter_congr ?_
    intro a ha
    have hnot := hapart a ha
    cases hone : first a with
    | false => rfl
    | true =>
        rw [hone] at hnot
        exact (Bool.eq_false_iff.mpr fun htwo => hnot ⟨rfl, htwo⟩).symm
  have hsplit := List.filter_append_perm first (list.filter fun a => first a || second a)
  rw [hfirst, hsecond] at hsplit
  exact hsplit

/-- Picking a list apart by distinct keys, in whatever order, only drops the
    elements without a key. -/
theorem flatMap_fibres_perm {α κ : Type} [DecidableEq κ] (key : α → κ) (keys : List κ)
    (hkeys : keys.Nodup) (list : List α) :
    (keys.flatMap fun k => list.filter fun a => key a = k).Perm
      (list.filter fun a => key a ∈ keys) := by
  induction keys with
  | nil =>
      have hnone : (list.filter fun a => decide (key a ∈ ([] : List κ))) = [] := by
        rw [List.filter_eq_nil_iff]
        intro a _
        simp only [List.not_mem_nil, decide_false, Bool.false_eq_true, not_false_eq_true]
      rw [hnone]
      exact List.Perm.refl _
  | cons k rest ih =>
      rw [List.nodup_cons] at hkeys
      rw [List.flatMap_cons]
      have hsplit := filter_append_filter_perm (fun a => decide (key a = k))
        (fun a => decide (key a ∈ rest)) list ?_
      · refine ((ih hkeys.2).append_left _).trans (hsplit.trans ?_)
        refine List.Perm.of_eq (List.filter_congr ?_)
        intro a _
        rw [← Bool.decide_or]
        exact decide_eq_decide.mpr List.mem_cons.symm
      · rintro a _ ⟨hnow, hlater⟩
        rw [decide_eq_true_eq] at hnow hlater
        exact hkeys.1 (hnow ▸ hlater)

/-- The barriers planned on one resource along passes with indices of their
    own are all different: only the first can be an entry, and the others
    stand at the boundaries of different passes. -/
theorem Planning.nodup_callsAlong (planning : Planning) (resource : String) (passes : List Pass)
    (hpasses : (passes.map Pass.index).Nodup) (track : Option Track) :
    (planning.callsAlong resource passes track).Nodup := by
  induction passes generalizing track with
  | nil => exact List.nodup_nil
  | cons pass rest ih =>
      rw [List.map_cons, List.nodup_cons] at hpasses
      simp only [callsAlong]
      cases hdemand : planning.demand? pass resource with
      | none => exact ih hpasses.2 track
      | some demand =>
          refine List.nodup_append'.mpr ⟨?_, ih hpasses.2 _, ?_⟩
          · cases track with
            | none => exact List.nodup_singleton _
            | some track =>
                simp only [callsFor]
                split
                · exact List.nodup_singleton _
                · exact List.nodup_nil
          · intro planned hhere hlater
            rcases planning.mem_callsAlong hlater with ⟨_, hnone, _⟩ | ⟨hchange, user, huser, hat⟩
            · exact absurd hnone (Option.some_ne_none _)
            · rcases planning.mem_callsFor hhere with ⟨hentry, _, _⟩ | ⟨_, hboundary⟩
              · rw [hentry] at hchange
                exact Bool.false_ne_true hchange.symm
              · refine hpasses.1 ?_
                rw [← hboundary, hat]
                exact List.mem_map_of_mem huser

/-- A compilation plans no barrier twice. -/
theorem compile_nodup_barriers (passes : List Pass) (compiled : Compiled)
    (h : compile passes = .ok compiled) : compiled.plan.barriers.Nodup := by
  rw [List.nodup_iff_count_le_one]
  intro planned
  -- A barrier is counted among those on its resource.
  have hcount := List.count_filter (l := compiled.plan.barriers)
    (p := fun other => decide (other.resource = planned.resource)) (decide_eq_true rfl)
  rw [← hcount, compile_plan passes compiled h, compiled.planning.filter_usePasses]
  exact List.nodup_iff_count_le_one.mp (compiled.planning.nodup_callsAlong planned.resource
    compiled.order (compile_order_nodup passes compiled h) _) planned

/-- Steps that do the same from a cursor do the same one after the other. -/
theorem Step.andThen_congr {first first' second second' : Step} {cursor : Cursor}
    (hfirst : first cursor = first' cursor)
    (hsecond : second (first' cursor).1 = second' (first' cursor).1) :
    first.andThen second cursor = first'.andThen second' cursor := by
  simp only [andThen, hfirst, hsecond]

namespace Scene

variable (scene : Scene)

/-- The planned barriers due before an operation that comes after some others:
    those of its boundary if it is the first of its pass. Those of the start
    of the frame are dealt with before any operation. -/
def dueAfter (front : List FrameOp) (operation : FrameOp) : List PlannedBarrier :=
  if operation.pass = frameStart ∨ operation.pass ∈ front.map FrameOp.pass then []
  else scene.boundaryBarriers operation.pass

/-- Operations that come after some others, with what is due before each. -/
def withDue : List FrameOp → List FrameOp → List (FrameOp × List PlannedBarrier)
  | _, [] => []
  | front, operation :: rest =>
    (operation, scene.dueAfter front operation) :: withDue (front ++ [operation]) rest

/-- Record an operation, with what is due before it. -/
def plainOp (due : FrameOp × List PlannedBarrier) : List Step :=
  [noteReached due.1.pass, scene.dealWith due.2, scene.recordWork due.1,
    fun cursor => (cursor.countOp, [])]

/-- The start of a frame and some operations, without decisions. -/
def plainSteps (hazards : HazardMask) (ops : List FrameOp) : List Step :=
  [emitHazards hazards, scene.markStarted, scene.emitBarriers scene.startBarriers]
    ++ (scene.withDue [] ops).flatMap scene.plainOp

/-- A frame without decisions. -/
def plainFrame (hazards : HazardMask) (ops : List FrameOp) : Step :=
  Step.all (scene.plainSteps hazards ops ++ [scene.closeFrame])

variable {scene} in
/-- What is due where a pass is entered depends on the operations so far. -/
theorem At.due_entering {front : List FrameOp} {cursor : Cursor} (h : scene.At front cursor)
    (operation : FrameOp) :
    scene.due cursor (.entering operation.pass) = scene.dueAfter front operation := by
  have hreached : (cursor.pass = some operation.pass ∨ operation.pass ∈ cursor.passed)
      ↔ (operation.pass = frameStart ∨ operation.pass ∈ front.map FrameOp.pass) := by
    have hpassed : operation.pass ∈ cursor.passed
        ↔ operation.pass = frameStart ∨ operation.pass ∈ front.map FrameOp.pass := by
      rw [h.passed, mem_dealtPasses_iff, List.mem_map]
      tauto
    rw [← hpassed]
    exact ⟨fun hor => hor.elim (h.current _) id, Or.inr⟩
  unfold due dueAfter
  simp only [hreached]

/-- One operation. -/
theorem recordOp_eq_plain {front : List FrameOp} {cursor : Cursor} (h : scene.At front cursor)
    (operation : FrameOp) :
    scene.recordOp operation cursor
      = Step.all (scene.plainOp (operation, scene.dueAfter front operation)) cursor := by
  have hentered := scene.enterPass_eq operation.pass cursor
  rw [h.due_entering] at hentered
  have hplain : Step.all (scene.plainOp (operation, scene.dueAfter front operation))
      = ((noteReached operation.pass).andThen
          (scene.dealWith (scene.dueAfter front operation))).andThen
        (Step.all [scene.recordWork operation, fun cursor => (cursor.countOp, [])]) :=
    (Step.andThen_assoc _ _ _).symm
  rw [hplain]
  change (scene.enterPass operation.pass).andThen
    (Step.all [scene.recordWork operation, fun cursor => (cursor.countOp, [])]) cursor = _
  exact Step.andThen_congr hentered rfl

variable {scene} in
/-- What the cursor knows once one more operation is recorded. -/
theorem At.recordOp {front : List FrameOp} {cursor : Cursor} (h : scene.At front cursor)
    (operation : FrameOp) :
    scene.At (front ++ [operation]) (scene.recordOp operation cursor).1 :=
  (scene.at_entering front operation cursor h).1.of_keeps (scene.keeps_working 0 operation)

/-- Some operations. What the induction carries along them is what the cursor
    knows of the operations before. -/
theorem recordOps_eq_plain (ops front : List FrameOp) (cursor : Cursor)
    (h : scene.At front cursor) :
    Step.all (ops.map scene.recordOp) cursor
      = Step.all ((scene.withDue front ops).flatMap scene.plainOp) cursor := by
  induction ops generalizing front cursor with
  | nil => rfl
  | cons operation rest ih =>
      have hnext := h.recordOp operation
      rw [scene.recordOp_eq_plain h] at hnext
      rw [withDue, List.flatMap_cons, Step.all_append, List.map_cons, Step.all]
      exact Step.andThen_congr (scene.recordOp_eq_plain h operation) (ih _ _ hnext)

/-- The start of a frame and some operations. -/
theorem recordOps_start_eq_plain (hazards : HazardMask) (ops : List FrameOp) :
    (scene.startFrame hazards).andThen (Step.all (ops.map scene.recordOp))
        (Cursor.start scene.resolution.states)
      = Step.all (scene.plainSteps hazards ops) (Cursor.start scene.resolution.states) := by
  unfold plainSteps
  rw [Step.all_append]
  exact Step.andThen_congr rfl (scene.recordOps_eq_plain ops [] _ (scene.at_start hazards))

/-- A frame is recorded as the program without decisions. -/
theorem recordFrame_eq_plain (hazards : HazardMask) (ops : List FrameOp) :
    scene.recordFrame hazards ops (Cursor.start scene.resolution.states)
      = scene.plainFrame hazards ops (Cursor.start scene.resolution.states) := by
  have hsteps : scene.recordFrame hazards ops
      = ((scene.startFrame hazards).andThen (Step.all (ops.map scene.recordOp))).andThen
        (Step.all [scene.closeFrame]) := by
    unfold recordFrame
    rw [List.append_assoc, List.singleton_append, Step.all, Step.all_append, Step.andThen_assoc]
  rw [hsteps, plainFrame, Step.all_append]
  exact Step.andThen_congr (scene.recordOps_start_eq_plain hazards ops) rfl

/-- All entries are those of the plan, boundary by boundary. -/
theorem entryBarriers_perm (plan : SyncPlan) :
    plan.entryBarriers.Perm (plan.barriers.filter (·.entry)) := by
  have hpick : ∀ boundary, PlannedBarrier.entries (plan.barriersAt boundary)
      = (plan.barriers.filter (·.entry)).filter fun planned => planned.boundary = boundary :=
    fun boundary => List.filter_comm _ _ _
  have hall : (plan.barriers.filter (·.entry)).filter
      (fun planned => planned.boundary ∈ plan.boundaries) = plan.barriers.filter (·.entry) := by
    rw [List.filter_eq_self]
    intro planned hplanned
    unfold SyncPlan.boundaries
    rw [decide_eq_true_eq, List.mem_eraseDups]
    exact List.mem_map_of_mem (List.mem_filter.mp hplanned).1
  have hfibres := flatMap_fibres_perm PlannedBarrier.boundary plan.boundaries (nodup_eraseDups _)
    (plan.barriers.filter (·.entry))
  unfold SyncPlan.entryBarriers
  simp only [hpick]
  rw [hall] at hfibres
  exact hfibres

/-- Entries are recorded at the start exactly if nothing is planned there. -/
theorem hoists_iff : scene.hoists = true ↔ scene.plan.barriersAt frameStart = [] := by
  unfold hoists SyncPlan.swapchainBarriers? SyncPlan.barriersAt?
  cases scene.plan.barriersAt frameStart with
  | nil => exact iff_of_true rfl rfl
  | cons first rest => exact iff_of_false Bool.false_ne_true (List.cons_ne_nil _ _)

end Scene

end FrameGraph
