import FrameGraph.Recording.Transition
import Mathlib.Logic.Basic

/-!
# Settling One Resource at a Time

`settle` walks planned barriers on many resources with one table of states.
What it does to one resource depends on no other, so everything worth saying
about it is said of `settleOne`, which walks the barriers on a single resource
with a single state. `settle_resource` is the bridge: the state of a resource
in the table and the transitions on it are what `settleOne` gives for the
barriers on it. No proof opens `settle` again after that.

A barrier that turns out not to be needed is not recorded, and yet the
resource counts as being in the state it leads to. The layout survives this,
because a barrier between two layouts is always needed. So the layouts of
the barriers that are recorded link up without a gap, whatever was planned
and in whatever order it came. `chained_settleOne` says so, and it needs no
hypothesis on the plan at all.

## Main definitions

* `layoutAfter`: The layout some barriers leave an image in.
* `Chained`: Each barrier starts from the layout the one before it left.
* `settleOne`: Settle barriers on one resource.

## Theorems

* `settle_append`: Settling in two parts.
* `settle_resource`: Settling many resources settles each of them.
* `settleOne_state`: The state is the one the last barrier leads to.
* `chained_settleOne`: The layouts of recorded barriers link up.
-/

namespace FrameGraph

open Gpu

/-- The layout that some barriers leave an image in. -/
def layoutAfter (start : Layout) (barriers : List ImageBarrier) : Layout :=
  barriers.foldl (fun _ barrier => barrier.newLayout) start

/-- Each barrier starts from the layout that the one before it left, and the
    first from `start`. -/
def Chained : Layout → List ImageBarrier → Prop
  | _, [] => True
  | start, barrier :: rest => barrier.oldLayout = start ∧ Chained barrier.newLayout rest

/-- It is the one that the last barrier leads to, if there is one. -/
theorem layoutAfter_eq (start : Layout) (barriers : List ImageBarrier) :
    layoutAfter start barriers = (barriers.map ImageBarrier.newLayout).getLast?.getD start := by
  induction barriers generalizing start with
  | nil => rfl
  | cons barrier rest ih =>
      rw [List.map_cons, List.getLast?_cons, Option.getD_some]
      exact ih barrier.newLayout

theorem layoutAfter_append (start : Layout) (first second : List ImageBarrier) :
    layoutAfter start (first ++ second) = layoutAfter (layoutAfter start first) second :=
  List.foldl_append

theorem chained_append_iff (start : Layout) (first second : List ImageBarrier) :
    Chained start (first ++ second)
      ↔ Chained start first ∧ Chained (layoutAfter start first) second := by
  induction first generalizing start with
  | nil => simp only [List.nil_append, Chained, true_and, layoutAfter, List.foldl_nil]
  | cons barrier rest ih =>
      simp only [List.cons_append, Chained, ih, and_assoc, layoutAfter, List.foldl_cons]

/-- The state a barrier starts from is in the layout the resource is in. -/
theorem PlannedBarrier.startingFrom_layout (planned : PlannedBarrier) (tracked : ResourceState) :
    (planned.startingFrom tracked).layout = tracked.layout := by
  unfold startingFrom
  split
  · rfl
  · next h =>
      simp only [Bool.or_eq_true, bne_iff_ne, ne_eq, not_or, not_not] at h
      exact h.2.symm

/-- A barrier that is not needed leaves the layout alone. -/
theorem ResourceState.layout_of_not_needsBarrier {state next : ResourceState}
    (h : ¬ state.needsBarrier next = true) : state.layout = next.layout := by
  unfold needsBarrier at h
  simp only [Bool.or_eq_true, bne_iff_ne, ne_eq, not_or, not_not] at h
  exact h.1.1

/-- Bring one resource into the states that some barriers on it lead to. -/
def settleOne (backing : Backing) :
    List PlannedBarrier → ResourceState → ResourceState × List Transition
  | [], state => (state, [])
  | planned :: rest, state =>
    let previous := planned.startingFrom state
    let later := settleOne backing rest planned.next
    (later.1,
      if previous.needsBarrier planned.next then ⟨planned, previous, backing⟩ :: later.2
      else later.2)

/-- The state is the one that the last barrier leads to, recorded or not. -/
theorem settleOne_state (backing : Backing) (barriers : List PlannedBarrier)
    (state : ResourceState) :
    (settleOne backing barriers state).1
      = (barriers.getLast?.map PlannedBarrier.next).getD state := by
  induction barriers generalizing state with
  | nil => rfl
  | cons planned rest ih =>
      simp only [settleOne, ih]
      cases rest with
      | nil => rfl
      | cons second rest => simp only [List.getLast?_cons, Option.map_some, Option.getD_some]

/-- The layouts of the recorded barriers link up, and lead to the layout of
    the state. -/
theorem chained_settleOne (backing : Backing) (barriers : List PlannedBarrier)
    (state : ResourceState) :
    Chained state.layout ((settleOne backing barriers state).2.map Transition.imageBarrier)
      ∧ layoutAfter state.layout ((settleOne backing barriers state).2.map Transition.imageBarrier)
        = (settleOne backing barriers state).1.layout := by
  induction barriers generalizing state with
  | nil => exact ⟨trivial, rfl⟩
  | cons planned rest ih =>
      have hlayout := planned.startingFrom_layout state
      have hrest := ih planned.next
      simp only [settleOne]
      split
      · -- The barrier is recorded: it starts where the resource is.
        refine ⟨⟨hlayout, hrest.1⟩, ?_⟩
        exact hrest.2
      · next hneeds =>
          -- It is not: then it would not have changed the layout.
          have hsame := ResourceState.layout_of_not_needsBarrier hneeds
          rw [← hlayout, hsame]
          exact hrest

/-- Settling in two parts. -/
theorem settle_append (backings : Table String Backing) (first second : List PlannedBarrier)
    (states : Table String ResourceState) :
    settle backings (first ++ second) states
      = ((settle backings second (settle backings first states).1).1,
        (settle backings first states).2
          ++ (settle backings second (settle backings first states).1).2) := by
  induction first generalizing states with
  | nil => rfl
  | cons planned rest ih =>
      simp only [List.cons_append, settle]
      split
      · simp only [ih]
        split
        · rfl
        · rfl
      · exact ih states

/-- What settling does to a resource that has a backing is what it does to
    this resource alone. -/
theorem settle_resource (backings : Table String Backing) (barriers : List PlannedBarrier)
    (states : Table String ResourceState) (resource : String) (backing : Backing)
    (state : ResourceState) (hbacking : backings.get? resource = some backing)
    (hstate : states.get? resource = some state) :
    (settle backings barriers states).1.get? resource
        = some (settleOne backing (barriers.filter fun planned => planned.resource = resource)
          state).1
      ∧ (settle backings barriers states).2.filter
          (fun transition => transition.planned.resource = resource)
        = (settleOne backing (barriers.filter fun planned => planned.resource = resource)
          state).2 := by
  induction barriers generalizing states state with
  | nil => exact ⟨hstate, rfl⟩
  | cons planned rest ih =>
      by_cases hmine : planned.resource = resource
      · -- Its own barrier moves the one state.
        have hput : (states.put planned.resource planned.next).get? resource
            = some planned.next := by
          rw [Table.get?_put, if_pos hmine]
        rcases ih _ _ hput with ⟨hget, hmoves⟩
        have hkeep : (planned :: rest).filter (fun planned => planned.resource = resource)
            = planned :: rest.filter fun planned => planned.resource = resource :=
          List.filter_cons_of_pos (decide_eq_true hmine)
        rw [hkeep]
        simp only [settle, settleOne, hmine, hbacking, hstate]
        rw [hmine] at hget hmoves
        refine ⟨hget, ?_⟩
        split
        · simp only [List.filter_cons, hmine, decide_true, if_true, hmoves]
        · exact hmoves
      · have hdrop : (planned :: rest).filter (fun planned => planned.resource = resource)
            = rest.filter fun planned => planned.resource = resource :=
          List.filter_cons_of_neg (by simp only [hmine, decide_false, Bool.false_eq_true,
            not_false_eq_true])
        rw [hdrop]
        simp only [settle]
        split
        · have hput : (states.put planned.resource planned.next).get? resource = some state := by
            rw [Table.get?_put, if_neg hmine]
            exact hstate
          rcases ih _ _ hput with ⟨hget, hmoves⟩
          refine ⟨hget, ?_⟩
          simp only
          split
          · simp only [List.filter_cons, hmine, decide_false, Bool.false_eq_true, if_false, hmoves]
          · exact hmoves
        · exact ih states state hstate

/-- Every transition is one of a planned barrier that was to be settled, on the
    resource that backs its name. -/
theorem of_mem_settle (backings : Table String Backing) (barriers : List PlannedBarrier)
    (states : Table String ResourceState) :
    ∀ transition ∈ (settle backings barriers states).2, transition.planned ∈ barriers
      ∧ backings.get? transition.planned.resource = some transition.backing := by
  induction barriers generalizing states with
  | nil =>
      intro transition hmem
      exact absurd hmem List.not_mem_nil
  | cons planned rest ih =>
      have hlater (states : Table String ResourceState) (transition : Transition)
          (hmem : transition ∈ (settle backings rest states).2) :
          transition.planned ∈ planned :: rest
            ∧ backings.get? transition.planned.resource = some transition.backing :=
        ⟨List.mem_cons_of_mem _ (ih states transition hmem).1, (ih states transition hmem).2⟩
      intro transition hmem
      simp only [settle] at hmem
      split at hmem
      · next hbacking _ =>
          simp only at hmem
          split at hmem
          · rcases List.mem_cons.mp hmem with rfl | hmem
            · exact ⟨List.mem_cons_self, hbacking⟩
            · exact hlater _ transition hmem
          · exact hlater _ transition hmem
      · exact hlater _ transition hmem

theorem planned_mem_of_mem_settle (backings : Table String Backing)
    (barriers : List PlannedBarrier) (states : Table String ResourceState) :
    ∀ transition ∈ (settle backings barriers states).2, transition.planned ∈ barriers :=
  fun transition hmem => (of_mem_settle backings barriers states transition hmem).1

end FrameGraph
