import FrameGraph.Proofs.Batches
import FrameGraph.Proofs.Scope
import FrameGraph.Proofs.Tracking

/-!
# The Window of a Barrier

A barrier has to wait for everything since the barrier before it, and the
planner does not remember what that was: it keeps one state for a resource,
into which the uses have been merged. This module gives the uses back. The
window of a resource at some point of the order is what the passes asked of
it from the one that holds its latest barrier on, and the state the planner
keeps is the union of the window, in the one layout all of it has.

The window is read off the plan and the state off the planner, and
`Track.Summarises` is the relation between the two. One use preserves it,
whether it gets a barrier and starts a new window, is merged as a reader, or
goes on in the render pass of the use before it. The batch that the planner
remembers needs an invariant of its own, since what is merged is not only
reads: `Compiled.Knows` adds that the batch and the layout are those of the
last user. With both, the rule for a barrier can be stated without the
planner.

## Main definitions

* `Compiled.usersOf`: The passes that use a resource, with what they ask.
* `Compiled.window`: The uses since the latest barrier.
* `Compiled.Continues`: A use goes on in the render pass of the last one.
* `Track.Summarises`: A state of the planner is the union of a window.
* `Compiled.Knows`: What the planner knows after some passes.

## Theorems

* `Track.summarises_first`, `Track.summarises_after`: One use preserves the
  relation.
* `Track.needsBarrier_iff`: When a use needs a barrier, said of the window.
* `compile_staysAttached_iff`: When the planner spares a use its barrier.
* `compile_knows_first`, `compile_knows_after`, `compile_knows`: What is known
  along the order.
* `compile_barrier_of_track`, `compile_changes_ne_nil_iff`: Which barrier a
  use gets, and when it gets one.
* `compile_window`: The law of the window.
-/

namespace FrameGraph

open Gpu

theorem Demand.renderPass_eq_some_iff (demand : Demand) (batch : Option Nat) (number : Nat) :
    demand.renderPass batch = some number ↔ demand.attachment = true ∧ batch = some number := by
  unfold renderPass
  split
  · next hattachment => simp only [hattachment, true_and]
  · next hattachment => simp only [hattachment, reduceCtorEq, false_and, Bool.false_eq_true]

namespace Track

/-- A state of the planner is the union of the uses in a window, all of
    which have its layout. -/
structure Summarises (track : Track) (window : List Demand) : Prop where
  nonempty : window ≠ []
  layout : ∀ use ∈ window, use.state.layout = track.state.layout
  scope : track.state.toScope = Scope.unionAll (window.map fun use => use.state.toScope)

/-- The first use is a window. -/
theorem summarises_first (demand : Demand) (batch : Option Nat) :
    (Track.first demand batch).Summarises [demand] where
  nonempty := List.cons_ne_nil demand []
  layout := by
    intro use huse
    rw [List.mem_singleton.mp huse]
    rfl
  scope := by
    rw [List.map_singleton, Scope.unionAll_singleton]
    rfl

/-- The state writes if some use of the window does. -/
theorem Summarises.writes_iff {track : Track} {window : List Demand}
    (h : track.Summarises window) :
    track.state.writes = true ↔ ∃ use ∈ window, use.state.writes = true := by
  unfold ResourceState.writes
  rw [h.scope, Scope.writes_unionAll]
  constructor
  · rintro ⟨scope, hscope, hwrites⟩
    rcases List.mem_map.mp hscope with ⟨use, huse, rfl⟩
    exact ⟨use, huse, hwrites⟩
  · rintro ⟨use, huse, hwrites⟩
    exact ⟨_, List.mem_map.mpr ⟨use, huse, rfl⟩, hwrites⟩

/-- The state includes every use of the window. -/
theorem Summarises.includes {track : Track} {window : List Demand}
    (h : track.Summarises window) {use : Demand} (huse : use ∈ window) :
    track.state.Includes use.state.toScope := by
  rw [h.scope]
  exact Scope.includes_unionAll _ _ (List.mem_map.mpr ⟨use, huse, rfl⟩)

theorem staysAttached_iff (track : Track) (demand : Demand) (batch : Option Nat) :
    track.staysAttached demand batch = true
      ↔ (∃ number, demand.renderPass batch = some number ∧ track.batch = some number)
        ∧ track.state.layout = demand.state.layout := by
  unfold staysAttached
  rw [Bool.and_eq_true, Bool.and_eq_true, decide_eq_true_eq, decide_eq_true_eq,
    Option.isSome_iff_exists]
  refine and_congr_left ?_
  intro _
  constructor
  · rintro ⟨⟨number, hnumber⟩, hsame⟩
    exact ⟨number, hnumber, hsame.trans hnumber⟩
  · rintro ⟨number, hnumber, hsame⟩
    exact ⟨⟨number, hnumber⟩, hsame.trans hnumber.symm⟩

/-- A use that does not stay attached needs a barrier if it has another
    layout than the window, or if it or some use of the window writes. -/
theorem needsBarrier_iff {track : Track} {window : List Demand} (h : track.Summarises window)
    (demand : Demand) (batch : Option Nat) :
    track.needsBarrier demand batch = true
      ↔ ¬ track.staysAttached demand batch = true
        ∧ (demand.state.layout ≠ track.state.layout
          ∨ ∃ use ∈ demand :: window, use.state.writes = true) := by
  have hexists : (∃ use ∈ demand :: window, use.state.writes = true)
      ↔ demand.state.writes = true ∨ track.state.writes = true := by
    rw [h.writes_iff]
    simp only [List.mem_cons, or_and_right, exists_or, exists_eq_left]
  rw [hexists]
  unfold needsBarrier ResourceState.needsBarrier
  rw [Bool.and_eq_true, Bool.not_eq_true', Bool.not_eq_true, Bool.or_eq_true, Bool.or_eq_true,
    bne_iff_ne, or_assoc, ne_comm, or_comm (a := track.state.writes = true)]

/-- A use without a barrier has the layout of the window. -/
theorem layout_of_not_needsBarrier {track : Track} {demand : Demand} {batch : Option Nat}
    (h : track.needsBarrier demand batch = false) :
    demand.state.layout = track.state.layout := by
  unfold needsBarrier ResourceState.needsBarrier at h
  rw [Bool.and_eq_false_iff, Bool.not_eq_false'] at h
  rcases h with hstays | hstate
  · unfold staysAttached at hstays
    rw [Bool.and_eq_true, decide_eq_true_eq] at hstays
    exact hstays.2.symm
  · rw [Bool.or_eq_false_iff, Bool.or_eq_false_iff, bne_eq_false_iff_eq] at hstate
    exact hstate.1.1.symm

/-- One more use. A barrier starts a new window, and without one the use
    belongs to the window that is there. -/
theorem summarises_after {track : Track} {window : List Demand} (h : track.Summarises window)
    (demand : Demand) (batch : Option Nat) :
    (track.after demand batch).Summarises
      (if track.needsBarrier demand batch then [demand] else window ++ [demand]) := by
  cases hneeds : track.needsBarrier demand batch with
  | true =>
      have hstate : (track.after demand batch).state = demand.state := by
        unfold after
        rw [if_pos hneeds]
      rw [if_pos rfl]
      refine ⟨List.cons_ne_nil demand [], ?_, ?_⟩
      · intro use huse
        rw [List.mem_singleton.mp huse, hstate]
      · rw [hstate, List.map_singleton, Scope.unionAll_singleton]
  | false =>
      -- Without a barrier the layouts agree, so the union keeps the one layout.
      have hlayout := layout_of_not_needsBarrier hneeds
      have hstate : (track.after demand batch).state = track.state.mergeReader demand.state := by
        unfold after
        rw [if_neg (Bool.not_eq_true _ ▸ hneeds)]
      rw [if_neg Bool.false_ne_true]
      refine ⟨List.append_ne_nil_of_left_ne_nil h.nonempty _, ?_, ?_⟩
      · intro use huse
        rw [hstate]
        rcases List.mem_append.mp huse with hold | hnew
        · exact h.layout use hold
        · rw [List.mem_singleton.mp hnew]
          exact hlayout
      · rw [hstate, List.map_append, List.map_singleton, Scope.unionAll_append, ← h.scope]
        rfl

end Track

namespace Compiled

variable (compiled : Compiled)

/-- The passes that use a resource, each with what it asks of it. -/
def usersOf (resource : String) (passes : List Pass) : List (Pass × Demand) :=
  passes.filterMap fun pass => (compiled.demand? pass resource).map fun demand => (pass, demand)

/-- The window after one more user, which starts a new one if it holds a
    barrier on the resource. -/
def windowStep (resource : String) (window : List Demand) (user : Pass × Demand) : List Demand :=
  if compiled.plan.changes user.1.index resource = [] then window ++ [user.2] else [user.2]

/-- What the passes asked of a resource, from the one that holds its latest
    barrier on. The first user counts as one that does: its entry is a
    barrier. -/
def window (resource : String) (before : List Pass) : List Demand :=
  (compiled.usersOf resource before).foldl (compiled.windowStep resource) []

/-- A use goes on in the render pass of the last one: both are attachments in
    one layout, of passes of one batch. -/
def Continues (resource : String) (before : List Pass) (pass : Pass) (demand : Demand) : Prop :=
  ∃ last, (compiled.usersOf resource before).getLast? = some last
    ∧ last.2.attachment = true ∧ demand.attachment = true
    ∧ compiled.SameBatch last.1 pass ∧ last.2.state.layout = demand.state.layout

/-- What the planner knows of a resource after some passes that use it: the
    union of the window, and batch and layout of the last user. -/
structure Knows (resource : String) (before : List Pass) (track : Track) : Prop where
  window : track.Summarises (compiled.window resource before)
  last : ∃ last, (compiled.usersOf resource before).getLast? = some last
    ∧ track.state.layout = last.2.state.layout
    ∧ track.batch = last.2.renderPass (batchOf compiled.batches last.1.index)

theorem usersOf_append (resource : String) (first second : List Pass) :
    compiled.usersOf resource (first ++ second)
      = compiled.usersOf resource first ++ compiled.usersOf resource second :=
  List.filterMap_append

theorem usersOf_singleton {resource : String} {pass : Pass} {demand : Demand}
    (h : compiled.demand? pass resource = some demand) :
    compiled.usersOf resource [pass] = [(pass, demand)] := by
  unfold usersOf
  rw [List.filterMap_cons, h]
  rfl

theorem usersOf_singleton_none {resource : String} {pass : Pass}
    (h : compiled.demand? pass resource = none) : compiled.usersOf resource [pass] = [] := by
  unfold usersOf
  rw [List.filterMap_cons, h]
  rfl

theorem mem_usersOf_iff (resource : String) (passes : List Pass) (user : Pass × Demand) :
    user ∈ compiled.usersOf resource passes
      ↔ user.1 ∈ passes ∧ compiled.demand? user.1 resource = some user.2 := by
  unfold usersOf
  rw [List.mem_filterMap]
  constructor
  · rintro ⟨pass, hpass, hsome⟩
    rcases Option.map_eq_some_iff.mp hsome with ⟨demand, hdemand, rfl⟩
    exact ⟨hpass, hdemand⟩
  · rintro ⟨hpass, hdemand⟩
    exact ⟨user.1, hpass, Option.map_eq_some_iff.mpr ⟨user.2, hdemand, rfl⟩⟩

/-- A pass that does not use the resource leaves the window alone. -/
theorem window_append_none {resource : String} {pass : Pass} (before : List Pass)
    (h : compiled.demand? pass resource = none) :
    compiled.window resource (before ++ [pass]) = compiled.window resource before := by
  unfold window
  rw [usersOf_append, usersOf_singleton_none compiled h, List.append_nil]

theorem window_append {resource : String} {pass : Pass} {demand : Demand} (before : List Pass)
    (h : compiled.demand? pass resource = some demand) :
    compiled.window resource (before ++ [pass])
      = compiled.windowStep resource (compiled.window resource before) (pass, demand) := by
  unfold window
  rw [usersOf_append, usersOf_singleton compiled h, List.foldl_append]
  rfl

end Compiled
/-- The planner spares a use its barrier, whatever was written, exactly if it
    goes on in the render pass of the last one. -/
theorem compile_staysAttached_iff (passes : List Pass) (compiled : Compiled)
    (h : compile passes = .ok compiled) (resource : String) (before : List Pass)
    (hbefore : ∀ earlier ∈ before, earlier ∈ compiled.order) (track : Track)
    (hknows : compiled.Knows resource before track) (pass : Pass) (hpass : pass ∈ compiled.order)
    (demand : Demand) :
    track.staysAttached demand (Compiled.batchOf compiled.batches pass.index) = true
      ↔ compiled.Continues resource before pass demand := by
  rcases hknows.last with ⟨last, hlast, hlayout, hbatch⟩
  have hmem := (compiled.mem_usersOf_iff resource before last).mp (List.mem_of_getLast? hlast)
  have hsame := compile_sameBatch_iff passes compiled h last.1 pass (hbefore _ hmem.1) hpass
  -- What the planner remembers of the last use is its batch and its layout.
  rw [Track.staysAttached_iff, hbatch, hlayout]
  simp only [Demand.renderPass_eq_some_iff]
  constructor
  · rintro ⟨⟨number, ⟨hattached, hnumber⟩, hlastAttached, hlastNumber⟩, hlayouts⟩
    exact ⟨last, hlast, hlastAttached, hattached, hsame.mp (hlastNumber.trans hnumber.symm),
      hlayouts⟩
  · rintro ⟨other, hother, hlastAttached, hattached, hbatches, hlayouts⟩
    rw [hlast, Option.some.injEq] at hother
    subst hother
    rcases compile_batchOf passes compiled h pass hpass with ⟨batch, _, _, hnumber⟩
    exact ⟨⟨batch.index, ⟨hattached, hnumber⟩, hlastAttached,
      (hsame.mpr hbatches).trans hnumber⟩, hlayouts⟩

/-- The barriers a use gets after the first one: none, or one out of what was
    known, to what is asked. -/
theorem compile_changes_of_track (passes : List Pass) (compiled : Compiled)
    (h : compile passes = .ok compiled) (before : List Pass) (pass : Pass) (after : List Pass)
    (horder : compiled.order = before ++ pass :: after) (resource : String) (demand : Demand)
    (hdemand : compiled.demand? pass resource = some demand) (track : Track)
    (htrack : compiled.planning.trackOf resource before = some track) :
    compiled.plan.changes pass.index resource
      = if track.needsBarrier demand (Compiled.batchOf compiled.batches pass.index) then
          [⟨pass.index, resource, compiled.planning.isImage resource, track.state, demand.state,
            compiled.planning.aspect resource, false⟩]
        else [] := by
  rw [compile_changes passes compiled h before pass after horder resource, hdemand, htrack]
  simp only [Planning.callsFor]
  change List.filter _ (if track.needsBarrier demand (Compiled.batchOf compiled.batches pass.index)
    then _ else _) = _
  split
  · rfl
  · rfl

/-- Such a barrier is alone on its resource at its boundary. -/
theorem compile_barrier_of_track (passes : List Pass) (compiled : Compiled)
    (h : compile passes = .ok compiled) (before : List Pass) (pass : Pass) (after : List Pass)
    (horder : compiled.order = before ++ pass :: after) (resource : String) (demand : Demand)
    (hdemand : compiled.demand? pass resource = some demand) (track : Track)
    (htrack : compiled.planning.trackOf resource before = some track) :
    ∀ barrier ∈ compiled.plan.changes pass.index resource,
      compiled.plan.changes pass.index resource = [barrier]
      ∧ barrier.previous = track.state ∧ barrier.next = demand.state := by
  rw [compile_changes_of_track passes compiled h before pass after horder resource demand hdemand
    track htrack]
  intro barrier hbarrier
  split at hbarrier
  · next hneeds =>
      rw [if_pos hneeds]
      rw [List.mem_singleton] at hbarrier
      subst hbarrier
      exact ⟨rfl, rfl, rfl⟩
  · exact absurd hbarrier List.not_mem_nil

/-- The first user gets no barrier but its entry. -/
theorem compile_changes_of_first (passes : List Pass) (compiled : Compiled)
    (h : compile passes = .ok compiled) (before : List Pass) (pass : Pass) (after : List Pass)
    (horder : compiled.order = before ++ pass :: after) (resource : String) (demand : Demand)
    (hdemand : compiled.demand? pass resource = some demand)
    (htrack : compiled.planning.trackOf resource before = none) :
    compiled.plan.changes pass.index resource = [] := by
  rw [compile_changes passes compiled h before pass after horder resource, hdemand, htrack]
  rfl

/-- After the first user, its own use is the window. -/
theorem compile_knows_first (passes : List Pass) (compiled : Compiled)
    (h : compile passes = .ok compiled) (before : List Pass) (pass : Pass) (after : List Pass)
    (horder : compiled.order = before ++ pass :: after) (resource : String) (demand : Demand)
    (hdemand : compiled.demand? pass resource = some demand)
    (husers : compiled.usersOf resource before = [])
    (htrack : compiled.planning.trackOf resource before = none) :
    ∃ track, compiled.planning.trackOf resource (before ++ [pass]) = some track
      ∧ compiled.Knows resource (before ++ [pass]) track := by
  have hplanned : compiled.planning.demand? pass resource = some demand := hdemand
  have hstep := compiled.planning.trackOf_append resource before pass
  rw [hplanned, htrack] at hstep
  have hchanges := compile_changes_of_first passes compiled h before pass after horder resource
    demand hdemand htrack
  refine ⟨_, hstep, ?_, (pass, demand), ?_, rfl, rfl⟩
  · rw [compiled.window_append before hdemand, Compiled.windowStep, if_pos hchanges,
      Compiled.window, husers]
    exact Track.summarises_first demand _
  · rw [compiled.usersOf_append, compiled.usersOf_singleton hdemand, List.getLast?_concat]

/-- One more user moves the window and what is known alike. -/
theorem compile_knows_after (passes : List Pass) (compiled : Compiled)
    (h : compile passes = .ok compiled) (before : List Pass) (pass : Pass) (after : List Pass)
    (horder : compiled.order = before ++ pass :: after) (resource : String) (demand : Demand)
    (hdemand : compiled.demand? pass resource = some demand) (track : Track)
    (htrack : compiled.planning.trackOf resource before = some track)
    (hknows : compiled.Knows resource before track) :
    ∃ track, compiled.planning.trackOf resource (before ++ [pass]) = some track
      ∧ compiled.Knows resource (before ++ [pass]) track := by
  have hplanned : compiled.planning.demand? pass resource = some demand := hdemand
  have hstep := compiled.planning.trackOf_append resource before pass
  rw [hplanned, htrack] at hstep
  have hchanges := compile_changes_of_track passes compiled h before pass after horder resource
    demand hdemand track htrack
  have hafter := Track.summarises_after hknows.window demand
    (Compiled.batchOf compiled.batches pass.index)
  refine ⟨_, hstep, ?_, (pass, demand), ?_, ?_, rfl⟩
  · rw [compiled.window_append before hdemand, Compiled.windowStep, hchanges]
    -- The window starts anew exactly where the planner plans a barrier.
    cases hneeds : track.needsBarrier demand
        (Compiled.batchOf compiled.batches pass.index) with
    | true =>
        rw [hneeds] at hafter
        exact hafter
    | false =>
        rw [hneeds] at hafter
        exact hafter
  · rw [compiled.usersOf_append, compiled.usersOf_singleton hdemand, List.getLast?_concat]
  · -- The layout is that of the use, which is the last of its window.
    refine (hafter.layout demand ?_).symm
    split
    · exact List.mem_singleton_self demand
    · exact List.mem_append_right _ (List.mem_singleton_self demand)

/-- What is known along the order: nothing before the first user, and the
    window with the last user after it. The induction is on the passes walked,
    from the last one. -/
theorem compile_knows (passes : List Pass) (compiled : Compiled)
    (h : compile passes = .ok compiled) (resource : String) (before after : List Pass)
    (horder : compiled.order = before ++ after) :
    (compiled.usersOf resource before = []
        ∧ compiled.planning.trackOf resource before = none)
      ∨ ∃ track, compiled.planning.trackOf resource before = some track
        ∧ compiled.Knows resource before track := by
  induction before using List.reverseRecOn generalizing after with
  | nil => exact Or.inl ⟨rfl, rfl⟩
  | append_singleton before pass ih =>
      have horder' : compiled.order = before ++ pass :: after := by
        rw [horder, List.append_assoc]
        rfl
      cases hdemand : compiled.demand? pass resource with
      | none =>
          -- Neither the window nor the planner moves.
          have hplanned : compiled.planning.demand? pass resource = none := hdemand
          have hstep := compiled.planning.trackOf_append resource before pass
          rw [hplanned] at hstep
          have husers : compiled.usersOf resource (before ++ [pass])
              = compiled.usersOf resource before := by
            rw [compiled.usersOf_append, compiled.usersOf_singleton_none hdemand, List.append_nil]
          rw [husers, hstep]
          rcases ih (pass :: after) horder' with hnone | ⟨track, htrack, hknows⟩
          · exact Or.inl hnone
          · refine Or.inr ⟨track, htrack, ?_, ?_⟩
            · rw [compiled.window_append_none before hdemand]
              exact hknows.window
            · rw [husers]
              exact hknows.last
      | some demand =>
          right
          rcases ih (pass :: after) horder' with ⟨husers, htrack⟩ | ⟨track, htrack, hknows⟩
          · exact compile_knows_first passes compiled h before pass after horder' resource demand
              hdemand husers htrack
          · exact compile_knows_after passes compiled h before pass after horder' resource demand
              hdemand track htrack hknows

/-- A use after the first gets a barrier exactly if it does not go on in the
    render pass of the last one and either changes the layout or something in
    the window or the use itself writes. -/
theorem compile_changes_ne_nil_iff (passes : List Pass) (compiled : Compiled)
    (h : compile passes = .ok compiled) (before : List Pass) (pass : Pass) (after : List Pass)
    (horder : compiled.order = before ++ pass :: after) (resource : String) (demand : Demand)
    (hdemand : compiled.demand? pass resource = some demand) (track : Track)
    (htrack : compiled.planning.trackOf resource before = some track)
    (hknows : compiled.Knows resource before track) :
    compiled.plan.changes pass.index resource ≠ []
      ↔ ¬ compiled.Continues resource before pass demand
        ∧ (demand.state.layout ≠ track.state.layout
          ∨ ∃ use ∈ demand :: compiled.window resource before, use.state.writes = true) := by
  have hbefore : ∀ earlier ∈ before, earlier ∈ compiled.order := by
    intro earlier hmem
    rw [horder]
    exact List.mem_append_left _ hmem
  have hpass : pass ∈ compiled.order := by
    rw [horder]
    exact List.mem_append_right _ List.mem_cons_self
  have hneeds := Track.needsBarrier_iff hknows.window demand
    (Compiled.batchOf compiled.batches pass.index)
  rw [compile_staysAttached_iff passes compiled h resource before hbefore track hknows pass hpass
    demand] at hneeds
  rw [← hneeds, compile_changes_of_track passes compiled h before pass after horder resource
    demand hdemand track htrack]
  split
  · next hstands => simp only [hstands, ne_eq, reduceCtorEq, not_false_eq_true]
  · next hstands => simp only [hstands, ne_eq, not_true_eq_false, Bool.false_eq_true]

/-- The law of the window. The first user of a resource gets no barrier but
    its entry. Every later one finds a window of uses in one layout, and gets
    a barrier exactly if it does not go on in the render pass of the last one
    and either asks for another layout or something in the window or its own
    use writes. It is one barrier, out of the union of the window in its
    layout, to what the pass asks. So whoever writes waits for every use
    since the barrier before. -/
theorem compile_window (passes : List Pass) (compiled : Compiled)
    (h : compile passes = .ok compiled) (before : List Pass) (pass : Pass) (after : List Pass)
    (horder : compiled.order = before ++ pass :: after) (resource : String) (demand : Demand)
    (hdemand : compiled.demand? pass resource = some demand) :
    (compiled.usersOf resource before = [] → compiled.plan.changes pass.index resource = [])
    ∧ (compiled.usersOf resource before ≠ [] →
        ∃ layout, compiled.window resource before ≠ []
          ∧ (∀ use ∈ compiled.window resource before, use.state.layout = layout)
          ∧ (compiled.plan.changes pass.index resource ≠ []
              ↔ ¬ compiled.Continues resource before pass demand
                ∧ (demand.state.layout ≠ layout
                  ∨ ∃ use ∈ demand :: compiled.window resource before, use.state.writes = true))
          ∧ (∀ barrier ∈ compiled.plan.changes pass.index resource,
              compiled.plan.changes pass.index resource = [barrier]
              ∧ barrier.previous.toScope
                = Scope.unionAll ((compiled.window resource before).map fun use =>
                    use.state.toScope)
              ∧ barrier.previous.layout = layout
              ∧ barrier.next = demand.state)
          ∧ (demand.state.writes = true → ¬ compiled.Continues resource before pass demand →
              ∃ barrier ∈ compiled.plan.changes pass.index resource,
                ∀ use ∈ compiled.window resource before,
                  barrier.previous.Includes use.state.toScope)) := by
  -- Either nothing is known of the resource yet, or the window is.
  rcases compile_knows passes compiled h resource before (pass :: after) horder
    with ⟨hnone, htrack⟩ | ⟨track, htrack, hknows⟩
  · refine ⟨?_, fun hsome => absurd hnone hsome⟩
    intro _
    exact compile_changes_of_first passes compiled h before pass after horder resource demand
      hdemand htrack
  · have hstands := compile_changes_ne_nil_iff passes compiled h before pass after horder
      resource demand hdemand track htrack hknows
    have hbarrier := compile_barrier_of_track passes compiled h before pass after horder
      resource demand hdemand track htrack
    constructor
    · intro hnone
      rcases hknows.last with ⟨last, hlast, _⟩
      rw [hnone] at hlast
      exact absurd hlast.symm (Option.some_ne_none last)
    · intro _
      refine ⟨track.state.layout, hknows.window.nonempty, hknows.window.layout, hstands, ?_, ?_⟩
      · intro barrier hmem
        rcases hbarrier barrier hmem with ⟨hone, hprevious, hnext⟩
        rw [hprevious]
        exact ⟨hone, hknows.window.scope, rfl, hnext⟩
      · intro hwrites hseparate
        have hne := hstands.mpr ⟨hseparate, Or.inr ⟨demand, List.mem_cons_self, hwrites⟩⟩
        rcases List.exists_mem_of_ne_nil _ hne with ⟨barrier, hmem⟩
        rcases hbarrier barrier hmem with ⟨_, hprevious, _⟩
        refine ⟨barrier, hmem, ?_⟩
        intro use huse
        rw [hprevious]
        exact hknows.window.includes huse

/-- An image is drawn, sampled in two stages, and copied. -/
def sampledThenCopied : List Pass := [
  ⟨0, "draw", .graphics,
    [Usage.attachment .colorAttachment "color" LoadOp.clear StoreOp.store]⟩,
  ⟨1, "light", .graphics, [Usage.plain .read .sampledImage "color"]⟩,
  ⟨2, "blur", .compute, [Usage.plain .read .sampledImage "color"]⟩,
  ⟨3, "copy", .transfer, [Usage.plain .read .transferSource "color"]⟩]

/-- The copy waits for both readers, though only one of them has a barrier. -/
theorem compile_window_copied :
    ∃ compiled, compile sampledThenCopied = .ok compiled
      ∧ compiled.window "color" (sampledThenCopied.take 3)
        = [⟨ImageState.shaderReadFragment, false⟩, ⟨ImageState.shaderReadCompute, false⟩]
      ∧ ∃ barrier, compiled.plan.changes 3 "color" = [barrier]
        ∧ barrier.previous.toScope
          = ImageState.shaderReadFragment.toScope.union ImageState.shaderReadCompute.toScope
        ∧ barrier.next = ImageState.transferSource := by
  have hcompile : compile sampledThenCopied = .ok (Compiled.ofOrder sampledThenCopied) := by rfl
  have hwindow : (Compiled.ofOrder sampledThenCopied).window "color" (sampledThenCopied.take 3)
      = [⟨ImageState.shaderReadFragment, false⟩, ⟨ImageState.shaderReadCompute, false⟩] := by rfl
  refine ⟨_, hcompile, hwindow, ?_⟩
  rcases (compile_window _ _ hcompile (sampledThenCopied.take 3) sampledThenCopied[3] [] rfl
    "color" ⟨ImageState.transferSource, false⟩ rfl).2 (by decide)
    with ⟨layout, _, hlayout, hstands, hbarrier, _⟩
  have hread := hlayout ⟨ImageState.shaderReadFragment, false⟩ (by rw [hwindow]; decide)
  have hne := hstands.mpr ⟨?_, Or.inl (by rw [← hread]; decide)⟩
  · rcases List.exists_mem_of_ne_nil _ hne with ⟨barrier, hmem⟩
    rcases hbarrier barrier hmem with ⟨hone, hscope, _, hnext⟩
    refine ⟨barrier, hone, ?_, hnext⟩
    rw [hscope, hwindow]
    rfl
  · rintro ⟨_, _, _, hattached, _⟩
    exact Bool.false_ne_true hattached

end FrameGraph
