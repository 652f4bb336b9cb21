import FrameGraph.Proofs.Window

/-!
# Which Uses a Barrier Covers

A barrier has two sides. What it waits for is the window, so a write is
always waited for by some barrier before the next use outside of its render
pass. What waits for it is only what the pass at its boundary asked. A
second reader in the same layout gets no barrier of its own, and the one of
the first reader is not widened for it: if the second reader runs in a stage
that the first one does not, nothing makes it wait for the write.

The exact condition does not mention the plan. `Compiled.Separates` says of a
use that it cannot join the ones before it, from what the passes ask alone,
and a later use is covered exactly if some pass since the write that
separates asked for at least as much. Whether something was written is
remembered over a whole window by the planner, yet it is enough to look back
through one render pass: a use that joined a window without a barrier, and
did not go on in a render pass, found nothing written in it.

## Main definitions

* `Compiled.WaitsFor`, `Compiled.Covers`: Some barrier at the boundaries of
  some passes has a scope on its first or on its second side.
* `Compiled.LeavesWritten`: The last use of a resource, or one it goes on
  from, writes.
* `Compiled.Separates`: A use cannot join the ones before it.
* `Compiled.Pending`: A use is still in the window.

## Theorems

* `compile_window_writes_iff`: The window writes if the last use leaves
  something written.
* `compile_changes_iff_separates`: A use gets a barrier if it separates.
* `compile_pending_step`, `compile_pending_run`: What was written is waited
  for, or stays pending within one render pass.
* `compile_waitsFor`: A write is always waited for.
* `compile_covers_iff`: When a scope waits for a barrier of some passes.
* `compile_covered_iff`: When a later use is covered.
* `compile_reader_uncovered`: Not every later use is.
-/

namespace FrameGraph

open Gpu

namespace Compiled

variable (compiled : Compiled)

/-- Some barrier on the resource before one of the passes waits for a
    scope. An entry waits for the frame before, and does not count. -/
def WaitsFor (resource : String) (passes : List Pass) (scope : Scope) : Prop :=
  ∃ pass ∈ passes, ∃ barrier ∈ compiled.plan.changes pass.index resource,
    barrier.previous.Includes scope

/-- A scope waits for some barrier on the resource before one of the
    passes. -/
def Covers (resource : String) (passes : List Pass) (scope : Scope) : Prop :=
  ∃ pass ∈ passes, ∃ barrier ∈ compiled.plan.changes pass.index resource,
    barrier.next.Includes scope

/-- The last use of a resource writes, or goes on in the render pass of one
    that leaves something written. -/
inductive LeavesWritten (resource : String) : List Pass → Prop
  | writes {before : List Pass} {pass : Pass} {demand : Demand}
      (hdemand : compiled.demand? pass resource = some demand)
      (hwrites : demand.state.writes = true) : LeavesWritten resource (before ++ [pass])
  | continues {before : List Pass} {pass : Pass} {demand : Demand}
      (hdemand : compiled.demand? pass resource = some demand)
      (hcontinues : compiled.Continues resource before pass demand)
      (hbefore : LeavesWritten resource before) : LeavesWritten resource (before ++ [pass])
  | skips {before : List Pass} {pass : Pass} (hnone : compiled.demand? pass resource = none)
      (hbefore : LeavesWritten resource before) : LeavesWritten resource (before ++ [pass])

/-- A use cannot join the ones before it: it does not go on in the render
    pass of the last one, and it changes the layout, writes, or comes after
    something written. -/
def Separates (resource : String) (before : List Pass) (pass : Pass) (demand : Demand) : Prop :=
  ¬ compiled.Continues resource before pass demand
  ∧ ∃ last, (compiled.usersOf resource before).getLast? = some last
    ∧ (demand.state.layout ≠ last.2.state.layout ∨ demand.state.writes = true
      ∨ compiled.LeavesWritten resource before)

/-- A use of a pass is still in the window, and only the batch of that pass
    goes on from it. -/
structure Pending (resource : String) (first : Pass) (use : Demand) (before : List Pass) :
    Prop where
  window : use ∈ compiled.window resource before
  last : ∃ last, (compiled.usersOf resource before).getLast? = some last
    ∧ (last.2.attachment = true → use.attachment = true ∧ compiled.SameBatch first last.1)

theorem not_leavesWritten_nil (resource : String) : ¬ compiled.LeavesWritten resource [] := by
  generalize hnil : ([] : List Pass) = passes
  intro h
  cases h <;> exact absurd hnil.symm (List.append_ne_nil_of_right_ne_nil _ (List.cons_ne_nil _ _))

/-- The three ways in which the last pass may leave something written. -/
theorem leavesWritten_append_iff (resource : String) (before : List Pass) (pass : Pass) :
    compiled.LeavesWritten resource (before ++ [pass])
      ↔ (compiled.demand? pass resource = none ∧ compiled.LeavesWritten resource before)
        ∨ ∃ demand, compiled.demand? pass resource = some demand
          ∧ (demand.state.writes = true
            ∨ compiled.Continues resource before pass demand
              ∧ compiled.LeavesWritten resource before) := by
  constructor
  · generalize hpasses : before ++ [pass] = passes
    intro h
    cases h with
    | writes hdemand hwrites =>
        rcases List.append_inj' hpasses rfl with ⟨_, hsame⟩
        rcases List.singleton_inj.mp hsame with rfl
        exact Or.inr ⟨_, hdemand, Or.inl hwrites⟩
    | continues hdemand hcontinues hbefore =>
        rcases List.append_inj' hpasses rfl with ⟨rfl, hsame⟩
        rcases List.singleton_inj.mp hsame with rfl
        exact Or.inr ⟨_, hdemand, Or.inr ⟨hcontinues, hbefore⟩⟩
    | skips hnone hbefore =>
        rcases List.append_inj' hpasses rfl with ⟨rfl, hsame⟩
        rcases List.singleton_inj.mp hsame with rfl
        exact Or.inl ⟨hnone, hbefore⟩
  · rintro (⟨hnone, hbefore⟩ | ⟨demand, hdemand, hwrites | ⟨hcontinues, hbefore⟩⟩)
    · exact LeavesWritten.skips hnone hbefore
    · exact LeavesWritten.writes hdemand hwrites
    · exact LeavesWritten.continues hdemand hcontinues hbefore

theorem leavesWritten_append {resource : String} {pass : Pass} {demand : Demand}
    (before : List Pass) (h : compiled.demand? pass resource = some demand) :
    compiled.LeavesWritten resource (before ++ [pass])
      ↔ demand.state.writes = true
        ∨ compiled.Continues resource before pass demand
          ∧ compiled.LeavesWritten resource before := by
  rw [leavesWritten_append_iff, h]
  simp only [reduceCtorEq, false_and, false_or, Option.some.injEq, exists_eq_left']

theorem leavesWritten_append_none {resource : String} {pass : Pass} (before : List Pass)
    (h : compiled.demand? pass resource = none) :
    compiled.LeavesWritten resource (before ++ [pass])
      ↔ compiled.LeavesWritten resource before := by
  rw [leavesWritten_append_iff, h]
  simp only [true_and, reduceCtorEq, false_and, exists_false, or_false]

theorem window_of_no_users {resource : String} {before : List Pass}
    (h : compiled.usersOf resource before = []) : compiled.window resource before = [] := by
  unfold window
  rw [h]
  rfl

end Compiled

/-- Whether something in the window writes can be told from the last use and
    the ones it goes on from. The induction is on the passes: a use without a
    barrier that does not go on found nothing written in the window. -/
theorem compile_window_writes_iff (passes : List Pass) (compiled : Compiled)
    (h : compile passes = .ok compiled) (resource : String) (before after : List Pass)
    (horder : compiled.order = before ++ after) :
    (∃ use ∈ compiled.window resource before, use.state.writes = true)
      ↔ compiled.LeavesWritten resource before := by
  induction before using List.reverseRecOn generalizing after with
  | nil =>
      constructor
      · rintro ⟨use, huse, _⟩
        exact absurd huse List.not_mem_nil
      · intro hwritten
        exact absurd hwritten (compiled.not_leavesWritten_nil resource)
  | append_singleton before pass ih =>
      have horder' : compiled.order = before ++ pass :: after := by
        rw [horder, List.append_assoc]
        rfl
      have ih := ih (pass :: after) horder'
      cases hdemand : compiled.demand? pass resource with
      | none =>
          rw [compiled.window_append_none before hdemand,
            compiled.leavesWritten_append_none before hdemand]
          exact ih
      | some demand =>
          rw [compiled.window_append before hdemand, compiled.leavesWritten_append before hdemand]
          unfold Compiled.windowStep
          rcases compile_knows passes compiled h resource before (pass :: after) horder'
            with ⟨hnone, htrack⟩ | ⟨track, htrack, hknows⟩
          · -- The first use writes by itself or not at all.
            have hwindow := compiled.window_of_no_users hnone
            rw [hwindow] at ih
            rw [← ih, compile_changes_of_first passes compiled h before pass after horder'
              resource demand hdemand htrack, if_pos rfl, hwindow]
            simp only [List.nil_append, List.mem_singleton, exists_eq_left, List.not_mem_nil,
              false_and, exists_false, and_false, or_false]
          · have hstands := compile_changes_ne_nil_iff passes compiled h before pass after horder'
              resource demand hdemand track htrack hknows
            split
            · next hnil =>
                -- No barrier: the use goes on, or nothing in the window writes.
                rw [hnil] at hstands
                simp only [ne_eq, not_true_eq_false, false_iff, not_and, not_or] at hstands
                simp only [List.mem_append, List.mem_singleton, or_and_right, exists_or,
                  exists_eq_left]
                rw [ih, or_comm]
                refine or_congr_right ?_
                constructor
                · intro hwritten
                  refine ⟨?_, hwritten⟩
                  by_contra hnot
                  rcases ih.mpr hwritten with ⟨use, huse, hwrites⟩
                  exact (hstands hnot).2 ⟨use, List.mem_cons_of_mem _ huse, hwrites⟩
                · exact And.right
            · next hne =>
                -- A barrier: the window is the use, which goes on from nothing.
                have hnot := (hstands.mp hne).1
                simp only [List.mem_singleton, exists_eq_left, hnot, false_and, or_false]

/-- A use gets a barrier exactly if it separates. -/
theorem compile_changes_iff_separates (passes : List Pass) (compiled : Compiled)
    (h : compile passes = .ok compiled) (before : List Pass) (pass : Pass) (after : List Pass)
    (horder : compiled.order = before ++ pass :: after) (resource : String) (demand : Demand)
    (hdemand : compiled.demand? pass resource = some demand) :
    compiled.plan.changes pass.index resource ≠ []
      ↔ compiled.Separates resource before pass demand := by
  unfold Compiled.Separates
  rcases compile_knows passes compiled h resource before (pass :: after) horder
    with ⟨hnone, htrack⟩ | ⟨track, htrack, hknows⟩
  · rw [compile_changes_of_first passes compiled h before pass after horder resource demand
      hdemand htrack, hnone]
    simp only [ne_eq, not_true_eq_false, List.getLast?_nil, reduceCtorEq, false_and,
      exists_false, and_false]
  · rcases hknows.last with ⟨last, hlast, hlayout, _⟩
    rw [compile_changes_ne_nil_iff passes compiled h before pass after horder resource demand
      hdemand track htrack hknows, hlast, hlayout,
      ← compile_window_writes_iff passes compiled h resource before (pass :: after) horder]
    simp only [List.mem_cons, or_and_right, exists_or, exists_eq_left, Option.some.injEq,
      exists_eq_left']

/-- A barrier leads to what its pass asks. -/
theorem compile_barrier_next (passes : List Pass) (compiled : Compiled)
    (h : compile passes = .ok compiled) (before : List Pass) (pass : Pass) (after : List Pass)
    (horder : compiled.order = before ++ pass :: after) (resource : String) (demand : Demand)
    (hdemand : compiled.demand? pass resource = some demand) :
    ∀ barrier ∈ compiled.plan.changes pass.index resource, barrier.next = demand.state := by
  intro barrier hbarrier
  rcases compile_knows passes compiled h resource before (pass :: after) horder
    with ⟨_, htrack⟩ | ⟨track, htrack, _⟩
  · rw [compile_changes_of_first passes compiled h before pass after horder resource demand
      hdemand htrack] at hbarrier
    exact absurd hbarrier List.not_mem_nil
  · exact (compile_barrier_of_track passes compiled h before pass after horder resource demand
      hdemand track htrack barrier hbarrier).2.2

/-- A scope waits for a barrier of a pass exactly if the pass separates and
    asks for at least as much. -/
theorem compile_covers_singleton_iff (passes : List Pass) (compiled : Compiled)
    (h : compile passes = .ok compiled) (before : List Pass) (pass : Pass) (after : List Pass)
    (horder : compiled.order = before ++ pass :: after) (resource : String) (scope : Scope) :
    compiled.Covers resource [pass] scope
      ↔ ∃ demand, compiled.demand? pass resource = some demand
        ∧ compiled.Separates resource before pass demand ∧ demand.state.Includes scope := by
  unfold Compiled.Covers
  simp only [List.mem_singleton, exists_eq_left]
  cases hdemand : compiled.demand? pass resource with
  | none =>
      have hnil := compile_changes passes compiled h before pass after horder resource
      rw [hdemand] at hnil
      rw [hnil]
      simp only [List.not_mem_nil, false_and, exists_false, reduceCtorEq]
  | some demand =>
      have hseparates := compile_changes_iff_separates passes compiled h before pass after horder
        resource demand hdemand
      have hnext := compile_barrier_next passes compiled h before pass after horder resource
        demand hdemand
      simp only [Option.some.injEq, exists_eq_left']
      constructor
      · rintro ⟨barrier, hbarrier, hincludes⟩
        rw [hnext barrier hbarrier] at hincludes
        exact ⟨hseparates.mp (List.ne_nil_of_mem hbarrier), hincludes⟩
      · rintro ⟨hseparate, hincludes⟩
        rcases List.exists_mem_of_ne_nil _ (hseparates.mpr hseparate) with ⟨barrier, hbarrier⟩
        refine ⟨barrier, hbarrier, ?_⟩
        rw [hnext barrier hbarrier]
        exact hincludes

/-- A use is pending right after its pass. -/
theorem compile_pending_first (passes : List Pass) (compiled : Compiled)
    (h : compile passes = .ok compiled) (before : List Pass) (first : Pass) (after : List Pass)
    (horder : compiled.order = before ++ first :: after) (resource : String) (use : Demand)
    (huse : compiled.demand? first resource = some use) :
    compiled.Pending resource first use (before ++ [first]) := by
  have hfirst : first ∈ compiled.order := by
    rw [horder]
    exact List.mem_append_right _ List.mem_cons_self
  refine ⟨?_, (first, use), ?_, ?_⟩
  · rw [compiled.window_append before huse, Compiled.windowStep]
    split
    · exact List.mem_append_right _ (List.mem_singleton_self use)
    · exact List.mem_singleton_self use
  · rw [compiled.usersOf_append, compiled.usersOf_singleton huse, List.getLast?_concat]
  · intro hattached
    exact ⟨hattached, compile_sameBatch_refl passes compiled h first hfirst⟩

/-- A pass that does not use the resource leaves a use pending. -/
theorem Compiled.Pending.skip {compiled : Compiled} {resource : String} {first : Pass}
    {use : Demand} {before : List Pass} (hpending : compiled.Pending resource first use before)
    (pass : Pass) (hnone : compiled.demand? pass resource = none) :
    compiled.Pending resource first use (before ++ [pass]) := by
  refine ⟨?_, ?_⟩
  · rw [compiled.window_append_none before hnone]
    exact hpending.window
  · rw [compiled.usersOf_append, compiled.usersOf_singleton_none hnone, List.append_nil]
    exact hpending.last

/-- One more user either waits for a pending write, or goes on in the render
    pass of the pass that made it. -/
theorem compile_pending_step (passes : List Pass) (compiled : Compiled)
    (h : compile passes = .ok compiled) (before : List Pass) (pass : Pass) (after : List Pass)
    (horder : compiled.order = before ++ pass :: after) (resource : String) (demand : Demand)
    (hdemand : compiled.demand? pass resource = some demand) (first : Pass) (use : Demand)
    (hpending : compiled.Pending resource first use before)
    (hwrites : use.state.writes = true) :
    (∃ barrier ∈ compiled.plan.changes pass.index resource,
        barrier.previous.Includes use.state.toScope)
      ∨ compiled.Pending resource first use (before ++ [pass])
        ∧ use.attachment = true ∧ demand.attachment = true ∧ compiled.SameBatch first pass := by
  rcases compile_knows passes compiled h resource before (pass :: after) horder
    with ⟨hnone, _⟩ | ⟨track, htrack, hknows⟩
  · have hwindow := hpending.window
    rw [compiled.window_of_no_users hnone] at hwindow
    exact absurd hwindow List.not_mem_nil
  · by_cases hchanges : compiled.plan.changes pass.index resource = []
    · right
      -- Something in the window writes, so only going on spares the barrier.
      have hcontinues : compiled.Continues resource before pass demand := by
        by_contra hnot
        refine (compile_changes_ne_nil_iff passes compiled h before pass after horder resource
          demand hdemand track htrack hknows).mpr ⟨hnot, Or.inr ?_⟩ hchanges
        exact ⟨use, List.mem_cons_of_mem _ hpending.window, hwrites⟩
      -- The last user is of the batch of the write, so this one is too.
      rcases hcontinues with ⟨last, hlast, hlastAttached, hattached, hbatch, _⟩
      rcases hpending.last with ⟨other, hother, hfrom⟩
      rw [hlast, Option.some.injEq] at hother
      subst hother
      rcases hfrom hlastAttached with ⟨huseAttached, hfirstBatch⟩
      have hsame := compile_sameBatch_trans passes compiled h hfirstBatch hbatch
      refine ⟨⟨?_, (pass, demand), ?_, fun _ => ⟨huseAttached, hsame⟩⟩, huseAttached, hattached,
        hsame⟩
      · rw [compiled.window_append before hdemand, Compiled.windowStep, if_pos hchanges]
        exact List.mem_append_left _ hpending.window
      · rw [compiled.usersOf_append, compiled.usersOf_singleton hdemand, List.getLast?_concat]
    · left
      rcases List.exists_mem_of_ne_nil _ hchanges with ⟨barrier, hbarrier⟩
      rcases compile_barrier_of_track passes compiled h before pass after horder resource demand
        hdemand track htrack barrier hbarrier with ⟨_, hprevious, _⟩
      refine ⟨barrier, hbarrier, ?_⟩
      rw [hprevious]
      exact hknows.window.includes hpending.window

/-- Along some passes, a write is waited for or stays pending. -/
theorem compile_pending_run (passes : List Pass) (compiled : Compiled)
    (h : compile passes = .ok compiled) (before rest after : List Pass)
    (horder : compiled.order = before ++ (rest ++ after)) (resource : String) (first : Pass)
    (use : Demand) (hpending : compiled.Pending resource first use before)
    (hwrites : use.state.writes = true) :
    compiled.WaitsFor resource rest use.state.toScope
      ∨ compiled.Pending resource first use (before ++ rest) := by
  induction rest generalizing before with
  | nil =>
      rw [List.append_nil]
      exact Or.inr hpending
  | cons pass rest ih =>
      have hnext : compiled.order = before ++ [pass] ++ (rest ++ after) := by
        rw [horder, List.append_assoc]
        rfl
      have hlater : compiled.Pending resource first use (before ++ [pass]) →
          compiled.WaitsFor resource (pass :: rest) use.state.toScope
            ∨ compiled.Pending resource first use (before ++ pass :: rest) := by
        intro hstill
        rcases ih (before ++ [pass]) hnext hstill with ⟨middle, hmiddle, hwaits⟩ | hend
        · exact Or.inl ⟨middle, List.mem_cons_of_mem _ hmiddle, hwaits⟩
        · rw [List.append_assoc] at hend
          exact Or.inr hend
      cases hdemand : compiled.demand? pass resource with
      | none => exact hlater (hpending.skip pass hdemand)
      | some demand =>
          rcases compile_pending_step passes compiled h before pass (rest ++ after) horder
            resource demand hdemand first use hpending hwrites with hwaits | ⟨hstill, _⟩
          · exact Or.inl ⟨pass, List.mem_cons_self, hwaits⟩
          · exact hlater hstill

/-- A use that does not go on from a write is preceded by a barrier that waits
    for the write. -/
theorem compile_waitsFor (passes : List Pass) (compiled : Compiled)
    (h : compile passes = .ok compiled) (before : List Pass) (first : Pass)
    (between : List Pass) (second : Pass) (after : List Pass)
    (horder : compiled.order = before ++ [first] ++ (between ++ second :: after))
    (resource : String) (written : Demand) (later : Demand)
    (hfirst : compiled.demand? first resource = some written)
    (hsecond : compiled.demand? second resource = some later)
    (hwrites : written.state.writes = true)
    (hapart : ¬ (written.attachment = true ∧ later.attachment = true
      ∧ compiled.SameBatch first second)) :
    compiled.WaitsFor resource (between ++ [second]) written.state.toScope := by
  have hfront : compiled.order = before ++ first :: (between ++ second :: after) := by
    rw [horder, List.append_assoc]
    rfl
  have hpending := compile_pending_first passes compiled h before first _ hfront resource
    written hfirst
  rcases compile_pending_run passes compiled h (before ++ [first]) between (second :: after)
    horder resource first written hpending hwrites with ⟨middle, hmiddle, hwaits⟩ | hstill
  · exact ⟨middle, List.mem_append_left _ hmiddle, hwaits⟩
  · -- Still pending when the second pass is reached, which then has to wait.
    have hreached : compiled.order = before ++ [first] ++ between ++ second :: after := by
      rw [horder, List.append_assoc _ between]
    rcases compile_pending_step passes compiled h _ second after hreached resource later
      hsecond first written hstill hwrites with hwaits | ⟨_, htogether⟩
    · exact ⟨second, List.mem_append_right _ (List.mem_singleton_self second), hwaits⟩
    · exact absurd htogether hapart

/-- A scope waits for a barrier of some passes in a row exactly if one of
    them separates and asks for at least as much. -/
theorem compile_covers_iff (passes : List Pass) (compiled : Compiled)
    (h : compile passes = .ok compiled) (before row after : List Pass)
    (horder : compiled.order = before ++ (row ++ after)) (resource : String) (scope : Scope) :
    compiled.Covers resource row scope
      ↔ ∃ front middle back demand, row = front ++ middle :: back
        ∧ compiled.demand? middle resource = some demand
        ∧ compiled.Separates resource (before ++ front) middle demand
        ∧ demand.state.Includes scope := by
  -- The place of a pass in the row is a place in the order.
  have hplace : ∀ front middle back, row = front ++ middle :: back →
      compiled.order = (before ++ front) ++ middle :: (back ++ after) := by
    rintro front middle back rfl
    rw [horder, List.append_assoc, List.append_assoc]
    rfl
  constructor
  · rintro ⟨middle, hmiddle, hcovers⟩
    rcases List.mem_iff_append.mp hmiddle with ⟨front, back, hsplit⟩
    rcases (compile_covers_singleton_iff passes compiled h _ middle _
      (hplace front middle back hsplit) resource scope).mp
      ⟨middle, List.mem_singleton_self middle, hcovers⟩ with ⟨demand, hrest⟩
    exact ⟨front, middle, back, demand, hsplit, hrest⟩
  · rintro ⟨front, middle, back, demand, hsplit, hrest⟩
    rcases (compile_covers_singleton_iff passes compiled h _ middle _
      (hplace front middle back hsplit) resource scope).mpr ⟨demand, hrest⟩
      with ⟨other, hother, hcovers⟩
    rw [List.mem_singleton] at hother
    subst hother
    refine ⟨other, ?_, hcovers⟩
    rw [hsplit]
    exact List.mem_append_right _ List.mem_cons_self

/-- A write and a later use outside of its render pass. Some barrier in
    between waits for the write. The later use waits for a barrier exactly if
    some pass up to it that separates asks for at least as much. -/
theorem compile_covered_iff (passes : List Pass) (compiled : Compiled)
    (h : compile passes = .ok compiled) (before : List Pass) (first : Pass)
    (between : List Pass) (second : Pass) (after : List Pass)
    (horder : compiled.order = before ++ first :: (between ++ second :: after))
    (resource : String) (written : Demand) (later : Demand)
    (hfirst : compiled.demand? first resource = some written)
    (hsecond : compiled.demand? second resource = some later)
    (hwrites : written.state.writes = true)
    (hapart : ¬ (written.attachment = true ∧ later.attachment = true
      ∧ compiled.SameBatch first second)) :
    compiled.WaitsFor resource (between ++ [second]) written.state.toScope
    ∧ (compiled.Covers resource (between ++ [second]) later.state.toScope
        ↔ ∃ front middle back demand, between ++ [second] = front ++ middle :: back
          ∧ compiled.demand? middle resource = some demand
          ∧ compiled.Separates resource (before ++ first :: front) middle demand
          ∧ demand.state.Includes later.state.toScope) := by
  have hpassed : compiled.order = before ++ [first] ++ (between ++ second :: after) := by
    rw [horder, List.append_assoc]
    rfl
  refine ⟨compile_waitsFor passes compiled h before first between second after hpassed resource
    written later hfirst hsecond hwrites hapart, ?_⟩
  have hrow : compiled.order = (before ++ [first]) ++ ((between ++ [second]) ++ after) := by
    rw [hpassed, List.append_assoc between]
    rfl
  have hcovers := compile_covers_iff passes compiled h (before ++ [first]) (between ++ [second])
    after hrow resource later.state.toScope
  simp only [List.append_assoc before, List.singleton_append] at hcovers
  exact hcovers

/-- A buffer of surfaces is drawn and then sampled in two stages. -/
def sampledInTwoStages : List Pass := [
  ⟨0, "gbuffer", .graphics,
    [Usage.attachment .colorAttachment "albedo" LoadOp.clear StoreOp.store]⟩,
  ⟨1, "lighting", .graphics, [Usage.plain .read .sampledImage "albedo"]⟩,
  ⟨2, "ssao", .compute, [Usage.plain .read .sampledImage "albedo"]⟩]

theorem compile_sampledInTwoStages :
    compile sampledInTwoStages = .ok (Compiled.ofOrder sampledInTwoStages) := by
  rfl

/-- The only barrier after the drawing leads to the fragment shader. -/
theorem not_covers_sampledInTwoStages :
    ¬ (Compiled.ofOrder sampledInTwoStages).Covers "albedo" (sampledInTwoStages.drop 1)
      ImageState.shaderReadCompute.toScope := by
  unfold Compiled.Covers
  decide

/-- The second reader is not covered, for the only pass that separates asks
    for less. The drawing is waited for all the same. -/
theorem compile_covered_iff_ssao :
    ∃ compiled, compile sampledInTwoStages = .ok compiled
      ∧ compiled.WaitsFor "albedo" (sampledInTwoStages.drop 1)
        ImageState.colorAttachmentWrite.toScope
      ∧ ¬ ∃ front middle back demand, sampledInTwoStages.drop 1 = front ++ middle :: back
        ∧ compiled.demand? middle "albedo" = some demand
        ∧ compiled.Separates "albedo" ([] ++ sampledInTwoStages[0] :: front) middle demand
        ∧ demand.state.Includes ImageState.shaderReadCompute.toScope := by
  have hapart : ¬ ((⟨ImageState.colorAttachmentWrite, true⟩ : Demand).attachment = true
      ∧ (⟨ImageState.shaderReadCompute, false⟩ : Demand).attachment = true
      ∧ (Compiled.ofOrder sampledInTwoStages).SameBatch sampledInTwoStages[0]
        sampledInTwoStages[2]) := by
    rintro ⟨_, hattached, _⟩
    exact Bool.false_ne_true hattached
  rcases compile_covered_iff sampledInTwoStages _ compile_sampledInTwoStages []
    sampledInTwoStages[0] [sampledInTwoStages[1]] sampledInTwoStages[2] [] rfl "albedo"
    ⟨ImageState.colorAttachmentWrite, true⟩ ⟨ImageState.shaderReadCompute, false⟩ rfl rfl
    (by decide) hapart with ⟨hwaits, hcovered⟩
  refine ⟨_, compile_sampledInTwoStages, hwaits, ?_⟩
  intro hseparates
  exact not_covers_sampledInTwoStages (hcovered.mpr hseparates)

/-- So not every use after a write is covered by a barrier. -/
theorem compile_reader_uncovered :
    ¬ ∀ (passes : List Pass) (compiled : Compiled), compile passes = .ok compiled →
        ∀ (before : List Pass) (first : Pass) (between : List Pass) (second : Pass)
          (after : List Pass), compiled.order = before ++ first :: (between ++ second :: after) →
        ∀ (resource : String) (written later : Demand),
          compiled.demand? first resource = some written →
          compiled.demand? second resource = some later →
          written.state.writes = true →
          ¬ (written.attachment = true ∧ later.attachment = true
            ∧ compiled.SameBatch first second) →
          compiled.Covers resource (between ++ [second]) later.state.toScope := by
  intro hall
  refine not_covers_sampledInTwoStages (hall sampledInTwoStages _ compile_sampledInTwoStages []
    sampledInTwoStages[0] [sampledInTwoStages[1]] sampledInTwoStages[2] [] rfl "albedo"
    ⟨ImageState.colorAttachmentWrite, true⟩ ⟨ImageState.shaderReadCompute, false⟩ rfl rfl
    (by decide) ?_)
  rintro ⟨_, hattached, _⟩
  exact Bool.false_ne_true hattached

end FrameGraph
