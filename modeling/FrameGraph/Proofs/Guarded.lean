import FrameGraph.Proofs.Coverage
import FrameGraph.Proofs.DeclaredUses

/-!
# Which Edges a Barrier Guards

The declarations of the passes are read twice. The dependency graph reads the
accesses: a pass that declares a write comes before one that uses the
resource. The planner reads the states the uses ask for, joined within each
pass, and a declared write may be missing from these. So an edge may stand
between two passes neither of which writes as far as the planner can tell. Then
either both have declared their writes for types that take none, or one of them
has lost a write against another of its own uses, and this is reported.

Apart from that the readings agree. What makes it work out for a write that
only the second pass of an edge makes is where edges come from. Between a
writer and the next one nobody uses the resource, as readers come after all
writers, so a use that goes on in a render pass goes on in that of the first
writer. And whoever declares no write writes nothing but by a copy, whose
layout nobody asks for without writing.

## Main definitions

* `Compiled.BarrierAmong`, `Compiled.Guarded`: Some of the passes has a
  barrier on a resource, or some pass from one on up to another.
* `Compiled.AttachedTogether`: Two passes of a batch attach a resource.
* `Compiled.GuardsEdges`: Every edge is guarded or between attachments of a
  batch, entries included.

## Theorems

* `compile_between_writers`: Nobody uses a resource between two writers in a
  row.
* `Compiled.mem_window_of_not_barrierAmong`: A use stays in the window until a
  barrier comes.
* `compile_quiet_write`, `compile_quiet_read`: What holds of two uses without a
  barrier, by what the first does.
* `compile_quiet_edge`: Both together.
* `compile_edge`, `compile_guarded`: Edges and barriers by their ranks.
* `compile_unwritten`: Two passes of a compilation that ask for no write.
* `compile_edges_guarded`: The ways in which an edge is taken care of, and those
  in which it is not.
* `edges_unguarded`: Edges without a barrier, one for each way to get there.
-/

namespace FrameGraph

open Gpu

/-- Two states need nothing between them if they are in one layout and neither
    writes. -/
theorem ResourceState.needsBarrier_eq_false_iff (state next : ResourceState) :
    state.needsBarrier next = false
      ↔ state.layout = next.layout ∧ state.writes = false ∧ next.writes = false := by
  unfold needsBarrier
  rw [Bool.or_eq_false_iff, Bool.or_eq_false_iff, bne_eq_false_iff_eq, and_assoc]

namespace Compiled

variable (compiled : Compiled)

/-- Some of the passes has a barrier on the resource before it. -/
def BarrierAmong (resource : String) (passes : List Pass) : Prop :=
  ∃ pass ∈ passes, compiled.plan.changes pass.index resource ≠ []

/-- Some pass ranked after the first and not after the second has a barrier
    on the resource before it. An entry does not count. -/
def Guarded (resource : String) (first second : Pass) : Prop :=
  ∃ pass ∈ compiled.order, compiled.Before first.index pass.index
    ∧ ¬ compiled.Before second.index pass.index
    ∧ compiled.plan.changes pass.index resource ≠ []

/-- Both passes have the resource as an attachment, and they are in one
    batch. -/
def AttachedTogether (resource : String) (first second : Pass) : Prop :=
  first.attaches resource = true ∧ second.attaches resource = true
    ∧ compiled.SameBatch first second

/-- A use stays in the window as long as no barrier comes. -/
theorem mem_window_of_not_barrierAmong (resource : String) (use : Demand) (before rest : List Pass)
    (huse : use ∈ compiled.window resource before)
    (hquiet : ¬ compiled.BarrierAmong resource rest) :
    use ∈ compiled.window resource (before ++ rest) := by
  induction rest using List.reverseRecOn with
  | nil =>
      rw [List.append_nil]
      exact huse
  | append_singleton rest pass ih =>
      have hrest : ¬ compiled.BarrierAmong resource rest := by
        rintro ⟨other, hother, hne⟩
        exact hquiet ⟨other, List.mem_append_left _ hother, hne⟩
      have hpass : compiled.plan.changes pass.index resource = [] := by
        by_contra hne
        exact hquiet ⟨pass, List.mem_append_right _ (List.mem_singleton_self pass), hne⟩
      rw [← List.append_assoc]
      cases hdemand : compiled.demand? pass resource with
      | none =>
          rw [compiled.window_append_none _ hdemand]
          exact ih hrest
      | some demand =>
          rw [compiled.window_append _ hdemand, windowStep, if_pos hpass]
          exact List.mem_append_left _ (ih hrest)

end Compiled

/-- Nobody uses a resource between two writers in a row: a writer in between
    would have been declared between them, and readers come after all
    writers. -/
theorem compile_between_writers (passes : List Pass) (compiled : Compiled)
    (h : compile passes = .ok compiled) (before : List Pass) (first : Pass)
    (between : List Pass) (second : Pass) (after : List Pass)
    (horder : compiled.order = before ++ first :: (between ++ second :: after)) (u v : Nat)
    (hu : passes[u]? = some first) (hv : passes[v]? = some second) (resource : String)
    (hfirst : first.writes resource = true) (hsecond : second.writes resource = true)
    (hrow : ∀ w, u < w → w < v → ¬ WritesAt passes resource w) :
    compiled.usersOf resource between = [] := by
  have hnodup := compile_order_nodup passes compiled h
  have hperm := compile_order_perm passes compiled h
  rw [List.eq_nil_iff_forall_not_mem]
  intro user huser
  rcases (compiled.mem_usersOf_iff resource between user).mp huser with ⟨hbetween, hdemand⟩
  rcases compiled.before_of_mem_between hnodup before first between second after horder user.1
    hbetween with ⟨hafter, hbefore⟩
  have hdeclared : user.1 ∈ passes := by
    refine hperm.mem_iff.mp ?_
    rw [horder]
    exact List.mem_append_right _
      (List.mem_cons_of_mem _ (List.mem_append_left _ hbetween))
  have hmemSecond : second ∈ passes := List.mem_of_getElem? hv
  cases hwrites : user.1.writes resource with
  | false =>
      have hlate := compile_writer_before_reader passes compiled h second user.1 hmemSecond
        hdeclared resource hsecond
        ((user.1.exists_demand?_iff _ resource).mp ⟨user.2, hdemand⟩) hwrites
      exact hlate.asymm hbefore
  | true =>
      rcases List.mem_iff_getElem?.mp hdeclared with ⟨w, hw⟩
      have hpairwise := List.pairwise_iff_getElem.mp (compile_writers_pairwise passes compiled h)
      rcases List.getElem?_eq_some_iff.mp hu with ⟨hltU, hgetU⟩
      rcases List.getElem?_eq_some_iff.mp hv with ⟨hltV, hgetV⟩
      rcases List.getElem?_eq_some_iff.mp hw with ⟨hltW, hgetW⟩
      rcases Nat.lt_trichotomy w u with hlt | rfl | hgt
      · have hearly := hpairwise w u hltW hltU hlt resource (hgetW ▸ hwrites) (hgetU ▸ hfirst)
        rw [hgetW, hgetU] at hearly
        exact hearly.asymm hafter
      · rw [hu, Option.some.injEq] at hw
        rw [hw] at hafter
        exact hafter.asymm hafter
      · rcases Nat.lt_trichotomy w v with hlt | rfl | hlate
        · exact hrow w hgt hlt ⟨user.1, hw, hwrites⟩
        · rw [hv, Option.some.injEq] at hw
          rw [hw] at hbefore
          exact hbefore.asymm hbefore
        · have hlater := hpairwise v w hltV hltW hlate resource (hgetV ▸ hsecond)
            (hgetW ▸ hwrites)
          rw [hgetW, hgetV] at hlater
          exact hlater.asymm hbefore

/-- Two demands on attachments of one batch are attached together. -/
theorem Compiled.attachedTogether_of_demand? {compiled : Compiled} {resource : String}
    {first second : Pass} {written used : Demand}
    (hfirst : compiled.demand? first resource = some written)
    (hsecond : compiled.demand? second resource = some used)
    (hone : written.attachment = true) (htwo : used.attachment = true)
    (hbatch : compiled.SameBatch first second) :
    compiled.AttachedTogether resource first second :=
  ⟨Pass.attaches_of_demand? hfirst hone, Pass.attaches_of_demand? hsecond htwo, hbatch⟩

/-- A write is waited for, unless the second pass goes on from it. -/
theorem compile_quiet_write (passes : List Pass) (compiled : Compiled)
    (h : compile passes = .ok compiled) (before : List Pass) (first : Pass)
    (between : List Pass) (second : Pass) (after : List Pass)
    (horder : compiled.order = before ++ [first] ++ (between ++ second :: after))
    (resource : String) (written used : Demand)
    (hfirst : compiled.demand? first resource = some written)
    (hsecond : compiled.demand? second resource = some used)
    (hquiet : ¬ compiled.BarrierAmong resource (between ++ [second]))
    (hwrites : written.state.writes = true) :
    compiled.AttachedTogether resource first second := by
  by_contra hapart
  have hnone : ¬ (written.attachment = true ∧ used.attachment = true
      ∧ compiled.SameBatch first second) :=
    fun hall => hapart
      (Compiled.attachedTogether_of_demand? hfirst hsecond hall.1 hall.2.1 hall.2.2)
  rcases compile_waitsFor passes compiled h before first between second after horder resource
    written used hfirst hsecond hwrites hnone with ⟨pass, hpass, barrier, hbarrier, _⟩
  exact hquiet ⟨pass, hpass, List.ne_nil_of_mem hbarrier⟩

/-- Where the first pass only reads, no barrier up to the second means that
    both use one layout. The second then writes only as an attachment of the
    batch of the first. -/
theorem compile_quiet_read (passes : List Pass) (compiled : Compiled)
    (h : compile passes = .ok compiled) (before : List Pass) (first : Pass)
    (between : List Pass) (second : Pass) (after : List Pass)
    (horder : compiled.order = before ++ [first] ++ (between ++ second :: after))
    (resource : String) (written used : Demand)
    (hfirst : compiled.demand? first resource = some written)
    (hsecond : compiled.demand? second resource = some used)
    (hquiet : ¬ compiled.BarrierAmong resource (between ++ [second]))
    (hedge : used.WritesByCopy ∨ compiled.usersOf resource between = [])
    (hreads : written.state.writes = false) :
    compiled.AttachedTogether resource first second
      ∨ written.state.layout = used.state.layout ∧ used.state.writes = false := by
  have hfront : compiled.order = before ++ first :: (between ++ second :: after) :=
    horder.trans (List.append_cons _ _ _).symm
  have hreached : compiled.order = before ++ [first] ++ between ++ second :: after :=
    horder.trans (List.append_assoc _ _ _).symm
  have hquietBetween : ¬ compiled.BarrierAmong resource between := by
    rintro ⟨pass, hpass, hne⟩
    exact hquiet ⟨pass, List.mem_append_left _ hpass, hne⟩
  have hquietSecond : compiled.plan.changes second.index resource = [] := by
    by_contra hne
    exact hquiet ⟨second, List.mem_append_right _ (List.mem_singleton_self second), hne⟩
  -- The state of the first pass is still in the window, and gives its layout.
  have hwindow := compiled.mem_window_of_not_barrierAmong resource written (before ++ [first])
    between
    (compile_pending_first passes compiled h before first _ hfront resource written hfirst).window
    hquietBetween
  rcases compile_knows passes compiled h resource (before ++ [first] ++ between)
    (second :: after) hreached with ⟨hnone, _⟩ | ⟨track, htrack, hknows⟩
  · rw [compiled.window_of_no_users hnone] at hwindow
    exact absurd hwindow List.not_mem_nil
  · have hlayout := hknows.window.layout written hwindow
    have hstands := compile_changes_ne_nil_iff passes compiled h _ second after hreached
      resource used hsecond track htrack hknows
    rw [hquietSecond] at hstands
    by_cases hcontinues : compiled.Continues resource (before ++ [first] ++ between) second used
    · rcases hcontinues with ⟨last, hlast, hlastAttached, hattached, hbatch, hsame⟩
      rcases hknows.last with ⟨other, hother, htracked, _⟩
      rw [hlast, Option.some.injEq] at hother
      subst hother
      have hone : written.state.layout = used.state.layout :=
        hlayout.trans (htracked.trans hsame)
      cases hused : used.state.writes with
      | false => exact Or.inr ⟨hone, rfl⟩
      | true =>
          rcases hedge with hcopy | hnone
          · -- A copy leaves a layout that the first pass had to write in.
            have hfilled := Pass.filled_of_demand? hfirst (hone.trans (hcopy hused))
            exact absurd (hreads.symm.trans hfilled) Bool.false_ne_true
          · -- The last user is the first pass.
            rw [compiled.usersOf_append, hnone, List.append_nil, compiled.usersOf_append,
              compiled.usersOf_singleton hfirst, List.getLast?_concat,
              Option.some.injEq] at hlast
            rw [← hlast] at hlastAttached hbatch
            exact Or.inl
              (Compiled.attachedTogether_of_demand? hfirst hsecond hlastAttached hattached hbatch)
    · right
      by_contra hnot
      refine hstands.mpr ⟨hcontinues, ?_⟩ rfl
      by_contra hnone
      rw [not_or, ne_eq, not_not] at hnone
      refine hnot ⟨hlayout.trans hnone.1.symm, ?_⟩
      rw [Bool.eq_false_iff]
      intro hused
      exact hnone.2 ⟨used, List.mem_cons_self, hused⟩

/-- Where no barrier comes, the two passes attach the resource together, or
    their states need none. The second pass may write only by a copy, or
    nobody used the resource since the first. -/
theorem compile_quiet_edge (passes : List Pass) (compiled : Compiled)
    (h : compile passes = .ok compiled) (before : List Pass) (first : Pass)
    (between : List Pass) (second : Pass) (after : List Pass)
    (horder : compiled.order = before ++ [first] ++ (between ++ second :: after))
    (resource : String) (written used : Demand)
    (hfirst : compiled.demand? first resource = some written)
    (hsecond : compiled.demand? second resource = some used)
    (hquiet : ¬ compiled.BarrierAmong resource (between ++ [second]))
    (hedge : used.WritesByCopy ∨ compiled.usersOf resource between = []) :
    compiled.AttachedTogether resource first second
      ∨ written.state.needsBarrier used.state = false := by
  rw [ResourceState.needsBarrier_eq_false_iff]
  cases hwrites : written.state.writes with
  | true =>
      exact Or.inl (compile_quiet_write passes compiled h before first between second after horder
        resource written used hfirst hsecond hquiet hwrites)
  | false =>
      rcases compile_quiet_read passes compiled h before first between second after horder
        resource written used hfirst hsecond hquiet hedge hwrites with htogether | ⟨hlayout, hused⟩
      · exact Or.inl htogether
      · exact Or.inr ⟨hlayout, rfl, hused⟩

/-- An edge is from a writer to a later user of the resource, which either
    only reads or is the next writer. -/
theorem compile_edge (passes : List Pass) (compiled : Compiled)
    (h : compile passes = .ok compiled) (u v : Nat) (resource : String)
    (hedge : (dependencies passes).Carries u v resource) :
    ∃ first second, passes[u]? = some first ∧ passes[v]? = some second
      ∧ first.writes resource = true ∧ second.uses resource = true
      ∧ compiled.Before first.index second.index
      ∧ (second.writes resource = false
        ∨ second.writes resource = true
          ∧ ∀ w, u < w → w < v → ¬ WritesAt passes resource w) := by
  rcases (carries_dependencies passes u v resource).mp hedge
    with ⟨hlt, ⟨first, hu, hfirst⟩, ⟨second, hv, hsecond⟩, hrow⟩
      | ⟨⟨first, hu, hfirst⟩, ⟨second, hv, huses, hreads⟩⟩
  · rcases List.getElem?_eq_some_iff.mp hu with ⟨hltU, rfl⟩
    rcases List.getElem?_eq_some_iff.mp hv with ⟨hltV, rfl⟩
    have hpairwise := List.pairwise_iff_getElem.mp (compile_writers_pairwise passes compiled h)
    exact ⟨_, _, hu, hv, hfirst, Pass.uses_of_writes hsecond,
      hpairwise u v hltU hltV hlt resource hfirst hsecond, Or.inr ⟨hsecond, hrow⟩⟩
  · have hbefore := compile_writer_before_reader passes compiled h first second
      (List.mem_of_getElem? hu) (List.mem_of_getElem? hv) resource hfirst huses hreads
    exact ⟨first, second, hu, hv, hfirst, huses, hbefore, Or.inl hreads⟩

/-- A barrier from the first pass on up to the second guards the two. -/
theorem compile_guarded (passes : List Pass) (compiled : Compiled)
    (h : compile passes = .ok compiled) (before : List Pass) (first : Pass)
    (between : List Pass) (second : Pass) (after : List Pass)
    (horder : compiled.order = before ++ first :: (between ++ second :: after))
    (resource : String) (hamong : compiled.BarrierAmong resource (between ++ [second])) :
    compiled.Guarded resource first second := by
  have hnodup := compile_order_nodup passes compiled h
  rcases hamong with ⟨pass, hpass, hne⟩
  rcases List.mem_append.mp hpass with hbetween | hlast
  · rcases compiled.before_of_mem_between hnodup before first between second after horder pass
      hbetween with ⟨hafter, hbefore⟩
    refine ⟨pass, ?_, hafter, hbefore.asymm, hne⟩
    rw [horder]
    exact List.mem_append_right _ (List.mem_cons_of_mem _ (List.mem_append_left _ hbetween))
  · rw [List.mem_singleton] at hlast
    subst hlast
    refine ⟨pass, ?_, compiled.before_of_split hnodup before first between pass after horder, ?_,
      hne⟩
    · rw [horder]
      exact List.mem_append_right _
        (List.mem_cons_of_mem _ (List.mem_append_right _ List.mem_cons_self))
    · exact fun hself => hself.asymm hself

/-- Where two passes of a compilation ask for no write of a resource, both ignore
    the writes they declare, or one of them loses a write and that is
    reported. -/
theorem compile_unwritten (passes : List Pass) (compiled : Compiled)
    (h : compile passes = .ok compiled) {first second : Pass} (hmemFirst : first ∈ passes)
    (hmemSecond : second ∈ passes) {resource : String} {written used : Demand}
    (hfirst : compiled.demand? first resource = some written)
    (hsecond : compiled.demand? second resource = some used)
    (hwritten : written.state.writes = false) (hused : used.state.writes = false) :
    first.IgnoresWrites (compiled.planning.isImage resource) resource
        ∧ second.IgnoresWrites (compiled.planning.isImage resource) resource
      ∨ ∃ pass, (pass = first ∨ pass = second)
        ∧ pass.LosesWrite (compiled.planning.isImage resource) resource
        ∧ ∃ conflict : LayoutConflict, conflict.pass = pass.name ∧ conflict.resource = resource
          ∧ LogEntry.warn conflict.message ∈ compileLog passes := by
  rcases Pass.ignoresWrites_or_losesWrite hfirst hwritten with hone | hloses
  · rcases Pass.ignoresWrites_or_losesWrite hsecond hused with htwo | hloses
    · exact Or.inl ⟨hone, htwo⟩
    · exact Or.inr ⟨second, Or.inr rfl, hloses,
        compile_lostWrite passes compiled h hmemSecond hloses⟩
  · exact Or.inr ⟨first, Or.inl rfl, hloses,
      compile_lostWrite passes compiled h hmemFirst hloses⟩

/-- Every edge of the dependency graph is between passes that run in this
    order and both ask something of the resource. Two things take care of it: a
    barrier on the resource after the first pass and not after the second, or
    one batch in which both attach it. Otherwise the states the two passes ask
    for are in one layout and neither of them writes. Then all the writes of the
    resource that the two declare are of types that do not take them, or one of
    the two loses a write to a conflict of layouts, and the conflict is
    reported. -/
theorem compile_edges_guarded (passes : List Pass) (compiled : Compiled)
    (h : compile passes = .ok compiled) (u v : Nat) (resource : String)
    (hedge : (dependencies passes).Carries u v resource) :
    ∃ first second written used, passes[u]? = some first ∧ passes[v]? = some second
      ∧ compiled.Before first.index second.index
      ∧ compiled.demand? first resource = some written
      ∧ compiled.demand? second resource = some used
      ∧ (compiled.Guarded resource first second
        ∨ compiled.AttachedTogether resource first second
        ∨ written.state.needsBarrier used.state = false
          ∧ (first.IgnoresWrites (compiled.planning.isImage resource) resource
              ∧ second.IgnoresWrites (compiled.planning.isImage resource) resource
            ∨ ∃ pass, (pass = first ∨ pass = second)
              ∧ pass.LosesWrite (compiled.planning.isImage resource) resource
              ∧ ∃ conflict : LayoutConflict, conflict.pass = pass.name
                ∧ conflict.resource = resource
                ∧ LogEntry.warn conflict.message ∈ compileLog passes)) := by
  have hnodup := compile_order_nodup passes compiled h
  have hperm := compile_order_perm passes compiled h
  rcases compile_edge passes compiled h u v resource hedge
    with ⟨first, second, hu, hv, hfirst, huses, hbefore, hkind⟩
  have hmemFirst : first ∈ passes := List.mem_of_getElem? hu
  have hmemSecond : second ∈ passes := List.mem_of_getElem? hv
  rcases compiled.exists_split hnodup first second (hperm.mem_iff.mpr hmemFirst)
    (hperm.mem_iff.mpr hmemSecond) hbefore with ⟨before, between, after, horder⟩
  rcases (first.exists_demand?_iff (compiled.planning.isImage resource) resource).mpr
    (Pass.uses_of_writes hfirst) with ⟨written, hwritten⟩
  rcases (second.exists_demand?_iff (compiled.planning.isImage resource) resource).mpr huses
    with ⟨used, hused⟩
  refine ⟨first, second, written, used, hu, hv, hbefore, hwritten, hused, ?_⟩
  by_cases hamong : compiled.BarrierAmong resource (between ++ [second])
  · exact Or.inl (compile_guarded passes compiled h before first between second after horder
      resource hamong)
  · have hpassed : compiled.order = before ++ [first] ++ (between ++ second :: after) := by
      rw [horder, List.append_assoc]
      rfl
    -- An edge to a reader and one to the next writer differ in who may write.
    have hwriter : used.WritesByCopy ∨ compiled.usersOf resource between = [] := by
      rcases hkind with hreads | ⟨hsecond, hrow⟩
      · exact Or.inl (Pass.writesByCopy_of_demand? hused hreads)
      · exact Or.inr (compile_between_writers passes compiled h before first between second after
          horder u v hu hv resource hfirst hsecond hrow)
    rcases compile_quiet_edge passes compiled h before first between second after hpassed
      resource written used hwritten hused hamong hwriter with htogether | hneeds
    · exact Or.inr (Or.inl htogether)
    · rcases (ResourceState.needsBarrier_eq_false_iff _ _).mp hneeds with ⟨_, hreadsOne, hreadsTwo⟩
      exact Or.inr (Or.inr ⟨hneeds, compile_unwritten passes compiled h hmemFirst hmemSecond
        hwritten hused hreadsOne hreadsTwo⟩)

/-- The edge from the drawing to the second reader of the surfaces. -/
theorem carries_sampledInTwoStages :
    (dependencies sampledInTwoStages).Carries 0 2 "albedo" := by
  unfold DependencyGraph.Carries
  decide

/-- What guards it is the barrier of the first reader. -/
theorem compile_edges_guarded_ssao :
    (dependencies sampledInTwoStages).Carries 0 2 "albedo"
      ∧ ∃ compiled, compile sampledInTwoStages = .ok compiled
        ∧ compiled.Guarded "albedo" sampledInTwoStages[0] sampledInTwoStages[2] := by
  refine ⟨carries_sampledInTwoStages, _, compile_sampledInTwoStages, ?_⟩
  rcases compile_edges_guarded sampledInTwoStages _ compile_sampledInTwoStages 0 2 "albedo"
    carries_sampledInTwoStages with ⟨first, second, written, used, hu, hv, _, hwritten, hused,
      hguarded | ⟨_, hattached, _⟩ | ⟨hneeds, _⟩⟩
  · rcases Option.some.inj hu with rfl
    rcases Option.some.inj hv with rfl
    exact hguarded
  · rcases Option.some.inj hv with rfl
    exact absurd hattached (by decide)
  · rcases Option.some.inj hu with rfl
    rcases Option.some.inj hv with rfl
    rcases Option.some.inj hwritten with rfl
    rcases Option.some.inj hused with rfl
    exact absurd hneeds (by decide)

/-- Every edge has a barrier on its resource after the first pass and not after
    the second, be it an entry, or is between attachments of one batch. -/
def Compiled.GuardsEdges (compiled : Compiled) (passes : List Pass) : Prop :=
  ∀ (u v : Nat) (resource : String), (dependencies passes).Carries u v resource →
    ∀ (first second : Pass), passes[u]? = some first → passes[v]? = some second →
      (∃ pass ∈ compiled.order, compiled.Before first.index pass.index
          ∧ ¬ compiled.Before second.index pass.index
          ∧ ∃ barrier ∈ compiled.plan.barriersAt pass.index, barrier.resource = resource)
        ∨ compiled.AttachedTogether resource first second

/-- Two passes in a row leave their edge alone if the second has no barriers and
    does not attach the resource. -/
theorem Compiled.not_guardsEdges {compiled : Compiled} {first second : Pass} (resource : String)
    (horder : compiled.order = [first, second])
    (hedge : (dependencies [first, second]).Carries 0 1 resource)
    (hquiet : compiled.plan.barriersAt second.index = [])
    (hattaches : second.attaches resource = false) :
    ¬ compiled.GuardsEdges [first, second] := by
  intro hall
  rcases hall 0 1 resource hedge first second rfl rfl
    with ⟨pass, hpass, hafter, _, barrier, hbarrier, _⟩ | ⟨_, hattached, _⟩
  · rw [horder, List.mem_pair] at hpass
    rcases hpass with rfl | rfl
    · -- What is before the first pass itself does not count.
      exact hafter.asymm hafter
    · rw [hquiet] at hbarrier
      exact List.not_mem_nil hbarrier
  · exact Bool.false_ne_true (hattaches.symm.trans hattached)

/-- A table is baked into an image that is declared as sampled, and sampled
    after that. -/
def bakedThenSampled : List Pass := [
  ⟨0, "bake", .compute, [Usage.plain .write .sampledImage "lut"]⟩,
  ⟨1, "shade", .graphics, [Usage.plain .read .sampledImage "lut"]⟩]

/-- A buffer of lights is read, and written as if it were an image, and read
    after that. -/
def packedThenRead : List Pass := [
  ⟨0, "pack", .compute,
    [Usage.plain .read .uniformBuffer "lights", Usage.plain .write .storageImage "lights"]⟩,
  ⟨1, "shade", .graphics, [Usage.plain .read .storageBuffer "lights"]⟩]

/-- A pyramid of depths is read and written by one pass, and sampled after
    that. -/
def downsampled : List Pass := [
  ⟨0, "downsample", .compute,
    [Usage.plain .read .sampledImage "hiz", Usage.plain .write .storageImage "hiz"]⟩,
  ⟨1, "shade", .graphics, [Usage.plain .read .sampledImage "hiz"]⟩]

/-- So an edge does not always mean that a barrier comes or that the two passes
    attach the resource together. Two of these edges are from writes that their
    types do not take, one as the type is only read and one as it is of the
    other kind, and nothing is reported. The last is from a write that its type
    takes and its own pass loses. -/
theorem edges_unguarded :
    (∃ compiled, compile bakedThenSampled = .ok compiled ∧ compiled.conflicts = []
        ∧ ¬ compiled.GuardsEdges bakedThenSampled)
      ∧ (∃ compiled, compile packedThenRead = .ok compiled ∧ compiled.conflicts = []
        ∧ ¬ compiled.GuardsEdges packedThenRead)
      ∧ ∃ compiled, compile downsampled = .ok compiled
        ∧ (∀ pass ∈ downsampled, ∀ usage ∈ pass.usages, usage.access.writes = true →
          usage.type.takesWrites (compiled.planning.isImage usage.resource) = true)
        ∧ ¬ compiled.GuardsEdges downsampled := by
  refine ⟨⟨Compiled.ofOrder bakedThenSampled, rfl, by decide +kernel, ?_⟩,
    ⟨Compiled.ofOrder packedThenRead, rfl, by decide +kernel, ?_⟩,
    ⟨Compiled.ofOrder downsampled, rfl, by decide +kernel, ?_⟩⟩
  · exact Compiled.not_guardsEdges "lut" rfl (by unfold DependencyGraph.Carries; decide)
      (by decide +kernel) (by decide +kernel)
  · exact Compiled.not_guardsEdges "lights" rfl (by unfold DependencyGraph.Carries; decide)
      (by decide +kernel) (by decide +kernel)
  · exact Compiled.not_guardsEdges "hiz" rfl (by unfold DependencyGraph.Carries; decide)
      (by decide +kernel) (by decide +kernel)

end FrameGraph
