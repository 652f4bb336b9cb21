import FrameGraph.Compilation.Basic
import FrameGraph.Proofs.CompiledOrder

/-!
# Planning One Resource at a Time

The planner walks all resources of all passes at once, with one table for
what it knows and one list for what it plans. Nothing it does for one
resource depends on another, so everything worth saying about a plan is said
of a single resource: how its entry in the table moves from pass to pass, and
which barriers it gets on the way.

`Planning.follow` and `Planning.callsFor` are the two halves of one move. A
pass that uses the resource replaces what is known by `follow` and plans
`callsFor`; a pass that does not use it changes nothing. The projections
`get?_usePass` and `filter_usePass` say that the planner does this and only
this.

A barrier that is not an entry stands at the boundary of the pass that asked
for it. As indices are distinct, the barriers at the boundary of a pass are
the ones of its own move, and the state they start from is what was known
before that pass.

## Main definitions

* `Planning.demand?`, `Compiled.demand?`: What a pass asks of a resource.
* `Planning.follow`: What is known of a resource after one more use.
* `Planning.callsFor`: The barriers that one more use calls for.
* `Planning.trackOf`: What is known of a resource after some passes.
* `Compiled.planning`: What the planner knew of a compilation.
* `changesAmong`, `SyncPlan.changes`: The barriers on a resource at a
  boundary, without the entry.

## Theorems

* `Pass.demand?_eq_none_iff`: A pass asks nothing of what it does not use.
* `Planning.callsFor_cases`: A barrier of one use, with all its parts.
* `Planning.get?_usePass`: One pass moves each resource by itself.
* `Planning.filter_usePass`: So do the barriers it plans.
* `Planning.trackOf_append`: What is known after one more pass.
* `Planning.changes_usePasses`: The barriers at the boundary of one pass.
* `compile_plan`: The plan of a compilation is that of its order.
* `compile_changes`: The barriers at the boundary of one of its passes.
-/

namespace FrameGraph

/-- The barriers on a resource that stand at a boundary and are not entries. -/
def changesAmong (barriers : List PlannedBarrier) (boundary : PassIndex) (resource : String) :
    List PlannedBarrier :=
  barriers.filter fun barrier =>
    barrier.boundary = boundary && (barrier.resource = resource && !barrier.entry)

/-- The barriers on a resource at a boundary of a plan, without the entry. -/
def SyncPlan.changes (plan : SyncPlan) (boundary : PassIndex) (resource : String) :
    List PlannedBarrier :=
  (plan.barriersAt boundary).filter fun barrier => barrier.resource = resource && !barrier.entry

theorem SyncPlan.changes_eq (plan : SyncPlan) (boundary : PassIndex) (resource : String) :
    plan.changes boundary resource = changesAmong plan.barriers boundary resource := by
  unfold SyncPlan.changes SyncPlan.barriersAt changesAmong
  rw [List.filter_filter]
  refine List.filter_congr ?_
  intro barrier _
  exact Bool.and_comm _ _

theorem changesAmong_append (first second : List PlannedBarrier) (boundary : PassIndex)
    (resource : String) :
    changesAmong (first ++ second) boundary resource
      = changesAmong first boundary resource ++ changesAmong second boundary resource :=
  List.filter_append ..

theorem mem_changesAmong_iff (barriers : List PlannedBarrier) (boundary : PassIndex)
    (resource : String) (barrier : PlannedBarrier) :
    barrier ∈ changesAmong barriers boundary resource
      ↔ barrier ∈ barriers ∧ barrier.boundary = boundary ∧ barrier.resource = resource
        ∧ barrier.entry = false := by
  unfold changesAmong
  rw [List.mem_filter]
  simp only [Bool.and_eq_true, decide_eq_true_eq, Bool.not_eq_true']

/-- Whether a pass asks anything of a resource is whether it uses it. -/
theorem Pass.demand?_eq_none_iff (pass : Pass) (isImage : Bool) (resource : String) :
    pass.demand? isImage resource = none ↔ resource ∉ pass.resources := by
  unfold Pass.demand? Pass.demandOf? Pass.resources
  rw [List.mem_eraseDups, List.mem_map]
  cases hused : pass.usages.filter fun usage => usage.resource = resource with
  | nil =>
      simp only [List.map_nil, Demand.mergeAll?, true_iff]
      rintro ⟨usage, husage, hresource⟩
      have hmem : usage ∈ pass.usages.filter fun usage => usage.resource = resource :=
        List.mem_filter.mpr ⟨husage, decide_eq_true hresource⟩
      rw [hused] at hmem
      exact List.not_mem_nil hmem
  | cons usage rest =>
      simp only [List.map_cons, Demand.mergeAll?, reduceCtorEq, false_iff, not_not]
      have hmem : usage ∈ pass.usages.filter fun usage => usage.resource = resource := by
        rw [hused]
        exact List.mem_cons_self
      rw [List.mem_filter, decide_eq_true_eq] at hmem
      exact ⟨usage, hmem⟩

namespace Planning

variable (planning : Planning)

/-- What a pass asks of a resource. -/
def demand? (pass : Pass) (resource : String) : Option Demand :=
  pass.demand? (planning.isImage resource) resource

/-- What is known of a resource after one more use of it. -/
def follow (pass : Pass) (demand : Demand) : Option Track → Track
  | none => Track.first demand (planning.batchOf pass.index)
  | some track => track.after demand (planning.batchOf pass.index)

/-- The barriers that one more use of a resource calls for. -/
def callsFor (pass : Pass) (resource : String) (demand : Demand) :
    Option Track → List PlannedBarrier
  | none =>
    [⟨planning.entryBoundary pass resource, resource, planning.isImage resource,
      ImageState.undefined, demand.state, planning.aspect resource, true⟩]
  | some track =>
    if track.needsBarrier demand (planning.batchOf pass.index) then
      [⟨pass.index, resource, planning.isImage resource, track.state, demand.state,
        planning.aspect resource, false⟩]
    else []

theorem useResource_eq (pass : Pass) (resource : String) (demand : Demand) (tracks : Tracks) :
    planning.useResource pass resource demand tracks
      = (tracks.put resource (planning.follow pass demand (tracks.get? resource)),
        planning.callsFor pass resource demand (tracks.get? resource)) := by
  unfold useResource
  cases tracks.get? resource with
  | none => rfl
  | some track => rfl

/-- A barrier that a use calls for is the entry, where nothing is known yet, or
    one out of what is known. -/
theorem callsFor_cases {pass : Pass} {resource : String} {demand : Demand}
    {track : Option Track} {planned : PlannedBarrier}
    (h : planned ∈ planning.callsFor pass resource demand track) :
    (track = none
        ∧ planned = ⟨planning.entryBoundary pass resource, resource, planning.isImage resource,
          ImageState.undefined, demand.state, planning.aspect resource, true⟩)
      ∨ ∃ known, track = some known
        ∧ planned = ⟨pass.index, resource, planning.isImage resource, known.state, demand.state,
          planning.aspect resource, false⟩ := by
  cases track with
  | none =>
      rw [callsFor, List.mem_singleton] at h
      exact Or.inl ⟨rfl, h⟩
  | some known =>
      rw [callsFor] at h
      split at h
      · rw [List.mem_singleton] at h
        exact Or.inr ⟨known, rfl, h⟩
      · exact absurd h List.not_mem_nil

theorem callsFor_resource (pass : Pass) (resource : String) (demand : Demand)
    (track : Option Track) :
    ∀ barrier ∈ planning.callsFor pass resource demand track, barrier.resource = resource := by
  intro barrier hbarrier
  rcases planning.callsFor_cases hbarrier with ⟨_, rfl⟩ | ⟨_, _, rfl⟩ <;> rfl

theorem callsFor_boundary (pass : Pass) (resource : String) (demand : Demand)
    (track : Option Track) :
    ∀ barrier ∈ planning.callsFor pass resource demand track,
      barrier.entry = false → barrier.boundary = pass.index := by
  intro barrier hbarrier hentry
  rcases planning.callsFor_cases hbarrier with ⟨_, rfl⟩ | ⟨_, _, rfl⟩
  · exact absurd hentry (Ne.symm Bool.false_ne_true)
  · rfl

theorem callsFor_isImage (pass : Pass) (resource : String) (demand : Demand)
    (track : Option Track) :
    ∀ barrier ∈ planning.callsFor pass resource demand track,
      barrier.isImage = planning.isImage resource := by
  intro barrier hbarrier
  rcases planning.callsFor_cases hbarrier with ⟨_, rfl⟩ | ⟨_, _, rfl⟩ <;> rfl

/-- A barrier for a use leads to what is asked. -/
theorem callsFor_next (pass : Pass) (resource : String) (demand : Demand)
    (track : Option Track) :
    ∀ barrier ∈ planning.callsFor pass resource demand track, barrier.next = demand.state := by
  intro barrier hbarrier
  rcases planning.callsFor_cases hbarrier with ⟨_, rfl⟩ | ⟨_, _, rfl⟩ <;> rfl

/-- One step of the walk over the resources of a pass that uses them. -/
theorem useResources_cons (pass : Pass) (resource : String) (rest : List String)
    (tracks : Tracks) (demand : Demand) (h : planning.demand? pass resource = some demand) :
    planning.useResources pass (resource :: rest) tracks
      = ((planning.useResources pass rest
            (tracks.put resource (planning.follow pass demand (tracks.get? resource)))).1,
        planning.callsFor pass resource demand (tracks.get? resource)
          ++ (planning.useResources pass rest
            (tracks.put resource (planning.follow pass demand (tracks.get? resource)))).2) := by
  have h' : pass.demand? (planning.isImage resource) resource = some demand := h
  rw [useResources, h']
  simp only [useResource_eq]

theorem useResources_cons_none (pass : Pass) (resource : String) (rest : List String)
    (tracks : Tracks) (h : planning.demand? pass resource = none) :
    planning.useResources pass (resource :: rest) tracks
      = planning.useResources pass rest tracks := by
  have h' : pass.demand? (planning.isImage resource) resource = none := h
  rw [useResources, h']

/-- A walk over other resources leaves a resource alone. -/
theorem useResources_of_notMem (pass : Pass) (resource : String) (names : List String)
    (tracks : Tracks) (h : resource ∉ names) :
    (planning.useResources pass names tracks).1.get? resource = tracks.get? resource
      ∧ (planning.useResources pass names tracks).2.filter
        (fun barrier => barrier.resource = resource) = [] := by
  induction names generalizing tracks with
  | nil => exact ⟨rfl, rfl⟩
  | cons name rest ih =>
      rw [List.mem_cons, not_or] at h
      cases hdemand : planning.demand? pass name with
      | none =>
          rw [useResources_cons_none planning pass name rest tracks hdemand]
          exact ih tracks h.2
      | some demand =>
          rw [useResources_cons planning pass name rest tracks demand hdemand]
          rcases ih (tracks.put name (planning.follow pass demand (tracks.get? name))) h.2
            with ⟨hget, hnone⟩
          constructor
          · rw [hget, Table.get?_put, if_neg (Ne.symm h.1)]
          · rw [List.filter_append, hnone, List.append_nil, List.filter_eq_nil_iff]
            intro barrier hbarrier hsame
            rw [decide_eq_true_eq] at hsame
            rw [planning.callsFor_resource pass name demand _ barrier hbarrier] at hsame
            exact h.1 hsame.symm

/-- A walk over resources that differ moves each of them once. -/
theorem useResources_of_mem (pass : Pass) (resource : String) (names : List String)
    (tracks : Tracks) (hnodup : names.Nodup) (h : resource ∈ names) (demand : Demand)
    (hdemand : planning.demand? pass resource = some demand) :
    (planning.useResources pass names tracks).1.get? resource
        = some (planning.follow pass demand (tracks.get? resource))
      ∧ (planning.useResources pass names tracks).2.filter
          (fun barrier => barrier.resource = resource)
        = planning.callsFor pass resource demand (tracks.get? resource) := by
  induction names generalizing tracks with
  | nil => exact absurd h List.not_mem_nil
  | cons name rest ih =>
      rw [List.nodup_cons] at hnodup
      by_cases hname : name = resource
      · -- Its own turn, and as names differ it gets no other.
        subst hname
        rw [useResources_cons planning pass name rest tracks demand hdemand]
        rcases useResources_of_notMem planning pass name rest
          (tracks.put name (planning.follow pass demand (tracks.get? name))) hnodup.1
          with ⟨hget, hnone⟩
        constructor
        · rw [hget, Table.get?_put, if_pos rfl]
        · rw [List.filter_append, hnone, List.append_nil, List.filter_eq_self]
          intro barrier hbarrier
          exact decide_eq_true (planning.callsFor_resource pass name demand _ barrier hbarrier)
      · -- The turn of another resource, which leaves this one alone.
        have hrest : resource ∈ rest := (List.mem_cons.mp h).resolve_left (Ne.symm hname)
        cases hother : planning.demand? pass name with
        | none =>
            rw [useResources_cons_none planning pass name rest tracks hother]
            exact ih tracks hnodup.2 hrest
        | some other =>
            rw [useResources_cons planning pass name rest tracks other hother]
            rcases ih (tracks.put name (planning.follow pass other (tracks.get? name)))
              hnodup.2 hrest with ⟨hget, hcalls⟩
            rw [Table.get?_put, if_neg hname] at hget hcalls
            refine ⟨hget, ?_⟩
            rw [List.filter_append, hcalls]
            have hnone : (planning.callsFor pass name other (tracks.get? name)).filter
                (fun barrier => barrier.resource = resource) = [] := by
              rw [List.filter_eq_nil_iff]
              intro barrier hbarrier hsame
              rw [decide_eq_true_eq] at hsame
              rw [planning.callsFor_resource pass name other _ barrier hbarrier] at hsame
              exact hname hsame
            rw [hnone, List.nil_append]

/-- The barriers of a pass stand at its own boundary, entries apart. -/
theorem useResources_boundary (pass : Pass) (names : List String) (tracks : Tracks) :
    ∀ barrier ∈ (planning.useResources pass names tracks).2,
      barrier.entry = false → barrier.boundary = pass.index := by
  induction names generalizing tracks with
  | nil =>
      intro barrier hbarrier
      exact absurd hbarrier List.not_mem_nil
  | cons name rest ih =>
      cases hdemand : planning.demand? pass name with
      | none =>
          rw [useResources_cons_none planning pass name rest tracks hdemand]
          exact ih tracks
      | some demand =>
          rw [useResources_cons planning pass name rest tracks demand hdemand]
          intro barrier hbarrier hentry
          rcases List.mem_append.mp hbarrier with hhere | hlater
          · exact planning.callsFor_boundary pass name demand _ barrier hhere hentry
          · exact ih _ barrier hlater hentry

/-- What one pass does to what is known of a resource. -/
theorem get?_usePass (pass : Pass) (resource : String) (tracks : Tracks) :
    (planning.useResources pass pass.resources tracks).1.get? resource
      = match planning.demand? pass resource with
        | none => tracks.get? resource
        | some demand => some (planning.follow pass demand (tracks.get? resource)) := by
  cases hdemand : planning.demand? pass resource with
  | none =>
      have hnot := (pass.demand?_eq_none_iff _ resource).mp hdemand
      exact (planning.useResources_of_notMem pass resource pass.resources tracks hnot).1
  | some demand =>
      have hmem : resource ∈ pass.resources := by
        by_contra hnot
        have hnone := (pass.demand?_eq_none_iff (planning.isImage resource) resource).mpr hnot
        exact absurd (hdemand.symm.trans hnone) (Option.some_ne_none demand)
      exact (planning.useResources_of_mem pass resource pass.resources tracks
        (nodup_eraseDups _) hmem demand hdemand).1

/-- Which barriers on a resource one pass plans. -/
theorem filter_usePass (pass : Pass) (resource : String) (tracks : Tracks) :
    (planning.useResources pass pass.resources tracks).2.filter
        (fun barrier => barrier.resource = resource)
      = match planning.demand? pass resource with
        | none => []
        | some demand => planning.callsFor pass resource demand (tracks.get? resource) := by
  cases hdemand : planning.demand? pass resource with
  | none =>
      have hnot := (pass.demand?_eq_none_iff _ resource).mp hdemand
      exact (planning.useResources_of_notMem pass resource pass.resources tracks hnot).2
  | some demand =>
      have hmem : resource ∈ pass.resources := by
        by_contra hnot
        have hnone := (pass.demand?_eq_none_iff (planning.isImage resource) resource).mpr hnot
        exact absurd (hdemand.symm.trans hnone) (Option.some_ne_none demand)
      exact (planning.useResources_of_mem pass resource pass.resources tracks
        (nodup_eraseDups _) hmem demand hdemand).2

/-- A walk over passes in two parts. -/
theorem usePasses_append (first second : List Pass) (tracks : Tracks) :
    planning.usePasses (first ++ second) tracks
      = ((planning.usePasses second (planning.usePasses first tracks).1).1,
        (planning.usePasses first tracks).2
          ++ (planning.usePasses second (planning.usePasses first tracks).1).2) := by
  induction first generalizing tracks with
  | nil => rfl
  | cons pass rest ih =>
      simp only [List.cons_append, usePasses, ih, List.append_assoc]

/-- What is known of a resource after some passes. -/
def trackOf (resource : String) (passes : List Pass) : Option Track :=
  (planning.usePasses passes []).1.get? resource

/-- What is known after one more pass. -/
theorem trackOf_append (resource : String) (passes : List Pass) (pass : Pass) :
    planning.trackOf resource (passes ++ [pass])
      = match planning.demand? pass resource with
        | none => planning.trackOf resource passes
        | some demand => some (planning.follow pass demand (planning.trackOf resource passes)) := by
  unfold trackOf
  rw [usePasses_append]
  exact planning.get?_usePass pass resource (planning.usePasses passes []).1

/-- Passes without an index plan nothing at its boundary, entries apart. -/
theorem changes_usePasses_of_notMem (passes : List Pass) (tracks : Tracks) (index : PassIndex)
    (resource : String) (h : index ∉ passes.map Pass.index) :
    changesAmong (planning.usePasses passes tracks).2 index resource = [] := by
  induction passes generalizing tracks with
  | nil => rfl
  | cons pass rest ih =>
      rw [List.map_cons, List.mem_cons, not_or] at h
      rw [usePasses]
      simp only
      rw [changesAmong_append, ih _ h.2, List.append_nil, List.eq_nil_iff_forall_not_mem]
      intro barrier hbarrier
      rcases (mem_changesAmong_iff _ _ _ _).mp hbarrier with ⟨hmem, hboundary, _, hentry⟩
      rw [planning.useResources_boundary pass _ tracks barrier hmem hentry] at hboundary
      exact h.1 hboundary.symm

/-- The barriers on a resource at the boundary of a pass are the ones its own
    move calls for, from what was known before it. -/
theorem changes_usePasses (before : List Pass) (pass : Pass) (after : List Pass)
    (hnodup : ((before ++ pass :: after).map Pass.index).Nodup) (resource : String) :
    changesAmong (planning.usePasses (before ++ pass :: after) []).2 pass.index resource
      = match planning.demand? pass resource with
        | none => []
        | some demand =>
          (planning.callsFor pass resource demand (planning.trackOf resource before)).filter
            (!·.entry) := by
  rw [List.map_append, List.map_cons, List.nodup_append, List.nodup_cons] at hnodup
  -- No other pass has the index, so only this one plans at its boundary.
  rcases hnodup with ⟨_, ⟨hafter, _⟩, hapart⟩
  have hbefore : pass.index ∉ before.map Pass.index :=
    fun hmem => hapart _ hmem _ List.mem_cons_self rfl
  rw [usePasses_append]
  simp only [usePasses]
  rw [changesAmong_append, changesAmong_append,
    changes_usePasses_of_notMem planning before [] pass.index resource hbefore,
    changes_usePasses_of_notMem planning after _ pass.index resource hafter, List.append_nil,
    List.nil_append]
  -- What the pass plans for the resource, without the test of the boundary.
  have hlocal : ∀ barriers : List PlannedBarrier,
      (∀ barrier ∈ barriers, barrier.entry = false → barrier.boundary = pass.index) →
      changesAmong barriers pass.index resource
        = (barriers.filter fun barrier => barrier.resource = resource).filter (!·.entry) := by
    intro barriers hboundary
    unfold changesAmong
    rw [List.filter_filter]
    refine List.filter_congr ?_
    intro barrier hbarrier
    cases hentry : barrier.entry with
    | true => simp only [Bool.not_true, Bool.and_false, Bool.false_and]
    | false =>
        simp only [hboundary barrier hbarrier hentry, decide_true, Bool.true_and, Bool.not_false,
          Bool.and_true]
  rw [hlocal _ (planning.useResources_boundary pass _ _), filter_usePass]
  cases planning.demand? pass resource with
  | none => rfl
  | some demand => rfl

end Planning

namespace Compiled

/-- What the planner knew of the resources and passes of a compilation. -/
def planning (compiled : Compiled) : Planning :=
  ⟨compiled.resources, batchOf compiled.batches⟩

/-- What a pass asks of a resource of the compilation. -/
def demand? (compiled : Compiled) (pass : Pass) (resource : String) : Option Demand :=
  compiled.planning.demand? pass resource

end Compiled

/-- A compilation is what follows from its order. -/
theorem compile_eq_ofOrder (passes : List Pass) (compiled : Compiled)
    (h : compile passes = .ok compiled) : compiled = Compiled.ofOrder compiled.order := by
  rcases (compile_eq_ok_iff passes compiled).mp h with ⟨_, placed, _, heq⟩
  rw [heq]
  rfl

/-- The plan of a compilation is the walk over its order. -/
theorem compile_plan (passes : List Pass) (compiled : Compiled)
    (h : compile passes = .ok compiled) :
    compiled.plan.barriers = (compiled.planning.usePasses compiled.order []).2 := by
  rw [compile_eq_ofOrder passes compiled h]
  rfl

/-- The barriers on a resource at the boundary of a pass of a compilation. -/
theorem compile_changes (passes : List Pass) (compiled : Compiled)
    (h : compile passes = .ok compiled) (before : List Pass) (pass : Pass) (after : List Pass)
    (horder : compiled.order = before ++ pass :: after) (resource : String) :
    compiled.plan.changes pass.index resource
      = match compiled.demand? pass resource with
        | none => []
        | some demand =>
          (compiled.planning.callsFor pass resource demand
            (compiled.planning.trackOf resource before)).filter (!·.entry) := by
  have hnodup := compile_order_nodup passes compiled h
  rw [SyncPlan.changes_eq, compile_plan passes compiled h]
  rw [horder] at hnodup ⊢
  exact compiled.planning.changes_usePasses before pass after hnodup resource

end FrameGraph
