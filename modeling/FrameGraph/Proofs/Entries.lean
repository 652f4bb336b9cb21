import FrameGraph.Proofs.DeclaredUses
import FrameGraph.Proofs.Restarts

/-!
# Entries

The first use of a resource in a frame is its entry. A missing entry would
leave the resource in whatever layout it has, and a second one would throw away
what the frame has drawn so far, so there has to be exactly one. The planner
does not look for it: a resource enters when the table of what is known has
nothing under its name. `Planning.entries_callsAlong` says that this is the
first pass of the order that uses it, whatever comes after.

What an entry leads to is what its pass asks of the resource, all of its uses
together. `Pass.collect` adds these up use by use, and registers the resources
on the way. A use is read as one of an image or of a buffer by what is
registered then, and passes that come later register more. As the first use of
a name settles its kind, the result is the demand that is planned with.

A plan is a list of barriers, and its boundaries are read off the list. They can
as well be kept as they come up: slots that are only added to, and a table from
each boundary to its slot. `SlottedPlan.ofBarriers_eq` says that this is the
same. The table and the slots go out of step if a boundary is given a second
slot or the number of a slot is not its place, and the invariant rules out
both.

## Main definitions

* `Registry.kind?`: What a name is registered as.
* `Pass.collect`: What a pass asks, added up while its uses are registered.
* `PassBarriers`: The barriers of a boundary, images and buffers apart.
* `SlottedPlan`: A plan kept by boundary, with a table of the slots.
* `SlottedPlan.tabulate`: The slots and the table of some boundaries, in step.

## Theorems

* `Registry.group?_insert`: What one use does to the groups.
* `Registry.kind?_insertAll`: The kind of a name is settled by its first use.
* `Pass.collectUses_get?`, `compile_collect`: Added up use by use, a pass asks for
  its demand.
* `Planning.entries_callsAlong`: The entry along passes is that of the first
  user.
* `compile_firstUser`, `compile_entry`: A resource in use has a first user in
  the order, and one entry before it.
* `compile_callsOf_ne_nil_iff`, `compile_entry_iff`: When a pass gets a barrier on
  a resource, and when that is its entry.
* `SlottedPlan.file_tabulate`: What filing one barrier does.
* `SlottedPlan.ofBarriers_eq`: Boundaries as they come up are those of the plan.
* `compile_entries`: Each resource in use has one entry, and boundaries are kept
  in step.
-/

namespace FrameGraph

open Gpu

namespace Registry

/-- What a name is registered as: an image, or else a buffer. -/
def kind? (registry : Registry) (name : String) : Option Bool :=
  (registry.group? name).map ResourceGroup.isImage

/-- A use is noted in the group of its name, or it makes the group, and every
    other group stays as it is. -/
theorem group?_insert (registry : Registry) (usage : Usage) (name : String) :
    (registry.insert usage).group? name
      = if usage.resource = name then
          some (((registry.group? name).map fun group => group.noting usage).getD
            (ResourceGroup.ofUsage usage))
        else registry.group? name := by
  cases registry with
  | mk groups =>
    unfold group? insert register
    simp only
    induction groups with
    | nil =>
        by_cases hname : usage.resource = name
        · simp only [note, ResourceGroup.ofUsage, List.find?_cons, hname, decide_true,
            List.find?_nil, Option.map_none, Option.getD_none, if_true]
        · simp only [note, ResourceGroup.ofUsage, List.find?_cons, hname, decide_false,
            List.find?_nil, if_false]
    | cons group rest ih =>
        rw [note]
        by_cases hgroup : group.name = usage.resource
        · rw [if_pos hgroup]
          simp only [List.find?_cons, noting_name]
          by_cases hname : group.name = name
          · simp only [hname, decide_true, Option.map_some, Option.getD_some, ← hgroup, if_true]
          · simp only [hname, decide_false, ← hgroup, if_false]
        · rw [if_neg hgroup]
          simp only [List.find?_cons]
          by_cases hname : group.name = name
          · have hother : ¬ usage.resource = name := fun h => hgroup (hname.trans h.symm)
            simp only [hname, decide_true, if_neg hother]
          · simp only [hname, decide_false]
            exact ih

/-- A group keeps its type. -/
theorem noting_type (group : ResourceGroup) (usage : Usage) :
    (group.noting usage).type = group.type := by
  unfold ResourceGroup.noting
  split
  · rfl
  · rfl

/-- A use settles the kind of a new name and leaves every other as it is. -/
theorem kind?_insert (registry : Registry) (usage : Usage) (name : String) :
    (registry.insert usage).kind? name
      = if usage.resource = name then
          some ((registry.kind? name).getD usage.type.isImage)
        else registry.kind? name := by
  unfold kind?
  rw [group?_insert]
  split
  · cases registry.group? name with
    | none => rfl
    | some group =>
        simp only [Option.map_some, Option.getD_some, ResourceGroup.isImage, noting_type]
  · rfl

/-- Once a name is registered, its kind is settled. -/
theorem kind?_insertAll (registry : Registry) (usages : List Usage) {name : String} {kind : Bool}
    (h : registry.kind? name = some kind) : (registry.insertAll usages).kind? name = some kind := by
  induction usages generalizing registry with
  | nil => exact h
  | cons usage rest ih =>
      refine ih (registry.insert usage) ?_
      rw [kind?_insert]
      split
      · rw [h, Option.getD_some]
      · exact h

end Registry

namespace Pass

/-- Register one use of a pass, and join what it asks with what the uses before
    it do. -/
def collectUse (stage : Stage) (collected : Registry × Table String Demand) (usage : Usage) :
    Registry × Table String Demand :=
  let registry := collected.1.insert usage
  let asked := Demand.ofUsage ((registry.kind? usage.resource).getD false) stage usage
  (registry, collected.2.put usage.resource
    (((collected.2.get? usage.resource).map fun before => before.merge asked).getD asked))

/-- What a pass asks of its resources, with these registered on the way. -/
def collect (pass : Pass) (registry : Registry) : Registry × Table String Demand :=
  pass.usages.foldl (collectUse pass.stage) (registry, [])

/-- The uses are registered one after the other. -/
theorem collectUses_registered (stage : Stage) (collected : Registry × Table String Demand)
    (usages : List Usage) :
    (usages.foldl (collectUse stage) collected).1 = collected.1.insertAll usages := by
  induction usages generalizing collected with
  | nil => rfl
  | cons usage rest ih => exact ih (collectUse stage collected usage)

/-- Added up use by use, some uses ask for what they do together, whatever is
    registered after them. -/
theorem collectUses_get? (stage : Stage) (registry : Registry) (usages later : List Usage)
    (resource : String) :
    (usages.foldl (collectUse stage) (registry, [])).2.get? resource
      = demandOf? stage
          ((((registry.insertAll usages).insertAll later).kind? resource).getD false)
          usages resource := by
  induction usages using List.reverseRecOn generalizing later with
  | nil => rfl
  | append_singleton before usage ih =>
      -- This use is one of those registered after the uses before it.
      have hbefore := ih (usage :: later)
      have hregistry : (registry.insertAll (before ++ [usage])).insertAll later
          = (registry.insertAll before).insertAll (usage :: later) := by
        rw [Registry.insertAll_append]
        rfl
      rw [hregistry, List.foldl_append, List.foldl_cons, List.foldl_nil, collectUse,
        Table.get?_put, collectUses_registered]
      by_cases hresource : usage.resource = resource
      · subst hresource
        have hnow := (registry.insertAll before).kind?_insert usage usage.resource
        rw [if_pos rfl] at hnow
        have hthen := Registry.kind?_insertAll _ later hnow
        have hkind : ((registry.insertAll before).insertAll (usage :: later)).kind? usage.resource
            = ((registry.insertAll before).insert usage).kind? usage.resource :=
          hthen.trans hnow.symm
        rw [if_pos rfl, demandOf?_concat, if_pos rfl, hbefore, hkind]
      · rw [if_neg hresource, demandOf?_concat, if_neg hresource, hbefore]

/-- What is registered once some passes are collected one after the other. -/
def registered (passes : List Pass) : Registry :=
  passes.foldl (fun registry pass => (pass.collect registry).1) Registry.empty

theorem registered_eq (passes : List Pass) :
    registered passes = Registry.empty.insertAll (passes.flatMap Pass.usages) := by
  unfold registered
  generalize Registry.empty = registry
  induction passes generalizing registry with
  | nil => rfl
  | cons pass rest ih =>
      rw [List.foldl_cons, ih, collect, collectUses_registered, List.flatMap_cons,
        Registry.insertAll_append]

end Pass

/-- The resources of a compilation are registered by the passes before one of its
    passes, by this pass, and by the passes after it. -/
theorem compile_registered (passes : List Pass) (compiled : Compiled)
    (h : compile passes = .ok compiled) {before : List Pass} {pass : Pass} {after : List Pass}
    (horder : compiled.order = before ++ pass :: after) :
    compiled.resources
      = ((Pass.registered before).insertAll pass.usages).insertAll
          (after.flatMap Pass.usages) := by
  rw [compile_resources passes compiled h, horder, Pass.registered_eq, List.flatMap_append,
    List.flatMap_cons, Registry.insertAll_append, Registry.insertAll_append]

/-- Added up use by use, with what the passes before it registered, a pass of a
    compilation asks for its demand. -/
theorem compile_collect (passes : List Pass) (compiled : Compiled)
    (h : compile passes = .ok compiled) {before : List Pass} {pass : Pass} {after : List Pass}
    (horder : compiled.order = before ++ pass :: after) (resource : String) :
    (pass.collect (Pass.registered before)).2.get? resource = compiled.demand? pass resource := by
  rw [Pass.collect, Pass.collectUses_get? pass.stage _ pass.usages (after.flatMap Pass.usages),
    ← compile_registered passes compiled h horder]
  rfl

/-- The entry of a resource in front of its first user, which asks `demand` of
    it. -/
def ResourceGroup.entryBefore (group : ResourceGroup) (first : Pass) (demand : Demand) :
    PlannedBarrier where
  boundary := if group.isImage && group.isSwapchain then frameStart else first.index
  resource := group.name
  isImage := group.isImage
  previous := if group.isImage then ImageState.undefined else BufferState.undefined
  next := demand.state
  aspect := group.aspect
  entry := true

namespace Planning

variable (planning : Planning)

/-- Where nothing is known, a use calls for the entry of its group. -/
theorem callsFor_entryBefore {group : ResourceGroup}
    {resource : String} (hfind : planning.registry.group? resource = some group)
    (hname : group.name = resource) (first : Pass) (demand : Demand) :
    planning.callsFor first resource demand none = [group.entryBefore first demand] := by
  have himage := planning.isImage_of_group? hfind
  have haspect : planning.aspect resource = group.aspect := by
    unfold aspect
    rw [hfind]
    rfl
  -- Both kinds enter from the same state, as a buffer has no layout.
  have hundefined : (if group.isImage then ImageState.undefined else BufferState.undefined)
      = ImageState.undefined := by
    split
    · rfl
    · rfl
  unfold callsFor entryBoundary ResourceGroup.entryBefore ResourceGroup.isSwapchain
  rw [himage, haspect, hundefined, hname]

/-- Passes that do not use a resource plan nothing for it. -/
theorem callsAlong_unused (resource : String) (before rest : List Pass) (track : Option Track)
    (hunused : ∀ pass ∈ before, resource ∉ pass.resources) :
    planning.callsAlong resource (before ++ rest) track
      = planning.callsAlong resource rest track := by
  induction before with
  | nil => rfl
  | cons pass before ih =>
      have hnone : planning.demand? pass resource = none :=
        (pass.demand?_eq_none_iff _ resource).mpr (hunused pass List.mem_cons_self)
      rw [List.cons_append, callsAlong, hnone]
      exact ih fun other hother => hunused other (List.mem_cons_of_mem _ hother)

/-- The entry along some passes is that of the first user. -/
theorem entries_callsAlong (resource : String) (before : List Pass) (first : Pass)
    (after : List Pass) (hunused : ∀ pass ∈ before, resource ∉ pass.resources) {demand : Demand}
    (hdemand : planning.demand? first resource = some demand) :
    (planning.callsAlong resource (before ++ first :: after) none).filter (·.entry)
      = planning.callsFor first resource demand none := by
  rw [planning.callsAlong_unused resource before _ none hunused, callsAlong, hdemand]
  -- From here on the resource is known, and what is known does not enter.
  have hlater : (planning.callsAlong resource after
      (some (planning.follow first demand none))).filter (·.entry) = [] := by
    rw [List.filter_eq_nil_iff]
    intro planned hplanned hentry
    rcases planning.mem_callsAlong hplanned with ⟨_, hnone, _⟩ | ⟨hchange, _⟩
    · exact Option.some_ne_none _ hnone
    · rw [hentry] at hchange
      exact Bool.false_ne_true hchange.symm
  simp only [List.filter_append, hlater, List.append_nil, callsFor, List.filter_cons, if_true,
    List.filter_nil]

end Planning

/-- A resource that some pass uses has a first user in the order. -/
theorem compile_firstUser (passes : List Pass) (compiled : Compiled)
    (h : compile passes = .ok compiled) (resource : String)
    (hused : ∃ pass ∈ passes, resource ∈ pass.resources) :
    ∃ before first after, compiled.order = before ++ first :: after
      ∧ resource ∈ first.resources ∧ ∀ pass ∈ before, resource ∉ pass.resources := by
  rcases hused with ⟨user, huser, hresource⟩
  have hordered := (compile_order_perm passes compiled h).mem_iff.mpr huser
  cases hfirst : compiled.order.find? fun pass => decide (resource ∈ pass.resources) with
  | none =>
      have hnot := List.find?_eq_none.mp hfirst user hordered
      exact absurd (decide_eq_true hresource) hnot
  | some first =>
      rcases List.find?_eq_some_iff_append.mp hfirst with ⟨huses, before, after, horder, hbefore⟩
      refine ⟨before, first, after, horder, of_decide_eq_true huses, ?_⟩
      intro pass hpass
      have hnot := hbefore pass hpass
      rw [Bool.not_eq_true', decide_eq_false_iff_not] at hnot
      exact hnot

/-- The entry of a resource in the plan of a compilation is that before its
    first user. -/
theorem compile_entry (passes : List Pass) (compiled : Compiled)
    (h : compile passes = .ok compiled) {before : List Pass} {first : Pass} {after : List Pass}
    (horder : compiled.order = before ++ first :: after) {resource : String}
    (hunused : ∀ pass ∈ before, resource ∉ pass.resources) {group : ResourceGroup}
    (hfind : compiled.resources.group? resource = some group) (hname : group.name = resource)
    {demand : Demand} (hdemand : compiled.demand? first resource = some demand) :
    (compiled.plan.barriers.filter fun planned => planned.resource = resource).filter (·.entry)
      = [group.entryBefore first demand] := by
  rw [compile_plan passes compiled h, compiled.planning.filter_usePasses, horder,
    ← compiled.planning.callsFor_entryBefore hfind hname]
  exact compiled.planning.entries_callsAlong resource before first after hunused hdemand

/-- The first user of a resource gets its entry, and a later one gets what stands
    at its boundary. -/
theorem compile_callsOf_cases (passes : List Pass) (compiled : Compiled)
    (h : compile passes = .ok compiled) {before : List Pass} {pass : Pass} {after : List Pass}
    (horder : compiled.order = before ++ pass :: after) {resource : String} {demand : Demand}
    (hdemand : compiled.demand? pass resource = some demand) :
    (compiled.usersOf resource before = []
        ∧ compiled.planning.callsOf resource before pass
          = compiled.planning.callsFor pass resource demand none)
      ∨ (compiled.usersOf resource before ≠ []
        ∧ compiled.planning.callsOf resource before pass
          = compiled.plan.changes pass.index resource) := by
  have hplanned : compiled.planning.demand? pass resource = some demand := hdemand
  rcases compile_knows passes compiled h resource before (pass :: after) horder
    with ⟨hnone, htrack⟩ | ⟨track, htrack, hknows⟩
  · exact Or.inl ⟨hnone, by rw [Planning.callsOf, hplanned, htrack]⟩
  · refine Or.inr ⟨?_, ?_⟩
    · rcases hknows.last with ⟨last, hlast, _⟩
      intro hnil
      rw [hnil, List.getLast?_nil] at hlast
      exact Option.some_ne_none last hlast.symm
    · rw [Planning.callsOf, hplanned, htrack, compile_changes_of_track passes compiled h before pass
        after horder resource demand hdemand track htrack]
      rfl

/-- A pass gets a barrier on a resource exactly if it is the first user or
    separates from the users before it. -/
theorem compile_callsOf_ne_nil_iff (passes : List Pass) (compiled : Compiled)
    (h : compile passes = .ok compiled) {before : List Pass} {pass : Pass} {after : List Pass}
    (horder : compiled.order = before ++ pass :: after) {resource : String} {demand : Demand}
    (hdemand : compiled.demand? pass resource = some demand) :
    compiled.planning.callsOf resource before pass ≠ []
      ↔ compiled.usersOf resource before = [] ∨ compiled.Separates resource before pass demand := by
  rcases compile_callsOf_cases passes compiled h horder hdemand
    with ⟨hnone, hcalls⟩ | ⟨husers, hcalls⟩
  · rw [hcalls]
    exact iff_of_true (List.cons_ne_nil _ _) (Or.inl hnone)
  · rw [hcalls, or_iff_right husers]
    exact compile_changes_iff_separates passes compiled h before pass after horder resource demand
      hdemand

/-- A barrier that a pass gets is an entry exactly if the pass is the first
    user. -/
theorem compile_entry_iff (passes : List Pass) (compiled : Compiled)
    (h : compile passes = .ok compiled) {before : List Pass} {pass : Pass} {after : List Pass}
    (horder : compiled.order = before ++ pass :: after) {resource : String}
    {planned : PlannedBarrier}
    (hplanned : planned ∈ compiled.planning.callsOf resource before pass) :
    planned.entry = true ↔ compiled.usersOf resource before = [] := by
  rcases (compiled.planning.mem_callsOf_iff _ _ _ _).mp hplanned with ⟨demand, hdemand, _⟩
  rcases compile_callsOf_cases passes compiled h horder hdemand
    with ⟨hnone, hcalls⟩ | ⟨husers, hcalls⟩
  · rw [hcalls, Planning.callsFor, List.mem_singleton] at hplanned
    exact iff_of_true (by rw [hplanned]) hnone
  · rw [hcalls, SyncPlan.changes_eq, mem_changesAmong_iff] at hplanned
    refine iff_of_false ?_ husers
    rw [hplanned.2.2.2]
    exact Bool.false_ne_true

/-- The barriers of a boundary, those on images apart from those on buffers. -/
structure PassBarriers where
  images : List PlannedBarrier
  buffers : List PlannedBarrier
  deriving DecidableEq, Repr

namespace PassBarriers

/-- No barriers. -/
def empty : PassBarriers := ⟨[], []⟩

/-- Some barriers with one more. -/
def push (barriers : PassBarriers) (planned : PlannedBarrier) : PassBarriers :=
  if planned.isImage then ⟨barriers.images ++ [planned], barriers.buffers⟩
  else ⟨barriers.images, barriers.buffers ++ [planned]⟩

/-- Barriers picked apart by what they are on. -/
def ofList (barriers : List PlannedBarrier) : PassBarriers :=
  ⟨barriers.filter (·.isImage), barriers.filter (!·.isImage)⟩

/-- The entries among some barriers. -/
def entriesOnly (barriers : PassBarriers) : PassBarriers :=
  ⟨PlannedBarrier.entries barriers.images, PlannedBarrier.entries barriers.buffers⟩

/-- One more barrier goes to the end of its kind. -/
theorem ofList_concat (barriers : List PlannedBarrier) (planned : PlannedBarrier) :
    ofList (barriers ++ [planned]) = (ofList barriers).push planned := by
  unfold ofList push
  cases himage : planned.isImage with
  | true =>
      simp only [List.filter_append, List.filter_cons, himage, if_true, List.filter_nil,
        Bool.not_true, Bool.false_eq_true, if_false, List.append_nil]
  | false =>
      simp only [List.filter_append, List.filter_cons, himage, if_true, List.filter_nil,
        Bool.not_false, Bool.false_eq_true, if_false, List.append_nil]

/-- Entries are picked before or after the kinds are. -/
theorem entriesOnly_ofList (barriers : List PlannedBarrier) :
    (ofList barriers).entriesOnly = ofList (PlannedBarrier.entries barriers) := by
  unfold ofList entriesOnly PlannedBarrier.entries
  exact congrArg₂ PassBarriers.mk (List.filter_comm _ _ _) (List.filter_comm _ _ _)

end PassBarriers

namespace SyncPlan

/-- One more barrier brings its boundary, if that is new. -/
theorem boundaries_concat (barriers : List PlannedBarrier) (planned : PlannedBarrier) :
    (SyncPlan.mk (barriers ++ [planned])).boundaries
      = (SyncPlan.mk barriers).boundaries
        ++ (if planned.boundary ∈ (SyncPlan.mk barriers).boundaries then []
          else [planned.boundary]) := by
  unfold boundaries
  rw [List.map_append, List.map_cons, List.map_nil, eraseDups_concat]
  simp only [List.mem_eraseDups]

/-- It is the last one at its boundary. -/
theorem barriersAt_concat (barriers : List PlannedBarrier) (planned : PlannedBarrier)
    (boundary : PassIndex) :
    (SyncPlan.mk (barriers ++ [planned])).barriersAt boundary
      = (SyncPlan.mk barriers).barriersAt boundary
        ++ (if boundary = planned.boundary then [planned] else []) := by
  unfold barriersAt
  rw [List.filter_append]
  by_cases hat : boundary = planned.boundary
  · simp only [hat, List.filter_cons, decide_true, if_true, List.filter_nil]
  · simp only [hat, Ne.symm hat, List.filter_cons, decide_false, Bool.false_eq_true, if_false,
      List.filter_nil]

/-- A boundary that none of the barriers names has none. -/
theorem barriersAt_of_notMem {plan : SyncPlan} {boundary : PassIndex}
    (h : boundary ∉ plan.boundaries) : plan.barriersAt boundary = [] := by
  unfold barriersAt
  rw [List.filter_eq_nil_iff]
  intro planned hplanned hat
  rw [decide_eq_true_eq] at hat
  refine h (List.mem_eraseDups.mpr ?_)
  rw [← hat]
  exact List.mem_map_of_mem hplanned

/-- The barriers at a boundary of the plan. -/
theorem barriersAt?_eq (plan : SyncPlan) (boundary : PassIndex) :
    plan.barriersAt? boundary
      = if boundary ∈ plan.boundaries then some (plan.barriersAt boundary) else none := by
  unfold barriersAt?
  split
  · next hnone =>
      have hnot : boundary ∉ plan.boundaries := by
        intro hmem
        rcases List.mem_map.mp (List.mem_eraseDups.mp hmem) with ⟨planned, hplanned, hat⟩
        have hhere : planned ∈ plan.barriersAt boundary :=
          List.mem_filter.mpr ⟨hplanned, decide_eq_true hat⟩
        rw [hnone] at hhere
        exact List.not_mem_nil hhere
      rw [if_neg hnot]
  · next hsome =>
      have hmem : boundary ∈ plan.boundaries := by
        by_contra hnot
        exact hsome (barriersAt_of_notMem hnot)
      rw [if_pos hmem]

end SyncPlan

/-- A plan kept by boundary: in slots, in the order in which boundaries first
    came up, and with a table from each boundary to its slot. -/
structure SlottedPlan where
  slots : List (PassIndex × PassBarriers)
  slotOf : Table PassIndex Nat
  deriving DecidableEq, Repr

namespace SlottedPlan

/-- No boundaries. -/
def empty : SlottedPlan := ⟨[], []⟩

/-- The slot of a boundary: the one it has, or a new one at the end. -/
def assign (plan : SlottedPlan) (boundary : PassIndex) : SlottedPlan × Nat :=
  match plan.slotOf.get? boundary with
  | some slot => (plan, slot)
  | none =>
    (⟨plan.slots ++ [(boundary, PassBarriers.empty)],
      plan.slotOf.put boundary plan.slots.length⟩, plan.slots.length)

/-- File a barrier at its boundary. -/
def file (plan : SlottedPlan) (planned : PlannedBarrier) : SlottedPlan :=
  let (plan, slot) := plan.assign planned.boundary
  { plan with
    slots := plan.slots.modify slot fun held => (held.1, held.2.push planned) }

/-- Barriers filed in the order they are planned. -/
def ofBarriers (barriers : List PlannedBarrier) : SlottedPlan := barriers.foldl file empty

/-- The barriers at a boundary, looked up by its slot. -/
def barriersFor? (plan : SlottedPlan) (boundary : PassIndex) : Option PassBarriers :=
  (plan.slotOf.get? boundary).bind fun slot => (plan.slots[slot]?).map Prod.snd

/-- The entries of all boundaries, slot by slot. -/
def entryBarriers (plan : SlottedPlan) : PassBarriers :=
  ⟨plan.slots.flatMap fun held => held.2.entriesOnly.images,
    plan.slots.flatMap fun held => held.2.entriesOnly.buffers⟩

/-- Some boundaries after one of them has been asked for. -/
def assigned (boundaries : List PassIndex) (boundary : PassIndex) : List PassIndex :=
  boundaries ++ (if boundary ∈ boundaries then [] else [boundary])

/-- The plan with a slot for each of some boundaries, and the slots numbered in
    their order. -/
def tabulate (boundaries : List PassIndex) (held : PassIndex → PassBarriers) : SlottedPlan :=
  ⟨boundaries.map fun boundary => (boundary, held boundary),
    boundaries.map fun boundary => (boundary, boundaries.idxOf boundary)⟩

variable {boundaries : List PassIndex} {held : PassIndex → PassBarriers}

theorem nodup_assigned (hnodup : boundaries.Nodup) (boundary : PassIndex) :
    (assigned boundaries boundary).Nodup := by
  unfold assigned
  by_cases hold : boundary ∈ boundaries
  · rw [if_pos hold, List.append_nil]
    exact hnodup
  · rw [if_neg hold, ← List.concat_eq_append]
    exact hnodup.concat hold

/-- A boundary that is there keeps its slot, and a new one gets the next. -/
theorem assign_tabulate (hnodup : boundaries.Nodup)
    (hempty : ∀ boundary, boundary ∉ boundaries → held boundary = PassBarriers.empty)
    (boundary : PassIndex) :
    (tabulate boundaries held).assign boundary
      = (tabulate (assigned boundaries boundary) held,
        (assigned boundaries boundary).idxOf boundary) := by
  unfold assign tabulate assigned
  rw [Table.get?_map]
  by_cases hold : boundary ∈ boundaries
  · simp only [if_pos hold, List.append_nil]
  · simp only [if_neg hold]
    rw [Table.put_map hnodup, if_neg hold, List.length_map]
    have hplace : (boundaries ++ [boundary]).idxOf boundary = boundaries.length := by
      rw [List.idxOf_append_of_notMem hold, List.idxOf_cons_self, Nat.add_zero]
    -- The numbers of the boundaries before it do not change.
    have hnumbers : boundaries.map (fun other =>
          (other, if other = boundary then boundaries.length else boundaries.idxOf other))
        = boundaries.map fun other => (other, (boundaries ++ [boundary]).idxOf other) := by
      refine List.map_congr_left ?_
      intro other hother
      have hne : other ≠ boundary := fun heq => hold (heq ▸ hother)
      rw [if_neg hne, List.idxOf_append_of_mem hother]
    rw [hplace, List.map_append, List.map_append, List.map_append, hnumbers]
    simp only [List.map_cons, List.map_nil, hempty boundary hold, hplace, if_true]

/-- To change what stands at the place of a boundary is to change what the
    boundary holds. -/
theorem modify_idxOf (hnodup : boundaries.Nodup) (boundary : PassIndex)
    (change : PassBarriers → PassBarriers) :
    (boundaries.map fun other => (other, held other)).modify (boundaries.idxOf boundary)
        (fun slot => (slot.1, change slot.2))
      = boundaries.map fun other =>
          (other, if other = boundary then change (held other) else held other) := by
  induction boundaries with
  | nil => rfl
  | cons first rest ih =>
      rw [List.nodup_cons] at hnodup
      by_cases hfirst : first = boundary
      · subst hfirst
        rw [List.idxOf_cons_self, List.map_cons, List.modify_zero_cons, List.map_cons, if_pos rfl]
        refine congrArg (List.cons _) (List.map_congr_left ?_)
        intro other hother
        have hne : other ≠ first := fun heq => hnodup.1 (heq ▸ hother)
        rw [if_neg hne]
      · rw [List.idxOf_cons_ne _ hfirst, List.map_cons, List.modify_succ_cons, ih hnodup.2,
          List.map_cons, if_neg hfirst]

/-- To file a barrier is to add it to what its boundary holds. -/
theorem file_tabulate (hnodup : boundaries.Nodup)
    (hempty : ∀ boundary, boundary ∉ boundaries → held boundary = PassBarriers.empty)
    (planned : PlannedBarrier) :
    (tabulate boundaries held).file planned
      = tabulate (assigned boundaries planned.boundary) fun other =>
          if other = planned.boundary then (held other).push planned else held other := by
  unfold file
  rw [assign_tabulate hnodup hempty]
  simp only [tabulate]
  rw [modify_idxOf (nodup_assigned hnodup _) planned.boundary fun barriers => barriers.push planned]

/-- Boundaries kept as they come up are those of the plan. -/
theorem ofBarriers_eq (barriers : List PlannedBarrier) :
    ofBarriers barriers
      = tabulate (SyncPlan.mk barriers).boundaries fun boundary =>
          PassBarriers.ofList ((SyncPlan.mk barriers).barriersAt boundary) := by
  induction barriers using List.reverseRecOn with
  | nil => rfl
  | append_singleton barriers planned ih =>
      have hnodup : (SyncPlan.mk barriers).boundaries.Nodup := nodup_eraseDups _
      have hempty : ∀ boundary, boundary ∉ (SyncPlan.mk barriers).boundaries →
          PassBarriers.ofList ((SyncPlan.mk barriers).barriersAt boundary)
            = PassBarriers.empty := by
        intro boundary hnew
        rw [SyncPlan.barriersAt_of_notMem hnew]
        rfl
      unfold ofBarriers at ih ⊢
      rw [List.foldl_append, List.foldl_cons, List.foldl_nil, ih,
        file_tabulate hnodup hempty planned, assigned, ← SyncPlan.boundaries_concat]
      refine congrArg (tabulate _) ?_
      funext boundary
      rw [SyncPlan.barriersAt_concat]
      by_cases hat : boundary = planned.boundary
      · rw [if_pos hat, if_pos hat, PassBarriers.ofList_concat]
      · rw [if_neg hat, if_neg hat, List.append_nil]

/-- Every boundary is found, and nothing else is. -/
theorem barriersFor?_tabulate (boundary : PassIndex) :
    (tabulate boundaries held).barriersFor? boundary
      = if boundary ∈ boundaries then some (held boundary) else none := by
  unfold barriersFor? tabulate
  rw [Table.get?_map]
  by_cases hold : boundary ∈ boundaries
  · rw [if_pos hold, if_pos hold, Option.bind_some, List.getElem?_map,
      List.getElem?_idxOf hold]
    rfl
  · rw [if_neg hold, if_neg hold]
    rfl

/-- The slots are of the boundaries of the plan. -/
theorem slots_ofBarriers (plan : SyncPlan) :
    (ofBarriers plan.barriers).slots.map Prod.fst = plan.boundaries := by
  rw [ofBarriers_eq]
  unfold tabulate
  rw [List.map_map]
  exact List.map_id _

/-- What is found for a boundary is what the plan has there. -/
theorem barriersFor?_ofBarriers (plan : SyncPlan) (boundary : PassIndex) :
    (ofBarriers plan.barriers).barriersFor? boundary
      = (plan.barriersAt? boundary).map PassBarriers.ofList := by
  rw [ofBarriers_eq, barriersFor?_tabulate, SyncPlan.barriersAt?_eq]
  split
  · rfl
  · rfl

/-- Each slot is the one that is found for its boundary. -/
theorem barriersFor?_of_mem (plan : SyncPlan) {slot : PassIndex × PassBarriers}
    (h : slot ∈ (ofBarriers plan.barriers).slots) :
    (ofBarriers plan.barriers).barriersFor? slot.1 = some slot.2 := by
  rw [ofBarriers_eq] at h ⊢
  rcases List.mem_map.mp h with ⟨boundary, hboundary, rfl⟩
  rw [barriersFor?_tabulate, if_pos hboundary]

/-- The entries slot by slot are those of the plan. -/
theorem entryBarriers_ofBarriers (plan : SyncPlan) :
    (ofBarriers plan.barriers).entryBarriers = PassBarriers.ofList plan.entryBarriers := by
  rw [ofBarriers_eq]
  unfold entryBarriers tabulate SyncPlan.entryBarriers
  simp only [List.flatMap_map, PassBarriers.entriesOnly_ofList]
  unfold PassBarriers.ofList
  rw [List.filter_flatMap, List.filter_flatMap]

end SlottedPlan

/-- Each resource that some pass uses enters once. There is one entry on it in
    the whole plan, out of the undefined state and into what the first pass of
    the order that uses it asks for, with all of its uses taken together. It
    stands at the start of the frame if it is of the presented image, and
    before that pass otherwise. All entries of the plan, each once, are what is
    listed as its entries, and no barrier is on a resource that is not used.
    Boundaries kept as they come up are the ones of the plan: each has one slot,
    in the order in which they came up, its slot is what is found for it, and
    the entries slot by slot are the same. -/
theorem compile_entries (passes : List Pass) (compiled : Compiled)
    (h : compile passes = .ok compiled) :
    (∀ resource, (∃ pass ∈ passes, resource ∈ pass.resources) →
      ∃ before first after, compiled.order = before ++ first :: after
        ∧ resource ∈ first.resources ∧ (∀ pass ∈ before, resource ∉ pass.resources)
        ∧ ∃ group ∈ compiled.resources.groups, group.name = resource
        ∧ ∃ demand, first.demand? group.isImage resource = some demand
          ∧ (first.collect (Pass.registered before)).2.get? resource = some demand
          ∧ (compiled.plan.barriers.filter fun planned => planned.resource = resource).filter
              (·.entry) = [group.entryBefore first demand]
          ∧ (compiled.plan.entryBarriers.filter fun planned => planned.resource = resource)
            = [group.entryBefore first demand])
      ∧ (∀ planned ∈ compiled.plan.barriers, ∃ pass ∈ passes, planned.resource ∈ pass.resources)
      ∧ compiled.plan.entryBarriers.Nodup
      ∧ (∀ planned, planned ∈ compiled.plan.entryBarriers
        ↔ planned ∈ compiled.plan.barriers ∧ planned.entry = true)
      ∧ ∃ kept, kept = SlottedPlan.ofBarriers compiled.plan.barriers
        ∧ kept.entryBarriers = PassBarriers.ofList compiled.plan.entryBarriers
        ∧ (kept.slots.map Prod.fst).Nodup
        ∧ kept.slots.map Prod.fst = compiled.plan.boundaries
        ∧ (∀ slot ∈ kept.slots, kept.barriersFor? slot.1 = some slot.2)
        ∧ ∀ boundary, kept.barriersFor? boundary
          = (compiled.plan.barriersAt? boundary).map PassBarriers.ofList := by
  have hperm := Scene.entryBarriers_perm compiled.plan
  have hslots := SlottedPlan.slots_ofBarriers compiled.plan
  refine ⟨?_, ?_, ?_, ?_, _, rfl, SlottedPlan.entryBarriers_ofBarriers compiled.plan, ?_, hslots,
    fun _ hslot => SlottedPlan.barriersFor?_of_mem compiled.plan hslot,
    SlottedPlan.barriersFor?_ofBarriers compiled.plan⟩
  · intro resource hused
    rcases compile_firstUser passes compiled h resource hused
      with ⟨before, first, after, horder, huses, hunused⟩
    have hfirst : first ∈ compiled.order := by
      rw [horder]
      exact List.mem_append_right _ List.mem_cons_self
    rcases compile_group? passes compiled h hfirst huses with ⟨group, hgroup, hfind, hname⟩
    have hasks : compiled.demand? first resource = first.demand? group.isImage resource :=
      congrArg (first.demand? · resource) (compiled.planning.isImage_of_group? hfind)
    cases hdemand : first.demand? group.isImage resource with
    | none => exact absurd huses ((first.demand?_eq_none_iff _ resource).mp hdemand)
    | some demand =>
        rw [hdemand] at hasks
        have hentry := compile_entry passes compiled h horder hunused hfind hname hasks
        refine ⟨before, first, after, horder, huses, hunused, group, hgroup, hname, demand,
          hdemand, (compile_collect passes compiled h horder resource).trans hasks, hentry, ?_⟩
        rw [List.filter_comm] at hentry
        rw [← List.perm_singleton, ← hentry]
        exact hperm.filter _
  · intro planned hplanned
    rw [compile_plan passes compiled h] at hplanned
    rcases compiled.planning.mem_usePasses compiled.order [] planned hplanned
      with ⟨_, pass, hpass, hused⟩
    exact ⟨pass, (compile_order_perm passes compiled h).mem_iff.mp hpass, hused⟩
  · exact hperm.nodup_iff.mpr ((compile_nodup_barriers passes compiled h).filter _)
  · intro planned
    rw [hperm.mem_iff, List.mem_filter]
  · rw [hslots]
    exact nodup_eraseDups _

/-- A scene and an interface over it: the presented image enters at the start of
    the frame, and the font before the pass that reads it. -/
theorem compile_entries_uiOverScene :
    (∃ entry, ((Compiled.ofOrder uiOverScene).plan.entryBarriers.filter
          fun planned => planned.resource = swapchainName) = [entry]
        ∧ entry.boundary = frameStart)
      ∧ ∃ entry, ((Compiled.ofOrder uiOverScene).plan.entryBarriers.filter
          fun planned => planned.resource = "font") = [entry]
        ∧ entry.boundary = 1 := by
  have himages : ∀ group ∈ (Compiled.ofOrder uiOverScene).resources.groups,
      group.isImage = true := by decide +kernel
  have hreaders : ∀ pass ∈ (Compiled.ofOrder uiOverScene).order, "font" ∈ pass.resources →
      pass.index = 1 := by decide +kernel
  have hentries := (compile_entries uiOverScene (Compiled.ofOrder uiOverScene) rfl).1
  constructor
  · rcases hentries swapchainName (by decide +kernel)
      with ⟨_, first, _, _, _, _, group, hgroup, hname, demand, _, _, _, hentry⟩
    refine ⟨_, hentry, ?_⟩
    have hswapchain : group.isSwapchain = true := decide_eq_true hname
    simp only [ResourceGroup.entryBefore, himages group hgroup, hswapchain, Bool.and_self, if_true]
  · rcases hentries "font" (by decide +kernel)
      with ⟨_, first, _, horder, huses, _, group, _, hname, demand, _, _, _, hentry⟩
    refine ⟨_, hentry, ?_⟩
    have hfirst : first ∈ (Compiled.ofOrder uiOverScene).order := by
      rw [horder]
      exact List.mem_append_right _ List.mem_cons_self
    have hother : group.isSwapchain = false :=
      decide_eq_false fun hsame => absurd (hname.symm.trans hsame) (by decide)
    simp only [ResourceGroup.entryBefore, hother, Bool.and_false, Bool.false_eq_true, if_false,
      hreaders first hfirst huses]

end FrameGraph
