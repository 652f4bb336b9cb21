import FrameGraph.Proofs.KindsApart

/-!
# Aspects

A barrier on an image names the aspects that it is about: depth and stencil if
the image is a depth attachment somewhere, and colour otherwise. When a barrier
is planned this is not known yet. A texture may be sampled by a pass that runs
before the one that turns out to write its depth, and the entry of such a
texture is planned first of all.

A plan can be made in turn all the same. Every image is taken for one with
colour, resources are registered as their passes come up, and once all of them
are, each barrier gets the aspect that its resource has by then.
`Planning.unresolved` plans in this way. Planning never looks at an aspect, so
the barriers are the same but for theirs (`Planning.planApart_unresolved`), and
what is set at the end is what the planner that knows all passes puts there from
the start.

What a name has at the end does not depend on the order of its uses. The first
use makes the group, with the aspect of its own type, and a use as depth
attachment puts depth and stencil in the place of whatever there was. So a group
has depth exactly if some use asks for it (`Registry.aspect_insertAll`), whatever
the group was made for. As the order of a compilation is an arrangement of its
passes, this is a question about the passes that were declared.

## Main definitions

* `Usage.isDepthOf`, `usedAsDepth`: A name is used as a depth attachment.
* `PlannedBarrier.withAspect`, `Apart.withAspects`: Barriers with other aspects.
* `Planning.unresolved`: Planning that takes every image for one with colour.
* `Registry.resolve`, `SlottedPlan.resolveAspects`: Aspects as they are
  registered.

## Theorems

* `Registry.aspect_insertAll`: Which aspect a group has after some uses.
* `compile_aspect`: Which aspect a group of a compilation has.
* `Planning.planApart_unresolved`: Planning looks at no aspect.
* `compile_unresolved`: A compilation is planned in turn.
* `SlottedPlan.resolveAspects_images`: What is set at the end, slot by slot.
* `compile_aspects`: The aspect of every barrier on an image.
-/

namespace FrameGraph

open Gpu

/-- The use is one of a name as a depth attachment. -/
def Usage.isDepthOf (usage : Usage) (name : String) : Bool :=
  usage.resource = name && usage.type = .depthStencilAttachment

/-- Some pass uses a name as a depth attachment. -/
def usedAsDepth (passes : List Pass) (name : String) : Bool :=
  (passes.flatMap Pass.usages).any fun usage => usage.isDepthOf name

/-- It does not matter in which order the passes are. -/
theorem usedAsDepth_perm {first second : List Pass} (h : first.Perm second) (name : String) :
    usedAsDepth first name = usedAsDepth second name :=
  (h.flatMap_right Pass.usages).any_eq

namespace Registry

/-- A name without a group was not used. -/
theorem unused_of_group? (usages : List Usage) {name : String}
    (h : (empty.insertAll usages).group? name = none) (usage : Usage) (husage : usage ∈ usages) :
    usage.resource ≠ name := by
  rintro rfl
  have hmem : usage.resource ∈ (empty.insertAll usages).groups.map ResourceGroup.name := by
    rw [mem_names_insertAll]
    exact Or.inr (List.mem_map_of_mem husage)
  rcases group?_of_mem _ _ hmem with ⟨group, _, hfind, _⟩
  exact Option.some_ne_none group (hfind.symm.trans h)

/-- After some uses a group has depth and stencil if one of them was as a depth
    attachment, and else the aspect of its kind. -/
theorem aspect_insertAll (usages : List Usage) (name : String) {group : ResourceGroup}
    (h : (empty.insertAll usages).group? name = some group) :
    group.aspect
      = if usages.any fun usage => usage.isDepthOf name then AspectMask.depthStencil
        else if group.isImage then AspectMask.color else 0 := by
  induction usages using List.reverseRecOn generalizing group with
  | nil => exact absurd h.symm (Option.some_ne_none group)
  | append_singleton before usage ih =>
      have hregistry : empty.insertAll (before ++ [usage])
          = (empty.insertAll before).insert usage :=
        insertAll_append empty before [usage]
      rw [hregistry, group?_insert] at h
      rw [List.any_append, List.any_cons, List.any_nil, Bool.or_false]
      by_cases hname : usage.resource = name
      · have hdepth : usage.isDepthOf name = decide (usage.type = .depthStencilAttachment) := by
          simp only [Usage.isDepthOf, hname, decide_true, Bool.true_and]
        rw [if_pos hname] at h
        rw [hdepth]
        cases hbefore : (empty.insertAll before).group? name with
        | none =>
            -- The use makes the group, and it is the first one of the name.
            rw [hbefore] at h
            rcases Option.some.inj h with rfl
            have hnone : (before.any fun usage => usage.isDepthOf name) = false := by
              rw [List.any_eq_false]
              intro other hother
              have hne := unused_of_group? before hbefore other hother
              simp only [Usage.isDepthOf, hne, decide_false, Bool.false_and, Bool.false_eq_true,
                not_false_eq_true]
            simp only [hnone, Bool.false_or, decide_eq_true_eq]
            rfl
        | some known =>
            -- The group is there, and only a use as depth changes its aspect.
            rw [hbefore] at h
            rcases Option.some.inj h with rfl
            by_cases htype : usage.type = .depthStencilAttachment
            · simp only [Option.map_some, Option.getD_some, ResourceGroup.noting, htype, if_true,
                decide_true, Bool.or_true]
              rfl
            · simp only [Option.map_some, Option.getD_some, ResourceGroup.noting, htype, if_false,
                decide_false, Bool.or_false]
              exact ih hbefore
      · -- The use is of another name.
        have hother : usage.isDepthOf name = false := by
          simp only [Usage.isDepthOf, hname, decide_false, Bool.false_and]
        rw [if_neg hname] at h
        rw [hother, Bool.or_false]
        exact ih h

end Registry

/-- An image of a compilation has depth and stencil if one of the declared passes
    uses it as a depth attachment, and else colour. -/
theorem compile_aspect (passes : List Pass) (compiled : Compiled)
    (h : compile passes = .ok compiled) {resource : String}
    (himage : compiled.planning.isImage resource = true) :
    compiled.planning.aspect resource
      = if usedAsDepth passes resource then AspectMask.depthStencil else AspectMask.color := by
  cases hfind : compiled.resources.group? resource with
  | none =>
      have hnot : compiled.planning.isImage resource = false := by
        unfold Planning.isImage
        exact congrArg (fun group => (Option.map ResourceGroup.isImage group).getD false) hfind
      exact absurd (hnot.symm.trans himage) Bool.false_ne_true
  | some group =>
      have hkind := (compiled.planning.isImage_of_group? hfind).symm.trans himage
      have haspect : compiled.planning.aspect resource = group.aspect := by
        unfold Planning.aspect
        exact congrArg (fun group => (Option.map ResourceGroup.aspect group).getD _) hfind
      rw [compile_resources passes compiled h] at hfind
      rw [haspect, Registry.aspect_insertAll _ resource hfind, hkind,
        ← usedAsDepth_perm (compile_order_perm passes compiled h) resource]
      rfl

/-- A planned barrier with the aspect that its resource is given. -/
def PlannedBarrier.withAspect (aspectOf : String → AspectMask) (planned : PlannedBarrier) :
    PlannedBarrier :=
  { planned with aspect := aspectOf planned.resource }

/-- A step of the planner, with the aspects that resources are given. -/
def Apart.withAspects (aspectOf : String → AspectMask) (apart : Apart) : Apart :=
  { apart with barriers := apart.barriers.map (PlannedBarrier.withAspect aspectOf) }

theorem Apart.withAspects_andThen (aspectOf : String → AspectMask) (here : Apart)
    (later : Table String KnownAs → Apart) :
    (here.andThen later).withAspects aspectOf
      = (here.withAspects aspectOf).andThen fun known => (later known).withAspects aspectOf := by
  unfold withAspects andThen
  rw [List.map_append]

namespace Planning

variable (planning : Planning)

/-- Planning with nothing registered, so that every image is taken for one with
    colour. -/
def unresolved : Planning := { planning with registry := Registry.empty }

theorem useApart_unresolved (pass : Pass) (resource : String) (isImage : Bool) (demand : Demand)
    (known : Table String KnownAs) :
    planning.useApart pass resource isImage demand known
      = (planning.unresolved.useApart pass resource isImage demand known).withAspects
          planning.aspect := by
  unfold useApart unresolved Apart.withAspects
  cases known.get? resource with
  | none => rfl
  | some before =>
      simp only
      split
      · split
        · rfl
        · rfl
      · rfl

theorem usesApart_unresolved (pass : Pass) (registry : Registry) (asked : Table String Demand)
    (names : List String) (known : Table String KnownAs) :
    planning.usesApart pass registry asked names known
      = (planning.unresolved.usesApart pass registry asked names known).withAspects
          planning.aspect := by
  induction names generalizing known with
  | nil => rfl
  | cons resource rest ih =>
      unfold usesApart
      cases asked.get? resource with
      | none => exact ih known
      | some demand =>
          simp only
          rw [Apart.withAspects_andThen, ← useApart_unresolved]
          exact congrArg (Apart.andThen _) (funext ih)

/-- Planning looks at no aspect: what is known and reported is the same, and the
    barriers are the same but for their aspects. -/
theorem planApart_unresolved (registry : Registry) (passes : List Pass)
    (known : Table String KnownAs) :
    planning.planApart registry passes known
      = (planning.unresolved.planApart registry passes known).withAspects planning.aspect := by
  induction passes generalizing registry known with
  | nil => rfl
  | cons pass rest ih =>
      -- What is registered by now is kept apart from the planner's own registry,
      -- so the rest is planned from the same names on both sides.
      unfold planApart
      simp only
      rw [Apart.withAspects_andThen, ← usesApart_unresolved]
      exact congrArg (Apart.andThen _) (funext (ih _))

/-- Unresolved, every barrier is on colour. -/
theorem aspect_unresolved (registry : Registry) (passes : List Pass)
    (known : Table String KnownAs) :
    ∀ planned ∈ (planning.unresolved.planApart registry passes known).barriers,
      planned.aspect = AspectMask.color := by
  -- With nothing registered there is nothing to take away, so these barriers are
  -- their own relabelling, and every name is labelled with colour.
  rw [planning.unresolved.planApart_unresolved]
  intro planned hplanned
  rcases List.mem_map.mp hplanned with ⟨_, _, rfl⟩
  rfl

end Planning

/-- A planned barrier with the aspect that its resource is registered with. -/
def Registry.resolve (registry : Registry) (planned : PlannedBarrier) : PlannedBarrier :=
  { planned with
    aspect := ((registry.group? planned.resource).map ResourceGroup.aspect).getD planned.aspect }

/-- A plan kept by boundary, with the aspects of all barriers on images as they
    are registered. A barrier on a buffer has none. -/
def SlottedPlan.resolveAspects (plan : SlottedPlan) (registry : Registry) : SlottedPlan :=
  { plan with
    slots := plan.slots.map fun slot =>
      (slot.1, { slot.2 with images := slot.2.images.map registry.resolve }) }

/-- The barriers on images, slot by slot. -/
def SlottedPlan.images (plan : SlottedPlan) : List (PassIndex × List PlannedBarrier) :=
  plan.slots.map fun slot => (slot.1, slot.2.images)

/-- What is set at the end is what the barriers could have had from the start,
    boundary by boundary. -/
theorem SlottedPlan.resolveAspects_images (planning : Planning) (barriers : List PlannedBarrier)
    (hcolor : ∀ planned ∈ barriers, planned.aspect = AspectMask.color) :
    ((ofBarriers barriers).resolveAspects planning.registry).images
      = (ofBarriers (barriers.map (PlannedBarrier.withAspect planning.aspect))).images := by
  have hresolve : ∀ planned ∈ barriers,
      planning.registry.resolve planned = planned.withAspect planning.aspect := by
    intro planned hplanned
    unfold Registry.resolve
    rw [hcolor planned hplanned]
    rfl
  -- Aspects do not move barriers, so both plans have the same slots.
  have hboundaries : (SyncPlan.mk
      (barriers.map (PlannedBarrier.withAspect planning.aspect))).boundaries
        = (SyncPlan.mk barriers).boundaries := by
    unfold SyncPlan.boundaries
    rw [List.map_map]
    rfl
  unfold images resolveAspects
  rw [ofBarriers_eq, ofBarriers_eq, hboundaries]
  unfold tabulate
  simp only [List.map_map]
  refine List.map_congr_left ?_
  intro boundary _
  simp only [Function.comp_apply, PassBarriers.ofList, SyncPlan.barriersAt, List.filter_map]
  refine congrArg (Prod.mk boundary) (List.map_congr_left ?_)
  intro planned hplanned
  exact hresolve planned (List.mem_filter.mp (List.mem_filter.mp hplanned).1).1

/-- A compilation is planned in turn, with every image taken for one with colour,
    and its barriers are these with the aspects that are known at the end. -/
theorem compile_unresolved (passes : List Pass) (compiled : Compiled)
    (h : compile passes = .ok compiled) :
    ∃ known barriers,
      compiled.planning.unresolved.planApart Registry.empty compiled.order []
          = ⟨known, barriers, []⟩
        ∧ compiled.plan.barriers
          = barriers.map (PlannedBarrier.withAspect compiled.planning.aspect) := by
  rcases compile_planApart passes compiled h with ⟨known, hplan⟩
  rw [Planning.planApart_unresolved] at hplan
  cases hturn : compiled.planning.unresolved.planApart Registry.empty compiled.order [] with
  | mk last barriers reports =>
      rw [hturn] at hplan
      simp only [Apart.withAspects, Apart.mk.injEq] at hplan
      rcases hplan with ⟨_, hbarriers, rfl⟩
      exact ⟨last, barriers, rfl, hbarriers.symm⟩

/-- A barrier is on the aspect of its resource. -/
theorem compile_planned_aspect (passes : List Pass) (compiled : Compiled)
    (h : compile passes = .ok compiled) {planned : PlannedBarrier}
    (hplanned : planned ∈ compiled.plan.barriers) :
    planned.aspect = compiled.planning.aspect planned.resource := by
  rcases compile_unresolved passes compiled h with ⟨_, barriers, _, hbarriers⟩
  rw [hbarriers] at hplanned
  rcases List.mem_map.mp hplanned with ⟨_, _, rfl⟩
  rfl

/-- Every barrier on an image in the plan of a compilation, entry or not and at
    any boundary, is on depth and stencil if some declared pass, wherever it
    stands, uses the resource as a depth attachment, and on colour otherwise. So
    the same passes in another order lead to the same aspects. The plan is made
    in turn: resources are registered as passes come up, every barrier is
    planned on colour, and then all barriers on images, boundary by boundary, get
    the aspect that their resource is registered with in the end. -/
theorem compile_aspects (passes : List Pass) (compiled : Compiled)
    (h : compile passes = .ok compiled) :
    (∀ planned ∈ compiled.plan.barriers, planned.isImage = true →
      planned.aspect
        = if usedAsDepth passes planned.resource then AspectMask.depthStencil
          else AspectMask.color)
      ∧ (∀ (others : List Pass) (arranged : Compiled), others.Perm passes →
        compile others = .ok arranged →
        ∀ planned ∈ compiled.plan.barriers, ∀ other ∈ arranged.plan.barriers,
          planned.isImage = true → other.isImage = true → other.resource = planned.resource →
          other.aspect = planned.aspect)
      ∧ ∃ known barriers,
        compiled.planning.unresolved.planApart Registry.empty compiled.order []
            = ⟨known, barriers, []⟩
          ∧ (∀ planned ∈ barriers, planned.aspect = AspectMask.color)
          ∧ ((SlottedPlan.ofBarriers barriers).resolveAspects
              (Pass.registered compiled.order)).images
            = (SlottedPlan.ofBarriers compiled.plan.barriers).images := by
  have haspect : ∀ (passes : List Pass) (compiled : Compiled), compile passes = .ok compiled →
      ∀ planned ∈ compiled.plan.barriers, planned.isImage = true →
      planned.aspect
        = if usedAsDepth passes planned.resource then AspectMask.depthStencil
          else AspectMask.color := by
    intro passes compiled h planned hplanned himage
    rw [compile_planned_aspect passes compiled h hplanned]
    refine compile_aspect passes compiled h ?_
    rw [compile_plan passes compiled h] at hplanned
    exact (compiled.planning.mem_usePasses compiled.order [] planned hplanned).1.symm.trans himage
  refine ⟨haspect passes compiled h, ?_, ?_⟩
  · intro others arranged hperm hothers planned hplanned other hother himage hsame hresource
    rw [haspect passes compiled h planned hplanned himage,
      haspect others arranged hothers other hother hsame, hresource, usedAsDepth_perm hperm]
  · rcases compile_unresolved passes compiled h with ⟨known, barriers, hturn, hbarriers⟩
    have hcolor := compiled.planning.aspect_unresolved Registry.empty compiled.order []
    rw [hturn] at hcolor
    refine ⟨known, barriers, hturn, hcolor, ?_⟩
    rw [hbarriers, ← SlottedPlan.resolveAspects_images compiled.planning barriers hcolor,
      Pass.registered_eq, ← compile_resources passes compiled h]
    rfl

/-- An image is filled by a compute pass, and only the pass after it uses the
    image as depth. -/
def seededDepth : List Pass := [
  ⟨0, "seed", .compute, [Usage.plain .write .storageImage "depth"]⟩,
  ⟨1, "prepass", .graphics,
    [Usage.attachment .depthStencilAttachment "depth" LoadOp.load StoreOp.store]⟩]

/-- Both barriers on it are on depth and stencil, also the entry, which is planned
    while the image is known as a storage image. -/
theorem compile_aspects_seededDepth :
    ((Compiled.ofOrder seededDepth).plan.barriers.map fun planned =>
        (planned.boundary, planned.resource, planned.entry))
        = [(0, "depth", true), (1, "depth", false)]
      ∧ ∀ planned ∈ (Compiled.ofOrder seededDepth).plan.barriers,
        planned.isImage = true ∧ planned.aspect = AspectMask.depthStencil := by
  have hbarriers : ∀ planned ∈ (Compiled.ofOrder seededDepth).plan.barriers,
      planned.isImage = true ∧ usedAsDepth seededDepth planned.resource = true := by
    decide +kernel
  refine ⟨by decide +kernel, ?_⟩
  intro planned hplanned
  rcases hbarriers planned hplanned with ⟨himage, hdepth⟩
  have haspect := (compile_aspects seededDepth (Compiled.ofOrder seededDepth) rfl).1
    planned hplanned himage
  rw [hdepth] at haspect
  exact ⟨himage, haspect⟩

end FrameGraph
