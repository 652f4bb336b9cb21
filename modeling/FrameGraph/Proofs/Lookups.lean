import FrameGraph.Proofs.Recorded

/-!
# What a Recording Looks Up

Once a frame is resolved, recording it cannot fail for want of something. It
looks up the bindings of surfaces, and for planned barriers the resources and
the states they are in. A lookup without an answer would not be noticed: what
was to be drawn or to be waited for would just be missing.

For surfaces, two lists have to agree that are written down in different
places, what an operation is said to need and what its work takes out of the
table. `FrameOp.lookups` is the second of them, and that it is all of it is not
a matter of reading: a table that agrees on these surfaces and on no other gives
the same recording.

For barriers, what a name is taken for has to agree. A name may be used as an
image by one pass and as a buffer by another. Resolving goes by its group in the
registry, and a barrier by what the planner took it for. `Compiled.settle?`
looks images and buffers up apart and gives up where one is missing, while
`settle` goes on. The two agree on everything that comes due.

## Main definitions

* `FrameOp.lookups`, `frameLookups`: The surfaces that are looked up.
* `Scene.withTargets`: The scene with other bindings.
* `Compiled.ofKind`: What images, or buffers, are looked up in.
* `Compiled.settle?`: Settle barriers, or give up where one has no resource.
* `retyped`: An image that a later pass reads as a buffer.

## Theorems

* `FrameOp.mem_surfaces_of_mem_lookups`: What is looked up was resolved.
* `Scene.recordOp_withTargets`, `Scene.closeFrame_withTargets`,
  `Scene.recordFrame_withTargets`: Nothing else is looked up.
* `Compiled.Typed.ofKind_planned`: Barriers look in the right place.
* `Compiled.Typed.settle?_eq`: No barrier is left out.
* `record_finds`: A resolved frame finds everything.
-/

namespace FrameGraph

open Gpu

namespace FrameOp

/-- The surfaces whose bindings are looked up to record the work of an
    operation. A clear without an aspect does not look for its own. -/
def lookups (operation : FrameOp) : List Surface :=
  match operation.work with
  | .clear clear => if clear.attachments.isEmpty then [] else [operation.context.target]
  | .mesh _ _ | .indirect _ => [operation.context.target]
  | .blit blit => [blit.source, blit.destination]
  | .dispatch _ => []

/-- What is looked up is among what the operation is said to need. -/
theorem mem_surfaces_of_mem_lookups {operation : FrameOp} {surface : Surface}
    (h : surface ∈ operation.lookups) : surface ∈ operation.surfaces := by
  unfold lookups at h
  unfold surfaces
  cases hwork : operation.work with
  | clear clear =>
      rw [hwork] at h
      simp only at h ⊢
      split at h
      · exact absurd h List.not_mem_nil
      · exact h
  | mesh state renderer =>
      rw [hwork] at h
      exact h
  | indirect draw =>
      rw [hwork] at h
      exact h
  | blit blit =>
      rw [hwork] at h
      exact h
  | dispatch dispatch =>
      rw [hwork] at h
      exact h

end FrameOp

/-- The surfaces whose bindings are looked up in a frame. Its end looks for the
    presented image. -/
def frameLookups (ops : List FrameOp) : List Surface :=
  ops.flatMap FrameOp.lookups ++ [.swapchain]

/-- They were resolved. -/
theorem mem_neededSurfaces_of_mem_frameLookups {ops : List FrameOp} {surface : Surface}
    (h : surface ∈ frameLookups ops) : surface ∈ neededSurfaces ops := by
  unfold frameLookups at h
  rcases List.mem_append.mp h with hops | hend
  · rcases List.mem_flatMap.mp hops with ⟨operation, hoperation, hlookup⟩
    exact mem_neededSurfaces hoperation (FrameOp.mem_surfaces_of_mem_lookups hlookup)
  · rw [List.mem_singleton.mp hend]
    exact swapchain_mem_neededSurfaces ops

namespace Scene

variable (scene : Scene)

/-- The scene with other bindings. -/
def withTargets (targets : Table Surface TargetBinding) : Scene :=
  { scene with resolution := { scene.resolution with targets := targets } }

variable (targets : Table Surface TargetBinding)

theorem inRenderPass_withTargets (context : Context) (body : TargetBinding → List Command)
    (h : targets.get? context.target = scene.resolution.targets.get? context.target) :
    (scene.withTargets targets).inRenderPass context body = scene.inRenderPass context body := by
  funext cursor
  unfold inRenderPass withTargets
  simp only [h]

/-- The work of an operation looks up nothing else. -/
theorem recordWork_withTargets (operation : FrameOp)
    (h : ∀ surface ∈ operation.lookups,
      targets.get? surface = scene.resolution.targets.get? surface) :
    (scene.withTargets targets).recordWork operation = scene.recordWork operation := by
  unfold FrameOp.lookups at h
  unfold recordWork
  cases hwork : operation.work with
  | clear clear =>
      simp only [recordClear]
      by_cases hempty : clear.attachments.isEmpty = true
      · rw [if_pos hempty, if_pos hempty]
      · simp only [hwork, if_neg hempty, List.forall_mem_singleton] at h
        rw [if_neg hempty, if_neg hempty]
        exact scene.inRenderPass_withTargets targets _ _ h
  | mesh state renderer =>
      simp only [hwork, List.forall_mem_singleton] at h
      exact scene.inRenderPass_withTargets targets _ _ h
  | indirect draw =>
      simp only [hwork, List.forall_mem_singleton] at h
      exact scene.inRenderPass_withTargets targets _ _ h
  | blit blit =>
      simp only [hwork, List.forall_mem_cons] at h
      unfold recordBlit withTargets
      simp only [h.1, h.2.1]
  | dispatch dispatch => rfl

/-- Entering a pass looks up no surface, so an operation looks up what its work
    does. -/
theorem recordOp_withTargets (operation : FrameOp)
    (h : ∀ surface ∈ operation.lookups,
      targets.get? surface = scene.resolution.targets.get? surface) :
    (scene.withTargets targets).recordOp operation = scene.recordOp operation := by
  have henter : (scene.withTargets targets).enterPass operation.pass
      = scene.enterPass operation.pass := rfl
  unfold recordOp
  rw [henter, scene.recordWork_withTargets targets operation h]

/-- The end of a frame looks for the presented image. -/
theorem closeFrame_withTargets
    (h : targets.get? .swapchain = scene.resolution.targets.get? .swapchain) :
    (scene.withTargets targets).closeFrame = scene.closeFrame := by
  funext cursor
  have htarget : (closingContext cursor).target = .swapchain :=
    of_decide_eq_true (closingContext_target cursor)
  have hoverlay : (scene.withTargets targets).overlayCommands = scene.overlayCommands := rfl
  rw [← htarget] at h
  unfold closeFrame
  rw [hoverlay, scene.inRenderPass_withTargets targets _ _ h]

/-- A frame looks up nothing else. -/
theorem recordFrame_withTargets (hazards : HazardMask) (ops : List FrameOp)
    (h : ∀ surface ∈ frameLookups ops,
      targets.get? surface = scene.resolution.targets.get? surface) :
    (scene.withTargets targets).recordFrame hazards ops = scene.recordFrame hazards ops := by
  unfold frameLookups at h
  rw [List.forall_mem_append] at h
  have hops : ops.map (scene.withTargets targets).recordOp = ops.map scene.recordOp := by
    refine List.map_congr_left ?_
    intro operation hoperation
    refine scene.recordOp_withTargets targets operation ?_
    intro surface hsurface
    exact h.1 surface (List.mem_flatMap.mpr ⟨operation, hoperation, hsurface⟩)
  have hstart : (scene.withTargets targets).startFrame hazards = scene.startFrame hazards := rfl
  unfold recordFrame
  rw [hstart, hops, scene.closeFrame_withTargets targets (h.2 _ (List.mem_singleton_self _))]

end Scene

namespace Compiled

variable (compiled : Compiled)

/-- What a table holds for a name that stands for an image, or for a name that
    stands for a buffer. These are two tables in one, as a name stands for one
    or the other. -/
def ofKind {α : Type} (isImage : Bool) (table : Table String α) (name : String) : Option α :=
  if (compiled.resources.group? name).map ResourceGroup.isImage = some isImage then
    table.get? name
  else none

/-- Settle barriers as `settle` does, but look for an image or a buffer as the
    barrier says, and give up where there is none or where its state is not
    known. -/
def settle? (backings : Table String Backing) :
    List PlannedBarrier → Table String ResourceState →
      Option (Table String ResourceState × List Transition)
  | [], states => some (states, [])
  | planned :: rest, states =>
    match compiled.ofKind planned.isImage backings planned.resource,
      compiled.ofKind planned.isImage states planned.resource with
    | some backing, some tracked =>
      let previous := planned.startingFrom tracked
      (settle? backings rest (states.put planned.resource planned.next)).map fun later =>
        (later.1,
          if previous.needsBarrier planned.next then ⟨planned, previous, backing⟩ :: later.2
          else later.2)
    | _, _ => none

variable {compiled}

/-- A barrier takes its resource for what it was resolved to. -/
theorem Typed.ofKind_planned (htyped : compiled.Typed) {planned : PlannedBarrier}
    (hplanned : planned ∈ compiled.plan.barriers) {α : Type} (table : Table String α) :
    compiled.ofKind planned.isImage table planned.resource = table.get? planned.resource := by
  rcases htyped.registered planned hplanned with ⟨group, hgroup, hname, hkind⟩
  rcases compiled.resources.group?_of_mem planned.resource
    (hname ▸ List.mem_map_of_mem hgroup) with ⟨found, hfound, hget, hsame⟩
  rcases htyped.eq_of_name hgroup hfound (hname.trans hsame.symm) with rfl
  unfold ofKind
  rw [hget, Option.map_some, hkind, if_pos rfl]

/-- No planned barrier is left out, as long as every group has a resource and
    its state is known. Settling a barrier forgets no state. -/
theorem Typed.settle?_eq (htyped : compiled.Typed) {backings : Table String Backing}
    (hbacked : ∀ group ∈ compiled.resources.groups, ∃ backing,
      backings.get? group.name = some backing)
    (barriers : List PlannedBarrier)
    (hplanned : ∀ planned ∈ barriers, planned ∈ compiled.plan.barriers)
    (states : Table String ResourceState)
    (hknown : ∀ group ∈ compiled.resources.groups, ∃ state,
      states.get? group.name = some state) :
    compiled.settle? backings barriers states = some (settle backings barriers states) := by
  induction barriers generalizing states with
  | nil => rfl
  | cons planned rest ih =>
      rw [List.forall_mem_cons] at hplanned
      rcases htyped.registered planned hplanned.1 with ⟨group, hgroup, hname, _⟩
      rcases hbacked group hgroup with ⟨backing, hbacking⟩
      rcases hknown group hgroup with ⟨tracked, htracked⟩
      rw [hname] at hbacking htracked
      have hnext : ∀ group ∈ compiled.resources.groups, ∃ state,
          (states.put planned.resource planned.next).get? group.name = some state := by
        intro other hother
        rw [Table.get?_put]
        by_cases hmine : planned.resource = other.name
        · exact ⟨_, if_pos hmine⟩
        · rw [if_neg hmine]
          exact hknown other hother
      have hrest := ih hplanned.2 _ hnext
      simp only [settle?, settle, htyped.ofKind_planned hplanned.1, hbacking, htracked, hrest,
        Option.map_some]

end Compiled

/-- A resolved frame finds everything. Let the graph be compiled, with whatever
    uses of a name, and the frame resolve. Every surface that is looked up while
    it is recorded is bound as the pool answered, and no other is looked up:
    with any other bindings for the rest the frame is recorded alike. Every
    planned barrier finds an image that was made, if it takes its resource for
    one, or else a buffer, and at any time a state that this is in. So no
    barrier that comes due is left out for want of either: settling them all,
    and giving up where something is missing, leads to the states and the
    transitions of the frame. -/
theorem record_finds (passes : List Pass) (compiled : Compiled)
    (h : compile passes = .ok compiled) (request : Request) (pool : Pool) (ops : List FrameOp)
    (resolution : Resolution)
    (hresolved : (resolve pool compiled.resources ops).result = .ok resolution) :
    ∃ scene, scene = frameScene compiled request resolution
      ∧ (∀ surface ∈ frameLookups ops, ∃ binding,
        resolution.targets.get? surface = some binding
          ∧ pool.supply.target? surface = some binding)
      ∧ (∀ targets : Table Surface TargetBinding,
        (∀ surface ∈ frameLookups ops,
          targets.get? surface = resolution.targets.get? surface) →
        (scene.withTargets targets).recordFrame request.hazards ops
          = scene.recordFrame request.hazards ops)
      ∧ (∀ planned ∈ compiled.plan.barriers, ∃ backing,
        compiled.ofKind planned.isImage resolution.backings planned.resource = some backing
          ∧ (resolve pool compiled.resources ops).pool.made? planned.isImage planned.resource
            = some backing
          ∧ (∃ state, compiled.ofKind planned.isImage resolution.states planned.resource
            = some state)
          ∧ ∀ front, ∃ state,
            compiled.ofKind planned.isImage (scene.leaves front) planned.resource = some state)
      ∧ compiled.settle? resolution.backings (scene.dealt ops) resolution.states
        = some ((scene.recordFrame request.hazards ops (Cursor.start resolution.states)).1.states,
          (recordTrace compiled request pool ops).flatMap Stretch.transitions) := by
  have htyped := compile_typed passes compiled h
  have hgroup := resolve_backed pool compiled.resources ops resolution hresolved htyped.nodup
  refine ⟨_, rfl, ?_, ?_, ?_, ?_⟩
  · intro surface hsurface
    rcases resolve_bound pool compiled.resources ops resolution hresolved surface
      (mem_neededSurfaces_of_mem_frameLookups hsurface) with ⟨binding, hbinding⟩
    exact ⟨binding, hbinding,
      resolve_target pool compiled.resources ops resolution hresolved surface binding hbinding⟩
  · intro targets hsame
    exact (frameScene compiled request resolution).recordFrame_withTargets targets request.hazards
      ops hsame
  · intro planned hplanned
    rcases htyped.registered planned hplanned with ⟨group, hmem, hname, hkind⟩
    rcases hgroup group hmem with ⟨backing, hbacking, hstate, hmade⟩
    rw [hname] at hbacking
    rw [hname, hkind] at hstate hmade
    refine ⟨backing, (htyped.ofKind_planned hplanned _).trans hbacking, hmade,
      ⟨_, (htyped.ofKind_planned hplanned _).trans hstate⟩, ?_⟩
    -- What was settled before has left the resource in some state.
    intro front
    rcases settle_group compiled htyped pool ops resolution hresolved group hmem
      with ⟨_, _, hsettle⟩
    have hleft := (hsettle ((frameScene compiled request resolution).dealt front)).1
    rw [hname] at hleft
    exact ⟨_, (htyped.ofKind_planned hplanned _).trans hleft⟩
  · have hbacked : ∀ group ∈ compiled.resources.groups, ∃ backing,
        resolution.backings.get? group.name = some backing := by
      intro group hmem
      rcases hgroup group hmem with ⟨backing, hbacking, _⟩
      exact ⟨backing, hbacking⟩
    have hknown : ∀ group ∈ compiled.resources.groups, ∃ state,
        resolution.states.get? group.name = some state := by
      intro group hmem
      rcases hgroup group hmem with ⟨_, _, hstate, _⟩
      exact ⟨_, hstate⟩
    have hdealt : ∀ planned ∈ (frameScene compiled request resolution).dealt ops,
        planned ∈ compiled.plan.barriers :=
      fun planned hdue => (frameScene compiled request resolution).mem_plan_of_mem_dealt ops hdue
    have htransitions := (frameScene compiled request resolution).transitions_trace request.hazards
      ops
    have hstates := (frameScene compiled request resolution).states_recordFrame request.hazards ops
    rw [htyped.settle?_eq hbacked _ hdealt _ hknown,
      recordTrace_of_resolved compiled request pool ops resolution hresolved]
    exact congrArg some (Prod.ext hstates.symm htransitions.symm)

/-- An image that a later pass reads as a buffer. -/
def retyped : List Pass := [
  ⟨0, "write", .compute, [Usage.plain .write .storageImage "data"]⟩,
  ⟨1, "read", .compute, [Usage.plain .read .storageBuffer "data"]⟩]

/-- One dispatch for either pass. -/
def retypedOps : List FrameOp :=
  [⟨0, ⟨1, .swapchain⟩, .dispatch ⟨6, 1, 1, 1⟩⟩, ⟨1, ⟨1, .swapchain⟩, .dispatch ⟨6, 1, 1, 1⟩⟩]

/-- Both barriers on it look for an image, and both are recorded. -/
theorem record_finds_retyped :
    ∃ (resolution : Resolution) (scene : Scene) (states : Table String ResourceState)
      (transitions : List Transition),
      (resolve poolOfTwo (Compiled.ofOrder retyped).resources retypedOps).result = .ok resolution
      ∧ (∀ planned ∈ (Compiled.ofOrder retyped).plan.barriers, planned.isImage = true
        ∧ ∃ backing, (Compiled.ofOrder retyped).ofKind true resolution.backings planned.resource
          = some backing)
      ∧ (Compiled.ofOrder retyped).settle? resolution.backings (scene.dealt retypedOps)
          resolution.states
        = some (states, transitions)
      ∧ transitions.map Transition.planned = (Compiled.ofOrder retyped).plan.barriers := by
  have hcompile : compile retyped = .ok (Compiled.ofOrder retyped) := by rfl
  have himage : ∀ planned ∈ (Compiled.ofOrder retyped).plan.barriers,
      planned.isImage = true := by
    decide +kernel
  rcases record_finds retyped _ hcompile ⟨0, oneTimeSubmit, "", oneDraw⟩ poolOfTwo retypedOps _ rfl
    with ⟨scene, _, _, _, hplanned, hsettled⟩
  refine ⟨_, scene, _, _, rfl, ?_, hsettled, by decide +kernel⟩
  intro planned hmem
  rcases hplanned planned hmem with ⟨backing, hbacking, _⟩
  rw [himage planned hmem] at hbacking
  exact ⟨himage planned hmem, backing, hbacking⟩

end FrameGraph
