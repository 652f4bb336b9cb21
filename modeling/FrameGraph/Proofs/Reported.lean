import FrameGraph.Proofs.Stream
import FrameGraph.Proofs.Tracking

/-!
# What a Pool Reports

Between two frames the pool is the only witness of what state a resource is
in. What it reports is the state that was noted last, or else the state the
resource starts out in, and it reports this for every name, made or not yet
made. Making a resource therefore does not change a report, and a frame that
fails on the way leaves every report as it was.

A frame finds its resources by name, while the pool keeps images and buffers
apart. The two views agree as long as a name stands for one group, which is
`Registry.nodup_insertAll`, and as long as a barrier takes its resource for
what the group of this name is. Both are `Compiled.Typed`, which holds of
every compilation.

## Main definitions

* `Supply.starts`: The state a resource starts out in.
* `Pool.made?`: The resource made for a name.
* `Pool.reported`, `Pool.layout`: The state that a pool reports.
* `Pool.offering`: A pool whose owner can provide other things.
* `Compiled.Typed`: Barriers take resources for what their groups are.

## Theorems

* `Pool.reported_ensure`, `Pool.reported_commit`: What changes a report.
* `resolve_backed`, `resolve_bound`: A resolved frame has everything.
* `reported_resolve`: Resolving changes no report.
* `reported_commitAll`: The last state handed back is reported.
* `Registry.names_note`: What one use does to the names.
* `compile_typed`: A compilation is typed.
-/

namespace FrameGraph

open Gpu

/-- The state a resource starts out in. -/
def Supply.starts (supply : Supply) (isImage : Bool) (name : String) : ResourceState :=
  if isImage then supply.imageState name else supply.bufferState name

namespace Pool

/-- The image or the buffer made for a name, if there is one. -/
def made? (pool : Pool) (isImage : Bool) (name : String) : Option Backing :=
  if isImage then pool.images.get? name else pool.buffers.get? name

/-- The state that a pool reports for an image or a buffer. -/
def reported (pool : Pool) (isImage : Bool) (name : String) : ResourceState :=
  ((pool.made? isImage name).map Backing.state).getD (pool.supply.starts isImage name)

/-- The pool when its owner can provide other resources and surfaces. -/
def offering (pool : Pool) (provides : String → Bool)
    (target? : Surface → Option TargetBinding) : Pool :=
  { pool with supply := { pool.supply with provides := provides, target? := target? } }

/-- The layout that a pool reports for an image. -/
def layout (pool : Pool) (name : String) : Layout := (pool.reported true name).layout

variable (pool : Pool) (group : ResourceGroup)

theorem reported_of_made {isImage : Bool} {name : String} {backing : Backing}
    (h : pool.made? isImage name = some backing) :
    pool.reported isImage name = backing.state := by
  rw [reported, h]
  rfl

theorem fresh_state : (pool.fresh group).state = pool.supply.starts group.isImage group.name := by
  unfold fresh Supply.starts
  split
  · rfl
  · rfl

theorem supply_store (backing : Backing) : (pool.store group backing).supply = pool.supply := by
  unfold store
  split
  · rfl
  · rfl

/-- Images and buffers are apart. -/
theorem made?_store (backing : Backing) (isImage : Bool) (name : String) :
    (pool.store group backing).made? isImage name
      = if group.isImage = isImage ∧ group.name = name then some backing
        else pool.made? isImage name := by
  unfold store made?
  by_cases hkind : group.isImage = true
  · cases isImage with
    | true => simp only [hkind, if_true, Table.get?_put, true_and]
    | false => simp only [hkind, if_true, Bool.false_eq_true, Bool.true_eq_false, false_and,
        if_false]
  · rw [Bool.not_eq_true] at hkind
    cases isImage with
    | true => simp only [hkind, if_true, Bool.false_eq_true, false_and, if_false]
    | false => simp only [hkind, Bool.false_eq_true, if_false, Table.get?_put, true_and]

/-- What is made stays. -/
theorem made?_ensure {isImage : Bool} {name : String} {backing : Backing}
    (h : pool.made? isImage name = some backing) :
    (pool.ensure group).1.made? isImage name = some backing := by
  unfold ensure
  split
  · split
    · exact h
    · next hnew =>
        -- Another resource is made, as this one was there.
        have hother : ¬ (group.isImage = isImage ∧ group.name = name) := by
          rintro ⟨hkind, hname⟩
          have hnone : pool.made? isImage name = none := by
            rw [← hkind, ← hname]
            exact hnew
          rw [hnone] at h
          exact absurd h.symm (Option.some_ne_none backing)
        rw [made?_store, if_neg hother]
        exact h
  · exact h

/-- Making a resource changes no report: it starts out as was reported. -/
theorem reported_ensure (isImage : Bool) (name : String) :
    (pool.ensure group).1.reported isImage name = pool.reported isImage name := by
  unfold ensure
  split
  · split
    · rfl
    · next hnew =>
        unfold reported
        rw [made?_store, supply_store]
        split
        · next hsame =>
            have hnone : pool.made? isImage name = none := by
              rw [← hsame.1, ← hsame.2]
              exact hnew
            rw [hnone, Option.map_some, Option.getD_some, fresh_state, hsame.1, hsame.2]
            rfl
        · rfl
  · rfl

/-- A resource comes in the state that was reported. -/
theorem ensure_backing (backing : Backing) (h : (pool.ensure group).2 = some backing) :
    (pool.ensure group).1.made? group.isImage group.name = some backing
      ∧ backing.state = pool.reported group.isImage group.name := by
  have hmade : (pool.ensure group).1.made? group.isImage group.name = some backing := by
    unfold ensure at h ⊢
    split at h
    · next hprovides =>
        rw [if_pos hprovides]
        split at h
        · next old hold =>
            rw [Option.some.injEq] at h
            rw [← h]
            exact hold
        · next hnew =>
            rw [Option.some.injEq] at h
            simp only [made?_store, and_self, if_true, h]
    · exact absurd h.symm (Option.some_ne_none backing)
  refine ⟨hmade, ?_⟩
  rw [← reported_ensure pool group, reported_of_made _ hmade]

/-- Noting the state of a resource that was made changes its report alone. -/
theorem reported_commit {backing : Backing}
    (h : pool.made? group.isImage group.name = some backing) (state : ResourceState)
    (isImage : Bool) (name : String) :
    (pool.commit group state).reported isImage name
      = if group.isImage = isImage ∧ group.name = name then state
        else pool.reported isImage name := by
  have hbacking : pool.backing? group = some backing := h
  unfold commit reported
  rw [hbacking]
  simp only [made?_store, supply_store]
  split
  · rfl
  · rfl

theorem made?_commit {isImage : Bool} {name : String}
    (h : (pool.made? isImage name).isSome = true) (state : ResourceState) :
    ((pool.commit group state).made? isImage name).isSome = true := by
  unfold commit
  split
  · rw [made?_store]
    split
    · rfl
    · exact h
  · exact h

end Pool

/-- What holds of a pool and stays when a resource is made holds after some
    groups got theirs. -/
theorem backGroups_preserves (P : Pool → Prop)
    (hstep : ∀ (pool : Pool) (group : ResourceGroup), P pool → P (pool.ensure group).1)
    (pool : Pool) (groups : List ResourceGroup) (h : P pool) : P (backGroups pool groups).pool := by
  induction groups generalizing pool with
  | nil => exact h
  | cons group rest ih =>
      have hnext := hstep pool group h
      rw [backGroups]
      split
      · next heq =>
          rw [heq] at hnext
          exact hnext
      · next heq =>
          rw [heq] at hnext
          exact ih _ hnext

theorem reported_backGroups (pool : Pool) (groups : List ResourceGroup) (isImage : Bool)
    (name : String) :
    (backGroups pool groups).pool.reported isImage name = pool.reported isImage name := by
  refine backGroups_preserves
    (fun next => next.reported isImage name = pool.reported isImage name) ?_ pool groups rfl
  intro next group hnext
  exact (next.reported_ensure group isImage name).trans hnext

theorem made?_backGroups (pool : Pool) (groups : List ResourceGroup) {isImage : Bool}
    {name : String} {backing : Backing} (h : pool.made? isImage name = some backing) :
    (backGroups pool groups).pool.made? isImage name = some backing := by
  refine backGroups_preserves (fun next => next.made? isImage name = some backing) ?_ pool groups h
  intro next group hnext
  exact next.made?_ensure group hnext

/-- Groups with distinct names each get a resource, in the state reported. -/
theorem backGroups_get? (pool : Pool) (groups : List ResourceGroup)
    (hnodup : (groups.map ResourceGroup.name).Nodup) (backings : Table String Backing)
    (h : (backGroups pool groups).result = .ok backings) (group : ResourceGroup)
    (hgroup : group ∈ groups) :
    ∃ backing, backings.get? group.name = some backing
      ∧ backing.state = pool.reported group.isImage group.name
      ∧ (backGroups pool groups).pool.made? group.isImage group.name = some backing := by
  induction groups generalizing pool backings with
  | nil => exact absurd hgroup List.not_mem_nil
  | cons first rest ih =>
      rw [List.map_cons, List.nodup_cons] at hnodup
      have hreported := pool.reported_ensure first
      have hfirst := pool.ensure_backing first
      rw [backGroups] at h ⊢
      split at h
      · simp only [reduceCtorEq] at h
      · next next answer heq =>
          rw [heq] at hreported hfirst
          simp only at h ⊢
          cases hrest : (backGroups next rest).result with
          | error error => simp only [hrest, Except.map, reduceCtorEq] at h
          | ok later =>
              rw [hrest] at h
              rcases Except.ok.inj h with rfl
              rcases List.mem_cons.mp hgroup with rfl | hlater
              · rcases hfirst answer rfl with ⟨hmade, hstate⟩
                exact ⟨answer, by rw [Table.get?, if_pos rfl], hstate,
                  made?_backGroups next rest hmade⟩
              · -- Its name is not the first one, so it is looked up behind it.
                have hname : ¬ first.name = group.name := by
                  intro hsame
                  exact hnodup.1 (hsame ▸ List.mem_map_of_mem hlater)
                rcases ih next hnodup.2 later hrest hlater with ⟨backing, hget, hstate, hmade⟩
                refine ⟨backing, ?_, hstate.trans (hreported _ _), hmade⟩
                rw [Table.get?, if_neg hname]
                exact hget

theorem bindSurfaces_of_mem (pool : Pool) (surfaces : List Surface)
    (targets : Table Surface TargetBinding) (h : (bindSurfaces pool surfaces).result = .ok targets)
    (surface : Surface) (hsurface : surface ∈ surfaces) :
    ∃ binding, targets.get? surface = some binding := by
  induction surfaces generalizing targets with
  | nil => exact absurd hsurface List.not_mem_nil
  | cons first rest ih =>
      rw [bindSurfaces] at h
      split at h
      · simp only [reduceCtorEq] at h
      · next answer _ =>
          simp only at h
          cases hrest : (bindSurfaces pool rest).result with
          | error error => simp only [hrest, Except.map, reduceCtorEq] at h
          | ok later =>
              rw [hrest] at h
              rcases Except.ok.inj h with rfl
              rw [Table.get?]
              by_cases hsame : first = surface
              · exact ⟨answer, if_pos hsame⟩
              · have hlater := (List.mem_cons.mp hsurface).resolve_left (Ne.symm hsame)
                rw [if_neg hsame]
                exact ih later hrest hlater

theorem pool_bindSurfaces (pool : Pool) (surfaces : List Surface) :
    (bindSurfaces pool surfaces).pool = pool := by
  induction surfaces with
  | nil => rfl
  | cons first rest ih =>
      rw [bindSurfaces]
      split
      · rfl
      · exact ih

/-- Resolving changes no report, whatever comes of it. -/
theorem reported_resolve (pool : Pool) (resources : Registry) (ops : List FrameOp)
    (isImage : Bool) (name : String) :
    (resolve pool resources ops).pool.reported isImage name = pool.reported isImage name := by
  have hbacked := reported_backGroups pool resources.groups isImage name
  unfold resolve
  simp only
  split
  · exact hbacked
  · split
    · exact hbacked
    · rw [pool_bindSurfaces]
      exact hbacked

/-- A frame that resolves has its groups backed and its surfaces bound. -/
theorem resolve_eq_ok (pool : Pool) (resources : Registry) (ops : List FrameOp)
    (resolution : Resolution) (h : (resolve pool resources ops).result = .ok resolution) :
    (backGroups pool resources.groups).result = .ok resolution.backings
      ∧ (bindSurfaces (backGroups pool resources.groups).pool (neededSurfaces ops)).result
        = .ok resolution.targets
      ∧ (resolve pool resources ops).pool = (backGroups pool resources.groups).pool := by
  unfold resolve at h ⊢
  simp only at h ⊢
  split at h
  · simp only [reduceCtorEq] at h
  · next backings hbackings =>
      rw [hbackings]
      split at h
      · simp only [reduceCtorEq] at h
      · simp only
        cases hbound : (bindSurfaces (backGroups pool resources.groups).pool
            (neededSurfaces ops)).result with
        | error error => simp only [hbound, Except.map, reduceCtorEq] at h
        | ok targets =>
            simp only [hbound, Except.map, Except.ok.injEq] at h
            subst h
            exact ⟨rfl, rfl, pool_bindSurfaces _ _⟩

/-- A group of a resolved frame has a resource, in the state reported. -/
theorem resolve_backed (pool : Pool) (resources : Registry) (ops : List FrameOp)
    (resolution : Resolution) (h : (resolve pool resources ops).result = .ok resolution)
    (hnodup : (resources.groups.map ResourceGroup.name).Nodup) (group : ResourceGroup)
    (hgroup : group ∈ resources.groups) :
    ∃ backing, resolution.backings.get? group.name = some backing
      ∧ resolution.states.get? group.name = some (pool.reported group.isImage group.name)
      ∧ (resolve pool resources ops).pool.made? group.isImage group.name = some backing := by
  rcases resolve_eq_ok pool resources ops resolution h with ⟨hbackings, _, hpool⟩
  rcases backGroups_get? pool resources.groups hnodup _ hbackings group hgroup
    with ⟨backing, hget, hstate, hmade⟩
  rw [hpool]
  refine ⟨backing, hget, ?_, hmade⟩
  -- The states are read off the resources.
  have hmap : ∀ (table : Table String Backing) (name : String),
      Table.get? (table.map fun entry => (entry.1, entry.2.state)) name
        = (table.get? name).map Backing.state := by
    intro table name
    induction table with
    | nil => rfl
    | cons entry rest ih =>
        rw [List.map_cons, Table.get?, Table.get?, ih]
        split
        · rfl
        · rfl
  unfold Resolution.states
  rw [hmap, hget, Option.map_some, hstate]

/-- The surfaces that an operation needs are among those of the frame. -/
theorem mem_neededSurfaces {ops : List FrameOp} {operation : FrameOp} (h : operation ∈ ops)
    {surface : Surface} (hsurface : surface ∈ operation.surfaces) :
    surface ∈ neededSurfaces ops := by
  unfold neededSurfaces
  rw [List.mem_eraseDups]
  exact List.mem_append_left _ (List.mem_flatMap.mpr ⟨operation, h, hsurface⟩)

/-- Every frame needs the presented image. -/
theorem swapchain_mem_neededSurfaces (ops : List FrameOp) :
    Surface.swapchain ∈ neededSurfaces ops := by
  unfold neededSurfaces
  rw [List.mem_eraseDups]
  exact List.mem_append_right _ (List.mem_singleton_self _)

/-- A surface that a resolved frame needs is bound. -/
theorem resolve_bound (pool : Pool) (resources : Registry) (ops : List FrameOp)
    (resolution : Resolution) (h : (resolve pool resources ops).result = .ok resolution)
    (surface : Surface) (hsurface : surface ∈ neededSurfaces ops) :
    ∃ binding, resolution.targets.get? surface = some binding :=
  bindSurfaces_of_mem _ _ _ (resolve_eq_ok pool resources ops resolution h).2.1 surface hsurface

/-- What is reported once states were handed back is the last of them, if
    there was one. -/
theorem reported_commitAll (pool : Pool) (finals : List (ResourceGroup × ResourceState))
    (hmade : ∀ final ∈ finals, (pool.made? final.1.isImage final.1.name).isSome = true)
    (isImage : Bool) (name : String) :
    (commitAll pool finals).reported isImage name
      = (((finals.filter fun final => final.1.isImage = isImage ∧ final.1.name = name).getLast?).map
          Prod.snd).getD (pool.reported isImage name) := by
  induction finals generalizing pool with
  | nil => rfl
  | cons final rest ih =>
      have hfirst := hmade final List.mem_cons_self
      rcases Option.isSome_iff_exists.mp hfirst with ⟨backing, hbacking⟩
      have hrest : ∀ later ∈ rest, ((pool.commit final.1 final.2).made? later.1.isImage
          later.1.name).isSome = true := by
        intro later hlater
        exact pool.made?_commit final.1 (hmade later (List.mem_cons_of_mem _ hlater)) final.2
      have hcommit := pool.reported_commit final.1 hbacking final.2 isImage name
      have hstep := ih (pool.commit final.1 final.2) hrest
      -- The state noted first is what is reported unless a later one follows.
      rw [hcommit] at hstep
      refine Eq.trans (b := (commitAll (pool.commit final.1 final.2) rest).reported isImage name)
        rfl (hstep.trans ?_)
      by_cases hmine : final.1.isImage = isImage ∧ final.1.name = name
      · simp only [hmine, and_self, if_true, List.filter_cons, decide_true, List.getLast?_cons,
          Option.map_some, Option.getD_some]
        cases (rest.filter fun final => final.1.isImage = isImage ∧ final.1.name = name).getLast? with
        | none => rfl
        | some last => rfl
      · simp only [hmine, if_false, List.filter_cons, decide_false, Bool.false_eq_true]

/-- States are handed back for each group once. -/
theorem commitOrder_perm (resources : Registry) :
    (commitOrder resources).Perm resources.groups :=
  ((List.mergeSort_perm _ _).append (List.mergeSort_perm _ _)).trans
    (List.filter_append_perm ResourceGroup.isImage resources.groups)

theorem mem_finalStates_iff (resources : Registry) (states : Table String ResourceState)
    (final : ResourceGroup × ResourceState) :
    final ∈ finalStates resources states
      ↔ final.1 ∈ resources.groups ∧ states.get? final.1.name = some final.2 := by
  unfold finalStates
  rw [List.mem_filterMap]
  constructor
  · rintro ⟨group, hgroup, hsome⟩
    rcases Option.map_eq_some_iff.mp hsome with ⟨state, hstate, rfl⟩
    exact ⟨(commitOrder_perm resources).mem_iff.mp hgroup, hstate⟩
  · rintro ⟨hgroup, hstate⟩
    exact ⟨final.1, (commitOrder_perm resources).mem_iff.mpr hgroup,
      Option.map_eq_some_iff.mpr ⟨final.2, hstate, rfl⟩⟩

/-- States handed back are reported, where names stand for one group. -/
theorem reported_commitAll_of_mem (pool : Pool) (resources : Registry)
    (states : Table String ResourceState)
    (hmade : ∀ group ∈ resources.groups, (pool.made? group.isImage group.name).isSome = true)
    (group : ResourceGroup) (hgroup : group ∈ resources.groups) (state : ResourceState)
    (hstate : states.get? group.name = some state) :
    (commitAll pool (finalStates resources states)).reported group.isImage group.name = state := by
  have hfinals : ∀ final ∈ finalStates resources states,
      (pool.made? final.1.isImage final.1.name).isSome = true := by
    intro final hfinal
    exact hmade final.1 ((mem_finalStates_iff resources states final).mp hfinal).1
  rw [reported_commitAll pool _ hfinals]
  -- There is one, and every one of this name has this state.
  have hmine : (group, state) ∈ (finalStates resources states).filter fun final =>
      final.1.isImage = group.isImage ∧ final.1.name = group.name := by
    rw [List.mem_filter, mem_finalStates_iff]
    exact ⟨⟨hgroup, hstate⟩, decide_eq_true ⟨rfl, rfl⟩⟩
  cases hlast : ((finalStates resources states).filter fun final =>
      final.1.isImage = group.isImage ∧ final.1.name = group.name).getLast? with
  | none =>
      rw [List.getLast?_eq_none_iff] at hlast
      rw [hlast] at hmine
      exact absurd hmine List.not_mem_nil
  | some last =>
      have hmem := List.mem_of_getLast? hlast
      rw [List.mem_filter, mem_finalStates_iff, decide_eq_true_eq] at hmem
      rw [hmem.2.2, hstate, Option.some.injEq] at hmem
      exact hmem.1.2.symm

/-- No report changes but those of the groups. -/
theorem reported_commitAll_of_notMem (pool : Pool) (resources : Registry)
    (states : Table String ResourceState)
    (hmade : ∀ group ∈ resources.groups, (pool.made? group.isImage group.name).isSome = true)
    (isImage : Bool) (name : String)
    (h : ∀ group ∈ resources.groups, ¬ (group.isImage = isImage ∧ group.name = name)) :
    (commitAll pool (finalStates resources states)).reported isImage name
      = pool.reported isImage name := by
  have hfinals : ∀ final ∈ finalStates resources states,
      (pool.made? final.1.isImage final.1.name).isSome = true := by
    intro final hfinal
    exact hmade final.1 ((mem_finalStates_iff resources states final).mp hfinal).1
  have hnone : (finalStates resources states).filter
      (fun final => final.1.isImage = isImage ∧ final.1.name = name) = [] := by
    rw [List.filter_eq_nil_iff]
    intro final hfinal hmine
    exact h final.1 ((mem_finalStates_iff resources states final).mp hfinal).1
      (of_decide_eq_true hmine)
  rw [reported_commitAll pool _ hfinals, hnone]
  rfl

namespace Registry

theorem noting_name (group : ResourceGroup) (usage : Usage) :
    (group.noting usage).name = group.name := by
  unfold ResourceGroup.noting
  split
  · rfl
  · rfl

/-- A use puts its name at the end, unless it is registered. -/
theorem names_note (groups : List ResourceGroup) (usage : Usage) :
    (note groups usage).map ResourceGroup.name
      = groups.map ResourceGroup.name
        ++ if usage.resource ∈ groups.map ResourceGroup.name then [] else [usage.resource] := by
  induction groups with
  | nil => rfl
  | cons group rest ih =>
      rw [note, List.map_cons]
      by_cases hname : group.name = usage.resource
      · rw [if_pos hname, List.map_cons, noting_name, hname, if_pos List.mem_cons_self,
          List.append_nil]
      · rw [if_neg hname, List.map_cons, ih, List.cons_append]
        simp only [List.mem_cons, Ne.symm hname, false_or]

/-- So it adds its name if it is new, and no other. -/
theorem mem_names_note (groups : List ResourceGroup) (usage : Usage) (name : String) :
    name ∈ (note groups usage).map ResourceGroup.name
      ↔ name = usage.resource ∨ name ∈ groups.map ResourceGroup.name := by
  rw [names_note, List.mem_append, or_comm]
  split
  · next hknown =>
    constructor
    · rintro (hmem | hmem)
      · exact absurd hmem List.not_mem_nil
      · exact Or.inr hmem
    · rintro (rfl | hmem)
      · exact Or.inr hknown
      · exact Or.inr hmem
  · rw [List.mem_singleton]

theorem nodup_note (groups : List ResourceGroup) (usage : Usage)
    (h : (groups.map ResourceGroup.name).Nodup) :
    ((note groups usage).map ResourceGroup.name).Nodup := by
  rw [names_note]
  split
  · rw [List.append_nil]
    exact h
  · next hnew =>
    rw [← List.concat_eq_append]
    exact h.concat hnew

theorem insertAll_append (registry : Registry) (first second : List Usage) :
    registry.insertAll (first ++ second) = (registry.insertAll first).insertAll second :=
  List.foldl_append

/-- Registering uses keeps names distinct. -/
theorem nodup_insertAll (registry : Registry) (usages : List Usage)
    (h : (registry.groups.map ResourceGroup.name).Nodup) :
    ((registry.insertAll usages).groups.map ResourceGroup.name).Nodup := by
  induction usages generalizing registry with
  | nil => exact h
  | cons usage rest ih => exact ih (registry.insert usage) (nodup_note registry.groups usage h)

/-- The names registered are the ones that were there and the ones used. -/
theorem mem_names_insertAll (registry : Registry) (usages : List Usage) (name : String) :
    name ∈ (registry.insertAll usages).groups.map ResourceGroup.name
      ↔ name ∈ registry.groups.map ResourceGroup.name ∨ name ∈ usages.map Usage.resource := by
  induction usages generalizing registry with
  | nil => simp only [insertAll, List.foldl_nil, List.map_nil, List.not_mem_nil, or_false]
  | cons usage rest ih =>
      have hstep := ih (registry.insert usage)
      have hinsert := mem_names_note registry.groups usage name
      refine hstep.trans ?_
      rw [List.map_cons, List.mem_cons]
      refine Iff.trans (or_congr_left hinsert) ?_
      rw [or_comm (a := name = usage.resource), or_assoc]

/-- A registered name has its group. -/
theorem group?_of_mem (registry : Registry) (name : String)
    (h : name ∈ registry.groups.map ResourceGroup.name) :
    ∃ group ∈ registry.groups, registry.group? name = some group ∧ group.name = name := by
  cases hfind : registry.group? name with
  | none =>
      rcases List.mem_map.mp h with ⟨group, hgroup, hname⟩
      have hnot := List.find?_eq_none.mp hfind group hgroup
      exact absurd (decide_eq_true hname) hnot
  | some group =>
      have hname := List.find?_some hfind
      exact ⟨group, List.mem_of_find?_eq_some hfind, rfl, of_decide_eq_true hname⟩

/-- A name that is taken for an image stands for one. -/
theorem exists_group (registry : Registry) {name : String}
    (h : ((registry.group? name).map ResourceGroup.isImage).getD false = true) :
    ∃ group ∈ registry.groups, group.name = name ∧ group.isImage = true := by
  cases hfind : registry.group? name with
  | none =>
      rw [hfind] at h
      exact absurd h Bool.false_ne_true
  | some group =>
      rw [hfind] at h
      have hname := List.find?_some hfind
      exact ⟨group, List.mem_of_find?_eq_some hfind, of_decide_eq_true hname, h⟩

end Registry

namespace Planning

variable (planning : Planning)

/-- The planner takes a resource for what its group is. -/
theorem isImage_of_group? {resource : String} {group : ResourceGroup}
    (hfind : planning.registry.group? resource = some group) :
    planning.isImage resource = group.isImage := by
  unfold isImage
  rw [hfind]
  rfl

/-- A barrier takes its resource for what the planner does, and some pass
    uses it. -/
theorem mem_useResources (pass : Pass) (names : List String) (tracks : Tracks) :
    ∀ barrier ∈ (planning.useResources pass names tracks).2,
      barrier.isImage = planning.isImage barrier.resource ∧ barrier.resource ∈ names := by
  induction names generalizing tracks with
  | nil =>
      intro barrier hbarrier
      exact absurd hbarrier List.not_mem_nil
  | cons name rest ih =>
      intro barrier hbarrier
      cases hdemand : planning.demand? pass name with
      | none =>
          rw [planning.useResources_cons_none pass name rest tracks hdemand] at hbarrier
          rcases ih tracks barrier hbarrier with ⟨hkind, hmem⟩
          exact ⟨hkind, List.mem_cons_of_mem _ hmem⟩
      | some demand =>
          rw [planning.useResources_cons pass name rest tracks demand hdemand] at hbarrier
          rcases List.mem_append.mp hbarrier with hhere | hlater
          · have hname := planning.callsFor_resource pass name demand _ barrier hhere
            have hkind := planning.callsFor_isImage pass name demand _ barrier hhere
            rw [hname]
            exact ⟨hkind, List.mem_cons_self⟩
          · rcases ih _ barrier hlater with ⟨hkind, hmem⟩
            exact ⟨hkind, List.mem_cons_of_mem _ hmem⟩

theorem mem_usePasses (passes : List Pass) (tracks : Tracks) :
    ∀ barrier ∈ (planning.usePasses passes tracks).2,
      barrier.isImage = planning.isImage barrier.resource
        ∧ ∃ pass ∈ passes, barrier.resource ∈ pass.resources := by
  induction passes generalizing tracks with
  | nil =>
      intro barrier hbarrier
      exact absurd hbarrier List.not_mem_nil
  | cons pass rest ih =>
      intro barrier hbarrier
      rw [usePasses] at hbarrier
      rcases List.mem_append.mp hbarrier with hhere | hlater
      · rcases planning.mem_useResources pass pass.resources tracks barrier hhere
          with ⟨hkind, hmem⟩
        exact ⟨hkind, pass, List.mem_cons_self, hmem⟩
      · rcases ih _ barrier hlater with ⟨hkind, user, huser, hmem⟩
        exact ⟨hkind, user, List.mem_cons_of_mem _ huser, hmem⟩

end Planning

/-- Each name stands for one group, and a barrier takes its resource for
    what its group is. -/
structure Compiled.Typed (compiled : Compiled) : Prop where
  nodup : (compiled.resources.groups.map ResourceGroup.name).Nodup
  registered : ∀ planned ∈ compiled.plan.barriers, ∃ group ∈ compiled.resources.groups,
    group.name = planned.resource ∧ group.isImage = planned.isImage

/-- The resources of a compilation are those its passes use, in their order. -/
theorem compile_resources (passes : List Pass) (compiled : Compiled)
    (h : compile passes = .ok compiled) :
    compiled.resources = Registry.empty.insertAll (compiled.order.flatMap Pass.usages) := by
  rw [compile_eq_ofOrder passes compiled h]
  rfl

/-- A resource that one of the passes uses has its group. -/
theorem compile_group? (passes : List Pass) (compiled : Compiled)
    (h : compile passes = .ok compiled) {pass : Pass} (hpass : pass ∈ compiled.order)
    {resource : String} (hused : resource ∈ pass.resources) :
    ∃ group ∈ compiled.resources.groups,
      compiled.resources.group? resource = some group ∧ group.name = resource := by
  refine compiled.resources.group?_of_mem resource ?_
  rw [compile_resources passes compiled h, Registry.mem_names_insertAll]
  right
  rw [Pass.resources, List.mem_eraseDups, List.mem_map] at hused
  rcases hused with ⟨usage, husage, hresource⟩
  exact List.mem_map.mpr ⟨usage, List.mem_flatMap.mpr ⟨pass, hpass, husage⟩, hresource⟩

/-- A compilation is typed. -/
theorem compile_typed (passes : List Pass) (compiled : Compiled)
    (h : compile passes = .ok compiled) : compiled.Typed := by
  constructor
  · rw [compile_resources passes compiled h]
    exact Registry.nodup_insertAll Registry.empty _ List.nodup_nil
  · intro planned hplanned
    rw [compile_plan passes compiled h] at hplanned
    rcases compiled.planning.mem_usePasses compiled.order [] planned hplanned
      with ⟨hkind, pass, hpass, hused⟩
    rcases compile_group? passes compiled h hpass hused with ⟨group, hgroup, hfind, hsame⟩
    refine ⟨group, hgroup, hsame, ?_⟩
    rw [hkind]
    exact (compiled.planning.isImage_of_group? hfind).symm

end FrameGraph
