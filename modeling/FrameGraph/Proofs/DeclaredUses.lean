import FrameGraph.Proofs.Scope
import FrameGraph.Proofs.Tracking

/-!
# What Becomes of a Declared Write

The dependency graph takes a pass at its word, but a pass may declare a write
and not ask for one. The planner goes by what the pass asks for, so whoever
wants to conclude from an edge to a barrier has to know when this happens.

There are two ways. The type of the use may not take the write: a sampled image
is read, whatever access stands beside it, and a use of the other kind asks for
nothing. `ResourceType.takesWrites` has the types for which the access counts.
Or the use gives way to another one of the same pass. Uses in one layout add up
and a write among them stays, but of two uses in different layouts one is
dropped with all it does.

Types and layouts are all there is to it. As long as no conflict is met the
joined demand writes if one of the uses does, which is `Pass.writes_demandOf?`,
an induction over the uses in order of declaration. So a write that its type takes
and that is lost nevertheless comes with a conflict, and conflicts are reported.

## Main definitions

* `ResourceType.takesWrites`: A declared write of this type is asked for.
* `Demand.Filled`, `Demand.WritesByCopy`: What the layout for copies tells.
* `Pass.attaches`: A pass declares a resource as an attachment.
* `Pass.IgnoresWrites`, `Pass.LosesWrite`: The two ways in which a declared
  write is not asked for.

## Theorems

* `Demand.of_mergeAll?`, `Pass.of_demand?`: What joining keeps, a demand has.
* `Demand.mergeAll?_concat`, `Pass.demandOf?_concat`: One more demand, or use.
* `Demand.writes_ofUsage`: A declared write, by its type.
* `Pass.mem_conflicts`: A use in a new layout is a conflict.
* `Demand.writes_joined`, `Pass.writes_demandOf?`: Without a conflict, a write
  stays.
* `Pass.ignoresWrites_or_losesWrite`: There is no third way.
* `Pass.LosesWrite.conflict`, `compile_lostWrite`: A lost write is reported.
-/

namespace FrameGraph

open Gpu

/-- What a write of this type declares is asked for, given what the resource is.
    The other types are only read, or are of the other kind. -/
def ResourceType.takesWrites (isImage : Bool) : ResourceType → Bool
  | colorAttachment | depthStencilAttachment | storageImage | transferDestination => isImage
  | storageBuffer => !isImage
  | sampledImage | transferSource | uniformBuffer | indirectBuffer | vertexBuffer => false

namespace Demand

/-- A resource in the layout for copies into it is written. -/
def Filled (demand : Demand) : Prop :=
  demand.state.layout = Layout.transferDestination → demand.state.writes = true

/-- Nothing but a copy into the resource writes it. -/
def WritesByCopy (demand : Demand) : Prop :=
  demand.state.writes = true → demand.state.layout = Layout.transferDestination

theorem merge_of_layout {earlier later : Demand} {layout : Layout}
    (hearlier : earlier.state.layout = layout) (hlater : later.state.layout = layout) :
    earlier.merge later
      = ⟨earlier.state.mergeReader later.state, earlier.attachment || later.attachment⟩ := by
  unfold merge
  exact if_pos (decide_eq_true (hearlier.trans hlater.symm))

/-- A joined demand is one of the two, or has what both have in the layout of
    both. -/
theorem merge_cases (a b : Demand) :
    a.merge b = a ∨ a.merge b = b
      ∨ a.state.layout = b.state.layout
        ∧ a.merge b = ⟨a.state.mergeReader b.state, a.attachment || b.attachment⟩ := by
  by_cases hagrees : a.agrees b = true
  · have hsame : a.state.layout = b.state.layout := of_decide_eq_true hagrees
    exact Or.inr (Or.inr ⟨hsame, merge_of_layout hsame rfl⟩)
  · unfold merge
    rw [if_neg hagrees]
    split
    · exact Or.inr (Or.inl rfl)
    · exact Or.inl rfl

theorem writes_mergeReader (state reader : ResourceState) :
    (state.mergeReader reader).writes = true ↔ state.writes = true ∨ reader.writes = true :=
  Scope.writes_union state.toScope reader.toScope

/-- Where what is asked agrees with what was asked before, a write on either side
    stays. -/
theorem writes_joined {found : Option Demand} {asked : Demand}
    (hagree : ∀ first ∈ found, first.agrees asked = true)
    (hwrites : (∃ first ∈ found, first.state.writes = true) ∨ asked.state.writes = true) :
    ((found.map fun first => first.merge asked).getD asked).state.writes = true := by
  cases found with
  | none =>
      rcases hwrites with ⟨first, hfirst, _⟩ | hasked
      · exact absurd hfirst (Option.not_mem_none first)
      · exact hasked
  | some first =>
      have hsame : first.state.layout = asked.state.layout := of_decide_eq_true (hagree first rfl)
      rw [Option.map_some, Option.getD_some, merge_of_layout hsame rfl, writes_mergeReader]
      rcases hwrites with ⟨other, hother, hfirst⟩ | hasked
      · rcases Option.mem_some_iff.mp hother with rfl
        exact Or.inl hfirst
      · exact Or.inr hasked

theorem Filled.merge {a b : Demand} (ha : a.Filled) (hb : b.Filled) : (a.merge b).Filled := by
  rcases merge_cases a b with heq | heq | ⟨_, heq⟩
  · rw [heq]
    exact ha
  · rw [heq]
    exact hb
  · rw [heq]
    intro hlayout
    exact (writes_mergeReader a.state b.state).mpr (Or.inl (ha hlayout))

theorem WritesByCopy.merge {a b : Demand} (ha : a.WritesByCopy) (hb : b.WritesByCopy) :
    (a.merge b).WritesByCopy := by
  rcases merge_cases a b with heq | heq | ⟨hsame, heq⟩
  · rw [heq]
    exact ha
  · rw [heq]
    exact hb
  · rw [heq]
    intro hwrites
    rcases (writes_mergeReader a.state b.state).mp hwrites with hfirst | hsecond
    · exact ha hfirst
    · exact hsame.trans (hb hsecond)

/-- One more demand is joined with those before it. -/
theorem mergeAll?_concat (demands : List Demand) (last : Demand) :
    mergeAll? (demands ++ [last])
      = some (((mergeAll? demands).map fun asked => asked.merge last).getD last) := by
  cases demands with
  | nil => rfl
  | cons first rest =>
      simp only [List.cons_append, mergeAll?, List.foldl_append, List.foldl_cons, List.foldl_nil,
        Option.map_some, Option.getD_some]

/-- What every single demand has, and joining keeps, the joined one has. -/
theorem of_mergeAll? {motive : Demand → Prop}
    (hmerge : ∀ a b, motive a → motive b → motive (a.merge b)) {demands : List Demand}
    {demand : Demand} (h : mergeAll? demands = some demand)
    (hall : ∀ single ∈ demands, motive single) : motive demand := by
  cases demands with
  | nil => exact absurd h (Option.some_ne_none demand).symm
  | cons first rest =>
      rw [List.forall_mem_cons] at hall
      rcases Option.some.inj h with rfl
      exact List.foldlRecOn rest merge hall.1
        fun joined hjoined single hsingle => hmerge joined single hjoined (hall.2 single hsingle)

/-- Copies into an image are the only uses in their layout. -/
theorem filled_ofUsage (isImage : Bool) (stage : Stage) (usage : Usage) :
    (ofUsage isImage stage usage).Filled := by
  unfold Filled ofUsage
  cases isImage with
  | true =>
      simp only [if_true]
      unfold Usage.imageState
      split <;> decide
  | false =>
      simp only [Bool.false_eq_true, if_false]
      unfold Usage.bufferState
      split <;> decide

/-- A use that declares no write makes none, unless it is a copy. -/
theorem writesByCopy_ofUsage (isImage : Bool) (stage : Stage) (usage : Usage)
    (hreads : usage.access.writes = false) : (ofUsage isImage stage usage).WritesByCopy := by
  have haccess : usage.access = .read := by
    cases haccess : usage.access with
    | read => rfl
    | write => exact absurd (haccess ▸ hreads) (by decide)
    | readWrite => exact absurd (haccess ▸ hreads) (by decide)
  unfold WritesByCopy ofUsage
  cases isImage with
  | true =>
      simp only [if_true]
      unfold Usage.imageState
      rw [haccess]
      cases usage.type <;> cases stage <;> decide
  | false =>
      simp only [Bool.false_eq_true, if_false]
      unfold Usage.bufferState
      rw [haccess]
      cases usage.type <;> cases stage <;> decide

/-- A declared write is asked for exactly if its type takes it. -/
theorem writes_ofUsage (isImage : Bool) (stage : Stage) (usage : Usage)
    (hwrites : usage.access.writes = true) :
    (ofUsage isImage stage usage).state.writes = usage.type.takesWrites isImage := by
  unfold ofUsage
  cases isImage with
  | true =>
      simp only [if_true]
      unfold Usage.imageState
      cases haccess : usage.access with
      | read => exact absurd (haccess ▸ hwrites) (by decide)
      | write => cases usage.type <;> cases stage <;> decide
      | readWrite => cases usage.type <;> cases stage <;> decide
  | false =>
      simp only [Bool.false_eq_true, if_false]
      unfold Usage.bufferState
      cases haccess : usage.access with
      | read => exact absurd (haccess ▸ hwrites) (by decide)
      | write => cases usage.type <;> cases stage <;> decide
      | readWrite => cases usage.type <;> cases stage <;> decide

end Demand

namespace Pass

/-- Some use of the resource is as an attachment. -/
def attaches (pass : Pass) (resource : String) : Bool :=
  pass.usages.any fun usage => usage.resource = resource && usage.isAttachment

/-- What every use asks, and joining keeps, the pass asks. -/
theorem of_demand? {motive : Demand → Prop}
    (hmerge : ∀ a b, motive a → motive b → motive (a.merge b)) {pass : Pass}
    {isImage : Bool} {resource : String} {demand : Demand}
    (h : pass.demand? isImage resource = some demand)
    (hall : ∀ usage ∈ pass.usages, usage.resource = resource →
      motive (Demand.ofUsage isImage pass.stage usage)) : motive demand := by
  refine Demand.of_mergeAll? hmerge h ?_
  intro single hsingle
  rcases List.mem_map.mp hsingle with ⟨usage, husage, rfl⟩
  rw [List.mem_filter, decide_eq_true_eq] at husage
  exact hall usage husage.1 husage.2

theorem filled_of_demand? {pass : Pass} {isImage : Bool} {resource : String} {demand : Demand}
    (h : pass.demand? isImage resource = some demand) : demand.Filled :=
  of_demand? (motive := Demand.Filled) (fun _ _ => Demand.Filled.merge) h
    fun usage _ _ => Demand.filled_ofUsage isImage pass.stage usage

/-- Who only reads writes nothing but by a copy. -/
theorem writesByCopy_of_demand? {pass : Pass} {isImage : Bool} {resource : String}
    {demand : Demand} (h : pass.demand? isImage resource = some demand)
    (hreads : pass.writes resource = false) : demand.WritesByCopy := by
  refine of_demand? (motive := Demand.WritesByCopy) (fun _ _ => Demand.WritesByCopy.merge) h ?_
  intro usage husage hresource
  refine Demand.writesByCopy_ofUsage isImage pass.stage usage ?_
  rw [Bool.eq_false_iff]
  intro hwrites
  have hsome : pass.writes resource = true :=
    List.any_eq_true.mpr ⟨usage, husage,
      Bool.and_eq_true_iff.mpr ⟨decide_eq_true hresource, hwrites⟩⟩
  exact Bool.false_ne_true (hreads.symm.trans hsome)

/-- What is asked for as an attachment is declared as one. -/
theorem attaches_of_demand? {pass : Pass} {isImage : Bool} {resource : String} {demand : Demand}
    (h : pass.demand? isImage resource = some demand) (hattached : demand.attachment = true) :
    pass.attaches resource = true := by
  have hdeclared : demand.attachment = true → pass.attaches resource = true := by
    refine of_demand?
      (motive := fun demand => demand.attachment = true → pass.attaches resource = true) ?_ h ?_
    · intro a b ha hb
      rcases Demand.merge_cases a b with heq | heq | ⟨_, heq⟩
      · rw [heq]
        exact ha
      · rw [heq]
        exact hb
      · rw [heq, Bool.or_eq_true]
        exact fun hor => hor.elim ha hb
    · intro usage husage hresource hused
      refine List.any_eq_true.mpr ⟨usage, husage, ?_⟩
      rw [Bool.and_eq_true]
      refine ⟨decide_eq_true hresource, ?_⟩
      unfold Demand.ofUsage at hused
      split at hused
      · exact hused
      · exact absurd hused Bool.false_ne_true
  exact hdeclared hattached

/-- Who uses a resource asks something of it. -/
theorem exists_demand?_iff (pass : Pass) (isImage : Bool) (resource : String) :
    (∃ demand, pass.demand? isImage resource = some demand) ↔ pass.uses resource = true := by
  rw [← Option.ne_none_iff_exists', ne_eq, pass.demand?_eq_none_iff, not_not, resources,
    List.mem_eraseDups, List.mem_map, uses, List.any_eq_true]
  simp only [decide_eq_true_eq]

variable (pass : Pass)

/-- One more use is joined with those of its resource before it. -/
theorem demandOf?_concat (stage : Stage) (isImage : Bool) (front : List Usage) (usage : Usage)
    (resource : String) :
    demandOf? stage isImage (front ++ [usage]) resource
      = if usage.resource = resource then
          some (((demandOf? stage isImage front resource).map fun asked =>
            asked.merge (Demand.ofUsage isImage stage usage)).getD
              (Demand.ofUsage isImage stage usage))
        else demandOf? stage isImage front resource := by
  unfold demandOf?
  rw [List.filter_append, List.map_append, List.filter_singleton]
  by_cases hresource : usage.resource = resource
  · rw [if_pos hresource, decide_eq_true hresource, cond_true, List.map_singleton,
      Demand.mergeAll?_concat]
  · rw [if_neg hresource, decide_eq_false hresource, cond_false, List.map_nil, List.append_nil]

/-- A use in another layout than the uses before it ask for is a conflict. -/
theorem mem_conflictsAfter (isImage : String → Bool) (before front : List Usage) (usage : Usage)
    (rest : List Usage) {first : Demand}
    (hfirst : demandOf? pass.stage (isImage usage.resource) (before ++ front) usage.resource
      = some first)
    (hagrees : first.agrees (Demand.ofUsage (isImage usage.resource) pass.stage usage) = false) :
    ⟨pass.name, usage.resource, first.state.layout,
        (Demand.ofUsage (isImage usage.resource) pass.stage usage).state.layout⟩
      ∈ pass.conflictsAfter isImage before (front ++ usage :: rest) := by
  induction front generalizing before with
  | nil =>
      rw [List.append_nil] at hfirst
      rw [List.nil_append, conflictsAfter]
      simp only [hfirst, hagrees, Bool.false_eq_true, if_false]
      exact List.mem_append_left _ (List.mem_singleton_self _)
  | cons other front ih =>
      -- A use that is passed over is one of those before the next.
      rw [List.append_cons] at hfirst
      rw [List.cons_append, conflictsAfter]
      exact List.mem_append_right _ (ih (before ++ [other]) hfirst)

theorem mem_conflicts (isImage : String → Bool) {front : List Usage} {usage : Usage}
    {rest : List Usage} (husages : pass.usages = front ++ usage :: rest) {first : Demand}
    (hfirst : demandOf? pass.stage (isImage usage.resource) front usage.resource = some first)
    (hagrees : first.agrees (Demand.ofUsage (isImage usage.resource) pass.stage usage) = false) :
    ⟨pass.name, usage.resource, first.state.layout,
        (Demand.ofUsage (isImage usage.resource) pass.stage usage).state.layout⟩
      ∈ pass.conflicts isImage := by
  unfold conflicts
  rw [husages]
  exact pass.mem_conflictsAfter isImage [] front usage rest hfirst hagrees

/-- As long as no conflict on the resource is met, a use that writes is enough
    for the uses so far to write. -/
theorem writes_demandOf? (isImage : String → Bool) (resource : String)
    (hagree : ∀ conflict ∈ pass.conflicts isImage, conflict.resource ≠ resource)
    {front rest : List Usage} (husages : pass.usages = front ++ rest)
    (hwriter : ∃ usage ∈ front, usage.resource = resource
      ∧ (Demand.ofUsage (isImage resource) pass.stage usage).state.writes = true) :
    ∃ demand ∈ demandOf? pass.stage (isImage resource) front resource,
      demand.state.writes = true := by
  induction front using List.reverseRecOn generalizing rest with
  | nil =>
      rcases hwriter with ⟨_, hmem, _⟩
      exact absurd hmem List.not_mem_nil
  | append_singleton front last ih =>
      rcases hwriter with ⟨usage, hmem, hresource, hwrites⟩
      have hsplit : pass.usages = front ++ last :: rest :=
        husages.trans (List.append_assoc _ _ _)
      -- The use that writes is one of those before the last, or it is the last.
      have hearlier : usage ∈ front → ∃ demand ∈
          demandOf? pass.stage (isImage resource) front resource, demand.state.writes = true :=
        fun hfront => ih hsplit ⟨usage, hfront, hresource, hwrites⟩
      rw [List.mem_append, List.mem_singleton] at hmem
      rw [demandOf?_concat]
      by_cases hlast : last.resource = resource
      · rw [if_pos hlast]
        refine ⟨_, rfl, Demand.writes_joined ?_ ?_⟩
        · intro first hfirst
          by_contra hother
          rw [Bool.not_eq_true] at hother
          subst hlast
          exact hagree _ (pass.mem_conflicts isImage hsplit hfirst hother) rfl
        · rcases hmem with hfront | rfl
          · exact Or.inl (hearlier hfront)
          · exact Or.inr hwrites
      · rw [if_neg hlast]
        rcases hmem with hfront | rfl
        · exact hearlier hfront
        · exact absurd hresource hlast

/-- Every write of the resource that the pass declares is of a type that does
    not take it. -/
def IgnoresWrites (isImage : Bool) (resource : String) : Prop :=
  ∀ usage ∈ pass.usages, usage.resource = resource → usage.access.writes = true →
    usage.type.takesWrites isImage = false

instance (isImage : Bool) (resource : String) : Decidable (pass.IgnoresWrites isImage resource) :=
  inferInstanceAs (Decidable (∀ usage ∈ pass.usages, _))

/-- The pass declares a write of the resource that its type takes, and all
    together it asks for none. -/
def LosesWrite (isImage : Bool) (resource : String) : Prop :=
  (∃ usage ∈ pass.usages, usage.resource = resource ∧ usage.access.writes = true
      ∧ usage.type.takesWrites isImage = true)
    ∧ ∃ demand ∈ pass.demand? isImage resource, demand.state.writes = false

instance (isImage : Bool) (resource : String) : Decidable (pass.LosesWrite isImage resource) :=
  inferInstanceAs (Decidable (_ ∧ _))

variable {pass} {isImage : Bool} {resource : String}

/-- A pass that asks for no write ignores all it declares, or loses one. -/
theorem ignoresWrites_or_losesWrite {demand : Demand}
    (h : pass.demand? isImage resource = some demand) (hreads : demand.state.writes = false) :
    pass.IgnoresWrites isImage resource ∨ pass.LosesWrite isImage resource := by
  refine or_iff_not_imp_right.mpr fun hkept usage husage hresource hwrites => ?_
  rw [Bool.eq_false_iff]
  intro htakes
  exact hkept ⟨⟨usage, husage, hresource, hwrites, htakes⟩, demand, h, hreads⟩

/-- A lost write has lost against a use in another layout. -/
theorem LosesWrite.conflict {isImage : String → Bool}
    (h : pass.LosesWrite (isImage resource) resource) :
    ∃ conflict ∈ pass.conflicts isImage, conflict.resource = resource := by
  rcases h with ⟨⟨usage, husage, hresource, hwrites, htakes⟩, demand, hdemand, hreads⟩
  by_contra hnone
  have hagree : ∀ conflict ∈ pass.conflicts isImage, conflict.resource ≠ resource :=
    fun conflict hconflict hsame => hnone ⟨conflict, hconflict, hsame⟩
  rcases pass.writes_demandOf? isImage resource hagree (List.append_nil pass.usages).symm
    ⟨usage, husage, hresource,
      (Demand.writes_ofUsage _ _ usage hwrites).trans htakes⟩ with ⟨joined, hjoined, hwritten⟩
  rcases Option.some.inj (hjoined.symm.trans hdemand) with rfl
  exact Bool.false_ne_true (hreads.symm.trans hwritten)

/-- The conflicts of a pass bear its name. -/
theorem pass_of_mem_conflictsAfter {isImage : String → Bool} {before rest : List Usage}
    {conflict : LayoutConflict} (h : conflict ∈ pass.conflictsAfter isImage before rest) :
    conflict.pass = pass.name := by
  induction rest generalizing before with
  | nil => exact absurd h List.not_mem_nil
  | cons usage rest ih =>
      rw [conflictsAfter] at h
      rcases List.mem_append.mp h with hhere | hlater
      · split at hhere
        · exact absurd hhere List.not_mem_nil
        · simp only at hhere
          split at hhere
          · exact absurd hhere List.not_mem_nil
          · rw [List.mem_singleton.mp hhere]
      · exact ih hlater

end Pass

/-- A write that a pass of a compilation loses is reported. -/
theorem compile_lostWrite (passes : List Pass) (compiled : Compiled)
    (h : compile passes = .ok compiled) {pass : Pass} (hpass : pass ∈ passes) {resource : String}
    (hloses : pass.LosesWrite (compiled.planning.isImage resource) resource) :
    ∃ conflict : LayoutConflict, conflict.pass = pass.name ∧ conflict.resource = resource
      ∧ LogEntry.warn conflict.message ∈ compileLog passes := by
  rcases hloses.conflict with ⟨conflict, hconflict, hresource⟩
  refine ⟨conflict, Pass.pass_of_mem_conflictsAfter hconflict, hresource, ?_⟩
  have hconflicts : compiled.conflicts
      = compiled.order.flatMap fun pass => pass.conflicts compiled.planning.isImage := by
    rw [compile_eq_ofOrder passes compiled h]
    rfl
  unfold compileLog
  rw [h]
  refine List.mem_map_of_mem ?_
  rw [hconflicts, List.mem_flatMap]
  exact ⟨pass, (compile_order_perm passes compiled h).mem_iff.mpr hpass, hconflict⟩

end FrameGraph
