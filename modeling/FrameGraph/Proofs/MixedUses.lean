import FrameGraph.Proofs.KindsApart

/-!
# Uses of the Other Kind

A resource is an image or a buffer as its first use is. A use of the other kind
that comes later is no mistake the planner sees: it is read as one of the kind
that the resource has, and what it asks is the undefined state.

In a pass with several uses of an image one of them decides what the pass asks,
the first attachment or else the first of all. A buffer is asked for all of them
together. `Pass.demand?_image` and `Pass.demand?_buffer` say when nothing comes
of it but the undefined state, and `Pass.Misuses` is that condition.

A barrier into the undefined state gives up what the resource holds. Such a
barrier is planned before a pass that misuses an image, unless the last user
misused it too, and before one that misuses a buffer if something written is
waiting there. `compile_misused` has both directions, and that no report is
made: the one that would be is never reached (`compile_planApart`), and nothing
in the log of a compilation reads like it.

## Main definitions

* `Demand.decider?`, `Pass.decider?`: What decides the layout of an image.
* `Pass.Misuses`, `Compiled.Misuses`: What is asked comes from uses of the other
  kind.
* `PlannedBarrier.LeadsNowhere`: A barrier into the undefined state.

## Theorems

* `Demand.merge_decides`, `Demand.layout_mergeAll?`: The layout of several
  demands is that of the one that decides.
* `Demand.access_mergeAll?`: In one layout, accesses add up.
* `Pass.demand?_image`, `Pass.demand?_buffer`: When the undefined state is asked
  for.
* `Compiled.separates_misused_image`, `Compiled.separates_misused_buffer`: When a
  misuse separates.
* `compile_leadsNowhere_iff`: Which barriers lead nowhere.
* `compile_misuse_gets`: When a misuse gets a barrier.
* `compile_misused`: Both together, and that nothing is reported.
* `compile_misused_culled`, `leadsNowhere_culled`: A pass that takes an image for
  a buffer.
-/

namespace FrameGraph

open Gpu

namespace Usage

/-- A use asks an image for the undefined layout exactly if its type is that of
    a buffer, and it asks for nothing else then. -/
theorem imageState_layout_iff (usage : Usage) (stage : Stage) :
    ((usage.imageState stage).layout = Layout.undefined ↔ usage.type.isImage = false)
      ∧ (usage.type.isImage = false → usage.imageState stage = ImageState.undefined) := by
  unfold imageState
  cases usage.type <;> cases usage.access <;> cases stage <;> decide

/-- A use asks a buffer for no access exactly if its type is that of an image,
    and it asks for nothing else then. -/
theorem bufferState_access_iff (usage : Usage) (stage : Stage) :
    ((usage.bufferState stage).access = 0 ↔ usage.type.isImage = true)
      ∧ (usage.type.isImage = true → usage.bufferState stage = BufferState.undefined) := by
  unfold bufferState
  cases usage.type <;> cases usage.access <;> cases stage <;> decide

theorem bufferState_layout (usage : Usage) (stage : Stage) :
    (usage.bufferState stage).layout = Layout.undefined := by
  unfold bufferState
  cases usage.type <;> cases usage.access <;> cases stage <;> rfl

end Usage

namespace Demand

/-- Joined, two demands are in the layout of the later one only if that is an
    attachment and the earlier one is none. -/
theorem merge_decides (earlier later : Demand) :
    (earlier.merge later).attachment = (earlier.attachment || later.attachment)
      ∧ (earlier.merge later).state.layout
        = if later.attachment && !earlier.attachment then later.state.layout
          else earlier.state.layout := by
  cases hagrees : earlier.agrees later with
  | true =>
      have hsame : earlier.state.layout = later.state.layout := of_decide_eq_true hagrees
      rw [merge_of_layout rfl hsame.symm, ← hsame, ite_self]
      exact ⟨rfl, rfl⟩
  | false =>
      unfold merge
      rw [if_neg (by rw [hagrees]; exact Bool.false_ne_true)]
      cases hearlier : earlier.attachment <;> cases hlater : later.attachment <;>
        simp [hearlier, hlater]

/-- The one of several demands that decides the layout: the first attachment, or
    else the first of all. -/
def decider? (demands : List Demand) : Option Demand :=
  (demands.find? (·.attachment)).or demands.head?

theorem decider?_concat {front : List Demand} (h : front ≠ []) (last : Demand) :
    decider? (front ++ [last])
      = if last.attachment && !front.any (·.attachment) then some last else decider? front := by
  have hhead : (front ++ [last]).head? = front.head? := List.head?_append_of_ne_nil _ h
  unfold decider?
  rw [List.find?_append, hhead, ← List.isSome_find?, List.find?_singleton]
  cases hfront : front.find? (·.attachment) with
  | none => cases hlast : last.attachment <;> simp
  | some first => simp

/-- Demands joined in order are in the layout of the one that decides. -/
theorem layout_mergeAll? {demands : List Demand} {joined : Demand}
    (h : mergeAll? demands = some joined) :
    joined.attachment = demands.any (·.attachment)
      ∧ ∃ decider, decider? demands = some decider
        ∧ joined.state.layout = decider.state.layout := by
  induction demands using List.reverseRecOn generalizing joined with
  | nil => exact absurd h.symm (Option.some_ne_none joined)
  | append_singleton front last ih =>
      rw [mergeAll?_concat, Option.some.injEq] at h
      cases front with
      | nil =>
          have hjoined : last = joined := h
          rw [← hjoined, List.nil_append]
          refine ⟨by simp, last, ?_, rfl⟩
          unfold decider?
          rw [List.find?_singleton]
          cases last.attachment <;> rfl
      | cons first rest =>
          have hjoined : (rest.foldl merge first).merge last = joined := h
          rcases ih rfl with ⟨hattachment, decider, hdecider, hlayout⟩
          rcases merge_decides (rest.foldl merge first) last with ⟨hflag, hdecided⟩
          rw [hjoined] at hflag hdecided
          rw [decider?_concat (List.cons_ne_nil first rest), ← hattachment, List.any_append,
            ← hattachment, hflag, hdecided]
          refine ⟨by rw [List.any_cons, List.any_nil, Bool.or_false], ?_⟩
          split
          · exact ⟨last, rfl, rfl⟩
          · exact ⟨decider, hdecider, hlayout⟩

/-- If two demands for the undefined layout ask for nothing else, neither does
    what they are joined to. -/
theorem undefined_of_merge {earlier later : Demand}
    (hearlier : earlier.state.layout = Layout.undefined → earlier.state = ImageState.undefined)
    (hlater : later.state.layout = Layout.undefined → later.state = ImageState.undefined)
    (h : (earlier.merge later).state.layout = Layout.undefined) :
    (earlier.merge later).state = ImageState.undefined := by
  cases hagrees : earlier.agrees later with
  | true =>
      -- In one layout both ask for the undefined one.
      have hsame : earlier.state.layout = later.state.layout := of_decide_eq_true hagrees
      rw [merge_of_layout rfl hsame.symm] at h ⊢
      have hundefined : earlier.state.layout = Layout.undefined := h
      simp only
      rw [hearlier hundefined, hlater (hsame ▸ hundefined)]
      decide
  | false =>
      -- In two layouts one of them is taken as it is.
      unfold merge at h ⊢
      rw [if_neg (Bool.not_eq_true _ ▸ hagrees)] at h ⊢
      split at h
      · next hlast =>
          rw [if_pos hlast]
          exact hlater h
      · next hfirst =>
          rw [if_neg hfirst]
          exact hearlier h

/-- If two demands without access ask for nothing else, neither does what they
    are joined to. -/
theorem untouched_of_merge {earlier later : Demand}
    (hfirst : earlier.state.layout = Layout.undefined)
    (hsecond : later.state.layout = Layout.undefined)
    (hearlier : earlier.state.access = 0 → earlier.state = BufferState.undefined)
    (hlater : later.state.access = 0 → later.state = BufferState.undefined)
    (h : (earlier.merge later).state.access = 0) :
    (earlier.merge later).state = BufferState.undefined := by
  rw [merge_of_layout hfirst hsecond] at h ⊢
  rcases UInt64.or_eq_zero_iff.mp h with ⟨hnoneFirst, hnoneSecond⟩
  simp only
  rw [hearlier hnoneFirst, hlater hnoneSecond]
  decide

/-- Demands in one layout ask together for every access that one of them asks
    for. -/
theorem access_mergeAll? {layout : Layout} {demands : List Demand} {joined : Demand}
    (hlayout : ∀ demand ∈ demands, demand.state.layout = layout)
    (h : mergeAll? demands = some joined) :
    joined.state.layout = layout
      ∧ (joined.state.access = 0 ↔ ∀ demand ∈ demands, demand.state.access = 0) := by
  induction demands using List.reverseRecOn generalizing joined with
  | nil => exact absurd h.symm (Option.some_ne_none joined)
  | append_singleton front last ih =>
      rw [List.forall_mem_append, List.forall_mem_singleton] at hlayout
      rw [mergeAll?_concat, Option.some.injEq] at h
      rw [List.forall_mem_append, List.forall_mem_singleton]
      cases hfront : mergeAll? front with
      | none =>
          have hnil : front = [] := by
            cases front with
            | nil => rfl
            | cons first rest => exact absurd hfront (Option.some_ne_none _)
          rw [hfront, Option.map_none, Option.getD_none] at h
          subst hnil
          rw [← h]
          exact ⟨hlayout.2, by simp only [List.not_mem_nil, false_imp_iff, implies_true, true_and]⟩
      | some earlier =>
          rw [hfront, Option.map_some, Option.getD_some] at h
          rcases ih hlayout.1 hfront with ⟨hearlier, haccess⟩
          rw [merge_of_layout hearlier hlayout.2] at h
          rw [← h, ← haccess]
          exact ⟨hearlier, UInt64.or_eq_zero_iff⟩

end Demand

namespace Pass

variable (pass : Pass) (resource : String)

/-- The use that decides what a pass asks of an image: the first attachment, or
    else the first of all. -/
def decider? : Option Usage :=
  ((pass.usagesOf resource).find? (·.isAttachment)).or (pass.usagesOf resource).head?

/-- What a pass asks of a resource comes from uses of the other kind. For an
    image one use decides, and a buffer is asked for all of them together. -/
def Misuses (isImage : Bool) : Prop :=
  if isImage then ∃ decider ∈ pass.decider? resource, decider.type.isImage = false
  else resource ∈ pass.resources ∧ ∀ usage ∈ pass.usagesOf resource, usage.type.isImage = true

instance (isImage : Bool) : Decidable (pass.Misuses resource isImage) :=
  inferInstanceAs (Decidable (ite _ _ _))

variable {pass resource}

theorem demand?_eq (isImage : Bool) : pass.demand? isImage resource
    = Demand.mergeAll? ((pass.usagesOf resource).map (Demand.ofUsage isImage pass.stage)) :=
  rfl

/-- An image is asked for the undefined layout exactly by a use of a buffer, and
    for nothing else then. -/
theorem demand?_image {demand : Demand} (h : pass.demand? true resource = some demand) :
    (demand.state.layout = Layout.undefined ↔ pass.Misuses resource true)
      ∧ (demand.state.layout = Layout.undefined → demand.state = ImageState.undefined) := by
  rw [demand?_eq] at h
  constructor
  · rcases (Demand.layout_mergeAll? h).2 with ⟨asked, hasked, hlayout⟩
    have hdecider : Demand.decider? ((pass.usagesOf resource).map
        (Demand.ofUsage true pass.stage))
        = (pass.decider? resource).map (Demand.ofUsage true pass.stage) := by
      unfold Demand.decider? decider?
      rw [List.find?_map, List.head?_map, Option.map_or]
      rfl
    rw [hdecider] at hasked
    rcases Option.map_eq_some_iff.mp hasked with ⟨decider, hused, rfl⟩
    unfold Misuses
    rw [if_pos rfl, hused, hlayout]
    simp only [Option.mem_some_iff, exists_eq_left']
    exact (decider.imageState_layout_iff pass.stage).1
  · refine Demand.of_mergeAll?
      (motive := fun asked =>
        asked.state.layout = Layout.undefined → asked.state = ImageState.undefined)
      (fun _ _ => Demand.undefined_of_merge) h ?_
    intro asked hasked hlayout
    rcases List.mem_map.mp hasked with ⟨usage, _, rfl⟩
    rcases usage.imageState_layout_iff pass.stage with ⟨hiff, hstate⟩
    exact hstate (hiff.mp hlayout)

/-- A pass uses what it asks something of. -/
theorem mem_resources_of_demand? {isImage : Bool} {demand : Demand}
    (h : pass.demand? isImage resource = some demand) : resource ∈ pass.resources := by
  by_contra hnot
  rw [(pass.demand?_eq_none_iff isImage resource).mpr hnot] at h
  exact Option.some_ne_none demand h.symm

/-- A buffer is asked for the undefined state exactly if every use is one of an
    image, and for no render pass in any case. -/
theorem demand?_buffer {demand : Demand} (h : pass.demand? false resource = some demand) :
    (demand.state = BufferState.undefined ↔ pass.Misuses resource false)
      ∧ demand.state.layout = Layout.undefined ∧ demand.attachment = false := by
  have hused := mem_resources_of_demand? h
  rw [demand?_eq] at h
  have hlayouts : ∀ asked ∈ (pass.usagesOf resource).map (Demand.ofUsage false pass.stage),
      asked.state.layout = Layout.undefined := by
    intro asked hasked
    rcases List.mem_map.mp hasked with ⟨usage, _, rfl⟩
    exact usage.bufferState_layout pass.stage
  rcases Demand.access_mergeAll? hlayouts h with ⟨hlayout, haccess⟩
  have hnothing : demand.state.access = 0 → demand.state = BufferState.undefined := by
    refine (Demand.of_mergeAll?
      (motive := fun asked => asked.state.layout = Layout.undefined
        ∧ (asked.state.access = 0 → asked.state = BufferState.undefined)) ?_ h ?_).2
    · rintro earlier later ⟨hfirst, hearlier⟩ ⟨hsecond, hlater⟩
      refine ⟨?_, Demand.untouched_of_merge hfirst hsecond hearlier hlater⟩
      rw [Demand.merge_of_layout hfirst hsecond]
      exact hfirst
    · intro asked hasked
      refine ⟨hlayouts asked hasked, ?_⟩
      rcases List.mem_map.mp hasked with ⟨usage, _, rfl⟩
      rcases usage.bufferState_access_iff pass.stage with ⟨hiff, hstate⟩
      exact fun hnone => hstate (hiff.mp hnone)
  -- No use of a buffer attaches it, whatever it declares.
  have hattachment : demand.attachment = false := by
    rw [(Demand.layout_mergeAll? h).1, List.any_map]
    exact List.any_eq_false.mpr fun _ _ => Bool.false_ne_true
  refine ⟨?_, hlayout, hattachment⟩
  have hiff : demand.state = BufferState.undefined ↔ demand.state.access = 0 :=
    ⟨fun hstate => by rw [hstate]; rfl, hnothing⟩
  unfold Misuses
  rw [if_neg Bool.false_ne_true, hiff, haccess, List.forall_mem_map, and_iff_right hused]
  exact forall₂_congr fun usage _ => (usage.bufferState_access_iff pass.stage).1

end Pass

/-- What a pass asks is undefined exactly if it misuses the resource, and then
    the state has nothing else. -/
theorem Pass.misuses_iff {pass : Pass} {resource : String} {isImage : Bool} {demand : Demand}
    (h : pass.demand? isImage resource = some demand) :
    (pass.Misuses resource isImage
        ↔ if isImage then demand.state.layout = Layout.undefined
          else demand.state = BufferState.undefined)
      ∧ (pass.Misuses resource isImage → demand.state = ImageState.undefined) := by
  cases isImage with
  | true =>
      rcases demand?_image h with ⟨hiff, hstate⟩
      rw [if_pos rfl]
      exact ⟨hiff.symm, fun hmisuses => hstate (hiff.mpr hmisuses)⟩
  | false =>
      rw [if_neg Bool.false_ne_true]
      have hiff := (demand?_buffer h).1
      exact ⟨hiff.symm, hiff.mpr⟩

/-- A barrier into the undefined state. For an image that is one into the
    undefined layout. -/
def PlannedBarrier.LeadsNowhere (planned : PlannedBarrier) : Prop :=
  if planned.isImage then planned.next.layout = Layout.undefined
  else planned.next = BufferState.undefined

instance (planned : PlannedBarrier) : Decidable planned.LeadsNowhere :=
  inferInstanceAs (Decidable (ite _ _ _))

/-- What a pass of a compilation asks of a resource comes from uses of the other
    kind. -/
def Compiled.Misuses (compiled : Compiled) (pass : Pass) (resource : String) : Prop :=
  pass.Misuses resource (compiled.planning.isImage resource)

instance (compiled : Compiled) (pass : Pass) (resource : String) :
    Decidable (compiled.Misuses pass resource) :=
  inferInstanceAs (Decidable (pass.Misuses resource _))

/-- A barrier that a pass gets leads nowhere exactly if the pass misuses the
    resource. -/
theorem Planning.leadsNowhere_iff (planning : Planning) {resource : String} {before : List Pass}
    {pass : Pass} {planned : PlannedBarrier}
    (h : planned ∈ planning.callsOf resource before pass) :
    planned.LeadsNowhere ↔ pass.Misuses resource (planning.isImage resource) := by
  rcases (planning.mem_callsOf_iff _ _ _ _).mp h with ⟨demand, hdemand, hcalls⟩
  unfold PlannedBarrier.LeadsNowhere
  rw [planning.callsFor_isImage pass resource demand _ planned hcalls,
    planning.callsFor_next pass resource demand _ planned hcalls]
  exact (Pass.misuses_iff hdemand).1.symm

/-- After a misuse of an image nothing written is waiting. -/
theorem Compiled.LeavesWritten.not_misuses {compiled : Compiled} {resource : String}
    (himage : compiled.planning.isImage resource = true) {before : List Pass}
    (h : compiled.LeavesWritten resource before) {last : Pass × Demand}
    (hlast : (compiled.usersOf resource before).getLast? = some last) :
    ¬ compiled.Misuses last.1 resource := by
  -- A use that goes on has the layout of the one before it, so the induction
  -- leads back to the use that writes, and a misuse does not.
  induction h generalizing last with
  | writes hdemand hwrites =>
      rw [compiled.usersOf_append, compiled.usersOf_singleton hdemand,
        List.getLast?_concat, Option.some.injEq] at hlast
      rw [← hlast]
      intro hmisuses
      rw [(Pass.misuses_iff hdemand).2 hmisuses] at hwrites
      exact absurd hwrites (by decide)
  | continues hdemand hcontinues hbefore ih =>
      rw [compiled.usersOf_append, compiled.usersOf_singleton hdemand,
        List.getLast?_concat, Option.some.injEq] at hlast
      rw [← hlast]
      rcases hcontinues with ⟨earlier, hearlier, _, _, _, hlayout⟩
      intro hmisuses
      refine ih hearlier ?_
      have hused := ((compiled.mem_usersOf_iff _ _ _).mp (List.mem_of_getLast? hearlier)).2
      have hundefined := (Pass.misuses_iff hdemand).1.mp hmisuses
      rw [if_pos himage] at hundefined
      refine (Pass.misuses_iff hused).1.mpr ?_
      rw [if_pos himage, hlayout]
      exact hundefined
  | skips hnone hbefore ih =>
      rw [compiled.usersOf_append, compiled.usersOf_singleton_none hnone, List.append_nil] at hlast
      exact ih hlast

/-- A misuse of an image separates exactly from a user that does not misuse it. -/
theorem Compiled.separates_misused_image {compiled : Compiled} {resource : String}
    (himage : compiled.planning.isImage resource = true) (before : List Pass) {pass : Pass}
    {demand : Demand} (hdemand : compiled.demand? pass resource = some demand)
    (hmisuses : compiled.Misuses pass resource) :
    compiled.Separates resource before pass demand
      ↔ ∃ last, (compiled.usersOf resource before).getLast? = some last
        ∧ ¬ compiled.Misuses last.1 resource := by
  have hstate := (Pass.misuses_iff hdemand).2 hmisuses
  have hlayout : ∀ last, (compiled.usersOf resource before).getLast? = some last →
      (last.2.state.layout = Layout.undefined ↔ compiled.Misuses last.1 resource) := by
    intro last hlast
    have hused := ((compiled.mem_usersOf_iff _ _ _).mp (List.mem_of_getLast? hlast)).2
    have hiff := (Pass.misuses_iff hused).1
    rw [if_pos himage] at hiff
    exact hiff.symm
  -- A misuse writes nothing and leaves nothing written, so of the reasons to
  -- separate only the layout is left.
  constructor
  · rintro ⟨_, last, hlast, hreason⟩
    refine ⟨last, hlast, fun hagain => ?_⟩
    rw [hstate] at hreason
    rcases hreason with hother | hwrites | hwritten
    · exact hother ((hlayout last hlast).mpr hagain).symm
    · exact absurd hwrites (by decide)
    · exact hwritten.not_misuses himage hlast hagain
  · rintro ⟨last, hlast, hproper⟩
    have hother : demand.state.layout ≠ last.2.state.layout := by
      rw [hstate]
      exact fun hsame => hproper ((hlayout last hlast).mp hsame.symm)
    refine ⟨?_, last, hlast, Or.inl hother⟩
    rintro ⟨earlier, hearlier, _, _, _, hsame⟩
    rw [hlast, Option.some.injEq] at hearlier
    rw [← hearlier] at hsame
    exact hother hsame.symm

/-- A misuse of a buffer separates exactly from users that leave something
    written. -/
theorem Compiled.separates_misused_buffer {compiled : Compiled} {resource : String}
    (hbuffer : compiled.planning.isImage resource = false) {before : List Pass}
    (husers : compiled.usersOf resource before ≠ []) {pass : Pass} {demand : Demand}
    (hdemand : compiled.demand? pass resource = some demand)
    (hmisuses : compiled.Misuses pass resource) :
    compiled.Separates resource before pass demand ↔ compiled.LeavesWritten resource before := by
  have hasked : ∀ {user : Pass} {use : Demand}, compiled.demand? user resource = some use →
      use.state.layout = Layout.undefined ∧ use.attachment = false := by
    intro user use huse
    have hbuffered : user.demand? false resource = some use := by
      rw [← hbuffer]
      exact huse
    exact (Pass.demand?_buffer hbuffered).2
  have hstate := (Pass.misuses_iff hdemand).2 hmisuses
  rcases Option.isSome_iff_exists.mp (List.getLast?_isSome.mpr husers) with ⟨last, hlast⟩
  have hused := ((compiled.mem_usersOf_iff _ _ _).mp (List.mem_of_getLast? hlast)).2
  constructor
  · rintro ⟨_, earlier, hearlier, hreason⟩
    rw [hlast, Option.some.injEq] at hearlier
    rw [hstate, ← hearlier, (hasked hused).1] at hreason
    rcases hreason with hother | hwrites | hwritten
    · exact absurd rfl hother
    · exact absurd hwrites (by decide)
    · exact hwritten
  · intro hwritten
    refine ⟨?_, last, hlast, Or.inr (Or.inr hwritten)⟩
    rintro ⟨_, _, _, hattachment, _⟩
    rw [(hasked hdemand).2] at hattachment
    exact Bool.false_ne_true hattachment

/-- A pass that misuses a resource asks something of it. -/
theorem Pass.Misuses.exists_demand? {pass : Pass} {resource : String} {isImage : Bool}
    (h : pass.Misuses resource isImage) :
    ∃ demand, pass.demand? isImage resource = some demand := by
  refine Option.ne_none_iff_exists'.mp fun hnone => ?_
  rw [pass.demand?_eq_none_iff isImage resource] at hnone
  cases isImage with
  | true =>
      rcases h with ⟨decider, hdecider, _⟩
      have hused : decider ∈ pass.usagesOf resource := by
        rcases Option.or_eq_some_iff.mp hdecider with hfound | ⟨_, hfirst⟩
        · exact List.mem_of_find?_eq_some hfound
        · exact List.mem_of_head? hfirst
      rw [usagesOf, List.mem_filter, decide_eq_true_eq] at hused
      rw [resources, List.mem_eraseDups] at hnone
      exact hnone (List.mem_map.mpr ⟨decider, hused⟩)
  | false => exact hnone h.1

/-- Nothing in the log of a compilation is about a use of the other kind: what it
    reports are conflicting layouts. -/
theorem mixedUse_notMem_compileLog (passes : List Pass) (compiled : Compiled)
    (h : compile passes = .ok compiled) (pass resource : String) :
    mixedUse pass resource ∉ compileLog passes := by
  unfold compileLog
  rw [h]
  intro hmem
  rcases List.mem_map.mp hmem with ⟨conflict, _, hsame⟩
  have htexts := congrArg (fun entry => entry.message.toList.head?) hsame
  simp [LogEntry.warn, mixedUse, LayoutConflict.message] at htexts

/-- The barriers of a compilation that lead nowhere are those before a pass that
    misuses their resource. -/
theorem compile_leadsNowhere_iff (passes : List Pass) (compiled : Compiled)
    (h : compile passes = .ok compiled) (planned : PlannedBarrier) :
    planned ∈ compiled.plan.barriers ∧ planned.LeadsNowhere
      ↔ ∃ before pass after, compiled.order = before ++ pass :: after
        ∧ compiled.Misuses pass planned.resource
        ∧ planned ∈ compiled.planning.callsOf planned.resource before pass := by
  rw [compile_mem_barriers_iff passes compiled h]
  constructor
  · rintro ⟨⟨before, pass, after, horder, hplanned⟩, hnowhere⟩
    exact ⟨before, pass, after, horder,
      (compiled.planning.leadsNowhere_iff hplanned).mp hnowhere, hplanned⟩
  · rintro ⟨before, pass, after, horder, hmisuses, hplanned⟩
    exact ⟨⟨before, pass, after, horder, hplanned⟩,
      (compiled.planning.leadsNowhere_iff hplanned).mpr hmisuses⟩

/-- When a pass that misuses a resource gets a barrier on it. -/
theorem compile_misuse_gets (passes : List Pass) (compiled : Compiled)
    (h : compile passes = .ok compiled) {before : List Pass} {pass : Pass} {after : List Pass}
    (horder : compiled.order = before ++ pass :: after) {resource : String}
    (hmisuses : compiled.Misuses pass resource) :
    compiled.planning.callsOf resource before pass ≠ []
      ↔ compiled.usersOf resource before = []
        ∨ if compiled.planning.isImage resource then
            ∃ last, (compiled.usersOf resource before).getLast? = some last
              ∧ ¬ compiled.Misuses last.1 resource
          else compiled.LeavesWritten resource before := by
  rcases hmisuses.exists_demand? with ⟨demand, hdemand⟩
  rw [compile_callsOf_ne_nil_iff passes compiled h horder hdemand]
  by_cases husers : compiled.usersOf resource before = []
  · exact iff_of_true (Or.inl husers) (Or.inl husers)
  · rw [or_iff_right husers, or_iff_right husers]
    cases hkind : compiled.planning.isImage resource with
    | true =>
        rw [if_pos rfl]
        exact Compiled.separates_misused_image hkind before hdemand hmisuses
    | false =>
        rw [if_neg Bool.false_ne_true]
        exact Compiled.separates_misused_buffer hkind husers hdemand hmisuses

/-- Which barriers of a compilation lead nowhere: the ones before a pass that
    misuses their resource. A first user always gets one. A later pass that
    misuses an image gets one exactly if the last user does not misuse it, and
    one that misuses a buffer exactly if something written is waiting. Nothing
    of this is reported, neither in the log nor by a planner that keeps the kinds
    apart and passes over a use of the other kind. -/
theorem compile_misused (passes : List Pass) (compiled : Compiled)
    (h : compile passes = .ok compiled) :
    (∀ planned, planned ∈ compiled.plan.barriers ∧ planned.LeadsNowhere
        ↔ ∃ before pass after, compiled.order = before ++ pass :: after
          ∧ compiled.Misuses pass planned.resource
          ∧ planned ∈ compiled.planning.callsOf planned.resource before pass)
      ∧ (∀ before pass after resource, compiled.order = before ++ pass :: after →
        compiled.Misuses pass resource →
        (compiled.planning.callsOf resource before pass ≠ []
          ↔ compiled.usersOf resource before = []
            ∨ if compiled.planning.isImage resource then
                ∃ last, (compiled.usersOf resource before).getLast? = some last
                  ∧ ¬ compiled.Misuses last.1 resource
              else compiled.LeavesWritten resource before))
      ∧ (∃ known, compiled.planning.planApart Registry.empty compiled.order []
        = ⟨known, compiled.plan.barriers, []⟩)
      ∧ ∀ pass resource, mixedUse pass resource ∉ compileLog passes := by
  refine ⟨compile_leadsNowhere_iff passes compiled h, ?_, compile_planApart passes compiled h,
    mixedUse_notMem_compileLog passes compiled h⟩
  intro before pass after resource horder hmisuses
  exact compile_misuse_gets passes compiled h horder hmisuses

/-- A pass that takes an image for a buffer. -/
def cull : Pass := ⟨1, "cull", .compute, [Usage.plain .read .storageBuffer "color"]⟩

/-- It comes after one that draws to the image. -/
def culled : List Pass := [
  ⟨0, "draw", .graphics,
    [Usage.attachment .colorAttachment "color" LoadOp.clear StoreOp.store]⟩,
  cull]

/-- The second pass gets a barrier that leads nowhere, and nothing is said. -/
theorem compile_misused_culled :
    (∃ planned ∈ (Compiled.ofOrder culled).plan.barriers,
        planned.boundary = 1 ∧ planned.LeadsNowhere)
      ∧ ∀ pass resource, mixedUse pass resource ∉ compileLog culled := by
  rcases compile_misused culled (Compiled.ofOrder culled) rfl with ⟨hnowhere, hgets, _, hsilent⟩
  refine ⟨?_, hsilent⟩
  have hlast : ∃ last, ((Compiled.ofOrder culled).usersOf "color" (culled.take 1)).getLast?
      = some last ∧ ¬ (Compiled.ofOrder culled).Misuses last.1 "color" :=
    ⟨_, rfl, by decide +kernel⟩
  have hcalls := (hgets (culled.take 1) cull [] "color" rfl (by decide +kernel)).mpr
    (Or.inr (by rw [if_pos (by decide +kernel)]; exact hlast))
  rcases List.exists_mem_of_ne_nil _ hcalls with ⟨planned, hplanned⟩
  have hplace : planned.resource = "color" ∧ planned.boundary = 1 := by
    revert planned
    decide +kernel
  have hmisuses : (Compiled.ofOrder culled).Misuses cull planned.resource := by
    rw [hplace.1]
    decide +kernel
  rw [← hplace.1] at hplanned
  rcases (hnowhere planned).mpr ⟨_, cull, [], rfl, hmisuses, hplanned⟩ with ⟨hmem, hleads⟩
  exact ⟨planned, hmem, hplace.2, hleads⟩

/-- So a barrier can lead an image into the undefined layout. -/
theorem leadsNowhere_culled :
    ¬ ∀ passes compiled, compile passes = .ok compiled →
        ∀ planned ∈ compiled.plan.barriers,
          (planned.isImage = true → planned.next.layout ≠ Layout.undefined)
            ∧ (planned.isImage = false → planned.next ≠ BufferState.undefined) := by
  intro hall
  have hplan := hall culled (Compiled.ofOrder culled) rfl
  exact absurd hplan (by decide +kernel)

end FrameGraph
