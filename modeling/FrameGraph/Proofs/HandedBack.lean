import FrameGraph.Proofs.Coverage
import FrameGraph.Proofs.IdlePasses

/-!
# What a Frame Hands Back

At the end of a frame the pool is told the state of every resource, and the
next frame's entry barrier starts from it. So this state has to stand for
every use that nothing has waited for yet, which is the window at the end of
the order.

There are two trackers, and it is the wrong one that is asked. The planner
adds the uses of a window up and ends with their union, but it is gone once
the plan is made. The recording follows barriers only: its state is what the
last barrier led to, and that is what the pass that holds this barrier asks
for, the opener. Whoever used the resource after the opener without a barrier
is not in it. `record_handsBack` says which state is handed back and when it
is enough: exactly if the opener itself asks for what the later users do.

The opener is found by walking the order from its end. A pass either gets a
barrier and is the opener from then on, or it changes nothing in what the
recording will know.

## Main definitions

* `Compiled.Opens`: A pass holds the last barrier on a resource so far.

## Theorems

* `compile_opens_first`, `compile_opens_after`, `compile_opens_user`: One more
  use.
* `compile_opens`: Every resource that is used has an opener.
* `Compiled.Opens.state_eq_iff`: When the opener asks for all the planner knows.
* `commit_opener`: The state that is handed back.
* `record_handsBack`: What it stands for, and what it leaves out.
-/

namespace FrameGraph

open Gpu

namespace Compiled

variable (compiled : Compiled)

/-- Along some passes, the last barrier on a resource is the one before the
    opener. No later one of them has a barrier on it, entries included. -/
structure Opens (resource : String) (before : List Pass) (opener : Pass) (later : List Pass)
    (first : Demand) : Prop where
  asked : compiled.demand? opener resource = some first
  quiet : ∀ pass ∈ later, compiled.plan.changes pass.index resource = []
  last : ∃ front last, compiled.planning.callsAlong resource (before ++ opener :: later) none
      = front ++ [last]
    ∧ last.next = first.state
    ∧ (last.entry = true ∧ compiled.usersOf resource before = []
      ∨ last.entry = false ∧ last.boundary = opener.index)
  window : compiled.window resource (before ++ opener :: later)
    = first :: (compiled.usersOf resource later).map Prod.snd

end Compiled

/-- A pass that has no barrier on the resource leaves the opener in place. -/
theorem Compiled.Opens.append {compiled : Compiled} {resource : String} {before : List Pass}
    {opener : Pass} {later : List Pass} {first : Demand}
    (h : compiled.Opens resource before opener later first) (pass : Pass)
    (hquiet : compiled.plan.changes pass.index resource = [])
    (hcalls : compiled.planning.callsAlong resource [pass]
      (compiled.planning.trackOf resource (before ++ opener :: later)) = []) :
    compiled.Opens resource before opener (later ++ [pass]) first := by
  have hwalked : before ++ opener :: (later ++ [pass]) = (before ++ opener :: later) ++ [pass] := by
    rw [List.append_assoc, List.cons_append]
  refine ⟨h.asked, ?_, ?_, ?_⟩
  · intro other hother
    rcases List.mem_append.mp hother with hearlier | hlast
    · exact h.quiet other hearlier
    · rw [List.mem_singleton.mp hlast]
      exact hquiet
  · rw [hwalked, compiled.planning.callsAlong_append, hcalls, List.append_nil]
    exact h.last
  · rw [hwalked, compiled.usersOf_append]
    cases hdemand : compiled.demand? pass resource with
    | none =>
        rw [compiled.window_append_none _ hdemand, compiled.usersOf_singleton_none hdemand,
          List.append_nil]
        exact h.window
    | some demand =>
        rw [compiled.window_append _ hdemand, Compiled.windowStep, if_pos hquiet, h.window,
          compiled.usersOf_singleton hdemand, List.map_append, List.cons_append]
        rfl

/-- The first user of a resource is its opener, for the entry. -/
theorem compile_opens_first (passes : List Pass) (compiled : Compiled)
    (h : compile passes = .ok compiled) (before : List Pass) (pass : Pass) (after : List Pass)
    (horder : compiled.order = before ++ pass :: after) (resource : String) (demand : Demand)
    (hdemand : compiled.demand? pass resource = some demand)
    (husers : compiled.usersOf resource before = [])
    (htrack : compiled.planning.trackOf resource before = none) :
    compiled.Opens resource before pass [] demand := by
  have hplanned : compiled.planning.demand? pass resource = some demand := hdemand
  have hnone := compile_changes_of_first passes compiled h before pass after horder resource demand
    hdemand htrack
  refine ⟨hdemand, fun _ hmem => absurd hmem List.not_mem_nil, ?_, ?_⟩
  · rw [compiled.planning.callsAlong_append, htrack]
    simp only [Planning.callsAlong, hplanned, Planning.callsFor, List.append_nil]
    exact ⟨_, _, rfl, rfl, Or.inl ⟨rfl, husers⟩⟩
  · rw [compiled.window_append _ hdemand, Compiled.windowStep, if_pos hnone,
      compiled.window_of_no_users husers]
    rfl

/-- A pass that holds a barrier on a resource which was used before is the
    opener. -/
theorem compile_opens_after (passes : List Pass) (compiled : Compiled)
    (h : compile passes = .ok compiled) (before : List Pass) (pass : Pass) (after : List Pass)
    (horder : compiled.order = before ++ pass :: after) (resource : String) (demand : Demand)
    (hdemand : compiled.demand? pass resource = some demand) (track : Track)
    (htrack : compiled.planning.trackOf resource before = some track)
    (hneeds : track.needsBarrier demand (Compiled.batchOf compiled.batches pass.index) = true) :
    compiled.Opens resource before pass [] demand := by
  have hplanned : compiled.planning.demand? pass resource = some demand := hdemand
  have hchanges := compile_changes_of_track passes compiled h before pass after horder resource
    demand hdemand track htrack
  rw [hneeds, if_pos rfl] at hchanges
  have hcalled : track.needsBarrier demand (compiled.planning.batchOf pass.index) = true := hneeds
  refine ⟨hdemand, fun _ hmem => absurd hmem List.not_mem_nil, ?_, ?_⟩
  · rw [compiled.planning.callsAlong_append, htrack]
    simp only [Planning.callsAlong, hplanned, Planning.callsFor, hcalled, if_true, List.append_nil]
    exact ⟨_, _, rfl, rfl, Or.inr ⟨rfl, rfl⟩⟩
  · have hne : compiled.plan.changes pass.index resource ≠ [] := by
      rw [hchanges]
      exact List.cons_ne_nil _ _
    rw [compiled.window_append _ hdemand, Compiled.windowStep, if_neg hne]
    rfl

/-- An opener among some passes is one among one more, which has no barrier on
    the resource. -/
theorem Compiled.Opens.stay {compiled : Compiled} {resource : String} {walked : List Pass}
    (hopened : ∃ before opener later first, walked = before ++ opener :: later
      ∧ compiled.Opens resource before opener later first) (pass : Pass)
    (hquiet : compiled.plan.changes pass.index resource = [])
    (hcalls : compiled.planning.callsAlong resource [pass]
      (compiled.planning.trackOf resource walked) = []) :
    ∃ before opener later first, walked ++ [pass] = before ++ opener :: later
      ∧ compiled.Opens resource before opener later first := by
  rcases hopened with ⟨before, opener, later, first, rfl, hopens⟩
  refine ⟨before, opener, later ++ [pass], first, ?_, hopens.append pass hquiet hcalls⟩
  rw [List.append_assoc, List.cons_append]

/-- A user of a resource that was used before opens it, or finds it open. -/
theorem compile_opens_user (passes : List Pass) (compiled : Compiled)
    (h : compile passes = .ok compiled) (walked : List Pass) (pass : Pass) (rest : List Pass)
    (horder : compiled.order = walked ++ pass :: rest) (resource : String) (demand : Demand)
    (hdemand : compiled.demand? pass resource = some demand) (track : Track)
    (htrack : compiled.planning.trackOf resource walked = some track)
    (hopened : ∃ before opener later first, walked = before ++ opener :: later
      ∧ compiled.Opens resource before opener later first) :
    ∃ before opener later first, walked ++ [pass] = before ++ opener :: later
      ∧ compiled.Opens resource before opener later first := by
  have hplanned : compiled.planning.demand? pass resource = some demand := hdemand
  cases hneeds : track.needsBarrier demand (Compiled.batchOf compiled.batches pass.index) with
  | true =>
      exact ⟨walked, pass, [], demand, rfl, compile_opens_after passes compiled h walked pass rest
        horder resource demand hdemand track htrack hneeds⟩
  | false =>
      have hcalled : track.needsBarrier demand (compiled.planning.batchOf pass.index) = false :=
        hneeds
      refine Compiled.Opens.stay hopened pass ?_ ?_
      · rw [compile_changes_of_track passes compiled h walked pass rest horder resource demand
          hdemand track htrack, hneeds, if_neg Bool.false_ne_true]
      · simp only [htrack, Planning.callsAlong, hplanned, Planning.callsFor, hcalled,
          Bool.false_eq_true, if_false, List.append_nil]

/-- Along the order a resource is not used yet, or it has an opener. The
    induction is on the passes walked, from the last one. -/
theorem compile_opens (passes : List Pass) (compiled : Compiled)
    (h : compile passes = .ok compiled) (resource : String) (walked rest : List Pass)
    (horder : compiled.order = walked ++ rest) :
    compiled.usersOf resource walked = []
      ∨ ∃ before opener later first, walked = before ++ opener :: later
        ∧ compiled.Opens resource before opener later first := by
  induction walked using List.reverseRecOn generalizing rest with
  | nil => exact Or.inl rfl
  | append_singleton walked pass ih =>
      have hnext : compiled.order = walked ++ pass :: rest :=
        horder.trans (List.append_cons _ _ _).symm
      have hwalked := ih (pass :: rest) hnext
      cases hdemand : compiled.demand? pass resource with
      | none =>
          -- Who does not use the resource has nothing to plan for it.
          have hplanned : compiled.planning.demand? pass resource = none := hdemand
          have hchanges := compile_changes passes compiled h walked pass rest hnext resource
          rw [hdemand] at hchanges
          rcases hwalked with hnone | hopened
          · left
            rw [compiled.usersOf_append, hnone, compiled.usersOf_singleton_none hdemand]
            rfl
          · refine Or.inr (Compiled.Opens.stay hopened pass hchanges ?_)
            simp only [Planning.callsAlong, hplanned]
      | some demand =>
          right
          rcases compile_knows passes compiled h resource walked (pass :: rest) hnext
            with ⟨husers, htrack⟩ | ⟨track, htrack, hknows⟩
          · exact ⟨walked, pass, [], demand, rfl, compile_opens_first passes compiled h walked pass
              rest hnext resource demand hdemand husers htrack⟩
          · refine compile_opens_user passes compiled h walked pass rest hnext resource demand
              hdemand track htrack (hwalked.resolve_left ?_)
            -- What is tracked has a last user.
            intro hnone
            rcases hknows.last with ⟨last, hlast, _⟩
            rw [hnone] at hlast
            exact absurd hlast.symm (Option.some_ne_none last)

/-- A user of the resource from the opener on has its use in the window. -/
theorem Compiled.Opens.mem_window {compiled : Compiled} {resource : String} {before : List Pass}
    {opener : Pass} {later : List Pass} {first : Demand}
    (h : compiled.Opens resource before opener later first) (pass : Pass)
    (hpass : pass ∈ opener :: later) (demand : Demand)
    (hdemand : compiled.demand? pass resource = some demand) :
    demand ∈ compiled.window resource (before ++ opener :: later) := by
  rw [h.window]
  rcases List.mem_cons.mp hpass with rfl | hlater
  · rcases Option.some.inj (hdemand.symm.trans h.asked) with rfl
    exact List.mem_cons_self
  · refine List.mem_cons_of_mem _ (List.mem_map.mpr ⟨(pass, demand), ?_, rfl⟩)
    exact (compiled.mem_usersOf_iff resource later _).mpr ⟨hlater, hdemand⟩

/-- What the planner knows is what the opener asks for, exactly if that
    includes what every later user asks for. -/
theorem Compiled.Opens.state_eq_iff {compiled : Compiled} {resource : String} {before : List Pass}
    {opener : Pass} {later : List Pass} {first : Demand}
    (h : compiled.Opens resource before opener later first) (track : Track)
    (hknows : compiled.Knows resource (before ++ opener :: later) track) :
    track.state = first.state
      ↔ ∀ pass ∈ later, ∀ demand, compiled.demand? pass resource = some demand →
        first.state.Includes demand.state.toScope := by
  have hlayout : first.state.layout = track.state.layout :=
    hknows.window.layout first (h.mem_window opener List.mem_cons_self first h.asked)
  constructor
  · intro hsame pass hpass demand hdemand
    rw [← hsame]
    exact hknows.window.includes
      (h.mem_window pass (List.mem_cons_of_mem _ hpass) demand hdemand)
  · intro hincludes
    have hscope : track.state.toScope = first.state.toScope := by
      rw [hknows.window.scope, h.window, List.map_cons, List.map_map]
      refine Scope.unionAll_cons_of_includes _ _ ?_
      intro scope hscope
      rcases List.mem_map.mp hscope with ⟨user, huser, rfl⟩
      rcases (compiled.mem_usersOf_iff resource later user).mp huser with ⟨hpass, hdemand⟩
      exact hincludes user.1 hpass user.2 hdemand
    rcases hstate : track.state with ⟨scope, layout⟩
    rcases hasked : first.state with ⟨asked, wanted⟩
    rw [hstate, hasked] at hscope hlayout
    simp only at hscope hlayout
    rw [hscope, hlayout]

/-- A state includes what a barrier out of it waits for. -/
theorem ResourceState.includes_source (state : ResourceState) :
    state.Includes state.source :=
  ⟨UInt64.and_self, by
    unfold source Scope.flushed
    rw [← UInt64.and_assoc, UInt64.and_self]⟩

/-- Every group is of a resource that some pass uses. -/
theorem compile_used (passes : List Pass) (compiled : Compiled)
    (h : compile passes = .ok compiled) (group : ResourceGroup)
    (hgroup : group ∈ compiled.resources.groups) :
    compiled.usersOf group.name compiled.order ≠ [] := by
  have hresources := compile_resources passes compiled h
  have hname : group.name ∈ compiled.resources.groups.map ResourceGroup.name :=
    List.mem_map.mpr ⟨group, hgroup, rfl⟩
  rw [hresources, Registry.mem_names_insertAll] at hname
  rcases hname with hnone | hused
  · exact absurd hnone List.not_mem_nil
  · rcases List.mem_map.mp hused with ⟨usage, husage, hresource⟩
    rcases List.mem_flatMap.mp husage with ⟨pass, hpass, hof⟩
    have huses : group.name ∈ pass.resources := by
      rw [Pass.resources, List.mem_eraseDups]
      exact List.mem_map.mpr ⟨usage, hof, hresource⟩
    cases hdemand : compiled.demand? pass group.name with
    | none => exact absurd huses ((pass.demand?_eq_none_iff _ group.name).mp hdemand)
    | some demand =>
        exact List.ne_nil_of_mem
          ((compiled.mem_usersOf_iff group.name compiled.order (pass, demand)).mpr
            ⟨hpass, hdemand⟩)

/-- The state that a complete frame hands back for a group is the one that
    its opener asks for. -/
theorem commit_opener (passes : List Pass) (compiled : Compiled)
    (h : compile passes = .ok compiled) (hunreserved : compiled.Unreserved) (request : Request)
    (replies : Replies) (pool : Pool) (device : Device) (ops : List FrameOp)
    (hinOrder : compiled.InOrder ops)
    (hcomplete : ∀ pass ∈ compiled.order, ∃ operation ∈ ops, operation.pass = pass.index)
    (stats : Stats) (hok : (record compiled request replies pool device ops).result = .ok stats)
    (group : ResourceGroup) (hgroup : group ∈ compiled.resources.groups) (before : List Pass)
    (opener : Pass) (later : List Pass) (first : Demand)
    (horder : compiled.order = before ++ opener :: later)
    (hopens : compiled.Opens group.name before opener later first) (state : ResourceState) :
    Event.pool (.commit group state) ∈ (record compiled request replies pool device ops).events
      ↔ state = first.state := by
  rcases mem_commits_iff compiled request replies pool device ops stats hok
    with ⟨resolution, hresolved, hcommits⟩
  rcases settle_group compiled (compile_typed passes compiled h) pool ops resolution hresolved group
    hgroup with ⟨backing, _, hsettle⟩
  have hleaves := (hsettle ((frameScene compiled request resolution).dealt ops)).1
  rw [dealt_complete passes compiled h hunreserved (frameScene compiled request resolution) rfl ops
    hinOrder hcomplete group.name] at hleaves
  -- Of all that comes due, the state is that of the last barrier.
  rcases hopens.last with ⟨front, last, hcalls, hnext, _⟩
  rw [horder, hcalls, settleOne_state, List.getLast?_concat, Option.map_some, Option.getD_some,
    hnext] at hleaves
  have hleft : ((frameScene compiled request resolution).leaves ops).get? group.name
      = some first.state := hleaves
  rw [hcommits, hleft, Option.some.injEq]
  exact ⟨fun hsome => hsome.2.symm, fun hsame => ⟨hgroup, hsame.symm⟩⟩

/-- What a complete frame hands back. Let every pass have an operation, the
    operations stand in the order of the passes, and no pass carry the
    reserved index. For each group one state is handed back, and it is what
    the opener asks for, the pass that the last barrier on the group stands
    before. From the opener on, all uses of the group are in one layout, and
    the planner ends with a state that includes them all. The state handed
    back waits for all of them exactly if the opener asks for the stages, and
    for the accesses that write, of every later user, and it is the one that
    the planner ends with exactly if the opener asks for all that they do. -/
theorem record_handsBack (passes : List Pass) (compiled : Compiled)
    (h : compile passes = .ok compiled) (hreserved : ∀ pass ∈ passes, pass.index ≠ frameStart)
    (request : Request) (replies : Replies) (pool : Pool) (device : Device) (ops : List FrameOp)
    (hinOrder : compiled.InOrder ops)
    (hcomplete : ∀ pass ∈ passes, ∃ operation ∈ ops, operation.pass = pass.index)
    (stats : Stats) (hok : (record compiled request replies pool device ops).result = .ok stats)
    (group : ResourceGroup) (hgroup : group ∈ compiled.resources.groups) :
    ∃ before opener later first last track,
      compiled.order = before ++ opener :: later
      ∧ compiled.demand? opener group.name = some first
      ∧ (compiled.plan.barriers.filter fun planned =>
          planned.resource = group.name).getLast? = some last
      ∧ (last.entry = true ∧ compiled.usersOf group.name before = []
        ∨ last.entry = false ∧ last.boundary = opener.index)
      ∧ (∀ state, Event.pool (.commit group state)
          ∈ (record compiled request replies pool device ops).events ↔ state = first.state)
      ∧ ((∀ state, Event.pool (.commit group state)
            ∈ (record compiled request replies pool device ops).events →
          ∀ pass ∈ opener :: later, ∀ demand, compiled.demand? pass group.name = some demand →
            state.Includes demand.state.source)
        ↔ ∀ pass ∈ later, ∀ demand, compiled.demand? pass group.name = some demand →
            first.state.Includes demand.state.source)
      ∧ compiled.planning.trackOf group.name compiled.order = some track
      ∧ (∀ pass ∈ opener :: later, ∀ demand, compiled.demand? pass group.name = some demand →
          demand.state.layout = first.state.layout
            ∧ track.state.Includes demand.state.toScope)
      ∧ (track.state = first.state
        ↔ ∀ pass ∈ later, ∀ demand, compiled.demand? pass group.name = some demand →
            first.state.Includes demand.state.toScope) := by
  have hunreserved := compile_unreserved passes compiled h hreserved
  have hall : ∀ pass ∈ compiled.order, ∃ operation ∈ ops, operation.pass = pass.index :=
    fun pass hpass => hcomplete pass ((compile_order_perm passes compiled h).mem_iff.mp hpass)
  have hused := compile_used passes compiled h group hgroup
  have hself : compiled.order = compiled.order ++ [] := (List.append_nil _).symm
  rcases compile_opens passes compiled h group.name compiled.order [] hself
    with hnone | ⟨before, opener, later, first, horder, hopens⟩
  · exact absurd hnone hused
  rcases compile_knows passes compiled h group.name compiled.order [] hself
    with ⟨hnone, _⟩ | ⟨track, htrack, hknows⟩
  · exact absurd hnone hused
  have hcommits := commit_opener passes compiled h hunreserved request replies pool device ops
    hinOrder hall stats hok group hgroup before opener later first horder hopens
  rcases hopens.last with ⟨front, last, hcalls, _, hstands⟩
  refine ⟨before, opener, later, first, last, track, horder, hopens.asked, ?_, hstands, hcommits,
    ?_, htrack, ?_, ?_⟩
  · rw [compile_plan passes compiled h, compiled.planning.filter_usePasses, horder]
    exact (congrArg List.getLast? hcalls).trans List.getLast?_concat
  · constructor
    · intro hwaits pass hpass demand hdemand
      exact hwaits first.state ((hcommits first.state).mpr rfl) pass
        (List.mem_cons_of_mem _ hpass) demand hdemand
    · intro hwaits state hstate pass hpass demand hdemand
      rw [(hcommits state).mp hstate]
      rcases List.mem_cons.mp hpass with rfl | hlater
      · -- What the opener asks for itself is in it.
        rcases Option.some.inj (hdemand.symm.trans hopens.asked) with rfl
        exact demand.state.includes_source
      · exact hwaits pass hlater demand hdemand
  · rw [horder] at hknows
    have hlayout := hknows.window.layout first
      (hopens.mem_window opener List.mem_cons_self first hopens.asked)
    intro pass hpass demand hdemand
    have hmem := hopens.mem_window pass hpass demand hdemand
    exact ⟨(hknows.window.layout demand hmem).trans hlayout.symm, hknows.window.includes hmem⟩
  · rw [horder] at hknows
    exact hopens.state_eq_iff track hknows

/-- A clear, another one and a dispatch, each in its pass. -/
def sampledInTwoStagesOps : List FrameOp := [clearOp 0, clearOp 1, dispatchOp 2]

/-- The frame in which an image is drawn and then sampled in two stages. -/
def sampledInTwoStagesRecording : Recording :=
  record (Compiled.ofOrder sampledInTwoStages) ⟨0, oneTimeSubmit, "", oneDraw⟩ Replies.good
    poolOfTwo Device.working sampledInTwoStagesOps

/-- The image of that frame. -/
def albedo : ResourceGroup := ⟨"albedo", .colorAttachment, AspectMask.color⟩

/-- The last barrier on it, before the first reader. -/
def albedoSampled : PlannedBarrier :=
  ⟨1, "albedo", true, ImageState.colorAttachmentWrite, ImageState.shaderReadFragment,
    AspectMask.color, false⟩

theorem inOrder_sampledInTwoStages :
    (Compiled.ofOrder sampledInTwoStages).InOrder sampledInTwoStagesOps :=
  ⟨by decide, by decide⟩

theorem albedo_mem : albedo ∈ (Compiled.ofOrder sampledInTwoStages).resources.groups := by
  decide

theorem last_albedoSampled :
    ((Compiled.ofOrder sampledInTwoStages).plan.barriers.filter fun planned =>
      planned.resource = albedo.name).getLast? = some albedoSampled := by
  decide

theorem sampledInTwoStages_recorded : sampledInTwoStagesRecording.result = .ok ⟨3, 2, 3, true⟩ := by
  decide +kernel

/-- What is handed back for the image is what the first reader asks for, and
    not what both do. -/
theorem record_handsBack_lighting :
    Event.pool (.commit albedo ImageState.shaderReadFragment) ∈ sampledInTwoStagesRecording.events
      ∧ Event.pool (.commit albedo
          (ImageState.shaderReadFragment.mergeReader ImageState.shaderReadCompute))
        ∉ sampledInTwoStagesRecording.events := by
  rcases record_handsBack sampledInTwoStages _ compile_sampledInTwoStages (by decide)
    ⟨0, oneTimeSubmit, "", oneDraw⟩ Replies.good poolOfTwo Device.working sampledInTwoStagesOps
    inOrder_sampledInTwoStages (by decide) _ sampledInTwoStages_recorded albedo albedo_mem
    with ⟨before, opener, later, first, last, track, horder, hasked, hlast, hstands, hcommits, _⟩
  -- The last barrier is no entry, so the opener is the pass it stands before.
  rcases Option.some.inj (hlast.symm.trans last_albedoSampled) with rfl
  have hindex : opener.index = 1 := by
    rcases hstands with ⟨hentry, _⟩ | ⟨_, hboundary⟩
    · exact absurd hentry (by decide)
    · exact hboundary.symm
  have hmem : opener ∈ (Compiled.ofOrder sampledInTwoStages).order := by
    rw [horder]
    exact List.mem_append_right _ List.mem_cons_self
  have hopener : opener = sampledInTwoStages[1] := by
    have hone : ∀ pass ∈ (Compiled.ofOrder sampledInTwoStages).order, pass.index = 1 →
        pass = sampledInTwoStages[1] := by
      decide
    exact hone opener hmem hindex
  have hfirst : first = ⟨ImageState.shaderReadFragment, false⟩ := by
    rw [hopener] at hasked
    exact (Option.some.inj hasked).symm
  rw [hfirst] at hcommits
  refine ⟨(hcommits _).mpr rfl, fun hboth => ?_⟩
  exact absurd ((hcommits _).mp hboth) (by decide)

/-- The second reader is not in it. -/
theorem handedBack_misses_ssao :
    ¬ ∀ (passes : List Pass) (compiled : Compiled), compile passes = .ok compiled →
        (∀ pass ∈ passes, pass.index ≠ frameStart) →
        ∀ (request : Request) (replies : Replies) (pool : Pool) (device : Device)
          (ops : List FrameOp), compiled.InOrder ops →
        (∀ pass ∈ passes, ∃ operation ∈ ops, operation.pass = pass.index) →
        ∀ (stats : Stats), (record compiled request replies pool device ops).result = .ok stats →
        ∀ group ∈ compiled.resources.groups, ∀ (last : PlannedBarrier),
          (compiled.plan.barriers.filter fun planned =>
            planned.resource = group.name).getLast? = some last →
        ∀ pass ∈ compiled.order, compiled.turn last.boundary ≤ compiled.turn pass.index →
        ∀ (demand : Demand), compiled.demand? pass group.name = some demand →
        ∀ (state : ResourceState), Event.pool (.commit group state)
            ∈ (record compiled request replies pool device ops).events →
          state.Includes demand.state.source := by
  have hused : sampledInTwoStages[2] ∈ (Compiled.ofOrder sampledInTwoStages).order := by
    decide
  have hsince : (Compiled.ofOrder sampledInTwoStages).turn albedoSampled.boundary
      ≤ (Compiled.ofOrder sampledInTwoStages).turn sampledInTwoStages[2].index := by
    decide
  have hasked : (Compiled.ofOrder sampledInTwoStages).demand? sampledInTwoStages[2] albedo.name
      = some ⟨ImageState.shaderReadCompute, false⟩ := by
    decide
  have hcommit : Event.pool (.commit albedo ImageState.shaderReadFragment)
      ∈ sampledInTwoStagesRecording.events := by
    decide +kernel
  intro hall
  have hread := hall sampledInTwoStages _ compile_sampledInTwoStages (by decide)
    ⟨0, oneTimeSubmit, "", oneDraw⟩ Replies.good poolOfTwo Device.working sampledInTwoStagesOps
    inOrder_sampledInTwoStages (by decide) _ sampledInTwoStages_recorded albedo albedo_mem
    albedoSampled last_albedoSampled _ hused hsince _ hasked _ hcommit
  exact absurd hread (by decide)

end FrameGraph
