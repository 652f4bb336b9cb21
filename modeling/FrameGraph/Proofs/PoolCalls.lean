import FrameGraph.Proofs.Recorded

/-!
# What a Recording Asks of the Pool

A recording talks to a pool and to a stream. It asks the pool for everything it
needs before it touches the stream, so a frame that cannot be had leaves no
half-recorded stream behind, and it hands states back only after the stream
has ended well, so no state is noted for a frame that never runs.

What is asked for is each group and each surface once. That the surfaces are
distinct is how their list is made. That the groups are is a property of the
registry, in which a name stands for one group.

The pool of a frame answers by name and by surface, while others who might
stand in its place are free to answer one question after what they were asked
before. Since no question comes twice, this makes no difference: some pool
gives the same answers, so what is shown for every pool is shown for all of
them.

## Main definitions

* `Error.ofResolving`: What a frame can fail with before its stream is
  touched.
* `Provider`: Someone whose answers depend on what was asked before.
* `Provider.resolve`: Resolve a frame with one.
* `Provider.pool`: The pool that gives the same answers.

## Theorems

* `ofResolving_resolve`: How resolving fails.
* `calls_resolve`: What is asked if nothing is missing.
* `recordResolved_error`: A resolved frame that fails has touched the stream.
* `finalStates_perm`: Each group hands back one state.
* `Provider.backGroups_pool`, `Provider.bindSurfaces_pool`,
  `Provider.resolve_pool`: The pool gives the same answers.
* `record_error_cases`: What was asked and sent by a frame that fails.
* `leaves_known`: A resolved frame leaves every group in some state.
* `record_asks_first`: Everything is asked for first and handed back last.
-/

namespace FrameGraph

open Gpu

/-- The error comes from resolving: a resource or a surface cannot be had, or
    a blit reads what it writes. -/
def Error.ofResolving : Error → Bool
  | .missingResource _ | .missingTarget _ | .blitAliasing _ => true
  | _ => false

/-- What is done with a value does not matter to an error. -/
theorem error_of_map {α β : Type} {f : α → β} {attempt : Except Error α} {error : Error}
    (h : attempt.map f = .error error) : attempt = .error error := by
  cases attempt with
  | error other =>
      simp only [Except.map, Except.error.injEq] at h
      rw [h]
  | ok value => simp only [Except.map, reduceCtorEq] at h

theorem ofResolving_backGroups (pool : Pool) (groups : List ResourceGroup) (error : Error)
    (h : (backGroups pool groups).result = .error error) : error.ofResolving = true := by
  induction groups generalizing pool with
  | nil => simp only [backGroups, reduceCtorEq] at h
  | cons group rest ih =>
      unfold backGroups at h
      split at h
      · rcases Except.error.inj h with rfl
        rfl
      · exact ih _ (error_of_map h)

theorem ofResolving_bindSurfaces (pool : Pool) (surfaces : List Surface) (error : Error)
    (h : (bindSurfaces pool surfaces).result = .error error) : error.ofResolving = true := by
  induction surfaces with
  | nil => simp only [bindSurfaces, reduceCtorEq] at h
  | cons surface rest ih =>
      unfold bindSurfaces at h
      split at h
      · rcases Except.error.inj h with rfl
        rfl
      · exact ih (error_of_map h)

/-- Resolving fails for want of something, or because of a blit. -/
theorem ofResolving_resolve (pool : Pool) (resources : Registry) (ops : List FrameOp)
    (error : Error) (h : (resolve pool resources ops).result = .error error) :
    error.ofResolving = true := by
  unfold resolve at h
  simp only at h
  split at h
  · next other hother =>
    rcases Except.error.inj h with rfl
    exact ofResolving_backGroups _ _ _ hother
  · split at h
    · rcases Except.error.inj h with rfl
      rfl
    · exact ofResolving_bindSurfaces _ _ _ (error_of_map h)

/-- Every group is asked for once, if all of them can be had. -/
theorem calls_backGroups (pool : Pool) (groups : List ResourceGroup)
    (backings : Table String Backing) (h : (backGroups pool groups).result = .ok backings) :
    (backGroups pool groups).calls = groups.map .ensure := by
  induction groups generalizing pool backings with
  | nil => rfl
  | cons group rest ih =>
      rw [backGroups] at h ⊢
      split at h
      · simp only [reduceCtorEq] at h
      · next next backing heq =>
          simp only at h ⊢
          cases hrest : (backGroups next rest).result with
          | error error => simp only [hrest, Except.map, reduceCtorEq] at h
          | ok later => rw [ih next later hrest, List.map_cons]

theorem calls_bindSurfaces (pool : Pool) (surfaces : List Surface)
    (targets : Table Surface TargetBinding)
    (h : (bindSurfaces pool surfaces).result = .ok targets) :
    (bindSurfaces pool surfaces).calls = surfaces.map .resolveTarget := by
  induction surfaces generalizing targets with
  | nil => rfl
  | cons surface rest ih =>
      rw [bindSurfaces] at h ⊢
      split at h
      · simp only [reduceCtorEq] at h
      · simp only at h ⊢
        cases hrest : (bindSurfaces pool rest).result with
        | error error => simp only [hrest, Except.map, reduceCtorEq] at h
        | ok later => rw [ih later hrest, List.map_cons]

/-- A frame that resolves has asked for its groups and then for its surfaces. -/
theorem calls_resolve (pool : Pool) (resources : Registry) (ops : List FrameOp)
    (resolution : Resolution) (h : (resolve pool resources ops).result = .ok resolution) :
    (resolve pool resources ops).calls
      = resources.groups.map .ensure ++ (neededSurfaces ops).map .resolveTarget := by
  rcases resolve_eq_ok pool resources ops resolution h with ⟨hbacked, hbound, _⟩
  rw [← calls_backGroups pool resources.groups _ hbacked,
    ← calls_bindSurfaces _ (neededSurfaces ops) _ hbound]
  unfold resolve at h ⊢
  simp only [hbacked] at h ⊢
  split at h
  · simp only [reduceCtorEq] at h
  · rfl

/-- The surfaces of a frame are the presented image and what its operations
    need. -/
theorem mem_neededSurfaces_iff (ops : List FrameOp) (surface : Surface) :
    surface ∈ neededSurfaces ops
      ↔ surface = .swapchain ∨ ∃ operation ∈ ops, surface ∈ operation.surfaces := by
  unfold neededSurfaces
  rw [List.mem_eraseDups, List.mem_append, List.mem_singleton, List.mem_flatMap, or_comm]

/-- A resolved frame that fails has touched the stream, has handed nothing
    back, and does not fail as resolving does. -/
theorem recordResolved_error (compiled : Compiled) (request : Request) (replies : Replies)
    (pool : Pool) (device : Device) (resolution : Resolution) (resolving : List Event)
    (ops : List FrameOp) (error : Error)
    (h : (recordResolved compiled request replies pool device resolution resolving ops).result
      = .error error) :
    error.ofResolving = false ∧ ∃ commands, commands ≠ []
      ∧ (recordResolved compiled request replies pool device resolution resolving ops).events
        = resolving ++ commands.map Event.command := by
  have hfailure : ∀ call code, (backendFailure device call code).1.ofResolving = false := by
    intro call code
    unfold backendFailure
    split
    · rfl
    · rfl
  unfold recordResolved at h ⊢
  by_cases hreset : replies.reset = ResultCode.success
  · by_cases hbegin : replies.begin = ResultCode.success
    · by_cases hfinish : replies.finish = ResultCode.success
      · simp only [hreset, hbegin, hfinish, ne_eq, not_true_eq_false, if_false, reduceCtorEq] at h
      · simp only [hreset, hbegin, hfinish, ne_eq, not_true_eq_false, if_false,
          not_false_eq_true, if_true] at h ⊢
        rcases Except.error.inj h with rfl
        exact ⟨hfailure _ _, _, List.cons_ne_nil _ _, rfl⟩
    · simp only [hreset, hbegin, ne_eq, not_true_eq_false, if_false, not_false_eq_true,
        if_true] at h ⊢
      rcases Except.error.inj h with rfl
      exact ⟨hfailure _ _, _, List.cons_ne_nil _ _, rfl⟩
  · simp only [hreset, ne_eq, not_false_eq_true, if_true] at h ⊢
    rcases Except.error.inj h with rfl
    exact ⟨hfailure _ _, _, List.cons_ne_nil _ _, rfl⟩

/-- Every group whose state is known hands it back, and does so once. -/
theorem finalStates_perm (resources : Registry) (states : Table String ResourceState)
    (h : ∀ group ∈ resources.groups, ∃ state, states.get? group.name = some state) :
    ((finalStates resources states).map Prod.fst).Perm resources.groups := by
  have hall : (finalStates resources states).map Prod.fst = commitOrder resources := by
    unfold finalStates
    rw [List.map_filterMap]
    refine Eq.trans (List.filterMap_congr ?_) List.filterMap_some
    intro group hgroup
    rcases h group ((commitOrder_perm resources).mem_iff.mp hgroup) with ⟨state, hstate⟩
    rw [hstate]
    rfl
  rw [hall]
  exact commitOrder_perm resources

/-- Someone who is asked for resources and bindings. What is answered may
    depend on all that was asked before. -/
structure Provider where
  ensure : List PoolCall → ResourceGroup → Option Backing
  target : List PoolCall → Surface → Option TargetBinding

namespace Provider

variable (provider : Provider)

/-- Resources for some groups, up to the first that cannot be had, with all
    that was asked by then. -/
def backGroups (asked : List PoolCall) :
    List ResourceGroup → List PoolCall × Except Error (Table String Backing)
  | [] => (asked, .ok [])
  | group :: rest =>
    match provider.ensure asked group with
    | none => (asked ++ [.ensure group], .error (.missingResource group.name))
    | some backing =>
      let later := backGroups (asked ++ [.ensure group]) rest
      (later.1, later.2.map ((group.name, backing) :: ·))

/-- Bindings for some surfaces, up to the first that is unknown, with all that
    was asked by then. -/
def bindSurfaces (asked : List PoolCall) :
    List Surface → List PoolCall × Except Error (Table Surface TargetBinding)
  | [] => (asked, .ok [])
  | surface :: rest =>
    match provider.target asked surface with
    | none => (asked ++ [.resolveTarget surface], .error (.missingTarget surface))
    | some binding =>
      let later := bindSurfaces (asked ++ [.resolveTarget surface]) rest
      (later.1, later.2.map ((surface, binding) :: ·))

/-- Resolve a frame, or say what is missing, with all that was asked. -/
def resolve (resources : Registry) (ops : List FrameOp) :
    List PoolCall × Except Error Resolution :=
  let backed := provider.backGroups [] resources.groups
  match backed.2 with
  | .error error => (backed.1, .error error)
  | .ok backings =>
    match ops.findSome? FrameOp.aliased? with
    | some surface => (backed.1, .error (.blitAliasing surface))
    | none =>
      let bound := provider.bindSurfaces backed.1 (neededSurfaces ops)
      (bound.1, bound.2.map fun targets => ⟨backings, targets⟩)

/-- What is answered for a name, if groups are asked for in order. -/
def answer (groups : List ResourceGroup) (name : String) : Option Backing :=
  (groups.find? fun group => group.name = name).bind
    (provider.ensure ((groups.takeWhile fun group => group.name ≠ name).map .ensure))

/-- What is answered for a surface, if groups are asked for in order, and then
    surfaces. -/
def answerTarget (groups : List ResourceGroup) (surfaces : List Surface) (surface : Surface) :
    Option TargetBinding :=
  provider.target (groups.map .ensure
    ++ (surfaces.takeWhile fun other => other ≠ surface).map .resolveTarget) surface

/-- A pool that holds these answers already. Where none is given, it has
    nothing to offer. -/
def pool (groups : List ResourceGroup) (surfaces : List Surface) : Pool :=
  let held : Table String Backing := (groups.map ResourceGroup.name).map fun name =>
    (name, (provider.answer groups name).getD ⟨0, 0, ImageState.undefined⟩)
  ⟨⟨fun name => (provider.answer groups name).isSome, fun _ => 0, fun _ => ImageState.undefined,
    fun _ => BufferState.undefined, provider.answerTarget groups surfaces⟩, 0, 0, held, held⟩

/-- A group is asked for after those before it. -/
theorem answer_of_split {groups before : List ResourceGroup} {group : ResourceGroup}
    {after : List ResourceGroup} (hnodup : (groups.map ResourceGroup.name).Nodup)
    (hsplit : groups = before ++ group :: after) :
    provider.answer groups group.name = provider.ensure (before.map .ensure) group := by
  -- No group before it has its name.
  have hbefore : ∀ other ∈ before, other.name ≠ group.name := by
    intro other hother hsame
    rw [hsplit, List.map_append, List.map_cons] at hnodup
    exact (List.nodup_append.mp hnodup).2.2 other.name (List.mem_map_of_mem hother) group.name
      List.mem_cons_self hsame
  have hfind : groups.find? (fun other => other.name = group.name) = some group := by
    rw [hsplit, List.find?_append, List.find?_eq_none.mpr, Option.none_or, List.find?_cons_of_pos]
    · exact decide_eq_true rfl
    · intro other hother
      simp [hbefore other hother]
  have htake : groups.takeWhile (fun other => other.name ≠ group.name) = before := by
    rw [hsplit, List.takeWhile_append_of_pos, List.takeWhile_cons_of_neg, List.append_nil]
    · simp
    · intro other hother
      exact decide_eq_true (hbefore other hother)
  unfold answer
  rw [hfind, htake]
  rfl

/-- A surface is asked for after the groups and the surfaces before it. -/
theorem answerTarget_of_split (groups : List ResourceGroup) {surfaces before : List Surface}
    {surface : Surface} {after : List Surface} (hnodup : surfaces.Nodup)
    (hsplit : surfaces = before ++ surface :: after) :
    provider.answerTarget groups surfaces surface
      = provider.target (groups.map .ensure ++ before.map .resolveTarget) surface := by
  have htake : surfaces.takeWhile (fun other => other ≠ surface) = before := by
    rw [hsplit, List.takeWhile_append_of_pos, List.takeWhile_cons_of_neg, List.append_nil]
    · simp
    · intro other hother
      rw [hsplit] at hnodup
      exact decide_eq_true
        ((List.nodup_append.mp hnodup).2.2 other hother surface List.mem_cons_self)
  unfold answerTarget
  rw [htake]

/-- The pool gives out what it holds and stays as it is. -/
theorem ensure_pool (groups : List ResourceGroup) (surfaces : List Surface)
    {group : ResourceGroup} (hgroup : group ∈ groups) :
    (provider.pool groups surfaces).ensure group
      = (provider.pool groups surfaces, provider.answer groups group.name) := by
  have hheld : (provider.pool groups surfaces).backing? group
      = some ((provider.answer groups group.name).getD ⟨0, 0, ImageState.undefined⟩) := by
    unfold Pool.backing? pool
    simp only [ite_self, Table.get?_map]
    rw [if_pos (List.mem_map_of_mem hgroup)]
  have hprovides : (provider.pool groups surfaces).supply.provides group.name
      = (provider.answer groups group.name).isSome := rfl
  unfold Pool.ensure
  rw [hprovides, hheld]
  cases provider.answer groups group.name with
  | none => rfl
  | some backing => rfl

/-- Groups are backed alike. The induction is on the groups still to be asked
    for. -/
theorem backGroups_pool (groups : List ResourceGroup) (surfaces : List Surface)
    (hnodup : (groups.map ResourceGroup.name).Nodup) (before after : List ResourceGroup)
    (hsplit : groups = before ++ after) :
    (FrameGraph.backGroups (provider.pool groups surfaces) after).pool
        = provider.pool groups surfaces
      ∧ before.map .ensure ++ (FrameGraph.backGroups (provider.pool groups surfaces) after).calls
        = (provider.backGroups (before.map .ensure) after).1
      ∧ (FrameGraph.backGroups (provider.pool groups surfaces) after).result
        = (provider.backGroups (before.map .ensure) after).2 := by
  induction after generalizing before with
  | nil => exact ⟨rfl, List.append_nil _, rfl⟩
  | cons group rest ih =>
      have hgroup : group ∈ groups := by
        rw [hsplit]
        exact List.mem_append_right _ List.mem_cons_self
      have hasked : (before ++ [group]).map PoolCall.ensure
          = before.map .ensure ++ [.ensure group] := List.map_append
      rcases ih (before ++ [group]) (by rw [hsplit, List.append_assoc]; rfl)
        with ⟨hpool, hcalls, hresult⟩
      rw [hasked] at hcalls hresult
      rw [FrameGraph.backGroups, backGroups, provider.ensure_pool groups surfaces hgroup,
        provider.answer_of_split hnodup hsplit]
      cases provider.ensure (before.map .ensure) group with
      | none => exact ⟨rfl, rfl, rfl⟩
      | some backing =>
          refine ⟨hpool, (List.append_cons _ _ _).trans hcalls, ?_⟩
          simp only [hresult]

theorem bindSurfaces_pool (groups : List ResourceGroup) (surfaces : List Surface)
    (hnodup : surfaces.Nodup) (before after : List Surface) (hsplit : surfaces = before ++ after) :
    groups.map .ensure ++ before.map .resolveTarget
        ++ (FrameGraph.bindSurfaces (provider.pool groups surfaces) after).calls
      = (provider.bindSurfaces (groups.map .ensure ++ before.map .resolveTarget) after).1
    ∧ (FrameGraph.bindSurfaces (provider.pool groups surfaces) after).result
      = (provider.bindSurfaces (groups.map .ensure ++ before.map .resolveTarget) after).2 := by
  induction after generalizing before with
  | nil => exact ⟨List.append_nil _, rfl⟩
  | cons surface rest ih =>
      have hasked : groups.map PoolCall.ensure ++ (before ++ [surface]).map .resolveTarget
          = groups.map .ensure ++ before.map .resolveTarget ++ [.resolveTarget surface] := by
        rw [List.map_append, List.append_assoc]
        rfl
      rcases ih (before ++ [surface]) (by rw [hsplit, List.append_assoc]; rfl)
        with ⟨hcalls, hresult⟩
      rw [hasked] at hcalls hresult
      have htarget : (provider.pool groups surfaces).supply.target? surface
          = provider.target (groups.map .ensure ++ before.map .resolveTarget) surface :=
        provider.answerTarget_of_split groups hnodup hsplit
      rw [FrameGraph.bindSurfaces, bindSurfaces, htarget]
      cases provider.target (groups.map .ensure ++ before.map .resolveTarget) surface with
      | none => exact ⟨rfl, rfl⟩
      | some binding =>
          refine ⟨(List.append_cons _ _ _).trans hcalls, ?_⟩
          simp only [hresult]

/-- A frame resolves alike, as long as a name stands for one group: no question
    comes twice, so none can be answered in two ways. -/
theorem resolve_pool (resources : Registry)
    (hnodup : (resources.groups.map ResourceGroup.name).Nodup) (ops : List FrameOp) :
    (FrameGraph.resolve (provider.pool resources.groups (neededSurfaces ops)) resources ops).calls
        = (provider.resolve resources ops).1
      ∧ (FrameGraph.resolve (provider.pool resources.groups (neededSurfaces ops)) resources
          ops).result
        = (provider.resolve resources ops).2 := by
  have hsurfaces : (neededSurfaces ops).Nodup := nodup_eraseDups _
  rcases provider.backGroups_pool resources.groups (neededSurfaces ops) hnodup []
    resources.groups rfl with ⟨hpool, hcalls, hresult⟩
  rcases provider.bindSurfaces_pool resources.groups (neededSurfaces ops) hsurfaces []
    (neededSurfaces ops) rfl with ⟨hcalls', hresult'⟩
  simp only [List.map_nil, List.nil_append, List.append_nil] at hcalls hresult hcalls' hresult'
  unfold FrameGraph.resolve resolve
  simp only [hpool, ← hresult, ← hcalls]
  cases hbacked : (FrameGraph.backGroups (provider.pool resources.groups (neededSurfaces ops))
      resources.groups).result with
  | error error => exact ⟨rfl, rfl⟩
  | ok backings =>
      simp only
      rw [calls_backGroups _ _ _ hbacked, ← hcalls', ← hresult']
      cases ops.findSome? FrameOp.aliased? with
      | some surface => exact ⟨rfl, rfl⟩
      | none => exact ⟨rfl, rfl⟩

end Provider

/-- A frame that fails was not resolved, and then nothing was asked of the
    stream, or it fails later. In either case no state was handed back. -/
theorem record_error_cases (compiled : Compiled) (request : Request) (replies : Replies)
    (pool : Pool) (device : Device) (ops : List FrameOp) (error : Error)
    (h : (record compiled request replies pool device ops).result = .error error) :
    ∃ commands, (record compiled request replies pool device ops).events
        = (resolve pool compiled.resources ops).calls.map Event.pool
          ++ commands.map Event.command
      ∧ (commands = [] ↔ error.ofResolving = true) := by
  cases hresolved : (resolve pool compiled.resources ops).result with
  | error other =>
      unfold record at h ⊢
      simp only [hresolved] at h ⊢
      rcases Except.error.inj h with rfl
      refine ⟨[], (List.append_nil _).symm, ?_⟩
      exact iff_of_true rfl (ofResolving_resolve pool compiled.resources ops _ hresolved)
  | ok resolution =>
      have hrecord := record_of_resolved compiled request replies pool device ops resolution
        hresolved
      rw [hrecord] at h ⊢
      rcases recordResolved_error compiled request replies _ device resolution _ ops error h
        with ⟨hlater, commands, hne, hevents⟩
      refine ⟨commands, hevents, iff_of_false hne ?_⟩
      rw [hlater]
      exact Bool.false_ne_true

/-- Every group of a resolved frame is left in some state. -/
theorem leaves_known (compiled : Compiled) (htyped : compiled.Typed) (request : Request)
    (pool : Pool) (ops : List FrameOp) (resolution : Resolution)
    (hresolved : (resolve pool compiled.resources ops).result = .ok resolution) :
    ∀ group ∈ compiled.resources.groups, ∃ state,
      ((frameScene compiled request resolution).leaves ops).get? group.name = some state := by
  intro group hgroup
  rcases settle_group compiled htyped pool ops resolution hresolved group hgroup
    with ⟨backing, _, hsettle⟩
  exact ⟨_, (hsettle _).1⟩

/-- Everything is asked for first and handed back last. Let the graph be
    compiled. Nothing is sent to the stream exactly if the frame fails while it
    is resolved, and a frame that fails in any way hands no state back. In a
    frame that succeeds, every group and every surface is asked for once before
    the stream is reset, and after the stream has ended every group is handed
    the state that the frame left it in, once. This is so for every pool, and
    by that for everyone who might stand in for one: however answers depend on
    what was asked before, there is a pool of which the same is asked and which
    answers the same. -/
theorem record_asks_first (passes : List Pass) (compiled : Compiled)
    (h : compile passes = .ok compiled) (request : Request) (replies : Replies) (device : Device)
    (ops : List FrameOp) :
    (∀ provider : Provider, ∃ pool,
      (resolve pool compiled.resources ops).calls = (provider.resolve compiled.resources ops).1
      ∧ (resolve pool compiled.resources ops).result
        = (provider.resolve compiled.resources ops).2)
    ∧ ∀ (pool : Pool) (recording : Recording),
      recording = record compiled request replies pool device ops →
      (commandsOf recording.events = []
        ↔ ∃ error, recording.result = .error error ∧ error.ofResolving = true)
      ∧ (∀ error, recording.result = .error error →
        ∀ group state, Event.pool (.commit group state) ∉ recording.events)
      ∧ ∀ stats, recording.result = .ok stats →
        ∃ (resolution : Resolution) (groups : List ResourceGroup) (surfaces : List Surface)
          (commands : List Command) (commits : List (ResourceGroup × ResourceState)),
          (resolve pool compiled.resources ops).result = .ok resolution
          ∧ groups = compiled.resources.groups
          ∧ surfaces = neededSurfaces ops
          ∧ (groups.map ResourceGroup.name).Nodup
          ∧ surfaces.Nodup
          ∧ (∀ surface, surface ∈ surfaces
            ↔ surface = .swapchain ∨ ∃ operation ∈ ops, surface ∈ operation.surfaces)
          ∧ recording.events
            = (groups.map PoolCall.ensure ++ surfaces.map PoolCall.resolveTarget).map Event.pool
              ++ ([Command.reset, .begin request.usage request.label] ++ commands
                ++ [Command.finish]).map Event.command
              ++ commits.map (fun commit => Event.pool (.commit commit.1 commit.2))
          ∧ (commits.map Prod.fst).Perm groups
          ∧ ∀ commit ∈ commits,
            ((frameScene compiled request resolution).leaves ops).get? commit.1.name
              = some commit.2 := by
  have htyped := compile_typed passes compiled h
  refine ⟨fun provider => ⟨_, provider.resolve_pool compiled.resources htyped.nodup ops⟩, ?_⟩
  rintro pool recording rfl
  have hcalls : commandsOf ((resolve pool compiled.resources ops).calls.map Event.pool) = [] :=
    commandsOf_pool id _
  cases hresult : (record compiled request replies pool device ops).result with
  | error error =>
      rcases record_error_cases compiled request replies pool device ops error hresult
        with ⟨commands, hevents, hnone⟩
      refine ⟨?_, ?_, fun stats hok => by simp only [reduceCtorEq] at hok⟩
      · rw [hevents, commandsOf_append, hcalls, commandsOf_command, List.nil_append, hnone]
        simp only [Except.error.injEq, exists_eq_left']
      · intro _ _ group state hmem
        rw [hevents] at hmem
        simp only [List.mem_append, List.mem_map, Event.pool.injEq, exists_eq_right, reduceCtorEq,
          and_false, exists_false, or_false] at hmem
        exact commit_notMem_resolve pool compiled.resources ops group state hmem
  | ok stats =>
      rcases record_ok compiled request replies pool device ops stats hresult
        with ⟨resolution, finals, hresolved, hfinals, hevents, _⟩
      refine ⟨iff_of_false ?_ ?_, fun error herror => by simp only [reduceCtorEq] at herror, ?_⟩
      · rw [hevents, commandsOf_append, commandsOf_append, hcalls, commandsOf_command]
        exact List.append_ne_nil_of_left_ne_nil (List.cons_ne_nil _ _) _
      · simp only [reduceCtorEq, false_and, exists_false, not_false_eq_true]
      · intro _ _
        refine ⟨resolution, _, _, (recordTrace compiled request pool ops).flatMap Stretch.commands,
          finals, hresolved, rfl, rfl, htyped.nodup, nodup_eraseDups _, mem_neededSurfaces_iff ops,
          ?_, ?_, ?_⟩
        · rw [hevents, calls_resolve pool compiled.resources ops resolution hresolved]
        · rw [hfinals]
          exact finalStates_perm compiled.resources _
            (leaves_known compiled htyped request pool ops resolution hresolved)
        · intro commit hcommit
          rw [hfinals, mem_finalStates_iff] at hcommit
          exact hcommit.2

/-- The image that is drawn and then sampled. -/
def drawnGroup : ResourceGroup := ⟨"color", .colorAttachment, AspectMask.color⟩

/-- Operations of every kind need one image and two surfaces. The image is asked
    for first, and its state is handed back last. -/
theorem record_asks_first_mixed :
    ∃ recording commands state,
      recording = record (Compiled.ofOrder drawnThenSampled)
        ⟨3, oneTimeSubmit, "frame", oneDraw⟩ Replies.good poolOfTwo Device.working mixedOps
      ∧ recording.events
        = [.pool (.ensure drawnGroup), .pool (.resolveTarget (.offscreen 7)),
            .pool (.resolveTarget .swapchain)]
          ++ ([Command.reset, .begin oneTimeSubmit "frame"] ++ commands ++ [Command.finish]).map
            Event.command
          ++ [.pool (.commit drawnGroup state)] := by
  have hcompile : compile drawnThenSampled = .ok (Compiled.ofOrder drawnThenSampled) := by rfl
  have hresult : (record (Compiled.ofOrder drawnThenSampled)
      ⟨3, oneTimeSubmit, "frame", oneDraw⟩ Replies.good poolOfTwo Device.working mixedOps).result
        = .ok ⟨5, 5, 7, true⟩ := by
    decide +kernel
  have hgroups : (Compiled.ofOrder drawnThenSampled).resources.groups = [drawnGroup] := by
    decide +kernel
  have hsurfaces : neededSurfaces mixedOps = [.offscreen 7, .swapchain] := by
    decide +kernel
  rcases ((record_asks_first drawnThenSampled _ hcompile ⟨3, oneTimeSubmit, "frame", oneDraw⟩
    Replies.good Device.working mixedOps).2 poolOfTwo _ rfl).2.2 _ hresult
    with ⟨_, groups, surfaces, commands, commits, _, hasked, hneeded, _, _, _, hevents, hperm, _⟩
  rw [hasked, hneeded, hgroups, hsurfaces] at hevents
  rw [hasked, hgroups, List.perm_singleton] at hperm
  -- One group, so one state.
  rcases List.map_eq_singleton_iff.mp hperm with ⟨⟨group, state⟩, rfl, rfl⟩
  exact ⟨_, commands, state, rfl, hevents⟩

end FrameGraph
