import FrameGraph.Proofs.Entries

/-!
# Planning With Kinds Apart

A buffer is planned here like an image that never changes its layout, and one
record serves both. Where the two are kept apart, what is known of a resource
and what a pass asks of it each say which kind they are of, and a use that
meets a state of the other kind has to be passed over and reported.

`Planning.planApart` plans in this way, registering resources as it goes. That a
state of one kind meets a demand of the other never happens: both kinds are read
off the registry, and the kind of a name is settled by its first use. So the
report is never made, and the plan is the same (`compile_planApart`). A use of
the other kind is not what the report is about. It is read as one of the kind
that the name has.

## Main definitions

* `KnownAs`: What is known of a resource, and of which kind.
* `mixedUse`: The report that a use is passed over.
* `Planning.useApart`, `Planning.planApart`: Planning with kinds apart.
* `Planning.Alike`: What is known is of the kind that the resource has.
* `Planning.Settled`: What a pass asks, and of which kinds, is settled.

## Theorems

* `Registry.kind?_of_mem`: A registered name has a kind.
* `Planning.useApart_eq`: One use is planned as without the kinds.
* `Planning.usesApart_eq`: So are the uses of one pass.
* `compile_settled`: When the turn of a pass comes, what it asks is settled.
* `compile_planApart`: The plan is the same, and nothing is reported.
-/

namespace FrameGraph

open Gpu

/-- What is known of a resource after some passes, and of which kind. -/
structure KnownAs where
  isImage : Bool
  track : Track
  deriving DecidableEq, Repr

/-- The report that a pass uses a resource as what it is not, and gets no
    barrier. -/
def mixedUse (pass resource : String) : LogEntry :=
  LogEntry.warn ("resource \"" ++ resource ++ "\" is used both as image and buffer, pass "
    ++ pass ++ " skips its barrier")

/-- What a step of the planner with kinds apart leads to. -/
structure Apart where
  known : Table String KnownAs
  barriers : List PlannedBarrier
  reports : List LogEntry
  deriving DecidableEq, Repr

namespace Apart

/-- Nothing more is planned or reported. -/
def still (known : Table String KnownAs) : Apart := ⟨known, [], []⟩

/-- One step and the ones after it. -/
def andThen (here : Apart) (later : Table String KnownAs → Apart) : Apart where
  known := (later here.known).known
  barriers := here.barriers ++ (later here.known).barriers
  reports := here.reports ++ (later here.known).reports

end Apart

namespace Planning

variable (planning : Planning)

/-- Plan for one resource of one pass, which asks `demand` of it as of one kind. -/
def useApart (pass : Pass) (resource : String) (isImage : Bool) (demand : Demand)
    (known : Table String KnownAs) : Apart :=
  let batch := planning.batchOf pass.index
  let barrier (boundary : PassIndex) (previous : ResourceState) (entry : Bool) :=
    PlannedBarrier.mk boundary resource isImage previous demand.state (planning.aspect resource)
      entry
  match known.get? resource with
  | none =>
    let boundary := if isImage && resource = swapchainName then frameStart else pass.index
    ⟨known.put resource ⟨isImage, Track.first demand batch⟩,
      [barrier boundary ImageState.undefined true], []⟩
  | some before =>
    if before.isImage = isImage then
      ⟨known.put resource ⟨isImage, before.track.after demand batch⟩,
        if before.track.needsBarrier demand batch then [barrier pass.index before.track.state false]
        else [], []⟩
    else
      -- The render pass is noted before the kinds are looked at.
      ⟨known.put resource ⟨before.isImage, before.track.state, demand.renderPass batch⟩, [],
        [mixedUse pass.name resource]⟩

/-- Plan for some resources of one pass, which asks `asked` of them, with what
    is registered then. -/
def usesApart (pass : Pass) (registry : Registry) (asked : Table String Demand) :
    List String → Table String KnownAs → Apart
  | [], known => Apart.still known
  | resource :: rest, known =>
    match asked.get? resource with
    | none => usesApart pass registry asked rest known
    | some demand =>
      (planning.useApart pass resource ((registry.kind? resource).getD false) demand known).andThen
        (usesApart pass registry asked rest)

/-- Plan for passes in the order they run, registering the resources of each
    when its turn comes. -/
def planApart : Registry → List Pass → Table String KnownAs → Apart
  | _, [], known => Apart.still known
  | registry, pass :: rest, known =>
    let (registry, asked) := pass.collect registry
    (planning.usesApart pass registry asked pass.resources known).andThen
      (planApart registry rest)

/-- What is known is the same, and of the kind that each resource has. -/
def Alike (known : Table String KnownAs) (tracks : Tracks) : Prop :=
  ∀ resource, known.get? resource
    = (tracks.get? resource).map fun track => ⟨planning.isImage resource, track⟩

/-- What a pass asks, and of which kinds, is settled once it is collected. -/
structure Settled (registry : Registry) (pass : Pass) : Prop where
  asked : ∀ resource,
    (pass.collect registry).2.get? resource = planning.demand? pass resource
  kinds : ∀ resource ∈ pass.resources,
    ((pass.collect registry).1.kind? resource).getD false = planning.isImage resource

variable {planning}

theorem Alike.put {known : Table String KnownAs} {tracks : Tracks} (h : planning.Alike known tracks)
    (resource : String) (track : Track) :
    planning.Alike (known.put resource ⟨planning.isImage resource, track⟩)
      (tracks.put resource track) := by
  intro other
  rw [Table.get?_put, Table.get?_put]
  split
  · next hsame => rw [hsame, Option.map_some]
  · exact h other

/-- One use is planned as without the kinds. -/
theorem useApart_eq {known : Table String KnownAs} {tracks : Tracks}
    (h : planning.Alike known tracks) (pass : Pass) (resource : String) (demand : Demand) :
    ∃ after, planning.useApart pass resource (planning.isImage resource) demand known
        = ⟨after, (planning.useResource pass resource demand tracks).2, []⟩
      ∧ planning.Alike after (planning.useResource pass resource demand tracks).1 := by
  have hknown := h resource
  unfold useApart useResource
  cases htrack : tracks.get? resource with
  | none =>
      rw [htrack, Option.map_none] at hknown
      rw [hknown]
      exact ⟨_, rfl, h.put resource _⟩
  | some track =>
      rw [htrack, Option.map_some] at hknown
      rw [hknown]
      simp only [if_true]
      exact ⟨_, rfl, h.put resource _⟩

/-- The uses of one pass are planned as without the kinds, if what is registered
    then says of each resource what it is. -/
theorem usesApart_eq {known : Table String KnownAs} {tracks : Tracks}
    (h : planning.Alike known tracks) (pass : Pass) {registry : Registry}
    {asked : Table String Demand} {names : List String}
    (hasked : ∀ resource, asked.get? resource = planning.demand? pass resource)
    (hkinds : ∀ resource ∈ names,
      (registry.kind? resource).getD false = planning.isImage resource) :
    ∃ after, planning.usesApart pass registry asked names known
        = ⟨after, (planning.useResources pass names tracks).2, []⟩
      ∧ planning.Alike after (planning.useResources pass names tracks).1 := by
  induction names generalizing known tracks with
  | nil => exact ⟨known, rfl, h⟩
  | cons resource rest ih =>
      rw [List.forall_mem_cons] at hkinds
      cases hdemand : planning.demand? pass resource with
      | none =>
          rw [planning.useResources_cons_none pass resource rest tracks hdemand, usesApart,
            hasked, hdemand]
          exact ih h hkinds.2
      | some demand =>
          rcases useApart_eq h pass resource demand with ⟨after, hhere, halike⟩
          rcases ih halike hkinds.2 with ⟨last, hlater, hlast⟩
          rw [usesApart, hasked, hdemand, hkinds.1]
          simp only
          rw [hhere]
          -- The step is in the form in which the walk over a pass takes it.
          rw [planning.useResource_eq] at hlater hlast ⊢
          rw [planning.useResources_cons pass resource rest tracks demand hdemand]
          refine ⟨last, ?_, hlast⟩
          unfold Apart.andThen
          rw [hlater]
          rfl

/-- Passes are planned as without the kinds, if what each of them asks is settled
    when its turn comes. -/
theorem planApart_eq (before passes : List Pass) {known : Table String KnownAs} {tracks : Tracks}
    (h : planning.Alike known tracks)
    (hsettled : ∀ front pass back, passes = front ++ pass :: back →
      planning.Settled (Pass.registered (before ++ front)) pass) :
    ∃ after, planning.planApart (Pass.registered before) passes known
      = ⟨after, (planning.usePasses passes tracks).2, []⟩ := by
  induction passes generalizing before known tracks with
  | nil => exact ⟨known, rfl⟩
  | cons pass rest ih =>
      have hpass := hsettled [] pass rest rfl
      rw [List.append_nil] at hpass
      rcases usesApart_eq h pass hpass.asked hpass.kinds with ⟨after, hhere, halike⟩
      -- Collecting a pass registers it, and the next one starts from there.
      have hregistered : (pass.collect (Pass.registered before)).1
          = Pass.registered (before ++ [pass]) := by
        unfold Pass.registered
        rw [List.foldl_append]
        rfl
      have hrest : ∀ front user back, rest = front ++ user :: back →
          planning.Settled (Pass.registered ((before ++ [pass]) ++ front)) user := by
        intro front user back hsplit
        rw [List.append_assoc]
        exact hsettled (pass :: front) user back (by rw [hsplit]; rfl)
      rcases ih (before ++ [pass]) halike hrest with ⟨last, hlater⟩
      refine ⟨last, ?_⟩
      rw [planApart, usePasses]
      simp only
      rw [hhere, hregistered]
      unfold Apart.andThen
      rw [hlater]
      rfl

end Planning

/-- A registered name has a kind. -/
theorem Registry.kind?_of_mem (registry : Registry) {name : String}
    (h : name ∈ registry.groups.map ResourceGroup.name) :
    ∃ kind, registry.kind? name = some kind := by
  rcases registry.group?_of_mem name h with ⟨group, _, hfind, _⟩
  exact ⟨group.isImage, by rw [kind?, hfind, Option.map_some]⟩

/-- When the turn of a pass comes, what it asks is settled: no later use changes
    the kind of a name. -/
theorem compile_settled (passes : List Pass) (compiled : Compiled)
    (h : compile passes = .ok compiled) {before : List Pass} {pass : Pass} {after : List Pass}
    (horder : compiled.order = before ++ pass :: after) :
    compiled.planning.Settled (Pass.registered before) pass := by
  refine ⟨compile_collect passes compiled h horder, ?_⟩
  intro resource hused
  rw [Pass.collect, Pass.collectUses_registered]
  have hmem : resource
      ∈ ((Pass.registered before).insertAll pass.usages).groups.map ResourceGroup.name := by
    rw [Registry.mem_names_insertAll]
    rw [Pass.resources, List.mem_eraseDups] at hused
    exact Or.inr hused
  rcases Registry.kind?_of_mem _ hmem with ⟨kind, hkind⟩
  -- The uses of later passes add names and change the kind of none.
  have hlast := Registry.kind?_insertAll _ (after.flatMap Pass.usages) hkind
  rw [← compile_registered passes compiled h horder] at hlast
  rw [hkind]
  exact (congrArg (Option.getD · false) hlast).symm

/-- The planner that keeps the kinds apart plans what is planned without them,
    and it has nothing to report. -/
theorem compile_planApart (passes : List Pass) (compiled : Compiled)
    (h : compile passes = .ok compiled) :
    ∃ known, compiled.planning.planApart Registry.empty compiled.order []
      = ⟨known, compiled.plan.barriers, []⟩ := by
  rw [compile_plan passes compiled h]
  refine Planning.planApart_eq [] compiled.order (fun _ => rfl) ?_
  intro front pass back hsplit
  exact compile_settled passes compiled h hsplit

end FrameGraph
