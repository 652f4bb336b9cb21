import FrameGraph.Proofs.Recorded

/-!
# What Comes Due

Which planned barriers a frame deals with, and in which order, depends on
which passes its operations reach and on where the entries are recorded. For
operations in the order of their passes there is a short answer: on any one
resource, what comes due is the plan, in the order of the plan, without the
barriers whose boundary is not reached. `dealt_resource` is this answer.

The plan of one resource is a list in the order of its boundaries, with the
entry first. A frame deals with it boundary by boundary. That picking a
sorted list apart by keys in order only drops what has no key is a fact about
lists, `flatMap_fibres`. The start of the frame counts as the first boundary,
and so the reserved index must not be that of a pass: its barriers would be
recorded too early.

## Main definitions

* `Planning.callsAlong`: The barriers on one resource along some passes.
* `Compiled.turn`: When a boundary comes.
* `Compiled.InOrder`: Operations in the order of their passes.
* `Scene.isDue`: A planned barrier comes due.

## Theorems

* `flatMap_fibres`: Picking a sorted list apart by keys in order.
* `Planning.filter_usePasses`: The plan of one resource.
* `Planning.sorted_callsAlong`: It is sorted, with the entry first.
* `Compiled.InOrder.dealtPasses`: Passes are reached in their order.
* `Compiled.Typed.filter_dealt`: What comes due on one resource, boundary by
  boundary.
* `compile_entryBarriers`: The entries of one resource are its entry.
* `dealt_resource`: What comes due on one resource.
-/

namespace FrameGraph

open Gpu

/-- A list in which no element of a second kind stands before one of the
    first is picked apart in this order. -/
theorem filter_or_of_pairwise {α : Type} (first second : α → Bool) (list : List α)
    (horder : list.Pairwise fun a b => ¬ (second a = true ∧ first b = true))
    (hapart : ∀ a ∈ list, ¬ (first a = true ∧ second a = true)) :
    list.filter (fun a => first a || second a) = list.filter first ++ list.filter second := by
  induction list with
  | nil => rfl
  | cons a rest ih =>
      rw [List.pairwise_cons] at horder
      have hrest := ih horder.2 fun b hb => hapart b (List.mem_cons_of_mem _ hb)
      by_cases hfirst : first a = true
      · have hnot : ¬ second a = true := fun h => hapart a List.mem_cons_self ⟨hfirst, h⟩
        simp only [List.filter_cons, hfirst, hnot, Bool.true_or, if_true, if_false, hrest,
          List.cons_append, Bool.false_eq_true]
      · by_cases hsecond : second a = true
        · -- From here on there is none of the first kind.
          have hnone : rest.filter first = [] := by
            rw [List.filter_eq_nil_iff]
            intro b hb hmore
            exact horder.1 b hb ⟨hsecond, hmore⟩
          simp only [List.filter_cons, hfirst, hsecond, Bool.or_true, if_true, if_false, hrest,
            hnone, List.nil_append, Bool.false_eq_true]
        · rw [Bool.not_eq_true] at hfirst hsecond
          simp only [List.filter_cons, hfirst, hsecond, Bool.or_self, Bool.false_eq_true, if_false,
            hrest]

/-- Picking a sorted list apart by keys in order only drops the elements
    without a key. -/
theorem flatMap_fibres {α κ : Type} [DecidableEq κ] (key : α → κ) (turn : κ → Nat)
    (keys : List κ) (list : List α)
    (hlist : list.Pairwise fun a b => turn (key a) ≤ turn (key b))
    (hkeys : keys.Pairwise fun a b => turn a < turn b) :
    (keys.flatMap fun k => list.filter fun a => key a = k)
      = list.filter fun a => key a ∈ keys := by
  induction keys with
  | nil =>
      symm
      rw [List.flatMap_nil, List.filter_eq_nil_iff]
      intro a _
      simp only [List.not_mem_nil, decide_false, Bool.false_eq_true, not_false_eq_true]
  | cons k rest ih =>
      rw [List.pairwise_cons] at hkeys
      rw [List.flatMap_cons, ih hkeys.2]
      have hsplit := filter_or_of_pairwise (fun a => decide (key a = k))
        (fun a => decide (key a ∈ rest)) list ?_ ?_
      · rw [← hsplit]
        refine List.filter_congr ?_
        intro a _
        rw [← Bool.decide_or]
        exact decide_eq_decide.mpr List.mem_cons.symm
      · -- An element of a later key is not before one of this key.
        refine hlist.imp ?_
        rintro a b hle ⟨hlater, hnow⟩
        rw [decide_eq_true_eq] at hlater hnow
        have hlt := hkeys.1 (key a) hlater
        rw [hnow] at hle
        omega
      · rintro a _ ⟨hnow, hlater⟩
        rw [decide_eq_true_eq] at hlater hnow
        have hlt := hkeys.1 (key a) hlater
        rw [hnow] at hlt
        omega

/-- One element is picked once by distinct keys. -/
theorem flatMap_fibres_singleton {α κ : Type} [DecidableEq κ] (key : α → κ) (keys : List κ)
    (a : α) (hnodup : keys.Nodup) (hmem : key a ∈ keys) :
    (keys.flatMap fun k => [a].filter fun a => key a = k) = [a] := by
  induction keys with
  | nil => exact absurd hmem List.not_mem_nil
  | cons k rest ih =>
      rw [List.nodup_cons] at hnodup
      rw [List.flatMap_cons]
      by_cases hnow : key a = k
      · have hnone : (rest.flatMap fun k => [a].filter fun a => key a = k) = [] := by
          refine List.flatMap_eq_nil_iff.mpr ?_
          intro other hother
          have hne : ¬ key a = other := fun h => hnodup.1 (hnow ▸ h ▸ hother)
          simp only [List.filter_cons, hne, decide_false, Bool.false_eq_true, if_false,
            List.filter_nil]
        rw [hnone]
        simp only [List.filter_cons, hnow, decide_true, if_true, List.filter_nil, List.append_nil]
      · have hlater := (List.mem_cons.mp hmem).resolve_left hnow
        simp only [List.filter_cons, hnow, decide_false, Bool.false_eq_true, if_false,
          List.filter_nil, List.nil_append] at ih ⊢
        exact ih hnodup.2 hlater

/-- Dropping repetitions keeps the order of what is left. -/
theorem eraseDups_sublist {α : Type} [DecidableEq α] (list : List α) :
    list.eraseDups.Sublist list := by
  induction list using List.reverseRecOn with
  | nil => exact List.Sublist.refl _
  | append_singleton list last ih =>
      rw [eraseDups_concat]
      refine ih.append ?_
      split
      · exact List.nil_sublist _
      · exact List.Sublist.refl _

namespace Planning

variable (planning : Planning)

/-- The barriers on one resource along some passes, from what is known of it
    before them. -/
def callsAlong (resource : String) : List Pass → Option Track → List PlannedBarrier
  | [], _ => []
  | pass :: rest, track =>
    match planning.demand? pass resource with
    | none => callsAlong resource rest track
    | some demand =>
      planning.callsFor pass resource demand track
        ++ callsAlong resource rest (some (planning.follow pass demand track))

/-- The plan of one resource. -/
theorem filter_usePasses (passes : List Pass) (tracks : Tracks) (resource : String) :
    (planning.usePasses passes tracks).2.filter (fun planned => planned.resource = resource)
      = planning.callsAlong resource passes (tracks.get? resource) := by
  induction passes generalizing tracks with
  | nil => rfl
  | cons pass rest ih =>
      have hget := planning.get?_usePass pass resource tracks
      simp only [usePasses, callsAlong, List.filter_append, ih, planning.filter_usePass, hget]
      cases planning.demand? pass resource with
      | none => exact List.nil_append _
      | some demand => rfl

/-- Where the barriers of one use stand. -/
theorem mem_callsFor {pass : Pass} {resource : String} {demand : Demand} {track : Option Track}
    {planned : PlannedBarrier} (h : planned ∈ planning.callsFor pass resource demand track) :
    (planned.entry = true ∧ track = none
        ∧ planned.boundary = planning.entryBoundary pass resource)
      ∨ (planned.entry = false ∧ planned.boundary = pass.index) := by
  rcases planning.callsFor_cases h with ⟨hnone, rfl⟩ | ⟨_, _, rfl⟩
  · exact Or.inl ⟨rfl, hnone, rfl⟩
  · exact Or.inr ⟨rfl, rfl⟩

/-- Where the barriers along some passes stand. There is no entry once the
    resource is known. -/
theorem mem_callsAlong {resource : String} {passes : List Pass} {track : Option Track}
    {planned : PlannedBarrier} (h : planned ∈ planning.callsAlong resource passes track) :
    (planned.entry = true ∧ track = none
        ∧ ∃ pass ∈ passes, planned.boundary = planning.entryBoundary pass resource)
      ∨ (planned.entry = false ∧ ∃ pass ∈ passes, planned.boundary = pass.index) := by
  induction passes generalizing track with
  | nil => exact absurd h List.not_mem_nil
  | cons pass rest ih =>
      -- A barrier of a later pass is still one along these.
      have hlater : ∀ known, planned ∈ planning.callsAlong resource rest known →
          (planned.entry = true ∧ known = none
            ∧ ∃ user ∈ pass :: rest, planned.boundary = planning.entryBoundary user resource)
          ∨ (planned.entry = false ∧ ∃ user ∈ pass :: rest, planned.boundary = user.index) := by
        intro known hmem
        rcases ih hmem with ⟨hentry, hknown, user, huser, hboundary⟩
          | ⟨hentry, user, huser, hboundary⟩
        · exact Or.inl ⟨hentry, hknown, user, List.mem_cons_of_mem _ huser, hboundary⟩
        · exact Or.inr ⟨hentry, user, List.mem_cons_of_mem _ huser, hboundary⟩
      simp only [callsAlong] at h
      cases hdemand : planning.demand? pass resource with
      | none =>
          rw [hdemand] at h
          exact hlater track h
      | some demand =>
          rw [hdemand] at h
          rcases List.mem_append.mp h with hhere | hthere
          · rcases planning.mem_callsFor hhere with ⟨hentry, hnone, hboundary⟩
              | ⟨hentry, hboundary⟩
            · exact Or.inl ⟨hentry, hnone, pass, List.mem_cons_self, hboundary⟩
            · exact Or.inr ⟨hentry, pass, List.mem_cons_self, hboundary⟩
          · rcases hlater _ hthere with ⟨_, hnone, _⟩ | hchange
            · exact absurd hnone (Option.some_ne_none _)
            · exact Or.inr hchange

/-- An entry stands at the start of the frame or at the boundary of a pass. -/
theorem entryBoundary_cases (pass : Pass) (resource : String) :
    planning.entryBoundary pass resource = frameStart
      ∨ planning.entryBoundary pass resource = pass.index := by
  unfold entryBoundary
  split
  · exact Or.inl rfl
  · exact Or.inr rfl

/-- No barrier stands after the last of the passes it is planned along. -/
theorem turn_callsAlong_le (turn : PassIndex → Nat) (hstart : turn frameStart = 0)
    {resource : String} {passes : List Pass} {track : Option Track} {bound : Nat}
    (hpasses : ∀ pass ∈ passes, turn pass.index ≤ bound) {planned : PlannedBarrier}
    (h : planned ∈ planning.callsAlong resource passes track) : turn planned.boundary ≤ bound := by
  rcases planning.mem_callsAlong h with ⟨_, _, pass, hpass, hboundary⟩
    | ⟨_, pass, hpass, hboundary⟩
  · rcases planning.entryBoundary_cases pass resource with hcase | hcase
    · rw [hboundary, hcase, hstart]
      exact Nat.zero_le bound
    · rw [hboundary, hcase]
      exact hpasses pass hpass
  · rw [hboundary]
    exact hpasses pass hpass

/-- Along passes that stand in order, the barriers on a resource do, and the
    entry is the first of them. -/
theorem sorted_callsAlong (turn : PassIndex → Nat) (hstart : turn frameStart = 0)
    (resource : String) (passes : List Pass) (track : Option Track)
    (hpasses : passes.Pairwise fun first second => turn first.index < turn second.index) :
    (planning.callsAlong resource passes track).Pairwise fun first second =>
      turn first.boundary ≤ turn second.boundary ∧ second.entry = false
        ∧ (first.entry = false → turn first.boundary < turn second.boundary) := by
  induction passes generalizing track with
  | nil => exact List.Pairwise.nil
  | cons pass rest ih =>
      rw [List.pairwise_cons] at hpasses
      simp only [callsAlong]
      cases hdemand : planning.demand? pass resource with
      | none => exact ih track hpasses.2
      | some demand =>
          refine List.pairwise_append.mpr ⟨?_, ih _ hpasses.2, ?_⟩
          · -- One use calls for one barrier at most.
            cases track with
            | none => exact List.pairwise_singleton _ _
            | some track =>
                simp only [callsFor]
                split
                · exact List.pairwise_singleton _ _
                · exact List.Pairwise.nil
          · intro first hfirst second hsecond
            -- It does not stand after its pass, and so before any later one.
            have hle : turn first.boundary ≤ turn pass.index := by
              rcases planning.mem_callsFor hfirst with ⟨_, _, hboundary⟩ | ⟨_, hboundary⟩
              · rcases planning.entryBoundary_cases pass resource with hcase | hcase
                · rw [hboundary, hcase, hstart]
                  exact Nat.zero_le _
                · rw [hboundary, hcase]
              · rw [hboundary]
            rcases planning.mem_callsAlong hsecond with ⟨_, hnone, _⟩
              | ⟨hentry, user, huser, hboundary⟩
            · exact absurd hnone (Option.some_ne_none _)
            · have hlt := hpasses.1 user huser
              rw [← hboundary] at hlt
              exact ⟨by omega, hentry, fun _ => by omega⟩

end Planning

namespace Compiled

variable (compiled : Compiled)

/-- When a boundary comes: the start of the frame first, and then the passes
    in their order. -/
def turn (boundary : PassIndex) : Nat :=
  if boundary = frameStart then 0 else compiled.rankOrLowest boundary + 1

/-- No pass carries the reserved index. -/
def Unreserved : Prop := ∀ pass ∈ compiled.order, pass.index ≠ frameStart

/-- The operations are of declared passes and stand in the order of these. -/
structure InOrder (ops : List FrameOp) : Prop where
  known : ∀ operation ∈ ops, (compiled.rank? operation.pass).isSome = true
  ascending : ops.Pairwise fun first second =>
    compiled.rankOrLowest first.pass ≤ compiled.rankOrLowest second.pass

theorem turn_frameStart : compiled.turn frameStart = 0 := if_pos rfl

theorem turn_of_ne {boundary : PassIndex} (h : boundary ≠ frameStart) :
    compiled.turn boundary = compiled.rankOrLowest boundary + 1 := if_neg h

/-- Declared passes have ranks of their own. -/
theorem rankOrLowest_injective {first second : PassIndex}
    (hfirst : (compiled.rank? first).isSome = true)
    (hsecond : (compiled.rank? second).isSome = true)
    (h : compiled.rankOrLowest first = compiled.rankOrLowest second) : first = second := by
  rcases Option.isSome_iff_exists.mp hfirst with ⟨i, hi⟩
  rcases Option.isSome_iff_exists.mp hsecond with ⟨j, hj⟩
  unfold rankOrLowest at h
  rw [hi, hj, Option.getD_some, Option.getD_some] at h
  rw [h] at hi
  exact compiled.rank?_injective hi hj

variable {compiled} in
/-- In order, passes are reached in their order. -/
theorem InOrder.dealtPasses {ops : List FrameOp} (h : compiled.InOrder ops) :
    (dealtPasses ops).Pairwise fun first second => compiled.turn first < compiled.turn second := by
  have hsublist : (FrameGraph.dealtPasses ops).Sublist (ops.map FrameOp.pass) :=
    (eraseDups_sublist _).trans List.filter_sublist
  have hpasses : (ops.map FrameOp.pass).Pairwise fun first second =>
      compiled.rankOrLowest first ≤ compiled.rankOrLowest second :=
    List.pairwise_map.mpr h.ascending
  have hle := hpasses.sublist hsublist
  have hnodup : (FrameGraph.dealtPasses ops).Nodup := nodup_eraseDups _
  have hboth := List.Pairwise.and hle hnodup
  refine hboth.imp_of_mem ?_
  rintro first second hfirst hsecond ⟨hrank, hne⟩
  rcases (mem_dealtPasses_iff ops first).mp hfirst with ⟨⟨opening, hopening, rfl⟩, hfirstUsable⟩
  rcases (mem_dealtPasses_iff ops second).mp hsecond with ⟨⟨later, hlater, rfl⟩, hsecondUsable⟩
  rw [compiled.turn_of_ne hfirstUsable, compiled.turn_of_ne hsecondUsable]
  -- Passes that differ do not share a rank.
  have hapart : compiled.rankOrLowest opening.pass ≠ compiled.rankOrLowest later.pass := by
    intro hsame
    exact hne (compiled.rankOrLowest_injective (h.known _ hopening) (h.known _ hlater) hsame)
  omega

variable {compiled} in
/-- Operations at the front of some in order are in order. -/
theorem InOrder.front {front back : List FrameOp} (h : compiled.InOrder (front ++ back)) :
    compiled.InOrder front where
  known := fun operation hmem => h.known operation (List.mem_append_left _ hmem)
  ascending := (List.pairwise_append.mp h.ascending).1

variable {compiled} in
/-- In order, none of some operations is ranked after the last of them. -/
theorem InOrder.rank_le_last {front : List FrameOp} {operation : FrameOp}
    (h : compiled.InOrder (front ++ [operation])) :
    ∀ other ∈ front ++ [operation],
      compiled.rankOrLowest other.pass ≤ compiled.rankOrLowest operation.pass := by
  intro other hother
  rcases List.mem_append.mp hother with hearlier | hlast
  · exact (List.pairwise_append.mp h.ascending).2.2 other hearlier operation
      (List.mem_singleton_self operation)
  · rw [List.mem_singleton.mp hlast]

end Compiled

/-- The order of a compilation is that of the turns of its passes. -/
theorem compile_turn_lt (passes : List Pass) (compiled : Compiled)
    (h : compile passes = .ok compiled) (hunreserved : compiled.Unreserved) :
    compiled.order.Pairwise fun first second =>
      compiled.turn first.index < compiled.turn second.index := by
  have hnodup := compile_order_nodup passes compiled h
  rw [List.pairwise_iff_getElem]
  intro i j hi hj hlt
  rw [compiled.turn_of_ne (hunreserved _ (List.getElem_mem hi)),
    compiled.turn_of_ne (hunreserved _ (List.getElem_mem hj))]
  unfold Compiled.rankOrLowest
  rw [compiled.rank?_getElem hnodup i hi, compiled.rank?_getElem hnodup j hj, Option.getD_some,
    Option.getD_some]
  omega

/-- The barriers that a compilation plans on a resource stand in the order of
    their turns, and an entry is the first of them. -/
theorem compile_sorted (passes : List Pass) (compiled : Compiled)
    (h : compile passes = .ok compiled) (hunreserved : compiled.Unreserved) (resource : String) :
    (compiled.plan.barriers.filter fun planned => planned.resource = resource).Pairwise
      fun first second => compiled.turn first.boundary ≤ compiled.turn second.boundary
        ∧ second.entry = false
        ∧ (first.entry = false
          → compiled.turn first.boundary < compiled.turn second.boundary) := by
  rw [compile_plan passes compiled h, compiled.planning.filter_usePasses]
  exact compiled.planning.sorted_callsAlong compiled.turn compiled.turn_frameStart resource _ _
    (compile_turn_lt passes compiled h hunreserved)

/-- A planned barrier stands at the start of the frame, if it is an entry, or
    at the boundary of a pass. -/
theorem compile_boundary (passes : List Pass) (compiled : Compiled)
    (h : compile passes = .ok compiled) (planned : PlannedBarrier)
    (hplanned : planned ∈ compiled.plan.barriers) :
    (planned.entry = true ∧ planned.boundary = frameStart)
      ∨ ∃ pass ∈ compiled.order, planned.boundary = pass.index := by
  have hmem : planned ∈ compiled.plan.barriers.filter
      fun other => other.resource = planned.resource :=
    List.mem_filter.mpr ⟨hplanned, decide_eq_true rfl⟩
  rw [compile_plan passes compiled h, compiled.planning.filter_usePasses] at hmem
  rcases compiled.planning.mem_callsAlong hmem with ⟨hentry, _, pass, hpass, hboundary⟩
    | ⟨_, pass, hpass, hboundary⟩
  · rcases compiled.planning.entryBoundary_cases pass planned.resource with hcase | hcase
    · exact Or.inl ⟨hentry, hboundary.trans hcase⟩
    · exact Or.inr ⟨pass, hpass, hboundary.trans hcase⟩
  · exact Or.inr ⟨pass, hpass, hboundary⟩

namespace Scene

variable (scene : Scene)

/-- A planned barrier comes due in a frame: at the start, if that is where it
    stands or if it is an entry and entries are recorded there, or with a
    pass that is reached. -/
def isDue (ops : List FrameOp) (planned : PlannedBarrier) : Bool :=
  (scene.hoists && planned.entry) || decide (planned.boundary ∈ frameStart :: dealtPasses ops)

end Scene

theorem filter_reverse {α : Type} (first second third : α → Bool) (list : List α) :
    ((list.filter first).filter second).filter third
      = ((list.filter third).filter second).filter first := by
  rw [List.filter_comm third second, List.filter_comm third first, List.filter_comm second first]

/-- A test that comes out alike on all of a list does not reorder it. -/
theorem filter_append_filter_not {α : Type} (test : α → Bool) (list : List α)
    (h : ∀ a ∈ list, ∀ b ∈ list, test a = test b) :
    list.filter test ++ list.filter (fun a => !test a) = list := by
  cases list with
  | nil => rfl
  | cons first rest =>
      cases htest : test first with
      | true =>
          have hall : ∀ a ∈ first :: rest, test a = true :=
            fun a ha => (h a ha first List.mem_cons_self).trans htest
          have hnone : (first :: rest).filter (fun a => !test a) = [] := by
            rw [List.filter_eq_nil_iff]
            intro a ha
            rw [hall a ha]
            exact Bool.false_ne_true
          rw [List.filter_eq_self.mpr hall, hnone, List.append_nil]
      | false =>
          have hall : ∀ a ∈ first :: rest, test a = false :=
            fun a ha => (h a ha first List.mem_cons_self).trans htest
          have hnone : (first :: rest).filter test = [] := by
            rw [List.filter_eq_nil_iff]
            intro a ha
            rw [hall a ha]
            exact Bool.false_ne_true
          have hsome : (first :: rest).filter (fun a => !test a) = first :: rest := by
            rw [List.filter_eq_self]
            intro a ha
            rw [hall a ha]
            rfl
          rw [hnone, hsome, List.nil_append]

namespace Compiled.Typed

variable {compiled : Compiled} (h : compiled.Typed)
include h

/-- All barriers of a compilation on one resource are of one kind. -/
theorem isImage_eq {first second : PlannedBarrier} (hfirst : first ∈ compiled.plan.barriers)
    (hsecond : second ∈ compiled.plan.barriers) (hname : first.resource = second.resource) :
    first.isImage = second.isImage := by
  rcases h.registered first hfirst with ⟨group, hgroup, hgroupName, hkind⟩
  rcases h.registered second hsecond with ⟨other, hother, hotherName, hotherKind⟩
  have hsame := h.eq_of_name hgroup hother (hgroupName.trans (hname.trans hotherName.symm))
  rw [← hkind, ← hotherKind, hsame]

/-- So sorting images before buffers does not touch those on one resource. -/
theorem filter_imagesFirst (resource : String) (barriers : List PlannedBarrier)
    (hplanned : ∀ planned ∈ barriers, planned ∈ compiled.plan.barriers) :
    (PlannedBarrier.imagesFirst barriers).filter (fun planned => planned.resource = resource)
      = barriers.filter fun planned => planned.resource = resource := by
  have hkind : ∀ kind : PlannedBarrier → Bool, (barriers.filter kind).filter
      (fun planned => planned.resource = resource)
      = (barriers.filter fun planned => planned.resource = resource).filter kind :=
    fun kind => List.filter_comm _ kind barriers
  unfold PlannedBarrier.imagesFirst
  rw [List.filter_append, hkind, hkind]
  refine filter_append_filter_not _ _ ?_
  intro first hfirst second hsecond
  rw [List.mem_filter, decide_eq_true_eq] at hfirst hsecond
  exact h.isImage_eq (hplanned first hfirst.1) (hplanned second hsecond.1)
    (hfirst.2.trans hsecond.2.symm)

/-- What comes due on one resource, boundary by boundary. -/
theorem filter_dealt (scene : Scene) (hplan : scene.plan = compiled.plan) (ops : List FrameOp)
    (resource : String) :
    (scene.dealt ops).filter (fun planned => planned.resource = resource)
      = scene.startBarriers.filter (fun planned => planned.resource = resource)
        ++ (dealtPasses ops).flatMap fun pass =>
          (scene.boundaryBarriers pass).filter fun planned => planned.resource = resource := by
  have hstart := h.filter_imagesFirst resource scene.startBarriers
    (fun planned hmem => hplan ▸ scene.mem_plan_of_mem_start hmem)
  have hboundary : ∀ pass, (PlannedBarrier.imagesFirst (scene.boundaryBarriers pass)).filter
      (fun planned => planned.resource = resource)
      = (scene.boundaryBarriers pass).filter fun planned => planned.resource = resource :=
    fun pass => h.filter_imagesFirst resource _
      (fun planned hmem => hplan ▸ scene.mem_plan_of_mem_boundary hmem)
  unfold Scene.dealt
  rw [List.filter_append, List.filter_flatMap, hstart]
  simp only [hboundary]

end Compiled.Typed

namespace Scene

variable {scene : Scene}

/-- Entries are recorded at the start of the frame if nothing is planned
    there. -/
theorem boundary_ne_of_hoists (h : scene.hoists = true) {planned : PlannedBarrier}
    (hplanned : planned ∈ scene.plan.barriers) : planned.boundary ≠ frameStart := by
  intro hsame
  have hmem : planned ∈ scene.plan.barriersAt frameStart :=
    List.mem_filter.mpr ⟨hplanned, decide_eq_true hsame⟩
  unfold hoists SyncPlan.swapchainBarriers? SyncPlan.barriersAt? at h
  cases hat : scene.plan.barriersAt frameStart with
  | nil =>
      rw [hat] at hmem
      exact List.not_mem_nil hmem
  | cons first rest =>
      rw [hat] at h
      exact Bool.false_ne_true h

theorem startBarriers_of_hoists (h : scene.hoists = true) :
    scene.startBarriers = scene.plan.entryBarriers := by
  unfold hoists at h
  unfold startBarriers
  rw [Option.isNone_iff_eq_none.mp h, Option.getD_none]

theorem startBarriers_of_not_hoists (h : scene.hoists = false) :
    scene.startBarriers = scene.plan.barriersAt frameStart := by
  unfold hoists at h
  unfold startBarriers
  cases hbarriers : scene.plan.swapchainBarriers? with
  | none =>
      rw [hbarriers] at h
      exact absurd h (Ne.symm Bool.false_ne_true)
  | some barriers =>
      unfold SyncPlan.swapchainBarriers? SyncPlan.barriersAt? at hbarriers
      split at hbarriers
      · exact absurd hbarriers.symm (Option.some_ne_none barriers)
      · exact (Option.some.inj hbarriers).symm

end Scene

/-- The entries of one resource, boundary by boundary, are its entry. There is
    one at most, and its boundary is one of the plan. -/
theorem compile_entryBarriers (passes : List Pass) (compiled : Compiled)
    (h : compile passes = .ok compiled) (hunreserved : compiled.Unreserved) (resource : String) :
    compiled.plan.entryBarriers.filter (fun planned => planned.resource = resource)
      = (compiled.plan.barriers.filter fun planned => planned.resource = resource).filter
        (·.entry) := by
  -- The entries at a boundary, picked from those on the resource.
  have hpick : ∀ boundary, (PlannedBarrier.entries (compiled.plan.barriersAt boundary)).filter
      (fun planned => planned.resource = resource)
      = ((compiled.plan.barriers.filter fun planned => planned.resource = resource).filter
          (·.entry)).filter fun planned => planned.boundary = boundary := by
    intro boundary
    exact filter_reverse _ _ _ _
  have hsorted := (compile_sorted passes compiled h hunreserved resource).filter (·.entry)
  have hmember : ∀ planned ∈ (compiled.plan.barriers.filter
      fun planned => planned.resource = resource).filter (·.entry),
      planned ∈ compiled.plan.barriers ∧ planned.entry = true := by
    intro planned hplanned
    rw [List.mem_filter, List.mem_filter] at hplanned
    exact ⟨hplanned.1.1, hplanned.2⟩
  unfold SyncPlan.entryBarriers
  rw [List.filter_flatMap]
  simp only [hpick]
  generalize (compiled.plan.barriers.filter fun planned => planned.resource = resource).filter
    (·.entry) = entries at hsorted hmember ⊢
  cases entries with
  | nil => exact List.flatMap_eq_nil_iff.mpr fun _ _ => rfl
  | cons entry rest =>
      rw [List.pairwise_cons] at hsorted
      have hrest : rest = [] := by
        rw [List.eq_nil_iff_forall_not_mem]
        intro planned hplanned
        have hentry := (hmember planned (List.mem_cons_of_mem _ hplanned)).2
        rw [(hsorted.1 planned hplanned).2.1] at hentry
        exact Bool.false_ne_true hentry
      rw [hrest]
      refine flatMap_fibres_singleton PlannedBarrier.boundary _ entry (nodup_eraseDups _) ?_
      unfold SyncPlan.boundaries
      rw [List.mem_eraseDups]
      exact List.mem_map_of_mem (hmember entry List.mem_cons_self).1

/-- What comes due on one resource where entries are recorded at the start:
    the entry, and then what is not an entry, pass by pass. -/
theorem dealt_resource_of_hoists (passes : List Pass) (compiled : Compiled)
    (h : compile passes = .ok compiled) (hunreserved : compiled.Unreserved) (scene : Scene)
    (hplan : scene.plan = compiled.plan) (hhoists : scene.hoists = true) (ops : List FrameOp)
    (hinOrder : compiled.InOrder ops) (resource : String) :
    (scene.dealt ops).filter (fun planned => planned.resource = resource)
      = (compiled.plan.barriers.filter fun planned => planned.resource = resource).filter
        (scene.isDue ops) := by
  have hsorted := compile_sorted passes compiled h hunreserved resource
  have hboundary : ∀ pass, (scene.boundaryBarriers pass).filter
      (fun planned => planned.resource = resource)
      = ((compiled.plan.barriers.filter fun planned => planned.resource = resource).filter
          (!·.entry)).filter fun planned => planned.boundary = pass := by
    intro pass
    unfold Scene.boundaryBarriers
    rw [if_pos hhoists, hplan]
    exact filter_reverse _ _ _ _
  have hchanges := flatMap_fibres PlannedBarrier.boundary compiled.turn (dealtPasses ops)
    ((compiled.plan.barriers.filter fun planned => planned.resource = resource).filter (!·.entry))
    ((hsorted.filter _).imp fun hboth => hboth.1) hinOrder.dealtPasses
  rw [(compile_typed passes compiled h).filter_dealt scene hplan, Scene.startBarriers_of_hoists
    hhoists, hplan, compile_entryBarriers passes compiled h hunreserved]
  simp only [hboundary, hchanges]
  have hboundaries : ∀ planned ∈ compiled.plan.barriers.filter
      fun planned => planned.resource = resource, planned.boundary ≠ frameStart := by
    intro planned hplanned
    refine Scene.boundary_ne_of_hoists hhoists ?_
    rw [hplan]
    exact (List.mem_filter.mp hplanned).1
  generalize compiled.plan.barriers.filter (fun planned => planned.resource = resource) = list
    at hsorted hboundaries ⊢
  -- The entry stands before the others, so the two parts make one list.
  rw [List.filter_filter, ← filter_or_of_pairwise]
  · refine List.filter_congr ?_
    intro planned hplanned
    have hne := hboundaries planned hplanned
    unfold Scene.isDue
    simp only [hhoists, Bool.true_and, List.mem_cons, hne, false_or]
    cases planned.entry with
    | true => rfl
    | false => simp only [Bool.false_or, Bool.not_false, Bool.and_true]
  · refine hsorted.imp ?_
    rintro first second ⟨_, hentry, _⟩ ⟨_, hmore⟩
    rw [hentry] at hmore
    exact Bool.false_ne_true hmore
  · rintro planned _ ⟨hentry, hchange⟩
    rw [Bool.and_eq_true, Bool.not_eq_true', hentry] at hchange
    exact Bool.false_ne_true hchange.2.symm

/-- What comes due on one resource where the start of the frame has barriers
    of its own: the barriers of one boundary after another. -/
theorem dealt_resource_of_not_hoists (passes : List Pass) (compiled : Compiled)
    (h : compile passes = .ok compiled) (hunreserved : compiled.Unreserved) (scene : Scene)
    (hplan : scene.plan = compiled.plan) (hhoists : scene.hoists = false) (ops : List FrameOp)
    (hinOrder : compiled.InOrder ops) (resource : String) :
    (scene.dealt ops).filter (fun planned => planned.resource = resource)
      = (compiled.plan.barriers.filter fun planned => planned.resource = resource).filter
        (scene.isDue ops) := by
  have hsorted := compile_sorted passes compiled h hunreserved resource
  have hat : ∀ boundary, (compiled.plan.barriersAt boundary).filter
      (fun planned => planned.resource = resource)
      = (compiled.plan.barriers.filter fun planned => planned.resource = resource).filter
        fun planned => planned.boundary = boundary :=
    fun boundary => List.filter_comm _ _ _
  have hboundary : ∀ pass, scene.boundaryBarriers pass = compiled.plan.barriersAt pass := by
    intro pass
    unfold Scene.boundaryBarriers
    rw [hhoists, hplan]
    exact if_neg Bool.false_ne_true
  -- The start of the frame is a boundary like the others, and the first.
  have hkeys : (frameStart :: dealtPasses ops).Pairwise fun first second =>
      compiled.turn first < compiled.turn second := by
    refine List.pairwise_cons.mpr ⟨?_, hinOrder.dealtPasses⟩
    intro pass hpass
    have hne := ((mem_dealtPasses_iff ops pass).mp hpass).2
    rw [compiled.turn_frameStart, compiled.turn_of_ne hne]
    omega
  have hfibres := flatMap_fibres PlannedBarrier.boundary compiled.turn
    (frameStart :: dealtPasses ops)
    (compiled.plan.barriers.filter fun planned => planned.resource = resource)
    (hsorted.imp fun hboth => hboth.1) hkeys
  rw [(compile_typed passes compiled h).filter_dealt scene hplan, Scene.startBarriers_of_not_hoists
    hhoists, hplan]
  simp only [hboundary, hat]
  rw [List.flatMap_cons] at hfibres
  rw [hfibres]
  refine List.filter_congr ?_
  intro planned _
  unfold Scene.isDue
  rw [hhoists, Bool.false_and, Bool.false_or]

/-- What comes due on one resource, for operations in the order of their
    passes: the plan, in its order, without what is not due. -/
theorem dealt_resource (passes : List Pass) (compiled : Compiled)
    (h : compile passes = .ok compiled) (hunreserved : compiled.Unreserved) (scene : Scene)
    (hplan : scene.plan = compiled.plan) (ops : List FrameOp) (hinOrder : compiled.InOrder ops)
    (resource : String) :
    (scene.dealt ops).filter (fun planned => planned.resource = resource)
      = (compiled.plan.barriers.filter fun planned => planned.resource = resource).filter
        (scene.isDue ops) := by
  cases hhoists : scene.hoists with
  | true =>
      exact dealt_resource_of_hoists passes compiled h hunreserved scene hplan hhoists ops hinOrder
        resource
  | false =>
      exact dealt_resource_of_not_hoists passes compiled h hunreserved scene hplan hhoists ops
        hinOrder resource

end FrameGraph
