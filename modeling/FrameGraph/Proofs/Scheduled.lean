import FrameGraph.Frame.Schedule
import FrameGraph.Proofs.CompiledOrder

/-!
# Scheduled Operations

Producers append their operations without knowing of one another. What holds
of the operations once they are scheduled is that dependencies between passes
are respected wherever they can matter, that is, among operations of one
identity: whoever writes comes before whoever depends on it, directly or over
other passes and resources.

Two keys decide the order, and only the second knows about passes. The first
is where an identity first occurs, so operations of one identity agree in it,
and the rank of their passes decides. Ranks respect paths of dependencies
because the order of a compilation does.

The identity that counts is the one an operation is scheduled under. Those
that draw to the presented image are all moved into one context, so for them
it does not matter under which identities they came.

## Main definitions

* `FrameOp.task`: An operation without the identity it came under, if it draws
  to the presented image.
* `FrameOp.SharedAs`: What sharing a context makes of an operation.

## Theorems

* `mayPrecede_iff`: The two keys of the sort.
* `pairwise_sortOps`, `perm_sortOps`: What sorting does.
* `sortOps_eq`: Operations arranged by distinct keys are the sorted ones.
* `mayPrecede_of_le`: No sorted operation has to come before an earlier one.
* `rank_le_of_precedes`: In one identity, earlier means no higher rank.
* `forall₂_shareSwapchain`: Sharing a context, operation by operation.
* `context_shareSwapchain`: One context for the presented image.
* `task_schedule`: No operation is lost, and none is changed otherwise.
* `schedule_respects`: Dependencies are respected within an identity, and on
  the presented image.
-/

namespace FrameGraph

namespace FrameOp

/-- What an operation does, for which pass and where, and the identity it came
    under, unless it draws to the presented image. -/
def task (op : FrameOp) : PassIndex × Work × Surface × Option UInt64 :=
  (op.pass, op.work, op.context.target,
    if op.targetsSwapchain then none else some op.context.identity)

/-- What sharing a context makes of an operation: what draws to the presented
    image gets the context of the first operation that does, and nothing else
    about any operation changes. -/
structure SharedAs (ops : List FrameOp) (op shared : FrameOp) : Prop where
  pass : shared.pass = op.pass
  work : shared.work = op.work
  moved : op.targetsSwapchain = true →
    (ops.find? targetsSwapchain).map context = some shared.context
  kept : op.targetsSwapchain = false → shared.context = op.context

end FrameOp

section Sorting

variable (compiled : Compiled) (ops : List FrameOp)

theorem mayPrecede_iff (first second : FrameOp) :
    mayPrecede compiled ops first second = true
      ↔ identityPosition ops first < identityPosition ops second
        ∨ identityPosition ops first = identityPosition ops second
          ∧ compiled.rankOrLowest first.pass ≤ compiled.rankOrLowest second.pass := by
  unfold mayPrecede
  simp only [Bool.or_eq_true, Bool.and_eq_true, decide_eq_true_eq]

theorem mayPrecede_trans (first second third : FrameOp)
    (h1 : mayPrecede compiled ops first second = true)
    (h2 : mayPrecede compiled ops second third = true) :
    mayPrecede compiled ops first third = true := by
  rw [mayPrecede_iff] at h1 h2 ⊢
  omega

theorem mayPrecede_total (first second : FrameOp) :
    (mayPrecede compiled ops first second || mayPrecede compiled ops second first) = true := by
  rw [Bool.or_eq_true, mayPrecede_iff, mayPrecede_iff]
  omega

/-- Of two sorted operations, the second did not have to come first. -/
theorem pairwise_sortOps :
    (sortOps compiled ops).Pairwise fun first second =>
      mayPrecede compiled ops first second = true :=
  List.pairwise_mergeSort (mayPrecede_trans compiled ops) (mayPrecede_total compiled ops) ops

/-- Sorting neither loses nor invents operations. -/
theorem perm_sortOps : (sortOps compiled ops).Perm ops := List.mergeSort_perm ops _

/-- If no two operations agree in both keys, they can be arranged in one way
    only so that none has to come earlier, and that is the sorted one. -/
theorem sortOps_eq {sorted : List FrameOp} (hperm : sorted.Perm ops)
    (hpairwise : sorted.Pairwise fun first second => mayPrecede compiled ops first second = true)
    (hdistinct : ∀ first ∈ sorted, ∀ second ∈ sorted,
      mayPrecede compiled ops first second = true → mayPrecede compiled ops second first = true →
        first = second) :
    sortOps compiled ops = sorted := by
  have hsame : (sortOps compiled ops).Perm sorted := (perm_sortOps compiled ops).trans hperm.symm
  refine hsame.eq_of_pairwise ?_ (pairwise_sortOps compiled ops) hpairwise
  intro first second hfirst hsecond
  exact hdistinct first (hsame.mem_iff.mp hfirst) second hsecond

theorem identityPosition_congr {first second : FrameOp}
    (h : first.context.identity = second.context.identity) :
    identityPosition ops first = identityPosition ops second := by
  unfold identityPosition
  rw [h]

/-- No sorted operation has to come before an earlier one. -/
theorem mayPrecede_of_le {i j : Nat} (hij : i ≤ j) {first second : FrameOp}
    (hfirst : (sortOps compiled ops)[i]? = some first)
    (hsecond : (sortOps compiled ops)[j]? = some second) :
    mayPrecede compiled ops first second = true := by
  rcases List.getElem?_eq_some_iff.mp hfirst with ⟨hi, rfl⟩
  rcases List.getElem?_eq_some_iff.mp hsecond with ⟨hj, rfl⟩
  rcases Nat.lt_or_eq_of_le hij with hlt | rfl
  · exact List.pairwise_iff_getElem.mp (pairwise_sortOps compiled ops) i j hi hj hlt
  · rw [mayPrecede_iff]
    exact Or.inr ⟨rfl, Nat.le_refl _⟩

/-- Of two operations of one identity, the earlier one does not belong to a
    pass of higher rank. -/
theorem rank_le_of_precedes (i j : Nat) (hij : i ≤ j) (first second : FrameOp)
    (hfirst : (sortOps compiled ops)[i]? = some first)
    (hsecond : (sortOps compiled ops)[j]? = some second)
    (hidentity : first.context.identity = second.context.identity) :
    compiled.rankOrLowest first.pass ≤ compiled.rankOrLowest second.pass := by
  have hpair := mayPrecede_of_le compiled ops hij hfirst hsecond
  rw [mayPrecede_iff, identityPosition_congr ops hidentity] at hpair
  rcases hpair with hless | ⟨_, hle⟩
  · exact absurd hless (Nat.lt_irrefl _)
  · exact hle

end Sorting

section Sharing

variable {ops : List FrameOp}

/-- What sharing a context makes of each operation. -/
theorem forall₂_shareSwapchain (ops : List FrameOp) :
    List.Forall₂ (FrameOp.SharedAs ops) ops (shareSwapchainContext ops) := by
  unfold shareSwapchainContext
  cases hfind : ops.find? FrameOp.targetsSwapchain with
  | none =>
      refine List.forall₂_same.mpr fun op hop => ⟨rfl, rfl, ?_, fun _ => rfl⟩
      intro htargets
      exact absurd htargets (List.find?_eq_none.mp hfind op hop)
  | some first =>
      rw [List.forall₂_map_right_iff]
      refine List.forall₂_same.mpr fun op _ => ?_
      unfold FrameOp.moveSwapchainTo
      by_cases htargets : op.targetsSwapchain = true
      · rw [if_pos htargets]
        refine ⟨rfl, rfl, fun _ => ?_, fun hnot => ?_⟩
        · rw [hfind, Option.map_some]
        · exact absurd (htargets.symm.trans hnot) Bool.false_ne_true.symm
      · rw [if_neg htargets]
        exact ⟨rfl, rfl, fun h => absurd h htargets, fun _ => rfl⟩

theorem exists_shared {n : Nat} {op : FrameOp} (h : ops[n]? = some op) :
    ∃ shared, (shareSwapchainContext ops)[n]? = some shared ∧ FrameOp.SharedAs ops op shared := by
  have hall := forall₂_shareSwapchain ops
  rcases List.getElem?_eq_some_iff.mp h with ⟨hlt, rfl⟩
  have hshared : n < (shareSwapchainContext ops).length := hall.length_eq ▸ hlt
  exact ⟨_, List.getElem?_eq_getElem hshared, hall.get hlt hshared⟩

theorem exists_enqueued {n : Nat} {shared : FrameOp}
    (h : (shareSwapchainContext ops)[n]? = some shared) :
    ∃ op, ops[n]? = some op ∧ FrameOp.SharedAs ops op shared := by
  have hall := forall₂_shareSwapchain ops
  rcases List.getElem?_eq_some_iff.mp h with ⟨hshared, rfl⟩
  have hlt : n < ops.length := hall.length_eq ▸ hshared
  exact ⟨_, List.getElem?_eq_getElem hlt, hall.get hlt hshared⟩

namespace FrameOp.SharedAs

variable {op shared : FrameOp}

/-- Sharing a context does not move an operation to another target. -/
theorem targetsSwapchain (h : SharedAs ops op shared) :
    shared.targetsSwapchain = op.targetsSwapchain := by
  cases htargets : op.targetsSwapchain with
  | false =>
      have hkept := h.kept htargets
      rw [← htargets, FrameOp.targetsSwapchain, FrameOp.targetsSwapchain, hkept]
  | true =>
      rcases Option.map_eq_some_iff.mp (h.moved htargets) with ⟨first, hfirst, hcontext⟩
      have hfound : first.targetsSwapchain = true := List.find?_some hfirst
      rw [← hfound, FrameOp.targetsSwapchain, FrameOp.targetsSwapchain, hcontext]

/-- What draws to the presented image has the identity of the first operation
    that does. -/
theorem identity (h : SharedAs ops op shared) (htargets : op.targetsSwapchain = true)
    {first : FrameOp} (hfirst : ops.find? FrameOp.targetsSwapchain = some first) :
    shared.context.identity = first.context.identity := by
  have hmoved := h.moved htargets
  rw [hfirst, Option.map_some, Option.some.injEq] at hmoved
  rw [hmoved]

/-- Sharing a context changes nothing about an operation but the identity, and
    that only where it draws to the presented image. -/
theorem task (h : SharedAs ops op shared) : shared.task = op.task := by
  unfold FrameOp.task
  rw [h.pass, h.work, h.targetsSwapchain]
  cases htargets : op.targetsSwapchain with
  | false => rw [h.kept htargets]
  | true =>
      have hshared := h.targetsSwapchain.trans htargets
      have hsame : shared.context.target = op.context.target :=
        (of_decide_eq_true hshared).trans (of_decide_eq_true htargets).symm
      rw [hsame]
      rfl

end FrameOp.SharedAs

/-- Whatever draws to the presented image does so in one context. -/
theorem context_shareSwapchain (ops : List FrameOp) (first second : FrameOp)
    (hfirst : first ∈ shareSwapchainContext ops) (hsecond : second ∈ shareSwapchainContext ops)
    (htargetsFirst : first.targetsSwapchain = true)
    (htargetsSecond : second.targetsSwapchain = true) : first.context = second.context := by
  have hmoved : ∀ shared ∈ shareSwapchainContext ops, shared.targetsSwapchain = true →
      (ops.find? FrameOp.targetsSwapchain).map FrameOp.context = some shared.context := by
    intro shared hshared htargets
    rcases List.mem_iff_getElem?.mp hshared with ⟨n, hn⟩
    rcases exists_enqueued hn with ⟨op, _, has⟩
    exact has.moved (has.targetsSwapchain.symm.trans htargets)
  have hboth := (hmoved first hfirst htargetsFirst).symm.trans
    (hmoved second hsecond htargetsSecond)
  exact Option.some.inj hboth

end Sharing

/-- The scheduled operations do what the enqueued ones do. -/
theorem task_schedule (compiled : Compiled) (withBuckets : Bool) (ops : List FrameOp) :
    ((schedule compiled withBuckets ops).ops.map FrameOp.task).Perm (ops.map FrameOp.task) := by
  have hshared : (shareSwapchainContext ops).map FrameOp.task = ops.map FrameOp.task := by
    rw [← List.forall₂_eq_eq_eq, List.forall₂_map_left_iff, List.forall₂_map_right_iff]
    exact ((forall₂_shareSwapchain ops).imp fun op shared has => has.task).flip
  rw [← hshared]
  exact (perm_sortOps compiled _).map FrameOp.task

theorem Compiled.Before.rankOrLowest_lt {compiled : Compiled} {first second : PassIndex}
    (h : compiled.Before first second) :
    compiled.rankOrLowest first < compiled.rankOrLowest second := by
  rcases h with ⟨i, j, hi, hj, hlt⟩
  rw [Compiled.rankOrLowest, Compiled.rankOrLowest, hi, hj]
  exact hlt

/-- Scheduling keeps the operations and respects dependencies. If a path of
    dependency edges leads from one pass to another, each operation of the
    first comes before each operation of the second that is scheduled under
    the same identity. So it does if both draw to the presented image,
    whatever the identities and the order in which they were enqueued. -/
theorem schedule_respects (passes : List Pass) (compiled : Compiled)
    (h : compile passes = .ok compiled) (u v : Nat) (p q : Pass) (hu : passes[u]? = some p)
    (hv : passes[v]? = some q) (hpath : Relation.TransGen (dependencies passes).Joined u v)
    (withBuckets : Bool) (ops : List FrameOp) :
    ((schedule compiled withBuckets ops).ops.map FrameOp.task).Perm (ops.map FrameOp.task)
      ∧ ∀ (i j : Nat) (first second : FrameOp),
          (schedule compiled withBuckets ops).ops[i]? = some first →
          (schedule compiled withBuckets ops).ops[j]? = some second →
          first.pass = p.index → second.pass = q.index →
          first.context.identity = second.context.identity
            ∨ first.targetsSwapchain = true ∧ second.targetsSwapchain = true →
          i < j := by
  refine ⟨task_schedule compiled withBuckets ops, ?_⟩
  have hdepends : Relation.TransGen (Depends passes) u v :=
    Relation.TransGen.mono (fun a b hab => (joined_dependencies passes a b).mp hab) _ _ hpath
  have hrank := (before_of_transGen passes compiled h u v p q hu hv hdepends).rankOrLowest_lt
  intro i j first second hfirst hsecond hp hq hgroup
  have hidentity : first.context.identity = second.context.identity := by
    rcases hgroup with hsame | ⟨htargetsFirst, htargetsSecond⟩
    · exact hsame
    · have hperm := perm_sortOps compiled (shareSwapchainContext ops)
      rw [context_shareSwapchain ops first second
        (hperm.mem_iff.mp (List.mem_of_getElem? hfirst))
        (hperm.mem_iff.mp (List.mem_of_getElem? hsecond)) htargetsFirst htargetsSecond]
  -- The other way round, the rank of the dependent pass would be no higher.
  by_contra hnot
  have hle := rank_le_of_precedes compiled _ j i (Nat.le_of_not_lt hnot) second first hsecond hfirst
    hidentity.symm
  rw [hp, hq] at hle
  omega

/-- Work for the passes that are declared last to first, enqueued in that
    order. What the first and the last of it draw to the presented image came
    under two identities. -/
def enqueuedBackwards : List FrameOp := [
  ⟨30, ⟨7, .swapchain⟩, .dispatch ⟨5, 1, 1, 1⟩⟩,
  ⟨20, ⟨8, .offscreen 1⟩, .dispatch ⟨6, 1, 1, 1⟩⟩,
  ⟨10, ⟨9, .swapchain⟩, .dispatch ⟨4, 1, 1, 1⟩⟩]

/-- On the presented image, the pass that the others depend on goes first,
    although it was enqueued last and under an identity of its own. -/
theorem schedule_respects_backwards :
    ∃ compiled, compile declaredBackwards = .ok compiled
      ∧ Relation.TransGen (dependencies declaredBackwards).Joined 2 0
      ∧ (schedule compiled false enqueuedBackwards).ops.map FrameOp.pass = [10, 30, 20]
      ∧ ∀ (i j : Nat) (first second : FrameOp),
          (schedule compiled false enqueuedBackwards).ops[i]? = some first →
          (schedule compiled false enqueuedBackwards).ops[j]? = some second →
          first.pass = 10 → second.pass = 30 →
          first.targetsSwapchain = true → second.targetsSwapchain = true → i < j := by
  have hcompile : compile declaredBackwards = .ok (Compiled.ofOrder declaredBackwards.reverse) := by
    rfl
  -- The last pass reads what the second draws, and the second what the first draws.
  have hpath : Relation.TransGen (dependencies declaredBackwards).Joined 2 0 := by
    refine Relation.TransGen.tail (b := 1) (Relation.TransGen.single ?_) ?_
    · exact ⟨⟨2, 1, ["depth"]⟩, by decide, rfl, rfl⟩
    · exact ⟨⟨1, 0, ["color"]⟩, by decide, rfl, rfl⟩
  have hsorted : sortOps (Compiled.ofOrder declaredBackwards.reverse)
        (shareSwapchainContext enqueuedBackwards)
      = [⟨10, ⟨7, .swapchain⟩, .dispatch ⟨4, 1, 1, 1⟩⟩,
        ⟨30, ⟨7, .swapchain⟩, .dispatch ⟨5, 1, 1, 1⟩⟩,
        ⟨20, ⟨8, .offscreen 1⟩, .dispatch ⟨6, 1, 1, 1⟩⟩] := by
    refine sortOps_eq _ _ ?_ ?_ ?_
    · decide
    · decide
    · decide
  have horder : (schedule (Compiled.ofOrder declaredBackwards.reverse) false
      enqueuedBackwards).ops.map FrameOp.pass = [10, 30, 20] :=
    congrArg (List.map FrameOp.pass) hsorted
  refine ⟨_, hcompile, hpath, horder, ?_⟩
  intro i j first second hfirst hsecond hp hq htargetsFirst htargetsSecond
  exact (schedule_respects declaredBackwards _ hcompile 2 0 _ _ rfl rfl hpath false
    enqueuedBackwards).2 i j first second hfirst hsecond hp hq
    (Or.inr ⟨htargetsFirst, htargetsSecond⟩)

end FrameGraph
