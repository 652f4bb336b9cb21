import FrameGraph.Proofs.RecordingOrder

/-!
# Scheduling Again

Scheduled operations can be scheduled again without effect. This is not clear
from the sort being one: both of its keys, and the context that is shared on
the presented image, are read off the very list that is sorted, so a second
run works with other contexts and other first occurrences than the first.

What helps is to say which lists scheduling leaves alone without mentioning
where anything first occurs. There is one context for the presented image, the
operations of an identity are neighbours, and among them ranks do not fall. In
such a list, an identity that is met later than another one also first occurs
later, because up to its first occurrence there is nothing of it, so the keys
do not fall either. And scheduling produces such lists only.

## Main definitions

* `Arranged`: What scheduled operations look like.

## Theorems

* `Arranged.shareSwapchainContext_eq`, `Arranged.sortOps_eq`: Either half of
  scheduling leaves such operations alone.
* `arranged_schedule`: Scheduled operations are such.
* `schedule_again`: Scheduling is idempotent, and which operations it leaves
  alone.
-/

namespace FrameGraph

/-- The operations stand as scheduling leaves them: those for the presented
    image have one context, those of an identity are neighbours, and among them
    the ranks of the passes do not fall. -/
structure Arranged (compiled : Compiled) (ops : List FrameOp) : Prop where
  shared : ∀ first ∈ ops, ∀ second ∈ ops, first.targetsSwapchain = true →
    second.targetsSwapchain = true → first.context = second.context
  together : ∀ (i j k : Nat) (first between last : FrameOp), i ≤ j → j ≤ k →
    ops[i]? = some first → ops[j]? = some between → ops[k]? = some last →
    first.context.identity = last.context.identity →
    between.context.identity = first.context.identity
  ranked : ∀ (i j : Nat) (first second : FrameOp), i ≤ j →
    ops[i]? = some first → ops[j]? = some second →
    first.context.identity = second.context.identity →
    compiled.rankOrLowest first.pass ≤ compiled.rankOrLowest second.pass

/-- An identity first occurs where there is an operation of it, and not behind
    one. -/
theorem exists_identityPosition {ops : List FrameOp} {n : Nat} {op : FrameOp}
    (h : ops[n]? = some op) :
    ∃ first, ops[identityPosition ops op]? = some first
      ∧ first.context.identity = op.context.identity ∧ identityPosition ops op ≤ n := by
  have hmem : ∃ other ∈ ops, decide (other.context.identity = op.context.identity) = true :=
    ⟨op, List.mem_of_getElem? h, decide_eq_true rfl⟩
  have hlt : identityPosition ops op < ops.length := List.findIdx_lt_length_of_exists hmem
  refine ⟨ops[identityPosition ops op], List.getElem?_eq_getElem hlt, ?_, ?_⟩
  · exact of_decide_eq_true (List.findIdx_getElem (w := hlt))
  · rcases List.getElem?_eq_some_iff.mp h with ⟨hn, rfl⟩
    by_contra hnot
    exact of_decide_eq_false (List.not_of_lt_findIdx (Nat.lt_of_not_le hnot)) rfl

namespace Arranged

variable {compiled : Compiled} {ops : List FrameOp} (h : Arranged compiled ops)
include h

/-- The context that is shared is the one they have. -/
theorem shareSwapchainContext_eq : shareSwapchainContext ops = ops := by
  unfold shareSwapchainContext
  cases hfind : ops.find? FrameOp.targetsSwapchain with
  | none => rfl
  | some first =>
      have hkeeps : ∀ op ∈ ops, op.moveSwapchainTo first.context = op := by
        intro op hop
        unfold FrameOp.moveSwapchainTo
        by_cases htargets : op.targetsSwapchain = true
        · rw [if_pos htargets, h.shared first (List.mem_of_find?_eq_some hfind) op hop
            (List.find?_some hfind) htargets]
        · rw [if_neg htargets]
      exact (List.map_congr_left hkeeps).trans (List.map_id ops)

/-- Identities come as they first occur. -/
theorem position_le {i j : Nat} (hij : i ≤ j) {first second : FrameOp}
    (hfirst : ops[i]? = some first) (hsecond : ops[j]? = some second) :
    identityPosition ops first ≤ identityPosition ops second := by
  rcases exists_identityPosition hfirst with ⟨_, _, _, hle⟩
  rcases exists_identityPosition hsecond with ⟨opener, hopener, hsame, _⟩
  by_contra hnot
  -- The later identity would occur before the earlier operation and behind it.
  have hbetween := h.together _ i j opener first second (by omega) hij hopener hfirst hsecond hsame
  exact hnot (Nat.le_of_eq (identityPosition_congr ops (hbetween.trans hsame)))

/-- None of them has to come before an earlier one, so sorting moves none. -/
theorem sortOps_eq : sortOps compiled ops = ops := by
  refine List.mergeSort_of_pairwise (List.pairwise_iff_getElem.mpr ?_)
  intro i j hi hj hij
  have hfirst := List.getElem?_eq_getElem hi
  have hsecond := List.getElem?_eq_getElem hj
  rw [mayPrecede_iff]
  rcases Nat.lt_or_eq_of_le (h.position_le (Nat.le_of_lt hij) hfirst hsecond) with hlt | heq
  · exact Or.inl hlt
  · have hsame := identity_of_position ops (List.getElem_mem hi) heq
    exact Or.inr ⟨heq, h.ranked i j _ _ (Nat.le_of_lt hij) hfirst hsecond hsame⟩

end Arranged

/-- Scheduled operations are arranged. -/
theorem arranged_schedule (compiled : Compiled) (withBuckets : Bool) (ops : List FrameOp) :
    Arranged compiled (schedule compiled withBuckets ops).ops where
  shared := by
    intro first hfirst second hsecond
    have hperm := perm_sortOps compiled (shareSwapchainContext ops)
    exact context_shareSwapchain ops first second (hperm.mem_iff.mp hfirst)
      (hperm.mem_iff.mp hsecond)
  together := by
    intro i j k first between last hij hjk hfirst hbetween hlast hsame
    exact identity_of_between compiled _ hij hjk hfirst hbetween hlast hsame
  ranked := by
    intro i j first second hij hfirst hsecond hsame
    exact rank_le_of_precedes compiled _ i j hij first second hfirst hsecond hsame

/-- Scheduling the operations of a schedule gives the same schedule, operations
    and buckets. The operations that scheduling leaves alone are those that are
    arranged. -/
theorem schedule_again (compiled : Compiled) (withBuckets : Bool) (ops : List FrameOp) :
    schedule compiled withBuckets (schedule compiled withBuckets ops).ops
        = schedule compiled withBuckets ops
      ∧ ((schedule compiled withBuckets ops).ops = ops ↔ Arranged compiled ops) := by
  have hfixed : ∀ others, Arranged compiled others →
      sortOps compiled (shareSwapchainContext others) = others := by
    intro others harranged
    rw [harranged.shareSwapchainContext_eq, harranged.sortOps_eq]
  have hagain := hfixed _ (arranged_schedule compiled withBuckets ops)
  refine ⟨?_, ?_, hfixed ops⟩
  · -- The buckets are read off the operations, and those are the same.
    unfold schedule at hagain ⊢
    simp only [hagain]
  · intro hsame
    rw [← hsame]
    exact arranged_schedule compiled withBuckets ops

end FrameGraph
