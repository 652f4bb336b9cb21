import FrameGraph.Proofs.RecordingOrder

/-!
# Neighbours on the Presented Image

Whatever draws to the presented image is moved into one context, so that no
producer begins the render pass on it again and throws away what was drawn
before. That helps only while no operation for another target stands in
between, since such an operation needs a render pass of its own, and the one
on the presented image has to be begun again behind it.

One context is one identity, and the operations of an identity are
neighbours. But the converse does not hold: the identity that is shared was
chosen by the producer of one operation, and that producer may use it for
other targets as well. Where such an operation goes is decided by the rank of
its pass and by its place, and neither asks for the target. So the operations
for the presented image are neighbours exactly if no operation of their
identity comes between two of them by rank and place.

## Main definitions

* `SwapchainTogether`: The operations for the presented image are neighbours.
* `SwapchainParted`: By rank and place, an operation for another target comes
  between them.

## Theorems

* `queuedBefore_of_lt`: In one identity, rank and place decide.
* `between_of_parted`, `parted_of_between`: What stands between operations for
  the presented image, and what was enqueued.
* `schedule_swapchain`: When the operations for the presented image are
  neighbours.
* `schedule_parts_mirror`: Neighbours that scheduling parts.
-/

namespace FrameGraph

/-- Between two operations for the presented image there is none for another
    target. -/
def SwapchainTogether (ops : List FrameOp) : Prop :=
  ∀ (i j k : Nat) (first between last : FrameOp), i < j → j < k →
    ops[i]? = some first → ops[j]? = some between → ops[k]? = some last →
    first.targetsSwapchain = true → last.targetsSwapchain = true →
    between.targetsSwapchain = true

/-- An operation for another target came under the identity of the first one
    for the presented image, and by the ranks of passes and their places it
    comes between two operations for the presented image. -/
def SwapchainParted (compiled : Compiled) (ops : List FrameOp) : Prop :=
  ∃ shared first between last : FrameOp, ∃ i j k : Nat,
    ops.find? FrameOp.targetsSwapchain = some shared
      ∧ ops[i]? = some first ∧ ops[j]? = some between ∧ ops[k]? = some last
      ∧ first.targetsSwapchain = true ∧ last.targetsSwapchain = true
      ∧ between.targetsSwapchain = false
      ∧ between.context.identity = shared.context.identity
      ∧ compiled.QueuedBefore (first.pass, i) (between.pass, j)
      ∧ compiled.QueuedBefore (between.pass, j) (last.pass, k)

section Runs

variable (compiled : Compiled) (ops : List FrameOp)

/-- Sorted operations of one identity are sorted by rank and place. -/
theorem queuedBefore_of_lt {m n : Nat} (hmn : m < n) {first second : FrameOp × Nat}
    (hfirst : (sortedEntries compiled ops)[m]? = some first)
    (hsecond : (sortedEntries compiled ops)[n]? = some second)
    (hsame : first.1.context.identity = second.1.context.identity) :
    compiled.QueuedBefore (first.1.pass, first.2) (second.1.pass, second.2) := by
  have hsorted := (lt_iff_sortedBefore compiled ops hfirst hsecond).mp hmn
  rw [SortedBefore, identityPosition_congr ops hsame] at hsorted
  rcases hsorted with hless | ⟨_, hqueued⟩
  · exact absurd hless (Nat.lt_irrefl _)
  · exact hqueued

/-- What comes between by rank and place stands in between when it is
    sorted. -/
theorem between_of_parted (h : SwapchainParted compiled ops) :
    ¬ SwapchainTogether (sortOps compiled (shareSwapchainContext ops)) := by
  rcases h with ⟨shared, first, between, last, i, j, k, hfound, hfirst, hbetween, hlast,
    htargetsFirst, htargetsLast, hother, hidentity, hbefore, hafter⟩
  rcases exists_shared hfirst with ⟨first', hfirst', hasFirst⟩
  rcases exists_shared hbetween with ⟨between', hbetween', hasBetween⟩
  rcases exists_shared hlast with ⟨last', hlast', hasLast⟩
  rcases sorted_of_place compiled _ hfirst' with ⟨l, hl, hsortedFirst⟩
  rcases sorted_of_place compiled _ hbetween' with ⟨m, hm, hsortedBetween⟩
  rcases sorted_of_place compiled _ hlast' with ⟨n, hn, hsortedLast⟩
  -- All three are sorted under the identity that is shared, so rank and place decide.
  have hcontext : between'.context.identity = shared.context.identity := by
    rw [hasBetween.kept hother, hidentity]
  have hsameFirst : first'.context.identity = between'.context.identity := by
    rw [hasFirst.identity htargetsFirst hfound, hcontext]
  have hsameLast : between'.context.identity = last'.context.identity := by
    rw [hasLast.identity htargetsLast hfound, hcontext]
  have hlm : l < m := by
    refine (lt_iff_sortedBefore compiled _ hl hm).mpr (Or.inr ⟨?_, ?_⟩)
    · exact identityPosition_congr _ hsameFirst
    · rw [hasFirst.pass, hasBetween.pass]
      exact hbefore
  have hmn : m < n := by
    refine (lt_iff_sortedBefore compiled _ hm hn).mpr (Or.inr ⟨?_, ?_⟩)
    · exact identityPosition_congr _ hsameLast
    · rw [hasBetween.pass, hasLast.pass]
      exact hafter
  intro htogether
  have htargets := htogether l m n first' between' last' hlm hmn hsortedFirst hsortedBetween
    hsortedLast (hasFirst.targetsSwapchain.trans htargetsFirst)
    (hasLast.targetsSwapchain.trans htargetsLast)
  rw [hasBetween.targetsSwapchain, hother] at htargets
  exact Bool.false_ne_true htargets

/-- What stands in between when it is sorted comes between by rank and
    place. -/
theorem parted_of_between {l m n : Nat} {first between last : FrameOp} (hlm : l < m) (hmn : m < n)
    (hfirst : (sortOps compiled (shareSwapchainContext ops))[l]? = some first)
    (hbetween : (sortOps compiled (shareSwapchainContext ops))[m]? = some between)
    (hlast : (sortOps compiled (shareSwapchainContext ops))[n]? = some last)
    (htargetsFirst : first.targetsSwapchain = true) (htargetsLast : last.targetsSwapchain = true)
    (hother : between.targetsSwapchain = false) : SwapchainParted compiled ops := by
  rcases entry_of_sorted compiled _ hfirst with ⟨i, hl, hfirst'⟩
  rcases entry_of_sorted compiled _ hbetween with ⟨j, hm, hbetween'⟩
  rcases entry_of_sorted compiled _ hlast with ⟨k, hn, hlast'⟩
  rcases exists_enqueued hfirst' with ⟨opFirst, henqueuedFirst, hasFirst⟩
  rcases exists_enqueued hbetween' with ⟨opBetween, henqueuedBetween, hasBetween⟩
  rcases exists_enqueued hlast' with ⟨opLast, henqueuedLast, hasLast⟩
  -- The outer two have one context, and only their identity is sorted in between.
  have hcontext : first.context = last.context :=
    context_shareSwapchain ops first last (List.mem_of_getElem? hfirst')
      (List.mem_of_getElem? hlast') htargetsFirst htargetsLast
  have hidentity : between.context.identity = first.context.identity :=
    identity_of_between compiled _ (Nat.le_of_lt hlm) (Nat.le_of_lt hmn) hfirst hbetween hlast
      (congrArg Context.identity hcontext)
  have hbefore := queuedBefore_of_lt compiled _ hlm hl hm hidentity.symm
  have hafter := queuedBefore_of_lt compiled _ hmn hm hn
    (hidentity.trans (congrArg Context.identity hcontext))
  -- What was enqueued has the same targets and passes.
  rw [hasFirst.targetsSwapchain] at htargetsFirst
  rw [hasLast.targetsSwapchain] at htargetsLast
  rw [hasBetween.targetsSwapchain] at hother
  have hmoved := hasFirst.moved htargetsFirst
  rcases Option.map_eq_some_iff.mp hmoved with ⟨shared, hfound, _⟩
  refine ⟨shared, opFirst, opBetween, opLast, i, j, k, hfound, henqueuedFirst, henqueuedBetween,
    henqueuedLast, htargetsFirst, htargetsLast, hother, ?_, ?_, ?_⟩
  · rw [← hasBetween.kept hother, hidentity, hasFirst.identity htargetsFirst hfound]
  · rw [← hasFirst.pass, ← hasBetween.pass]
    exact hbefore
  · rw [← hasBetween.pass, ← hasLast.pass]
    exact hafter

end Runs

/-- What draws to the presented image is scheduled in one context, and only
    operations of its identity stand in between. They draw to the presented
    image as well, unless an operation for another target came under that
    identity and comes between by rank and place. -/
theorem schedule_swapchain (compiled : Compiled) (withBuckets : Bool) (ops : List FrameOp) :
    (∀ first ∈ (schedule compiled withBuckets ops).ops,
      ∀ second ∈ (schedule compiled withBuckets ops).ops,
        first.targetsSwapchain = true → second.targetsSwapchain = true →
        first.context = second.context)
      ∧ (∀ (i j k : Nat) (first between last : FrameOp), i ≤ j → j ≤ k →
          (schedule compiled withBuckets ops).ops[i]? = some first →
          (schedule compiled withBuckets ops).ops[j]? = some between →
          (schedule compiled withBuckets ops).ops[k]? = some last →
          first.targetsSwapchain = true → last.targetsSwapchain = true →
          between.context.identity = first.context.identity)
      ∧ (SwapchainTogether (schedule compiled withBuckets ops).ops
        ↔ ¬ SwapchainParted compiled ops) := by
  have hperm := perm_sortOps compiled (shareSwapchainContext ops)
  have hcontext : ∀ first ∈ (schedule compiled withBuckets ops).ops,
      ∀ second ∈ (schedule compiled withBuckets ops).ops,
        first.targetsSwapchain = true → second.targetsSwapchain = true →
        first.context = second.context := by
    intro first hfirst second hsecond
    exact context_shareSwapchain ops first second (hperm.mem_iff.mp hfirst)
      (hperm.mem_iff.mp hsecond)
  refine ⟨hcontext, ?_, ?_, ?_⟩
  · intro i j k first between last hij hjk hfirst hbetween hlast htargetsFirst htargetsLast
    have hsame := hcontext first (List.mem_of_getElem? hfirst) last (List.mem_of_getElem? hlast)
      htargetsFirst htargetsLast
    exact identity_of_between compiled _ hij hjk hfirst hbetween hlast
      (congrArg Context.identity hsame)
  · intro htogether hparted
    exact between_of_parted compiled ops hparted htogether
  · intro hnot i j k first between last hij hjk hfirst hbetween hlast htargetsFirst htargetsLast
    by_contra hother
    exact hnot (parted_of_between compiled ops hij hjk hfirst hbetween hlast htargetsFirst
      htargetsLast (Bool.eq_false_iff.mpr hother))

/-- Three passes that have nothing to do with one another. -/
def sceneMirrorOverlay : List Pass :=
  [⟨0, "scene", .graphics, []⟩, ⟨1, "mirror", .graphics, []⟩, ⟨2, "ui", .graphics, []⟩]

/-- A pass clears what it draws to. -/
def clearing (pass : PassIndex) (context : Context) : FrameOp :=
  ⟨pass, context, .clear ⟨true, false, false, ⟨0, 0, 0, 0⟩, 0, 0, ⟨0, 0, 1280, 720⟩⟩⟩

/-- Two producers draw to the presented image, one right after the other, and
    then the first of them draws to another target. -/
def enqueuedMirrorLast : List FrameOp :=
  [clearing 0 ⟨1, .swapchain⟩, clearing 2 ⟨2, .swapchain⟩, clearing 1 ⟨1, .offscreen 7⟩]

/-- What stood together comes apart: the other target is put in between, for
    its pass is ranked in between and came under the identity that is
    shared. -/
theorem schedule_parts_mirror :
    compile sceneMirrorOverlay = .ok (Compiled.ofOrder sceneMirrorOverlay)
      ∧ SwapchainTogether enqueuedMirrorLast
      ∧ (schedule (Compiled.ofOrder sceneMirrorOverlay) false enqueuedMirrorLast).ops
        = [clearing 0 ⟨1, .swapchain⟩, clearing 1 ⟨1, .offscreen 7⟩, clearing 2 ⟨1, .swapchain⟩]
      ∧ ¬ SwapchainTogether
        (schedule (Compiled.ofOrder sceneMirrorOverlay) false enqueuedMirrorLast).ops := by
  have hsorted : (schedule (Compiled.ofOrder sceneMirrorOverlay) false enqueuedMirrorLast).ops
      = [clearing 0 ⟨1, .swapchain⟩, clearing 1 ⟨1, .offscreen 7⟩, clearing 2 ⟨1, .swapchain⟩] := by
    refine sortOps_eq _ _ ?_ ?_ ?_
    · decide
    · decide
    · decide
  refine ⟨rfl, ?_, hsorted, ?_⟩
  · intro i j k first between last hij hjk _ _ hlast _ htargets
    rcases List.getElem?_eq_some_iff.mp hlast with ⟨hlt, rfl⟩
    -- Only the last of three has two others before it.
    have hk : k = 2 := by
      change k < 3 at hlt
      omega
    subst hk
    exact absurd htargets Bool.false_ne_true
  · rw [hsorted]
    intro htogether
    exact absurd (htogether 0 1 2 _ _ _ (by decide) (by decide) rfl rfl rfl rfl rfl) (by decide)

end FrameGraph
