import FrameGraph.Proofs.Scheduled
import Mathlib.Data.Fintype.Card
import Mathlib.Data.List.Nodup

/-!
# The Order of Recording

Scheduled operations are sorted by three keys: where their identity first
occurs, the rank of their pass, and where they were enqueued. The sort knows
of the first two only. That the third is respected, and hence that the order
is the only one the keys allow, is what its being stable means, and the way
to say so is to give every operation its place before sorting.

Two of the keys are declared in other words than they are computed in. A pass
that nobody declared comes behind every other and is computed to have a
number for a rank that is out of reach, and an identity may be numbered as it
comes, one higher for each new one, instead of being looked up where it first
occurs. Neither makes a difference. There are fewer passes than that rank, and
leaving out repetitions does not change which of two identities comes first.

## Main definitions

* `Compiled.RankedBefore`: A pass has a rank, and another has none or a higher
  one.
* `Compiled.QueuedBefore`: The last two keys of two operations.
* `RecordedBefore`: The three keys of two operations with their places.
* `RecordingOrder`: The operations and their places, arranged by the keys.
* `sortByNumber`: The operations sorted by numbers that identities are given.

## Theorems

* `compile_recordedBefore_iff`: The keys as declared and as computed.
* `map_sortedEntries`, `pairwise_sortedEntries`: The sorted operations with their
  places.
* `lt_iff_sortedBefore`: Where two operations are sorted is up to their keys.
* `identity_of_between`: The operations of an identity are neighbours.
* `sortByNumber_eq`: Numbers sort as first occurrences do.
* `schedule_order`: What scheduling does.
-/

namespace FrameGraph

namespace Compiled

/-- One pass is ranked before another: it has a rank, and the other has a
    higher one or none. -/
def RankedBefore (compiled : Compiled) (first second : PassIndex) : Prop :=
  ∃ rank, compiled.rank? first = some rank
    ∧ ∀ other, compiled.rank? second = some other → rank < other

/-- Of two passes at some places, one comes before the other where nothing
    else decides: its rank is lower, or the ranks are equal and its place is. -/
def QueuedBefore (compiled : Compiled) (first second : PassIndex × Nat) : Prop :=
  compiled.rankOrLowest first.1 < compiled.rankOrLowest second.1
    ∨ compiled.rankOrLowest first.1 = compiled.rankOrLowest second.1 ∧ first.2 < second.2

end Compiled

section Ranks

variable (passes : List Pass) (compiled : Compiled) (h : compile passes = .ok compiled)

include h

/-- No rank of a pass is as high as the one for passes nobody declared: there
    are not that many indices. -/
theorem compile_rank_lt_lowest {index : PassIndex} {rank : Nat}
    (hrank : compiled.rank? index = some rank) : rank < Compiled.lowestRank := by
  have hlt := compiled.rank?_lt_length hrank
  have hnodup : ((compiled.order.map Pass.index).map UInt32.toFin).Nodup :=
    (compile_order_nodup passes compiled h).map fun a b => UInt32.toFin_inj.mp
  have hlength := hnodup.length_le_card
  rw [List.length_map, List.length_map, Fintype.card_fin] at hlength
  have hsize : UInt32.size = 4294967296 := rfl
  unfold Compiled.lowestRank
  omega

theorem compile_rankedBefore_iff (first second : PassIndex) :
    compiled.RankedBefore first second
      ↔ compiled.rankOrLowest first < compiled.rankOrLowest second := by
  unfold Compiled.RankedBefore Compiled.rankOrLowest
  cases hfirst : compiled.rank? first with
  | none =>
      refine iff_of_false ?_ ?_
      · rintro ⟨rank, hrank, _⟩
        exact Option.some_ne_none rank hrank.symm
      · cases hsecond : compiled.rank? second with
        | none => exact Nat.lt_irrefl _
        | some other =>
            exact Nat.lt_asymm (compile_rank_lt_lowest passes compiled h hsecond)
  | some rank =>
      cases hsecond : compiled.rank? second with
      | none =>
          refine iff_of_true ⟨rank, rfl, ?_⟩ (compile_rank_lt_lowest passes compiled h hfirst)
          intro other hother
          exact absurd hother.symm (Option.some_ne_none other)
      | some other =>
          simp only [Option.some.injEq, exists_eq_left', forall_eq', Option.getD_some]

theorem compile_rank_eq_iff (first second : PassIndex) :
    compiled.rank? first = compiled.rank? second
      ↔ compiled.rankOrLowest first = compiled.rankOrLowest second := by
  refine ⟨fun heq => by rw [Compiled.rankOrLowest, heq, Compiled.rankOrLowest], ?_⟩
  unfold Compiled.rankOrLowest
  intro heq
  -- A pass with a rank cannot be mistaken for one without.
  cases hfirst : compiled.rank? first with
  | none =>
      cases hsecond : compiled.rank? second with
      | none => rfl
      | some other =>
          have hlt := compile_rank_lt_lowest passes compiled h hsecond
          rw [hfirst, hsecond, Option.getD_none, Option.getD_some] at heq
          omega
  | some rank =>
      have hlt := compile_rank_lt_lowest passes compiled h hfirst
      cases hsecond : compiled.rank? second with
      | none =>
          rw [hfirst, hsecond, Option.getD_none, Option.getD_some] at heq
          omega
      | some other =>
          rw [hfirst, hsecond, Option.getD_some, Option.getD_some] at heq
          rw [heq]

end Ranks

/-- Of two operations with their places among some operations, the first has
    to be recorded first: its identity occurs first, or that is one and its
    pass is ranked first, or these are equal and it was enqueued first. -/
def RecordedBefore (compiled : Compiled) (ops : List FrameOp) (first second : FrameOp × Nat) :
    Prop :=
  identityPosition ops first.1 < identityPosition ops second.1
    ∨ identityPosition ops first.1 = identityPosition ops second.1
      ∧ (compiled.RankedBefore first.1.pass second.1.pass
        ∨ compiled.rank? first.1.pass = compiled.rank? second.1.pass ∧ first.2 < second.2)

/-- The operations with their places, each once, arranged in the order of
    recording. -/
structure RecordingOrder (compiled : Compiled) (ops : List FrameOp)
    (entries : List (FrameOp × Nat)) : Prop where
  perm : entries.Perm ops.zipIdx
  pairwise : entries.Pairwise (RecordedBefore compiled ops)

/-- The keys of the sort, with the place as the last one. -/
def SortedBefore (compiled : Compiled) (ops : List FrameOp) (first second : FrameOp × Nat) :
    Prop :=
  identityPosition ops first.1 < identityPosition ops second.1
    ∨ identityPosition ops first.1 = identityPosition ops second.1
      ∧ compiled.QueuedBefore (first.1.pass, first.2) (second.1.pass, second.2)

theorem sortedBefore_iff (compiled : Compiled) (ops : List FrameOp) (first second : FrameOp × Nat) :
    SortedBefore compiled ops first second
      ↔ identityPosition ops first.1 < identityPosition ops second.1
        ∨ identityPosition ops first.1 = identityPosition ops second.1
          ∧ (compiled.rankOrLowest first.1.pass < compiled.rankOrLowest second.1.pass
            ∨ compiled.rankOrLowest first.1.pass = compiled.rankOrLowest second.1.pass
              ∧ first.2 < second.2) :=
  Iff.rfl

instance (compiled : Compiled) (ops : List FrameOp) : DecidableRel (SortedBefore compiled ops) :=
  fun first second => decidable_of_iff _ (sortedBefore_iff compiled ops first second).symm

/-- The keys as declared and as computed. -/
theorem compile_recordedBefore_iff (passes : List Pass) (compiled : Compiled)
    (h : compile passes = .ok compiled) (ops : List FrameOp) (first second : FrameOp × Nat) :
    RecordedBefore compiled ops first second ↔ SortedBefore compiled ops first second := by
  unfold RecordedBefore
  rw [sortedBefore_iff, compile_rankedBefore_iff passes compiled h,
    compile_rank_eq_iff passes compiled h]

theorem SortedBefore.asymm {compiled : Compiled} {ops : List FrameOp}
    {first second : FrameOp × Nat} (h : SortedBefore compiled ops first second) :
    ¬ SortedBefore compiled ops second first := by
  rw [sortedBefore_iff] at h ⊢
  omega

section Entries

variable (compiled : Compiled) (ops : List FrameOp)

/-- The sorted operations with the places they had before. -/
def sortedEntries : List (FrameOp × Nat) :=
  ops.zipIdx.mergeSort (List.zipIdxLE (mayPrecede compiled ops))

theorem perm_sortedEntries : (sortedEntries compiled ops).Perm ops.zipIdx :=
  List.mergeSort_perm _ _

/-- The sort is stable, so it does the same without the places. -/
theorem map_sortedEntries : (sortedEntries compiled ops).map Prod.fst = sortOps compiled ops :=
  List.mergeSort_zipIdx

/-- Where the keys of the sort tie, the place decides. -/
theorem sortedBefore_of_zipIdxLE {first second : FrameOp × Nat} (hne : first.2 ≠ second.2)
    (h : List.zipIdxLE (mayPrecede compiled ops) first second = true) :
    SortedBefore compiled ops first second := by
  unfold List.zipIdxLE at h
  rw [sortedBefore_iff]
  by_cases hfirst : mayPrecede compiled ops first.1 second.1 = true
  · rw [if_pos hfirst] at h
    rw [mayPrecede_iff] at hfirst
    by_cases hsecond : mayPrecede compiled ops second.1 first.1 = true
    · rw [if_pos hsecond, decide_eq_true_eq] at h
      rw [mayPrecede_iff] at hsecond
      omega
    · rw [mayPrecede_iff] at hsecond
      omega
  · rw [if_neg hfirst] at h
    exact absurd h Bool.false_ne_true

theorem pairwise_sortedEntries :
    (sortedEntries compiled ops).Pairwise (SortedBefore compiled ops) := by
  have hsorted := List.pairwise_mergeSort
    (List.zipIdxLE_trans (mayPrecede_trans compiled ops))
    (List.zipIdxLE_total (mayPrecede_total compiled ops)) ops.zipIdx
  -- No two operations have one place, so no tie is left.
  have hplaces : ((sortedEntries compiled ops).map Prod.snd).Nodup := by
    rw [((perm_sortedEntries compiled ops).map Prod.snd).nodup_iff, List.zipIdx_map_snd]
    exact List.nodup_range'
  exact hsorted.imp₂ (fun first second h hne => sortedBefore_of_zipIdxLE compiled ops hne h)
    (List.pairwise_map.mp hplaces)

/-- A sorted operation has its place. -/
theorem entry_of_sorted {n : Nat} {op : FrameOp} (h : (sortOps compiled ops)[n]? = some op) :
    ∃ place : Nat,
      (sortedEntries compiled ops)[n]? = some (op, place) ∧ ops[place]? = some op := by
  rw [← map_sortedEntries, List.getElem?_map, Option.map_eq_some_iff] at h
  rcases h with ⟨⟨other, place⟩, hentry, rfl⟩
  refine ⟨place, hentry, ?_⟩
  exact List.mk_mem_zipIdx_iff_getElem?.mp
    ((perm_sortedEntries compiled ops).mem_iff.mp (List.mem_of_getElem? hentry))

/-- Every operation is sorted somewhere, with its place. -/
theorem sorted_of_place {place : Nat} {op : FrameOp} (h : ops[place]? = some op) :
    ∃ n : Nat, (sortedEntries compiled ops)[n]? = some (op, place)
      ∧ (sortOps compiled ops)[n]? = some op := by
  have hmem : (op, place) ∈ sortedEntries compiled ops :=
    (perm_sortedEntries compiled ops).mem_iff.mpr (List.mk_mem_zipIdx_iff_getElem?.mpr h)
  rcases List.mem_iff_getElem?.mp hmem with ⟨n, hn⟩
  refine ⟨n, hn, ?_⟩
  rw [← map_sortedEntries, List.getElem?_map, hn, Option.map_some]

/-- Where two operations are sorted is up to their keys. -/
theorem lt_iff_sortedBefore {m n : Nat} {first second : FrameOp × Nat}
    (hfirst : (sortedEntries compiled ops)[m]? = some first)
    (hsecond : (sortedEntries compiled ops)[n]? = some second) :
    m < n ↔ SortedBefore compiled ops first second := by
  rcases List.getElem?_eq_some_iff.mp hfirst with ⟨hm, rfl⟩
  rcases List.getElem?_eq_some_iff.mp hsecond with ⟨hn, rfl⟩
  have hpairs := List.pairwise_iff_getElem.mp (pairwise_sortedEntries compiled ops)
  constructor
  · exact hpairs m n hm hn
  · intro h
    by_contra hnot
    rcases Nat.lt_or_eq_of_le (Nat.le_of_not_lt hnot) with hlt | rfl
    · exact h.asymm (hpairs n m hn hm hlt)
    · exact h.asymm h

end Entries

section Identities

variable (compiled : Compiled) (ops : List FrameOp)

theorem identityPosition_eq (op : FrameOp) :
    identityPosition ops op
      = (ops.map fun other => other.context.identity).idxOf op.context.identity := by
  unfold identityPosition
  rw [List.idxOf, List.findIdx_map]
  rfl

/-- Operations whose identity first occurs at one position have one
    identity. -/
theorem identity_of_position {first second : FrameOp} (hfirst : first ∈ ops)
    (h : identityPosition ops first = identityPosition ops second) :
    first.context.identity = second.context.identity := by
  rw [identityPosition_eq, identityPosition_eq] at h
  have hmem : first.context.identity ∈ ops.map fun other => other.context.identity :=
    List.mem_map.mpr ⟨first, hfirst, rfl⟩
  exact (List.idxOf_inj hmem).mp h

/-- Along the sorted operations, identities come as they first occur. -/
theorem identityPosition_le {i j : Nat} (hij : i ≤ j) {first second : FrameOp}
    (hfirst : (sortOps compiled ops)[i]? = some first)
    (hsecond : (sortOps compiled ops)[j]? = some second) :
    identityPosition ops first ≤ identityPosition ops second := by
  have hpair := mayPrecede_of_le compiled ops hij hfirst hsecond
  rw [mayPrecede_iff] at hpair
  omega

/-- Between two sorted operations of one identity there is no other
    identity. -/
theorem identity_of_between {i j k : Nat} (hij : i ≤ j) (hjk : j ≤ k)
    {first between last : FrameOp} (hfirst : (sortOps compiled ops)[i]? = some first)
    (hbetween : (sortOps compiled ops)[j]? = some between)
    (hlast : (sortOps compiled ops)[k]? = some last)
    (hsame : first.context.identity = last.context.identity) :
    between.context.identity = first.context.identity := by
  have hmem : between ∈ ops :=
    (perm_sortOps compiled ops).mem_iff.mp (List.mem_of_getElem? hbetween)
  refine identity_of_position ops hmem ?_
  have hbefore := identityPosition_le compiled ops hij hfirst hbetween
  have hafter := identityPosition_le compiled ops hjk hbetween hlast
  rw [← identityPosition_congr ops hsame] at hafter
  omega

end Identities

section Numbers

/-- The identities of some operations as they come, each once. The place of an
    identity is its number, and a new one gets the number of those before
    it. -/
def numberIdentities (ops : List FrameOp) : List UInt64 :=
  ops.foldl
    (fun known op =>
      if op.context.identity ∈ known then known else known ++ [op.context.identity]) []

theorem numberIdentities_eq (ops : List FrameOp) :
    numberIdentities ops = (ops.map fun op => op.context.identity).eraseDups := by
  unfold numberIdentities
  induction ops using List.reverseRecOn with
  | nil => rfl
  | append_singleton ops op ih =>
      rw [List.foldl_append, ih, List.foldl_cons, List.foldl_nil, List.map_append, List.map_cons,
        List.map_nil, eraseDups_concat]
      simp only [List.mem_eraseDups]
      -- A new identity goes to the end either way.
      by_cases h : op.context.identity ∈ ops.map fun op => op.context.identity
      · rw [if_pos h, if_pos h, List.append_nil]
      · rw [if_neg h, if_neg h]

/-- Leaving out repetitions does not change which of two values comes
    first. -/
theorem idxOf_eraseDups_lt_iff {α : Type} [DecidableEq α] (values : List α) {a b : α}
    (ha : a ∈ values) (hb : b ∈ values) :
    values.eraseDups.idxOf a < values.eraseDups.idxOf b ↔ values.idxOf a < values.idxOf b := by
  induction values using List.reverseRecOn with
  | nil => exact absurd ha List.not_mem_nil
  | append_singleton values last ih =>
      have hlt : ∀ {x : α}, x ∈ values → values.eraseDups.idxOf x < values.eraseDups.length :=
        fun hx => List.idxOf_lt_length_of_mem (List.mem_eraseDups.mpr hx)
      simp only [eraseDups_concat, List.idxOf_append, List.mem_eraseDups]
      by_cases hknownA : a ∈ values
      · by_cases hknownB : b ∈ values
        · rw [if_pos hknownA, if_pos hknownB, if_pos hknownA, if_pos hknownB]
          exact ih hknownA hknownB
        · -- A value that is new comes after all others, with and without repetitions.
          rw [if_pos hknownA, if_neg hknownB, if_pos hknownA, if_neg hknownB]
          have h1 := hlt hknownA
          have h2 := List.idxOf_lt_length_of_mem hknownA
          omega
      · rw [if_neg hknownA, if_neg hknownA]
        have hlast : a = last := by
          rcases List.mem_append.mp ha with hold | hnew
          · exact absurd hold hknownA
          · exact List.mem_singleton.mp hnew
        by_cases hknownB : b ∈ values
        · rw [if_pos hknownB, if_pos hknownB]
          have h1 := hlt hknownB
          have h2 := List.idxOf_lt_length_of_mem hknownB
          omega
        · have hsame : b = a := by
            rcases List.mem_append.mp hb with hold | hnew
            · exact absurd hold hknownB
            · rw [hlast, List.mem_singleton.mp hnew]
          rw [hsame, if_neg hknownA, if_neg hknownA]
          exact iff_of_false (Nat.lt_irrefl _) (Nat.lt_irrefl _)

/-- The first operation does not have to come after the second, by the numbers
    of their identities and then by rank. -/
def numberedPrecede (compiled : Compiled) (known : List UInt64) (first second : FrameOp) : Bool :=
  let a := known.idxOf first.context.identity
  let b := known.idxOf second.context.identity
  a < b || (a = b && compiled.rankOrLowest first.pass ≤ compiled.rankOrLowest second.pass)

/-- The operations sorted by the numbers of their identities. A single one is
    left alone. -/
def sortByNumber (compiled : Compiled) (ops : List FrameOp) : List FrameOp :=
  if ops.length ≤ 1 then ops
  else ops.mergeSort (numberedPrecede compiled (numberIdentities ops))

theorem number_lt_iff (ops : List FrameOp) {first second : FrameOp} (hfirst : first ∈ ops)
    (hsecond : second ∈ ops) :
    (numberIdentities ops).idxOf first.context.identity
        < (numberIdentities ops).idxOf second.context.identity
      ↔ identityPosition ops first < identityPosition ops second := by
  rw [numberIdentities_eq, identityPosition_eq, identityPosition_eq]
  exact idxOf_eraseDups_lt_iff _ (List.mem_map.mpr ⟨first, hfirst, rfl⟩)
    (List.mem_map.mpr ⟨second, hsecond, rfl⟩)

theorem numberedPrecede_eq (compiled : Compiled) (ops : List FrameOp) {first second : FrameOp}
    (hfirst : first ∈ ops) (hsecond : second ∈ ops) :
    numberedPrecede compiled (numberIdentities ops) first second
      = mayPrecede compiled ops first second := by
  have hlt := number_lt_iff ops hfirst hsecond
  have hgt := number_lt_iff ops hsecond hfirst
  rw [Bool.eq_iff_iff, mayPrecede_iff]
  unfold numberedPrecede
  simp only [Bool.or_eq_true, Bool.and_eq_true, decide_eq_true_eq]
  omega

/-- Numbers sort as first occurrences do. -/
theorem sortByNumber_eq (compiled : Compiled) (ops : List FrameOp) :
    sortByNumber compiled ops = sortOps compiled ops := by
  unfold sortByNumber sortOps
  by_cases hlength : ops.length ≤ 1
  · rw [if_pos hlength]
    rcases Nat.le_one_iff_eq_zero_or_eq_one.mp hlength with hnone | hone
    · rw [List.length_eq_zero_iff.mp hnone, List.mergeSort_nil]
    · rcases List.length_eq_one_iff.mp hone with ⟨op, rfl⟩
      rw [List.mergeSort_singleton]
  · rw [if_neg hlength]
    -- Only members are compared, and for those numbers and positions agree.
    have hmapped := List.map_mergeSort (r := numberedPrecede compiled (numberIdentities ops))
      (s := mayPrecede compiled ops) (f := id) (l := ops)
      fun first hfirst second hsecond => numberedPrecede_eq compiled ops hfirst hsecond
    rwa [List.map_id, List.map_id] at hmapped

end Numbers

/-- What is arranged by the keys as they are computed is in the order of
    recording. -/
theorem RecordingOrder.of_sorted {passes : List Pass} {compiled : Compiled}
    (h : compile passes = .ok compiled) {ops : List FrameOp} {entries : List (FrameOp × Nat)}
    (hperm : entries.Perm ops.zipIdx) (hsorted : entries.Pairwise (SortedBefore compiled ops)) :
    RecordingOrder compiled ops entries where
  perm := hperm
  pairwise := by
    refine hsorted.imp ?_
    intro first second hbefore
    exact (compile_recordedBefore_iff passes compiled h ops first second).mpr hbefore

/-- There is one order of recording only. -/
theorem RecordingOrder.eq_sortedEntries {passes : List Pass} {compiled : Compiled}
    (h : compile passes = .ok compiled) {ops : List FrameOp} {entries : List (FrameOp × Nat)}
    (hentries : RecordingOrder compiled ops entries) : entries = sortedEntries compiled ops := by
  have hsorted := pairwise_sortedEntries compiled ops
  have hpairwise : entries.Pairwise (SortedBefore compiled ops) := by
    refine hentries.pairwise.imp ?_
    intro first second hbefore
    exact (compile_recordedBefore_iff passes compiled h ops first second).mp hbefore
  have hperm := hentries.perm.trans (perm_sortedEntries compiled ops).symm
  refine hperm.eq_of_pairwise ?_ hpairwise hsorted
  -- No two entries come before each other, so an arrangement leaves no choice.
  intro first second _ _ hbefore hafter
  exact absurd hafter hbefore.asymm

/-- Scheduling moves what draws to the presented image into one context and
    changes nothing else about an operation. Then it arranges the operations
    by where their identity first occurs, by the rank of their pass and by
    their place, which can be done in one way only and loses none. So the
    operations of an identity are neighbours, and identities come as they
    first occur. Numbering the identities instead gives the same. -/
theorem schedule_order (passes : List Pass) (compiled : Compiled)
    (h : compile passes = .ok compiled) (withBuckets : Bool) (ops : List FrameOp) :
    List.Forall₂ (FrameOp.SharedAs ops) ops (shareSwapchainContext ops)
      ∧ (∃ entries, RecordingOrder compiled (shareSwapchainContext ops) entries)
      ∧ (∀ entries, RecordingOrder compiled (shareSwapchainContext ops) entries →
          (schedule compiled withBuckets ops).ops = entries.map Prod.fst)
      ∧ (∀ (i j k : Nat) (first between last : FrameOp), i ≤ j → j ≤ k →
          (schedule compiled withBuckets ops).ops[i]? = some first →
          (schedule compiled withBuckets ops).ops[j]? = some between →
          (schedule compiled withBuckets ops).ops[k]? = some last →
          first.context.identity = last.context.identity →
          between.context.identity = first.context.identity)
      ∧ (∀ (i j : Nat) (first second : FrameOp),
          (schedule compiled withBuckets ops).ops[i]? = some first →
          (schedule compiled withBuckets ops).ops[j]? = some second →
          identityPosition (shareSwapchainContext ops) first
            < identityPosition (shareSwapchainContext ops) second →
          i < j)
      ∧ (schedule compiled withBuckets ops).ops
        = sortByNumber compiled (shareSwapchainContext ops) := by
  refine ⟨forall₂_shareSwapchain ops, ⟨_, RecordingOrder.of_sorted h
    (perm_sortedEntries compiled _) (pairwise_sortedEntries compiled _)⟩, ?_, ?_, ?_,
    (sortByNumber_eq compiled _).symm⟩
  · intro entries hentries
    rw [hentries.eq_sortedEntries h, map_sortedEntries]
    rfl
  · intro i j k first between last hij hjk hfirst hbetween hlast hsame
    exact identity_of_between compiled _ hij hjk hfirst hbetween hlast hsame
  · intro i j first second hfirst hsecond hlt
    by_contra hnot
    have hle := identityPosition_le compiled _ (Nat.le_of_not_lt hnot) hsecond hfirst
    omega

/-- Two passes that run as they are declared, the one of the higher index
    first. -/
def declaredLateFirst : List Pass := [⟨7, "late", .compute, []⟩, ⟨3, "early", .compute, []⟩]

/-- Work of both, of a pass nobody declared, and for the presented image under
    two identities. -/
def enqueuedMixed : List FrameOp := [
  ⟨3, ⟨20, .offscreen 1⟩, .dispatch ⟨5, 1, 1, 1⟩⟩,
  ⟨42, ⟨10, .swapchain⟩, .dispatch ⟨5, 1, 1, 2⟩⟩,
  ⟨7, ⟨20, .offscreen 1⟩, .dispatch ⟨5, 1, 1, 3⟩⟩,
  ⟨7, ⟨30, .swapchain⟩, .dispatch ⟨5, 1, 1, 4⟩⟩,
  ⟨3, ⟨20, .offscreen 1⟩, .dispatch ⟨5, 1, 1, 5⟩⟩]

/-- The identity that came first goes first, in it the pass declared first,
    and operations of one pass stay as they were. The pass nobody declared
    comes last on the presented image. -/
theorem schedule_order_enqueuedMixed :
    ∃ compiled, compile declaredLateFirst = .ok compiled
      ∧ (schedule compiled false enqueuedMixed).ops = [
        ⟨7, ⟨20, .offscreen 1⟩, .dispatch ⟨5, 1, 1, 3⟩⟩,
        ⟨3, ⟨20, .offscreen 1⟩, .dispatch ⟨5, 1, 1, 1⟩⟩,
        ⟨3, ⟨20, .offscreen 1⟩, .dispatch ⟨5, 1, 1, 5⟩⟩,
        ⟨7, ⟨10, .swapchain⟩, .dispatch ⟨5, 1, 1, 4⟩⟩,
        ⟨42, ⟨10, .swapchain⟩, .dispatch ⟨5, 1, 1, 2⟩⟩] := by
  have hcompile : compile declaredLateFirst = .ok (Compiled.ofOrder declaredLateFirst) := by
    rfl
  have hentries : RecordingOrder (Compiled.ofOrder declaredLateFirst)
      (shareSwapchainContext enqueuedMixed) [
        (⟨7, ⟨20, .offscreen 1⟩, .dispatch ⟨5, 1, 1, 3⟩⟩, 2),
        (⟨3, ⟨20, .offscreen 1⟩, .dispatch ⟨5, 1, 1, 1⟩⟩, 0),
        (⟨3, ⟨20, .offscreen 1⟩, .dispatch ⟨5, 1, 1, 5⟩⟩, 4),
        (⟨7, ⟨10, .swapchain⟩, .dispatch ⟨5, 1, 1, 4⟩⟩, 3),
        (⟨42, ⟨10, .swapchain⟩, .dispatch ⟨5, 1, 1, 2⟩⟩, 1)] := by
    refine RecordingOrder.of_sorted hcompile ?_ ?_
    · decide
    · decide
  exact ⟨_, hcompile,
    (schedule_order declaredLateFirst _ hcompile false enqueuedMixed).2.2.1 _ hentries⟩

end FrameGraph
