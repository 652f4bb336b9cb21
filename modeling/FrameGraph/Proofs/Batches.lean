import FrameGraph.Proofs.CompiledOrder
import Mathlib.Data.List.SplitBy

/-!
# Looking Up Batches

The planner asks for the batch of a pass by its index and compares the
answers. What is meant is that two passes share a batch, and this module
shows that the comparison decides it. Two facts make it so. The batches in a
row are the order of the passes again, so each index is in one of them and,
indices being distinct, in no other. And batches are numbered by their place,
so two batches of one number are the same batch.

## Main definitions

* `Compiled.SameBatch`: Two passes are in one batch.

## Theorems

* `Batch.flatMap_ofOrder`: The batches in a row are the order of the passes.
* `Batch.pairwise_ofOrder`: Batches are numbered in ascending order.
* `mem_of_batchOf`: What the lookup answers is a batch that has the index.
* `compile_batches_ascending`, `compile_batch_between`: A batch is without gaps.
* `compile_batchOf`: Every pass of a compilation has a batch.
* `compile_sameBatch_iff`: Equal answers mean one batch.
* `compile_sameBatch_refl`, `compile_sameBatch_trans`: Sharing a batch is an
  equivalence.
-/

namespace FrameGraph

namespace Batch

/-- Runs in a row are their batches in a row. A run without passes would have
    no batch, and nothing to say. -/
theorem flatMap_ofRuns (runs : List (List Pass)) (first : Nat) :
    ((runs.zipIdx first).filterMap fun run => ofRun? run.2 run.1).flatMap Batch.passes
      = runs.flatten.map Pass.index := by
  induction runs generalizing first with
  | nil => rfl
  | cons run rest ih =>
      rw [List.zipIdx_cons, List.flatten_cons, List.map_append, List.filterMap_cons]
      cases run with
      | nil => exact ih (first + 1)
      | cons pass passes =>
          rw [← ih (first + 1)]
          rfl

/-- The batches in a row are the order of the passes. -/
theorem flatMap_ofOrder (order : List Pass) :
    (ofOrder order).flatMap Batch.passes = order.map Pass.index := by
  unfold ofOrder
  rw [flatMap_ofRuns, List.flatten_splitBy]

theorem le_index_ofRuns (runs : List (List Pass)) (first : Nat) :
    ∀ batch ∈ (runs.zipIdx first).filterMap fun run => ofRun? run.2 run.1,
      first ≤ batch.index := by
  intro batch hbatch
  rcases List.mem_filterMap.mp hbatch with ⟨⟨run, place⟩, hrun, hof⟩
  have hle := List.le_snd_of_mem_zipIdx hrun
  cases run with
  | nil => exact absurd hof.symm (Option.some_ne_none batch)
  | cons pass passes =>
      rw [ofRun?, Option.some.injEq] at hof
      rw [← hof]
      exact hle

/-- Batches are numbered in ascending order. -/
theorem pairwise_ofRuns (runs : List (List Pass)) (first : Nat) :
    ((runs.zipIdx first).filterMap fun run => ofRun? run.2 run.1).Pairwise
      fun a b => a.index < b.index := by
  induction runs generalizing first with
  | nil => exact List.Pairwise.nil
  | cons run rest ih =>
      rw [List.zipIdx_cons, List.filterMap_cons]
      cases run with
      | nil => exact ih (first + 1)
      | cons pass passes =>
          -- The runs behind are numbered from one more on.
          refine List.pairwise_cons.mpr ⟨?_, ih (first + 1)⟩
          intro batch hbatch
          have := le_index_ofRuns rest (first + 1) batch hbatch
          change first < batch.index
          omega

theorem pairwise_ofOrder (order : List Pass) :
    (ofOrder order).Pairwise fun a b => a.index < b.index :=
  pairwise_ofRuns _ 0

end Batch

/-- Two members that a pairwise relation relates in neither direction are one
    member. -/
theorem eq_of_pairwise {α : Type} {R : α → α → Prop} {members : List α} (h : members.Pairwise R)
    {a b : α} (ha : a ∈ members) (hb : b ∈ members) (hab : ¬ R a b) (hba : ¬ R b a) :
    a = b := by
  rcases List.mem_iff_getElem.mp ha with ⟨i, hi, rfl⟩
  rcases List.mem_iff_getElem.mp hb with ⟨j, hj, rfl⟩
  rw [List.pairwise_iff_getElem] at h
  rcases Nat.lt_trichotomy i j with hlt | heq | hgt
  · exact absurd (h i j hi hj hlt) hab
  · subst heq
    rfl
  · exact absurd (h j i hj hi hgt) hba

/-- What the lookup answers is a batch that has the index. -/
theorem mem_of_batchOf (batches : List Batch) (index : PassIndex) (number : Nat)
    (h : Compiled.batchOf batches index = some number) :
    ∃ batch ∈ batches, batch.index = number ∧ index ∈ batch.passes := by
  unfold Compiled.batchOf batchLookup at h
  have hmem := List.mem_of_getLast? h
  rcases List.mem_map.mp hmem with ⟨entry, hentry, hnumber⟩
  rw [List.mem_filter] at hentry
  rcases List.mem_map.mp hentry.1 with ⟨batch, hbatch, rfl⟩
  exact ⟨batch, hbatch, hnumber, List.contains_iff_mem.mp hentry.2⟩

/-- The lookup answers if some batch has the index. -/
theorem batchOf_isSome (batches : List Batch) (index : PassIndex) (batch : Batch)
    (hbatch : batch ∈ batches) (hindex : index ∈ batch.passes) :
    ∃ number, Compiled.batchOf batches index = some number := by
  rw [← Option.ne_none_iff_exists']
  unfold Compiled.batchOf batchLookup
  intro hnone
  rw [List.getLast?_eq_none_iff, List.map_eq_nil_iff, List.filter_eq_nil_iff] at hnone
  have hentry : (batch.index, batch.passes) ∈ batches.map fun b => (b.index, b.passes) :=
    List.mem_map.mpr ⟨batch, hbatch, rfl⟩
  exact hnone _ hentry (List.contains_iff_mem.mpr hindex)

namespace Compiled

/-- Two passes are in one batch. -/
def SameBatch (compiled : Compiled) (p q : Pass) : Prop :=
  ∃ batch ∈ compiled.batches, p.index ∈ batch.passes ∧ q.index ∈ batch.passes

end Compiled

theorem compile_batches (passes : List Pass) (compiled : Compiled)
    (h : compile passes = .ok compiled) : compiled.batches = Batch.ofOrder compiled.order := by
  rcases (compile_eq_ok_iff passes compiled).mp h with ⟨_, placed, _, heq⟩
  rw [heq]
  rfl

/-- An index is in one batch only. -/
theorem compile_batch_unique (passes : List Pass) (compiled : Compiled)
    (h : compile passes = .ok compiled) (a b : Batch) (ha : a ∈ compiled.batches)
    (hb : b ∈ compiled.batches) (index : PassIndex) (hia : index ∈ a.passes)
    (hib : index ∈ b.passes) : a = b := by
  have hnodup := compile_order_nodup passes compiled h
  rw [← Batch.flatMap_ofOrder, ← compile_batches passes compiled h, List.nodup_flatMap] at hnodup
  -- Two batches with a common index are not disjoint, so they are one.
  refine eq_of_pairwise hnodup.2 ha hb ?_ ?_
  · intro hdisjoint
    exact hdisjoint hia hib
  · intro hdisjoint
    exact hdisjoint hib hia

/-- Along the order, batches come one after the other. -/
theorem compile_batches_ascending (passes : List Pass) (compiled : Compiled)
    (h : compile passes = .ok compiled) :
    compiled.order.Pairwise fun earlier later => ∀ a ∈ compiled.batches, ∀ b ∈ compiled.batches,
      earlier.index ∈ a.passes → later.index ∈ b.passes → a.index ≤ b.index := by
  have hbatches := compile_batches passes compiled h
  have hpairwise := Batch.pairwise_ofOrder compiled.order
  rw [← hbatches] at hpairwise
  have hindices : (compiled.order.map Pass.index).Pairwise fun x y =>
      ∀ a ∈ compiled.batches, ∀ b ∈ compiled.batches, x ∈ a.passes → y ∈ b.passes →
        a.index ≤ b.index := by
    rw [← Batch.flatMap_ofOrder, ← hbatches, List.pairwise_flatMap]
    constructor
    · -- Two members of one batch have no other.
      intro batch hbatch
      rw [List.pairwise_iff_forall_sublist]
      intro x y hsub a ha b hb hxa hyb
      have hx : x ∈ batch.passes := hsub.subset List.mem_cons_self
      have hy : y ∈ batch.passes := hsub.subset (List.mem_cons_of_mem _ List.mem_cons_self)
      rw [compile_batch_unique passes compiled h a batch ha hbatch x hxa hx,
        compile_batch_unique passes compiled h b batch hb hbatch y hyb hy]
    · refine hpairwise.imp_of_mem ?_
      intro first second hfirst hsecond hlt x hx y hy a ha b hb hxa hyb
      rw [compile_batch_unique passes compiled h a first ha hfirst x hxa hx,
        compile_batch_unique passes compiled h b second hb hsecond y hyb hy]
      omega
  exact List.pairwise_map.mp hindices

/-- What is ranked between two passes of a batch is in the batch. -/
theorem compile_batch_between (passes : List Pass) (compiled : Compiled)
    (h : compile passes = .ok compiled) (batch : Batch) (hbatch : batch ∈ compiled.batches)
    {first middle last : PassIndex} (hopens : first ∈ batch.passes)
    (hcloses : last ∈ batch.passes) (hranked : (compiled.rank? middle).isSome = true)
    (hafter : compiled.rankOrLowest first ≤ compiled.rankOrLowest middle)
    (hbefore : compiled.rankOrLowest middle ≤ compiled.rankOrLowest last) :
    middle ∈ batch.passes := by
  have hpairs := List.pairwise_iff_getElem.mp (compile_batches_ascending passes compiled h)
  have hnodup := compile_order_nodup passes compiled h
  -- Every index of a batch is at the place of its rank.
  have hplace : ∀ {index : PassIndex}, (∃ other ∈ compiled.batches, index ∈ other.passes) →
      ∃ (rank : Nat) (hlt : rank < compiled.order.length),
        compiled.order[rank].index = index ∧ compiled.rankOrLowest index = rank := by
    rintro index ⟨other, hother, hindex⟩
    have hmem : index ∈ compiled.order.map Pass.index := by
      rw [← Batch.flatMap_ofOrder, ← compile_batches passes compiled h]
      exact List.mem_flatMap.mpr ⟨other, hother, hindex⟩
    rcases List.mem_map.mp hmem with ⟨pass, hpass, rfl⟩
    rcases List.mem_iff_getElem.mp hpass with ⟨rank, hlt, rfl⟩
    refine ⟨rank, hlt, rfl, ?_⟩
    rw [Compiled.rankOrLowest, compiled.rank?_getElem hnodup rank hlt, Option.getD_some]
  -- Of two ranks the smaller has the smaller batch, also if they are one.
  have hascending : ∀ {x y : PassIndex}, compiled.rankOrLowest x ≤ compiled.rankOrLowest y →
      ∀ a ∈ compiled.batches, ∀ b ∈ compiled.batches, x ∈ a.passes → y ∈ b.passes →
        a.index ≤ b.index := by
    intro x y hle a ha b hb hxa hyb
    rcases hplace ⟨a, ha, hxa⟩ with ⟨m, hm, rfl, hrankX⟩
    rcases hplace ⟨b, hb, hyb⟩ with ⟨n, hn, rfl, hrankY⟩
    rw [hrankX, hrankY] at hle
    rcases Nat.lt_or_eq_of_le hle with hlt | rfl
    · exact hpairs m n hm hn hlt a ha b hb hxa hyb
    · rw [compile_batch_unique passes compiled h a b ha hb _ hxa hyb]
  have hmiddle : middle ∈ compiled.batches.flatMap Batch.passes := by
    rw [compile_batches passes compiled h, Batch.flatMap_ofOrder]
    by_contra hnot
    have hnone := (compiled.rank?_eq_none_iff middle).mpr fun pass hpass hindex =>
      hnot (List.mem_map.mpr ⟨pass, hpass, hindex⟩)
    rw [hnone] at hranked
    exact Bool.false_ne_true hranked
  rcases List.mem_flatMap.mp hmiddle with ⟨other, hother, hmem⟩
  have hle := hascending hafter batch hbatch other hother hopens hmem
  have hge := hascending hbefore other hother batch hbatch hmem hcloses
  have hpairwise := Batch.pairwise_ofOrder compiled.order
  rw [← compile_batches passes compiled h] at hpairwise
  have hone : other = batch := eq_of_pairwise hpairwise hother hbatch (by omega) (by omega)
  exact hone ▸ hmem

/-- Every pass of a compilation has a batch, and the lookup finds it. -/
theorem compile_batchOf (passes : List Pass) (compiled : Compiled)
    (h : compile passes = .ok compiled) (pass : Pass) (hpass : pass ∈ compiled.order) :
    ∃ batch ∈ compiled.batches, pass.index ∈ batch.passes
      ∧ Compiled.batchOf compiled.batches pass.index = some batch.index := by
  have hmem : pass.index ∈ compiled.batches.flatMap Batch.passes := by
    rw [compile_batches passes compiled h, Batch.flatMap_ofOrder]
    exact List.mem_map_of_mem hpass
  rcases List.mem_flatMap.mp hmem with ⟨batch, hbatch, hindex⟩
  -- The lookup might answer with another batch that has the index.
  rcases batchOf_isSome _ _ batch hbatch hindex with ⟨number, hnumber⟩
  rcases mem_of_batchOf _ _ number hnumber with ⟨other, hother, hsame, hotherIndex⟩
  have heq := compile_batch_unique passes compiled h batch other hbatch hother _ hindex hotherIndex
  refine ⟨batch, hbatch, hindex, ?_⟩
  rw [hnumber, heq, hsame]

/-- The lookup gives equal answers for two passes exactly if they are in one
    batch. -/
theorem compile_sameBatch_iff (passes : List Pass) (compiled : Compiled)
    (h : compile passes = .ok compiled) (p q : Pass) (hp : p ∈ compiled.order)
    (hq : q ∈ compiled.order) :
    Compiled.batchOf compiled.batches p.index = Compiled.batchOf compiled.batches q.index
      ↔ compiled.SameBatch p q := by
  rcases compile_batchOf passes compiled h p hp with ⟨a, ha, hpa, hfinda⟩
  rcases compile_batchOf passes compiled h q hq with ⟨b, hb, hqb, hfindb⟩
  rw [hfinda, hfindb, Option.some.injEq]
  constructor
  · intro hindex
    have hpairwise := Batch.pairwise_ofOrder compiled.order
    rw [← compile_batches passes compiled h] at hpairwise
    have heq : a = b := eq_of_pairwise hpairwise ha hb (by omega) (by omega)
    exact ⟨a, ha, hpa, heq ▸ hqb⟩
  · rintro ⟨batch, hbatch, hpb, hqb'⟩
    rw [compile_batch_unique passes compiled h a batch ha hbatch _ hpa hpb,
      compile_batch_unique passes compiled h b batch hb hbatch _ hqb hqb']

theorem compile_sameBatch_refl (passes : List Pass) (compiled : Compiled)
    (h : compile passes = .ok compiled) (pass : Pass) (hpass : pass ∈ compiled.order) :
    compiled.SameBatch pass pass := by
  rcases compile_batchOf passes compiled h pass hpass with ⟨batch, hbatch, hindex, _⟩
  exact ⟨batch, hbatch, hindex, hindex⟩

theorem compile_sameBatch_trans (passes : List Pass) (compiled : Compiled)
    (h : compile passes = .ok compiled) {p q r : Pass} (hpq : compiled.SameBatch p q)
    (hqr : compiled.SameBatch q r) : compiled.SameBatch p r := by
  rcases hpq with ⟨batch, hbatch, hp, hq⟩
  rcases hqr with ⟨other, hother, hq', hr⟩
  rw [compile_batch_unique passes compiled h other batch hother hbatch _ hq' hq] at hr
  exact ⟨batch, hbatch, hp, hr⟩

end FrameGraph
