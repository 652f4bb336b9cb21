import FrameGraph.Proofs.Batches

/-!
# Batches as Runs

Batches are found by cutting the order of the passes wherever two neighbours
do not join. The passes can as well be taken one by one: a pass enters the
batch before it if it agrees with what was noted of that batch when it was
opened, and otherwise opens the next. This module shows that both give the
same batches, and what a pass can know of the others in its batch.

All of it rests on joining being transitive. The note on a batch is about
the first pass of its run, and the neighbour to compare with is the last. The
first joins every other pass of the run, so all of them agree with the note
and the comparison with the last may be made with the note instead.

Runs do not overlap, so neighbours that do not join are in no common batch,
and a batch is as long as it can be.

## Main definitions

* `Batch.opened`: A batch of one pass.
* `Batch.grow`: The batches after one more pass.

## Theorems

* `Batch.run_alike`: The passes of a run agree with the first.
* `Batch.splitBy_concat`, `Batch.splitBy_concat_apart`: The runs after one more
  pass.
* `Batch.foldl_grow`: Passes taken one by one give the batches.
* `isChain_sameRun`: Neighbours are in one run exactly if they join.
* `compile_batches_partition`: What the batches of a compilation are.
-/

namespace FrameGraph

open Gpu

namespace Pass

theorem joins_iff (first second : Pass) :
    first.joins second = true
      ↔ first.stage = .graphics ∧ second.stage = .graphics
        ∧ first.signature = second.signature := by
  simp only [joins, Bool.and_eq_true, decide_eq_true_eq, and_assoc]

/-- Joining is transitive. -/
instance : Trans (fun p q : Pass => p.joins q = true) (fun p q => p.joins q = true)
    (fun p q => p.joins q = true) where
  trans := by
    intro first second third h1 h2
    rw [joins_iff] at h1 h2 ⊢
    exact ⟨h1.1, h2.2.1, h1.2.2.trans h2.2.2⟩

end Pass

namespace Batch

section Runs

variable {order : List Pass} {runs : List (List Pass)} {run : List Pass} {last pass : Pass}

/-- The passes of a run agree with the first in all that is noted of a
    batch. -/
theorem run_alike {first : Pass} {rest : List Pass}
    (h : first :: rest ∈ order.splitBy Pass.joins) :
    ∀ pass ∈ first :: rest, pass.stage = first.stage ∧ pass.signature = first.signature := by
  have hchain : (first :: rest).IsChain fun p q => p.joins q = true :=
    List.isChain_of_mem_splitBy h
  intro pass hpass
  rcases List.mem_cons.mp hpass with rfl | hrest
  · exact ⟨rfl, rfl⟩
  · -- Joining is transitive, so the first pass joins every other of the run.
    have hjoins := (Pass.joins_iff first pass).mp (hchain.rel_cons hrest)
    exact ⟨hjoins.2.1.trans hjoins.1.symm, hjoins.2.2.symm⟩

/-- The last run goes on with a pass that its last one joins. -/
theorem splitBy_concat (h : order.splitBy Pass.joins = runs ++ [run])
    (hlast : run.getLast? = some last) (hjoins : last.joins pass = true) :
    (order ++ [pass]).splitBy Pass.joins = runs ++ [run ++ [pass]] := by
  rcases List.splitBy_eq_iff.mp h with ⟨hflat, hnil, hchain, hbounds⟩
  refine List.splitBy_eq_iff.mpr ⟨?_, ?_, ?_, ?_⟩
  · rw [hflat, List.flatten_concat, List.flatten_concat, List.append_assoc]
  · -- The last run has become longer, and is as little empty as the others.
    rw [List.mem_append, not_or] at hnil ⊢
    refine ⟨hnil.1, ?_⟩
    rw [List.mem_singleton]
    exact (List.append_ne_nil_of_right_ne_nil _ (List.cons_ne_nil pass [])).symm
  · intro other hother
    rcases List.mem_append.mp hother with hold | hnew
    · exact hchain other (List.mem_append_left _ hold)
    · -- In the longer run there is one new pair of neighbours, and it joins.
      rw [List.mem_singleton.mp hnew]
      refine (hchain run (List.mem_append_right _ List.mem_cons_self)).append
        (List.isChain_singleton pass) ?_
      intro p hp q hq
      rw [hlast, Option.mem_some_iff] at hp
      rw [List.head?_cons, Option.mem_some_iff] at hq
      rw [← hp, ← hq]
      exact hjoins
  · -- The cut before the last run is where it was, for the run has a first pass already.
    rw [List.isChain_append] at hbounds ⊢
    refine ⟨hbounds.1, List.isChain_singleton _, ?_⟩
    intro before hbefore other hother
    rw [List.head?_cons, Option.mem_some_iff] at hother
    rcases hbounds.2.2 before hbefore run rfl with ⟨hne, hrun, hapart⟩
    rw [← hother]
    refine ⟨hne, List.append_ne_nil_of_left_ne_nil hrun _, ?_⟩
    rw [List.head_append_of_ne_nil hrun]
    exact hapart

/-- A pass that the last one does not join is a run of its own. -/
theorem splitBy_concat_apart (h : order.splitBy Pass.joins = runs ++ [run])
    (hlast : run.getLast? = some last) (hapart : last.joins pass = false) :
    (order ++ [pass]).splitBy Pass.joins = (runs ++ [run]) ++ [[pass]] := by
  have hend : order.getLast? = some last := by
    rw [← List.flatten_splitBy Pass.joins order, h, List.flatten_concat, List.getLast?_append,
      hlast, Option.some_or]
  rw [List.splitBy_append_cons, h]
  · rfl
  · intro other hother
    rw [hend, Option.mem_some_iff] at hother
    rw [← hother]
    exact hapart

end Runs

section Numbering

/-- Runs that hold passes have a batch each, numbered by their place. -/
theorem map_some_ofRuns (runs : List (List Pass)) (hruns : [] ∉ runs) (first : Nat) :
    ((runs.zipIdx first).filterMap fun run => ofRun? run.2 run.1).map some
      = (runs.zipIdx first).map fun run => ofRun? run.2 run.1 := by
  induction runs generalizing first with
  | nil => rfl
  | cons run rest ih =>
      rw [List.mem_cons, not_or] at hruns
      rw [List.zipIdx_cons, List.filterMap_cons, List.map_cons, ← ih hruns.2]
      cases run with
      | nil => exact absurd rfl hruns.1
      | cons pass passes => rfl

theorem length_ofRuns (runs : List (List Pass)) (hruns : [] ∉ runs) (first : Nat) :
    ((runs.zipIdx first).filterMap fun run => ofRun? run.2 run.1).length = runs.length := by
  have h := congrArg List.length (map_some_ofRuns runs hruns first)
  rwa [List.length_map, List.length_map, List.length_zipIdx] at h

theorem ofRuns_concat (runs : List (List Pass)) (pass : Pass) (passes : List Pass) :
    ((runs ++ [pass :: passes]).zipIdx.filterMap fun run => ofRun? run.2 run.1)
      = (runs.zipIdx.filterMap fun run => ofRun? run.2 run.1)
        ++ [⟨runs.length, pass.stage, pass.signature, (pass :: passes).map Pass.index⟩] := by
  rw [List.zipIdx_append, List.filterMap_append, List.zipIdx_singleton, Nat.zero_add]
  rfl

variable {order : List Pass}

/-- A batch is that of the run at its place. -/
theorem exists_run {n : Nat} {batch : Batch} (h : (ofOrder order)[n]? = some batch) :
    ∃ first rest, (order.splitBy Pass.joins)[n]? = some (first :: rest)
      ∧ batch = ⟨n, first.stage, first.signature, (first :: rest).map Pass.index⟩ := by
  have hmap := congrArg (fun batches => batches[n]?)
    (map_some_ofRuns _ (List.nil_notMem_splitBy Pass.joins order) 0)
  change ((ofOrder order).map some)[n]? = _ at hmap
  rw [List.getElem?_map, h, Option.map_some, List.getElem?_map] at hmap
  rcases Option.map_eq_some_iff.mp hmap.symm with ⟨⟨run, place⟩, hentry, hbatch⟩
  rw [List.getElem?_zipIdx, Option.map_eq_some_iff] at hentry
  rcases hentry with ⟨run, hrun, heq⟩
  rw [Prod.mk.injEq, Nat.zero_add] at heq
  rcases heq with ⟨rfl, rfl⟩
  cases run with
  | nil => exact absurd hbatch.symm (Option.some_ne_none batch)
  | cons first rest => exact ⟨first, rest, hrun, (Option.some.inj hbatch).symm⟩

/-- A run is that of a batch. -/
theorem exists_batch {run : List Pass} (h : run ∈ order.splitBy Pass.joins) :
    ∃ batch ∈ ofOrder order, batch.passes = run.map Pass.index := by
  rcases List.mem_iff_getElem?.mp h with ⟨n, hn⟩
  cases run with
  | nil => exact absurd h (List.nil_notMem_splitBy Pass.joins order)
  | cons first rest => exact
        ⟨_, List.mem_filterMap.mpr ⟨_, List.mk_mem_zipIdx_iff_getElem?.mpr hn, rfl⟩, rfl⟩

end Numbering

/-- A batch that is opened by a pass. -/
def opened (number : Nat) (pass : Pass) : Batch :=
  ⟨number, pass.stage, pass.signature, [pass.index]⟩

/-- The batches after one more pass. It enters the last one if both draw and
    the attachments that were noted when the batch was opened are its own, and
    opens a new one otherwise. -/
def grow (batches : List Batch) (pass : Pass) : List Batch :=
  match batches.getLast? with
  | some last =>
    if pass.stage = .graphics ∧ last.stage = .graphics ∧ last.signature = pass.signature then
      batches.dropLast ++ [{ last with passes := last.passes ++ [pass.index] }]
    else batches ++ [opened batches.length pass]
  | none => [opened 0 pass]

/-- One more pass in the order makes the batches grow by it. -/
theorem ofOrder_concat (order : List Pass) (pass : Pass) :
    ofOrder (order ++ [pass]) = grow (ofOrder order) pass := by
  rcases List.eq_nil_or_concat' (order.splitBy Pass.joins) with hnone | ⟨runs, run, hruns⟩
  · rw [List.splitBy_eq_nil.mp hnone]
    rfl
  · have hnil := List.nil_notMem_splitBy Pass.joins order
    rw [hruns, List.mem_append, not_or] at hnil
    cases run with
    | nil => exact absurd List.mem_cons_self hnil.2
    | cons first rest =>
        have hrun : first :: rest ∈ order.splitBy Pass.joins := by
          rw [hruns]
          exact List.mem_append_right _ List.mem_cons_self
        have hlast : (first :: rest).getLast?
            = some ((first :: rest).getLast (List.cons_ne_nil first rest)) :=
          List.getLast?_eq_some_getLast _
        -- The note is about the first pass of the run, and the last agrees with it.
        have halike := run_alike hrun _ (List.getLast_mem (List.cons_ne_nil first rest))
        unfold ofOrder grow
        rw [hruns, ofRuns_concat, List.getLast?_concat]
        dsimp only
        by_cases hjoins : pass.stage = .graphics ∧ first.stage = .graphics
            ∧ first.signature = pass.signature
        · -- The run goes on, and its batch keeps its note.
          rw [if_pos hjoins, List.dropLast_concat,
            splitBy_concat hruns hlast ((Pass.joins_iff _ pass).mpr
              ⟨halike.1.trans hjoins.2.1, hjoins.1, halike.2.trans hjoins.2.2⟩),
            List.cons_append, ofRuns_concat, ← List.cons_append, List.map_append]
          rfl
        · -- A new run is numbered by how many there are.
          rw [if_neg hjoins, splitBy_concat_apart hruns hlast, ofRuns_concat, ofRuns_concat,
            List.length_append, List.length_append, length_ofRuns runs hnil.1]
          · rfl
          · rw [← Bool.not_eq_true, Pass.joins_iff, halike.1, halike.2]
            exact fun h => hjoins ⟨h.2.1, h.1, h.2.2⟩

/-- The passes of an order, taken one by one, give its batches. -/
theorem foldl_grow (order : List Pass) : order.foldl grow [] = ofOrder order := by
  induction order using List.reverseRecOn with
  | nil => rfl
  | append_singleton order pass ih =>
      rw [List.foldl_append, ih, List.foldl_cons, List.foldl_nil, ofOrder_concat]

end Batch

section Neighbours

variable {order : List Pass} (hnodup : (order.map Pass.index).Nodup)

include hnodup

/-- A pass of the order is in a run exactly if its index is. -/
theorem mem_run_iff {run : List Pass} (hrun : run ∈ order.splitBy Pass.joins) {pass : Pass}
    (hpass : pass ∈ order) : pass.index ∈ run.map Pass.index ↔ pass ∈ run := by
  constructor
  · intro hindex
    rcases List.mem_map.mp hindex with ⟨other, hother, hsame⟩
    have hmem : other ∈ order := by
      rw [← List.flatten_splitBy Pass.joins order]
      exact List.mem_flatten.mpr ⟨run, hrun, hother⟩
    exact List.inj_on_of_nodup_map hnodup hmem hpass hsame ▸ hother
  · exact List.mem_map_of_mem

/-- Neighbours are in one run exactly if they join. -/
theorem isChain_sameRun :
    order.IsChain fun p q =>
      (∃ run ∈ order.splitBy Pass.joins, p ∈ run ∧ q ∈ run) ↔ p.joins q = true := by
  have hflat := List.flatten_splitBy Pass.joins order
  have hdisjoint : (order.splitBy Pass.joins).Pairwise List.Disjoint := by
    have hpasses := hnodup.of_map
    rw [← hflat, List.nodup_flatten] at hpasses
    exact hpasses.2
  have hcuts := List.isChain_getLast_head_splitBy Pass.joins order
  suffices h : (order.splitBy Pass.joins).flatten.IsChain fun p q =>
      (∃ run ∈ order.splitBy Pass.joins, p ∈ run ∧ q ∈ run) ↔ p.joins q = true by
    rwa [hflat] at h
  -- Neighbours are neighbours in a run, or the last of one and the first of the next.
  rw [List.isChain_flatten (List.nil_notMem_splitBy Pass.joins order)]
  constructor
  · intro run hrun
    refine (List.isChain_of_mem_splitBy hrun).imp_of_mem_imp ?_
    intro p q hp hq hjoins
    exact iff_of_true ⟨run, hrun, hp, hq⟩ hjoins
  · rw [List.isChain_iff_getElem] at hcuts ⊢
    intro i hi p hp q hq
    rcases hcuts i hi with ⟨_, _, hapart⟩
    rw [List.getLast_of_mem_getLast? hp, List.head_of_mem_head? hq] at hapart
    have hends := List.mem_of_mem_getLast? hp
    have hbegins := List.mem_of_mem_head? hq
    refine iff_of_false ?_ (by rw [hapart]; exact Bool.false_ne_true)
    rintro ⟨run, hrun, hpRun, hqRun⟩
    -- Such a run would be the one that ends here and the one that begins here.
    have hfirst : run = (order.splitBy Pass.joins)[i] :=
      eq_of_pairwise hdisjoint hrun (List.getElem_mem _) (fun h => h hpRun hends)
        (fun h => h hends hpRun)
    have hsecond : run = (order.splitBy Pass.joins)[i + 1] :=
      eq_of_pairwise hdisjoint hrun (List.getElem_mem _) (fun h => h hqRun hbegins)
        (fun h => h hbegins hqRun)
    exact List.pairwise_iff_getElem.mp hdisjoint i (i + 1) _ hi (Nat.lt_succ_self i)
      (hfirst ▸ hpRun) (hsecond ▸ hpRun)

end Neighbours

/-- Passes of a compilation are in one batch exactly if they are in one
    run. -/
theorem compile_sameBatch_iff_run (passes : List Pass) (compiled : Compiled)
    (h : compile passes = .ok compiled) {p q : Pass} (hp : p ∈ compiled.order)
    (hq : q ∈ compiled.order) :
    compiled.SameBatch p q
      ↔ ∃ run ∈ compiled.order.splitBy Pass.joins, p ∈ run ∧ q ∈ run := by
  have hnodup := compile_order_nodup passes compiled h
  have hbatches := compile_batches passes compiled h
  constructor
  · rintro ⟨batch, hbatch, hpBatch, hqBatch⟩
    rw [hbatches] at hbatch
    rcases List.mem_iff_getElem?.mp hbatch with ⟨n, hn⟩
    rcases Batch.exists_run hn with ⟨first, rest, hrun, rfl⟩
    have hmem := List.mem_of_getElem? hrun
    exact ⟨first :: rest, hmem, (mem_run_iff hnodup hmem hp).mp hpBatch,
      (mem_run_iff hnodup hmem hq).mp hqBatch⟩
  · rintro ⟨run, hrun, hpRun, hqRun⟩
    rcases Batch.exists_batch hrun with ⟨batch, hbatch, hpasses⟩
    refine ⟨batch, hbatches ▸ hbatch, ?_, ?_⟩
    · rw [hpasses]
      exact List.mem_map_of_mem hpRun
    · rw [hpasses]
      exact List.mem_map_of_mem hqRun

/-- The batches of a compilation are what its passes, taken one by one,
    give. In a row they are the order of the passes, each is numbered by its
    place and agrees with all of its passes, and neighbours share one exactly
    if both draw to the same attachments. -/
theorem compile_batches_partition (passes : List Pass) (compiled : Compiled)
    (h : compile passes = .ok compiled) :
    compiled.batches = compiled.order.foldl Batch.grow []
      ∧ compiled.batches.flatMap Batch.passes = compiled.order.map Pass.index
      ∧ (∀ (n : Nat) (batch : Batch), compiled.batches[n]? = some batch →
          batch.index = n ∧ batch.passes ≠ []
            ∧ ∀ pass ∈ compiled.order, pass.index ∈ batch.passes →
              pass.stage = batch.stage ∧ pass.signature = batch.signature)
      ∧ ∀ (n : Nat) (p q : Pass), compiled.order[n]? = some p → compiled.order[n + 1]? = some q →
          (compiled.SameBatch p q
            ↔ p.stage = .graphics ∧ q.stage = .graphics ∧ p.signature = q.signature) := by
  have hnodup := compile_order_nodup passes compiled h
  have hbatches := compile_batches passes compiled h
  refine ⟨?_, ?_, ?_, ?_⟩
  · rw [hbatches, Batch.foldl_grow]
  · rw [hbatches, Batch.flatMap_ofOrder]
  · intro n batch hbatch
    rw [hbatches] at hbatch
    rcases Batch.exists_run hbatch with ⟨first, rest, hrun, rfl⟩
    refine ⟨rfl, List.cons_ne_nil _ _, ?_⟩
    intro pass hpass hindex
    have hmem := List.mem_of_getElem? hrun
    exact Batch.run_alike hmem pass ((mem_run_iff hnodup hmem hpass).mp hindex)
  · intro n p q hp hq
    rw [compile_sameBatch_iff_run passes compiled h (List.mem_of_getElem? hp)
      (List.mem_of_getElem? hq), ← Pass.joins_iff]
    rcases List.getElem?_eq_some_iff.mp hp with ⟨_, rfl⟩
    rcases List.getElem?_eq_some_iff.mp hq with ⟨hlt, rfl⟩
    exact List.isChain_iff_getElem.mp (isChain_sameRun hnodup) n hlt

/-- Three passes draw to the presented image, and the last of them does not
    keep what it draws. -/
def drawnInRuns : List Pass := [
  ⟨0, "opaque", .graphics,
    [Usage.attachment .colorAttachment "swapchain" LoadOp.load StoreOp.store]⟩,
  ⟨1, "transparent", .graphics,
    [Usage.attachment .colorAttachment "swapchain" LoadOp.load StoreOp.store]⟩,
  ⟨2, "preview", .graphics,
    [Usage.attachment .colorAttachment "swapchain" LoadOp.load StoreOp.dontCare]⟩,
  ⟨3, "count", .compute, []⟩]

/-- The first two share a batch, and the third has its own. -/
theorem compile_batches_partition_drawnInRuns :
    compile drawnInRuns = .ok (Compiled.ofOrder drawnInRuns)
      ∧ (drawnInRuns.foldl Batch.grow []).map Batch.passes = [[0, 1], [2], [3]]
      ∧ ∀ p q, drawnInRuns[0]? = some p → drawnInRuns[1]? = some q →
          (Compiled.ofOrder drawnInRuns).SameBatch p q := by
  have hcompile : compile drawnInRuns = .ok (Compiled.ofOrder drawnInRuns) := by
    rfl
  rcases compile_batches_partition drawnInRuns _ hcompile with ⟨hgrown, _, _, hneighbours⟩
  refine ⟨hcompile, ?_, ?_⟩
  · decide +kernel
  · intro p q hp hq
    refine (hneighbours 0 p q hp hq).mpr ?_
    cases hp
    cases hq
    exact ⟨rfl, rfl, rfl⟩

end FrameGraph
