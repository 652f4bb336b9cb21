import FrameGraph.Dependency.Analysis
import Mathlib.Data.Finset.Card
import Mathlib.Data.List.Induction
import Mathlib.Data.List.Nodup
import Mathlib.Logic.Basic
import Mathlib.Logic.Relation

/-!
# Edges and What They Stand For

The dependency graph of a list of passes is grown edge by edge, by two loops
over names and positions. What it says is much simpler: one pass has to run
before another if it is the writer before it, or if it writes what the other
only reads. `Precedes` states that of two positions, without the graph, and
`carries_dependencies` says that the graph holds exactly these edges.

The graph is not read through its list of edges but through `Carries`, which
asks whether some edge names a resource for two nodes. Adding an edge changes
`Carries` by exactly the pair and the name that were added, whether the edge
was there before or not, so the loops turn into membership in the lists they
run over.

Writers of one resource are chained, each to the next. That a writer also
comes before writers further down the chain is not an edge but a path, and
`transGen_of_writers` is the walk along the chain.

## Main definitions

* `DependencyGraph.Carries`: Some edge names a resource for two nodes.
* `DependencyGraph.Joined`: Some edge joins two nodes.
* `DependencyGraph.Reasoned`: Every edge names some resource.
* `WritesAt`, `ReadsAt`: What a position does to a resource.
* `Precedes`: One resource puts a position before another.
* `Depends`: Some resource does.

## Theorems

* `carries_addEdge`: What a graph carries after an edge was added.
* `carries_addEdges`: The same for a list of pairs.
* `forall_note`: What noting a reason keeps of all edges.
* `reasoned_addEdge`: Added edges name a resource.
* `eraseDups_concat`, `nodup_eraseDups`, `card_toFinset`: A list without repetitions.
* `mem_resourceNames_iff`: The names in use.
* `mem_zip_tail_iff`: Neighbours in an ascending list.
* `mem_dependencyPairs_iff`: The pairs of a resource are the ones it orders.
* `carries_dependencies`: The graph of some passes carries what they ask for.
* `joined_dependencies`: Nodes are joined exactly if one depends on the other.
* `transGen_of_writers`: Writers in order of declaration are on a path.
-/

namespace FrameGraph

namespace DependencyGraph

/-- Some edge puts one node before another because of the resource. -/
def Carries (graph : DependencyGraph) (u v : Nat) (resource : String) : Prop :=
  ∃ edge ∈ graph.edges, edge.producer = u ∧ edge.consumer = v ∧ resource ∈ edge.resources

/-- Some edge puts one node before another. -/
def Joined (graph : DependencyGraph) (u v : Nat) : Prop :=
  ∃ edge ∈ graph.edges, edge.producer = u ∧ edge.consumer = v

/-- No edge is there without a reason. -/
def Reasoned (graph : DependencyGraph) : Prop :=
  ∀ edge ∈ graph.edges, edge.resources ≠ []

theorem mem_noting_iff (edge : DependencyEdge) (name other : String) :
    other ∈ (edge.noting name).resources ↔ other ∈ edge.resources ∨ other = name := by
  unfold DependencyEdge.noting
  by_cases h : name ∈ edge.resources
  · rw [if_pos h]
    constructor
    · exact Or.inl
    · rintro (ho | rfl)
      · exact ho
      · exact h
  · rw [if_neg h]
    simp only [List.mem_append, List.mem_singleton]

theorem noting_ends (edge : DependencyEdge) (name : String) :
    (edge.noting name).producer = edge.producer
      ∧ (edge.noting name).consumer = edge.consumer := by
  unfold DependencyEdge.noting
  split <;> exact ⟨rfl, rfl⟩

/-- Noting a reason adds it to the edge of its two nodes and to no other. The
    induction is on the edges, as the search for the right one is. -/
theorem exists_note_iff (producer consumer : Nat) (name : String) (edges : List DependencyEdge)
    (u v : Nat) (resource : String) :
    (∃ edge ∈ note producer consumer name edges,
        edge.producer = u ∧ edge.consumer = v ∧ resource ∈ edge.resources)
      ↔ (∃ edge ∈ edges, edge.producer = u ∧ edge.consumer = v ∧ resource ∈ edge.resources)
        ∨ (u = producer ∧ v = consumer ∧ resource = name) := by
  induction edges with
  | nil =>
      simp only [note, List.mem_singleton, exists_eq_left, List.not_mem_nil, false_and,
        exists_false, false_or]
      constructor
      · rintro ⟨hu, hv, hr⟩
        exact ⟨hu.symm, hv.symm, hr⟩
      · rintro ⟨hu, hv, hr⟩
        exact ⟨hu.symm, hv.symm, hr⟩
  | cons edge rest ih =>
      by_cases h : edge.producer = producer ∧ edge.consumer = consumer
      · -- The search ends here, and the edge gets one more reason.
        have hnote : note producer consumer name (edge :: rest) = edge.noting name :: rest :=
          if_pos h
        rcases noting_ends edge name with ⟨hp, hc⟩
        simp only [hnote, List.mem_cons, exists_eq_or_imp, hp, hc, mem_noting_iff]
        rcases h with ⟨rfl, rfl⟩
        constructor
        · rintro (⟨hu, hv, hr | hr⟩ | hrest)
          · exact Or.inl (Or.inl ⟨hu, hv, hr⟩)
          · exact Or.inr ⟨hu.symm, hv.symm, hr⟩
          · exact Or.inl (Or.inr hrest)
        · rintro ((⟨hu, hv, hr⟩ | hrest) | ⟨hu, hv, hr⟩)
          · exact Or.inl ⟨hu, hv, Or.inl hr⟩
          · exact Or.inr hrest
          · exact Or.inl ⟨hu.symm, hv.symm, Or.inr hr⟩
      · have hnote : note producer consumer name (edge :: rest)
            = edge :: note producer consumer name rest := if_neg h
        simp only [hnote, List.mem_cons, exists_eq_or_imp, ih, or_assoc]

/-- Adding an edge adds the pair with its name and nothing else. A node is
    never put before itself. -/
theorem carries_addEdge (graph : DependencyGraph) (producer consumer : Nat) (name : String)
    (u v : Nat) (resource : String) :
    (graph.addEdge producer consumer name).Carries u v resource
      ↔ graph.Carries u v resource
        ∨ (producer ≠ consumer ∧ u = producer ∧ v = consumer ∧ resource = name) := by
  unfold addEdge
  by_cases h : producer = consumer
  · rw [if_pos h]
    simp only [h, ne_eq, not_true_eq_false, false_and, or_false]
  · rw [if_neg h]
    unfold Carries
    rw [exists_note_iff]
    simp only [ne_eq, h, not_false_eq_true, true_and]

/-- The pairs of one resource, added in a row. -/
theorem carries_addEdges (name : String) (pairs : List (Nat × Nat)) (graph : DependencyGraph)
    (u v : Nat) (resource : String) :
    (pairs.foldl (fun graph pair => graph.addEdge pair.1 pair.2 name) graph).Carries u v resource
      ↔ graph.Carries u v resource ∨ (u ≠ v ∧ (u, v) ∈ pairs ∧ resource = name) := by
  induction pairs generalizing graph with
  | nil => simp only [List.foldl_nil, List.not_mem_nil, false_and, and_false, or_false]
  | cons pair rest ih =>
      rw [List.foldl_cons, ih, carries_addEdge, List.mem_cons, Prod.ext_iff]
      constructor
      · rintro ((hg | ⟨hne, rfl, rfl, rfl⟩) | ⟨hne, hmem, rfl⟩)
        · exact Or.inl hg
        · exact Or.inr ⟨hne, Or.inl ⟨rfl, rfl⟩, rfl⟩
        · exact Or.inr ⟨hne, Or.inr hmem, rfl⟩
      · rintro (hg | ⟨hne, ⟨rfl, rfl⟩ | hmem, rfl⟩)
        · exact Or.inl (Or.inl hg)
        · exact Or.inl (Or.inr ⟨hne, rfl, rfl, rfl⟩)
        · exact Or.inr ⟨hne, hmem, rfl⟩

/-- What holds of a new edge, and is kept when an edge gets one more reason,
    holds of every edge afterwards. -/
theorem forall_note {producer consumer : Nat} {name : String} {motive : DependencyEdge → Prop}
    (hnew : motive ⟨producer, consumer, [name]⟩)
    (hnoting : ∀ edge, motive edge → motive (edge.noting name)) (edges : List DependencyEdge)
    (h : ∀ edge ∈ edges, motive edge) :
    ∀ edge ∈ note producer consumer name edges, motive edge := by
  induction edges with
  | nil =>
      intro edge hedge
      rw [note, List.mem_singleton] at hedge
      rw [hedge]
      exact hnew
  | cons first rest ih =>
      rw [List.forall_mem_cons] at h
      rw [note]
      split
      · exact List.forall_mem_cons.mpr ⟨hnoting first h.1, h.2⟩
      · exact List.forall_mem_cons.mpr ⟨h.1, ih h.2⟩

theorem reasoned_note (producer consumer : Nat) (name : String) (edges : List DependencyEdge)
    (h : ∀ edge ∈ edges, edge.resources ≠ []) :
    ∀ edge ∈ note producer consumer name edges, edge.resources ≠ [] :=
  forall_note (List.cons_ne_nil _ _)
    (fun edge _ => List.ne_nil_of_mem ((mem_noting_iff edge name name).mpr (Or.inr rfl))) edges h

theorem reasoned_addEdge (graph : DependencyGraph) (producer consumer : Nat) (name : String)
    (h : graph.Reasoned) : (graph.addEdge producer consumer name).Reasoned := by
  unfold addEdge
  split
  · exact h
  · exact reasoned_note producer consumer name graph.edges h

theorem reasoned_addEdges (name : String) (pairs : List (Nat × Nat)) (graph : DependencyGraph)
    (h : graph.Reasoned) :
    (pairs.foldl (fun graph pair => graph.addEdge pair.1 pair.2 name) graph).Reasoned := by
  induction pairs generalizing graph with
  | nil => exact h
  | cons pair rest ih => exact ih _ (reasoned_addEdge graph pair.1 pair.2 name h)

theorem size_addEdge (graph : DependencyGraph) (producer consumer : Nat) (name : String) :
    (graph.addEdge producer consumer name).size = graph.size := by
  unfold addEdge
  split <;> rfl

theorem size_addEdges (name : String) (pairs : List (Nat × Nat)) (graph : DependencyGraph) :
    (pairs.foldl (fun graph pair => graph.addEdge pair.1 pair.2 name) graph).size
      = graph.size := by
  induction pairs generalizing graph with
  | nil => rfl
  | cons pair rest ih => rw [List.foldl_cons, ih, size_addEdge]

/-- With a reason on every edge, being joined is being joined for a reason. -/
theorem joined_iff_carries (graph : DependencyGraph) (h : graph.Reasoned) (u v : Nat) :
    graph.Joined u v ↔ ∃ resource, graph.Carries u v resource := by
  constructor
  · rintro ⟨edge, hedge, hu, hv⟩
    rcases List.exists_mem_of_ne_nil _ (h edge hedge) with ⟨resource, hr⟩
    exact ⟨resource, edge, hedge, hu, hv, hr⟩
  · rintro ⟨resource, edge, hedge, hu, hv, _⟩
    exact ⟨edge, hedge, hu, hv⟩

end DependencyGraph

section Names

/-- One more member is new, or is there already. -/
theorem eraseDups_concat {α : Type} [BEq α] [LawfulBEq α] (list : List α) (last : α) :
    (list ++ [last]).eraseDups = list.eraseDups ++ (if last ∈ list then [] else [last]) := by
  rw [List.eraseDups_append]
  by_cases hold : last ∈ list
  · simp only [List.removeAll, List.elem_eq_mem, hold, List.filter_cons, decide_true,
      Bool.not_true, Bool.false_eq_true, if_false, List.filter_nil, if_true, List.eraseDups_nil]
  · simp only [List.removeAll, List.elem_eq_mem, hold, List.filter_cons, decide_false,
      Bool.not_false, if_true, List.filter_nil, if_false]
    rfl

/-- The list without repetitions has none. -/
theorem nodup_eraseDups {α : Type} [BEq α] [LawfulBEq α] (list : List α) :
    list.eraseDups.Nodup := by
  induction list using List.reverseRecOn with
  | nil => exact List.nodup_nil
  | append_singleton list last ih =>
      rw [eraseDups_concat]
      by_cases hold : last ∈ list
      · rw [if_pos hold, List.append_nil]
        exact ih
      · rw [if_neg hold, ← List.concat_eq_append]
        exact ih.concat fun hmem => hold (List.mem_eraseDups.mp hmem)

/-- How many members a list has, if each is counted once. -/
theorem card_toFinset {α : Type} [DecidableEq α] (list : List α) :
    list.toFinset.card = list.eraseDups.length := by
  have hsame : list.eraseDups.toFinset = list.toFinset :=
    List.toFinset.ext fun _ => List.mem_eraseDups
  rw [← hsame, List.toFinset_card_of_nodup (nodup_eraseDups _)]

/-- Who writes a resource uses it. -/
theorem Pass.uses_of_writes {pass : Pass} {resource : String}
    (h : pass.writes resource = true) : pass.uses resource = true := by
  rcases List.any_eq_true.mp h with ⟨usage, husage, hboth⟩
  exact List.any_eq_true.mpr ⟨usage, husage, (Bool.and_eq_true_iff.mp hboth).1⟩

/-- The names in use are those that some pass uses. -/
theorem mem_resourceNames_iff (passes : List Pass) (resource : String) :
    resource ∈ resourceNames passes ↔ ∃ pass ∈ passes, pass.uses resource = true := by
  simp only [resourceNames, List.mem_eraseDups, List.mem_flatMap, List.mem_map, Pass.uses,
    List.any_eq_true, decide_eq_true_eq]

end Names

section Positions

variable (passes : List Pass) (resource : String)

/-- The pass at a position writes the resource. -/
def WritesAt (position : Nat) : Prop :=
  ∃ pass, passes[position]? = some pass ∧ pass.writes resource = true

/-- The pass at a position uses the resource and does not write it. -/
def ReadsAt (position : Nat) : Prop :=
  ∃ pass, passes[position]? = some pass ∧ pass.uses resource = true
    ∧ pass.writes resource = false

/-- One resource puts a position before another: both write it and no pass
    between them does, or the first writes what the second only reads. -/
def Precedes (u v : Nat) : Prop :=
  (u < v ∧ WritesAt passes resource u ∧ WritesAt passes resource v
      ∧ ∀ w, u < w → w < v → ¬ WritesAt passes resource w)
    ∨ (WritesAt passes resource u ∧ ReadsAt passes resource v)

/-- Some resource puts a position before another. -/
def Depends (u v : Nat) : Prop := ∃ resource, Precedes passes resource u v

theorem mem_positionsWhere_iff (test : Pass → Bool) (position : Nat) :
    position ∈ positionsWhere passes test
      ↔ ∃ pass, passes[position]? = some pass ∧ test pass = true := by
  unfold positionsWhere
  rw [List.mem_map]
  constructor
  · rintro ⟨⟨pass, i⟩, hmem, rfl⟩
    rw [List.mem_filter, List.mk_mem_zipIdx_iff_getElem?] at hmem
    exact ⟨pass, hmem⟩
  · rintro ⟨pass, hget, htest⟩
    exact ⟨(pass, position),
      List.mem_filter.mpr ⟨List.mk_mem_zipIdx_iff_getElem?.mpr hget, htest⟩, rfl⟩

theorem pairwise_positionsWhere (test : Pass → Bool) :
    (positionsWhere passes test).Pairwise (· < ·) := by
  -- Positions are read off in order, and leaving some out keeps the order.
  have hsub : (positionsWhere passes test).Sublist (List.range passes.length) := by
    have hmap := (List.filter_sublist (p := fun entry : Pass × Nat => test entry.1)
      (l := passes.zipIdx)).map Prod.snd
    rwa [List.zipIdx_map_snd, ← List.range_eq_range'] at hmap
  exact List.pairwise_lt_range.sublist hsub

theorem mem_writersOf_iff (position : Nat) :
    position ∈ writersOf passes resource ↔ WritesAt passes resource position :=
  mem_positionsWhere_iff passes _ position

theorem mem_readersOf_iff (position : Nat) :
    position ∈ readersOf passes resource ↔ ReadsAt passes resource position := by
  unfold readersOf ReadsAt
  rw [mem_positionsWhere_iff]
  simp only [Bool.and_eq_true, Bool.not_eq_true']

/-- In an ascending list, two members are neighbours exactly if no member is
    between them. -/
theorem mem_zip_tail_iff (xs : List Nat) (h : xs.Pairwise (· < ·)) (u v : Nat) :
    (u, v) ∈ xs.zip xs.tail
      ↔ u ∈ xs ∧ v ∈ xs ∧ u < v ∧ ∀ w ∈ xs, ¬ (u < w ∧ w < v) := by
  induction xs with
  | nil => simp only [List.tail_nil, List.zip_nil_left, List.not_mem_nil, false_and]
  | cons x rest ih =>
      rw [List.pairwise_cons] at h
      rcases h with ⟨hx, hrest⟩
      cases rest with
      | nil =>
          simp only [List.tail_cons, List.zip_nil_right, List.not_mem_nil, List.mem_singleton,
            forall_eq, false_iff]
          rintro ⟨rfl, rfl, hlt, _⟩
          exact Nat.lt_irrefl _ hlt
      | cons y rest =>
          have hxy : x < y := hx y List.mem_cons_self
          have hy : ∀ z ∈ rest, y < z := (List.pairwise_cons.mp hrest).1
          rw [List.tail_cons, List.zip_cons_cons, List.mem_cons, Prod.mk.injEq]
          have ih := ih hrest
          rw [List.tail_cons] at ih
          rw [ih]
          constructor
          · rintro (⟨rfl, rfl⟩ | ⟨hu, hv, hlt, hnone⟩)
            · -- Nothing fits between the first two members.
              refine ⟨List.mem_cons_self, List.mem_cons_of_mem _ List.mem_cons_self, hxy, ?_⟩
              intro w hw hbetween
              rcases List.mem_cons.mp hw with rfl | hw
              · omega
              · rcases List.mem_cons.mp hw with rfl | hw
                · omega
                · have := hy w hw
                  omega
            · refine ⟨List.mem_cons_of_mem _ hu, List.mem_cons_of_mem _ hv, hlt, ?_⟩
              intro w hw hbetween
              rcases List.mem_cons.mp hw with rfl | hw
              · have := hx u hu
                omega
              · exact hnone w hw hbetween
          · rintro ⟨hu, hv, hlt, hnone⟩
            rcases List.mem_cons.mp hu with rfl | hu
            · -- The first member's neighbour is the second: any other would skip it.
              rcases List.mem_cons.mp hv with rfl | hv
              · exact absurd hlt (Nat.lt_irrefl _)
              rcases List.mem_cons.mp hv with rfl | hv
              · exact Or.inl ⟨rfl, rfl⟩
              · exact absurd ⟨hxy, hy v hv⟩
                  (hnone y (List.mem_cons_of_mem _ List.mem_cons_self))
            · refine Or.inr ⟨hu, ?_, hlt, fun w hw => hnone w (List.mem_cons_of_mem _ hw)⟩
              rcases List.mem_cons.mp hv with hvx | hv
              · have := hx u hu
                omega
              · exact hv

/-- The pairs of a resource are the positions it puts in order. -/
theorem mem_dependencyPairs_iff (u v : Nat) :
    (u, v) ∈ dependencyPairs passes resource ↔ Precedes passes resource u v := by
  have hchain := mem_zip_tail_iff (writersOf passes resource)
    (pairwise_positionsWhere passes _) u v
  simp only [mem_writersOf_iff] at hchain
  have hread : (u, v) ∈ ((readersOf passes resource).flatMap fun reader =>
        (writersOf passes resource).map fun writer => (writer, reader))
      ↔ WritesAt passes resource u ∧ ReadsAt passes resource v := by
    simp only [List.mem_flatMap, List.mem_map, Prod.mk.injEq]
    constructor
    · rintro ⟨reader, hreader, writer, hwriter, rfl, rfl⟩
      exact ⟨(mem_writersOf_iff passes resource writer).mp hwriter,
        (mem_readersOf_iff passes resource reader).mp hreader⟩
    · rintro ⟨hu, hv⟩
      exact ⟨v, (mem_readersOf_iff passes resource v).mpr hv, u,
        (mem_writersOf_iff passes resource u).mpr hu, rfl, rfl⟩
  unfold dependencyPairs Precedes
  rw [List.mem_append, hchain, hread]
  constructor
  · rintro (⟨hu, hv, hlt, hnone⟩ | hreads)
    · exact Or.inl ⟨hlt, hu, hv, fun w huw hwv hw => hnone w hw ⟨huw, hwv⟩⟩
    · exact Or.inr hreads
  · rintro (⟨hlt, hu, hv, hnone⟩ | hreads)
    · exact Or.inl ⟨hu, hv, hlt, fun w hw hbetween => hnone w hbetween.1 hbetween.2 hw⟩
    · exact Or.inr hreads

theorem writesAt_lt {position : Nat} (h : WritesAt passes resource position) :
    position < passes.length := by
  rcases h with ⟨pass, hget, _⟩
  exact (List.getElem?_eq_some_iff.mp hget).1

theorem readsAt_lt {position : Nat} (h : ReadsAt passes resource position) :
    position < passes.length := by
  rcases h with ⟨pass, hget, _⟩
  exact (List.getElem?_eq_some_iff.mp hget).1

theorem not_readsAt_of_writesAt {position : Nat} (h : WritesAt passes resource position) :
    ¬ ReadsAt passes resource position := by
  rintro ⟨reader, hreader, _, hno⟩
  rcases h with ⟨writer, hwriter, hyes⟩
  rw [hwriter, Option.some.injEq] at hreader
  rw [hreader, hno] at hyes
  exact absurd hyes Bool.false_ne_true

theorem Precedes.ne {u v : Nat} (h : Precedes passes resource u v) : u ≠ v := by
  rintro rfl
  rcases h with ⟨hlt, _⟩ | ⟨hw, hr⟩
  · exact Nat.lt_irrefl u hlt
  · exact not_readsAt_of_writesAt passes resource hw hr

theorem Precedes.writesAt {u v : Nat} (h : Precedes passes resource u v) :
    WritesAt passes resource u := by
  rcases h with ⟨_, hw, _⟩ | ⟨hw, _⟩
  · exact hw
  · exact hw

theorem Precedes.lt_length {u v : Nat} (h : Precedes passes resource u v) :
    u < passes.length ∧ v < passes.length := by
  refine ⟨writesAt_lt passes resource (Precedes.writesAt passes resource h), ?_⟩
  rcases h with ⟨_, _, hw, _⟩ | ⟨_, hr⟩
  · exact writesAt_lt passes resource hw
  · exact readsAt_lt passes resource hr

/-- A resource that some pass writes is among the names in use. -/
theorem mem_resourceNames {position : Nat} (h : WritesAt passes resource position) :
    resource ∈ resourceNames passes := by
  rcases h with ⟨pass, hget, hwrites⟩
  exact (mem_resourceNames_iff passes resource).mpr
    ⟨pass, List.mem_of_getElem? hget, Pass.uses_of_writes hwrites⟩

end Positions

/-- The loop over names, for any list of names. -/
theorem carries_addResources (passes : List Pass) (names : List String)
    (graph : DependencyGraph) (u v : Nat) (resource : String) :
    (names.foldl (fun graph name => (dependencyPairs passes name).foldl
        (fun graph pair => graph.addEdge pair.1 pair.2 name) graph) graph).Carries u v resource
      ↔ graph.Carries u v resource ∨ (resource ∈ names ∧ Precedes passes resource u v) := by
  induction names generalizing graph with
  | nil => simp only [List.foldl_nil, List.not_mem_nil, false_and, or_false]
  | cons name rest ih =>
      rw [List.foldl_cons, ih, DependencyGraph.carries_addEdges, List.mem_cons]
      constructor
      · rintro ((hg | ⟨_, hmem, rfl⟩) | ⟨hmem, hp⟩)
        · exact Or.inl hg
        · exact Or.inr ⟨Or.inl rfl, (mem_dependencyPairs_iff passes resource u v).mp hmem⟩
        · exact Or.inr ⟨Or.inr hmem, hp⟩
      · rintro (hg | ⟨rfl | hmem, hp⟩)
        · exact Or.inl (Or.inl hg)
        · exact Or.inl (Or.inr ⟨Precedes.ne passes resource hp,
            (mem_dependencyPairs_iff passes resource u v).mpr hp, rfl⟩)
        · exact Or.inr ⟨hmem, hp⟩

/-- The graph of some passes carries a resource between two positions exactly
    if the resource puts the one before the other. -/
theorem carries_dependencies (passes : List Pass) (u v : Nat) (resource : String) :
    (dependencies passes).Carries u v resource ↔ Precedes passes resource u v := by
  unfold dependencies
  rw [carries_addResources]
  constructor
  · rintro (⟨edge, hedge, _⟩ | ⟨_, hp⟩)
    · exact absurd hedge List.not_mem_nil
    · exact hp
  · intro hp
    exact Or.inr ⟨mem_resourceNames passes resource (Precedes.writesAt passes resource hp), hp⟩

theorem reasoned_dependencies (passes : List Pass) : (dependencies passes).Reasoned := by
  unfold dependencies
  refine List.foldlRecOn (motive := DependencyGraph.Reasoned) _ _ ?_ ?_
  · intro edge hedge
    exact absurd hedge List.not_mem_nil
  · intro graph hgraph name _
    exact DependencyGraph.reasoned_addEdges name _ graph hgraph

theorem size_dependencies (passes : List Pass) : (dependencies passes).size = passes.length := by
  unfold dependencies
  refine List.foldlRecOn (motive := fun graph : DependencyGraph => graph.size = passes.length)
    _ _ rfl ?_
  intro graph hgraph name _
  rw [DependencyGraph.size_addEdges, hgraph]

/-- Two positions are joined exactly if the one depends on the other. -/
theorem joined_dependencies (passes : List Pass) (u v : Nat) :
    (dependencies passes).Joined u v ↔ Depends passes u v := by
  -- An edge without a reason would be invisible to `Carries`; there is none.
  rw [DependencyGraph.joined_iff_carries _ (reasoned_dependencies passes)]
  simp only [carries_dependencies]
  exact Iff.rfl

/-- Of two writers of a resource, the one declared first is on a path to the
    other. The induction is on their distance: a writer between them splits
    the way into two shorter ones. -/
theorem transGen_of_writers (passes : List Pass) (resource : String) :
    ∀ (distance u v : Nat), u < v → v - u ≤ distance →
      WritesAt passes resource u → WritesAt passes resource v →
      Relation.TransGen (Depends passes) u v := by
  intro distance
  induction distance with
  | zero => intro u v hlt hle; omega
  | succ distance ih =>
      intro u v hlt hle hu hv
      by_cases hnone : ∀ w, u < w → w < v → ¬ WritesAt passes resource w
      · -- Neighbouring writers are joined by an edge of their own.
        exact Relation.TransGen.single ⟨resource, Or.inl ⟨hlt, hu, hv, hnone⟩⟩
      · simp only [not_forall, not_not, exists_prop] at hnone
        rcases hnone with ⟨w, huw, hwv, hw⟩
        exact (ih u w huw (by omega) hu hw).trans (ih w v hwv (by omega) hw hv)

end FrameGraph
