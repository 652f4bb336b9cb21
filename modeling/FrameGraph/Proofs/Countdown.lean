import FrameGraph.Proofs.Placement
import Mathlib.Data.List.Sort
import Mathlib.Logic.Function.Basic

/-!
# Counting Down

`DependencyGraph.order` asks of every node left whether one of its producers
is left, again in every round. The usual way to sort is to keep a counter for
each node instead: how many of its producers are still to be placed. Placing
a node counts its consumers down, and one that reaches zero joins the nodes
that are ready. Nothing is searched twice, but now there is bookkeeping that
can go wrong. A counter could be counted below zero, a node could be made
ready twice or not at all, and the report of a cycle is read off whatever the
counters hold at the end.

None of this happens. `countedOrder` is that loop, with a step that has no
answer where a counter would fall below zero, and it answers with the order
of the graph. What carries the loop is that the counters are never more than
a copy: at each point they are the numbers of producers left, and the ready
nodes are the nodes left whose number is zero (`Countdown.counting`). The
nodes left are closed under consumers, so a consumer of the node that is
placed is always there to be counted down. A round for each node is enough
for the loop to run out of ready nodes.

## Main definitions

* `Countdown`: The counters and the nodes that are ready.
* `Countdown.release`: One producer of a node has been placed.
* `DependencyGraph.countDown`: Place ready nodes, the smallest first.
* `DependencyGraph.countedOrder`: The order, by counting down.
* `DependencyGraph.waitsFor`: How many producers of a node are left.
* `DependencyGraph.Closed`: With a node, all its consumers are left.

## Theorems

* `filter_orderedInsert`: A node that passes a test from now on.
* `map_range_set`, `ready_update`: What changes with one number.
* `release_counting`: Counting one node down.
* `releaseAll_counting`: Counting down all consumers of a node.
* `waitsFor_erase`: What placing a node does to the numbers of producers left.
* `releaseAll_successors`: One round keeps the counters right.
* `countDown_counting`: So does the loop, which places what `place` does.
* `filter_counts_stuck`: The report read off the counters.
* `countedOrder_eq`: Counting down never fails, and answers with the order.
-/

namespace FrameGraph

/-- What is known while nodes are placed. -/
structure Countdown where
  /-- For each node, how many of its producers are still to be placed. -/
  counts : List Nat
  /-- The nodes not placed that wait for no other, ascending. -/
  ready : List Nat
  deriving DecidableEq, Repr

namespace Countdown

/-- One producer of a node has been placed. There is no answer if the node
    is none, or if its counter is at zero already. -/
def release (state : Countdown) (node : Nat) : Option Countdown :=
  match state.counts[node]? with
  | some (count + 1) =>
    some ⟨state.counts.set node count,
      if count = 0 then state.ready.orderedInsert (· ≤ ·) node else state.ready⟩
  | _ => none

/-- The counters hold given numbers, and of some nodes those are ready whose
    number is zero. -/
def counting (size : Nat) (nodes : List Nat) (numbers : Nat → Nat) : Countdown :=
  ⟨(List.range size).map numbers, nodes.filter fun node => numbers node = 0⟩

end Countdown

namespace DependencyGraph

/-- Place the smallest ready node and count its consumers down until none is
    ready. The answer is the nodes placed and what is known at the end. There
    is none if a node is still ready after a number of rounds. -/
def countDown (graph : DependencyGraph) : Nat → Countdown → Option (List Nat × Countdown)
  | 0, state => if state.ready = [] then some ([], state) else none
  | rounds + 1, state =>
    match state.ready with
    | [] => some ([], state)
    | node :: rest =>
      ((graph.successors node).foldlM Countdown.release ⟨state.counts, rest⟩).bind fun next =>
        (graph.countDown rounds next).map fun answer => (node :: answer.1, answer.2)

/-- All nodes, producers before consumers, or the nodes whose counters are
    left above zero. -/
def countedOrder (graph : DependencyGraph) : Option (Except (List Nat) (List Nat)) :=
  let nodes := List.range graph.size
  let start := Countdown.mk (nodes.map graph.inDegree)
    (nodes.filter fun node => graph.inDegree node = 0)
  (graph.countDown graph.size start).map fun answer =>
    if answer.1.length = graph.size then .ok answer.1
    else .error (nodes.filter fun node => 0 < (answer.2.counts[node]?).getD 0)

/-- How many edges to a node come from the nodes left. -/
def waitsFor (graph : DependencyGraph) (left : List Nat) (node : Nat) : Nat :=
  graph.edges.countP fun edge => edge.consumer = node && left.contains edge.producer

/-- With a node, all its consumers are left. -/
def Closed (graph : DependencyGraph) (left : List Nat) : Prop :=
  ∀ u v, graph.Joined u v → u ∈ left → v ∈ left

end DependencyGraph

/-- The first member that passes a test, and the members behind it that do. -/
theorem filter_of_find? {nodes : List Nat} {test : Nat → Bool} {node : Nat}
    (h : nodes.find? test = some node) :
    nodes.filter test = node :: (nodes.erase node).filter test := by
  have hhead : (nodes.filter test).head? = some node := by
    rw [List.head?_filter, h]
  rcases List.head?_eq_some_iff.mp hhead with ⟨later, hlater⟩
  rw [← List.erase_filter, hlater, List.erase_cons_head]

/-- In an ascending list, putting a member among the ones that pass a test
    is letting it pass. -/
theorem filter_orderedInsert {nodes : List Nat} (hascending : nodes.Pairwise (· < ·))
    (test : Nat → Bool) (node : Nat) (hnode : node ∈ nodes) (htest : test node = false) :
    (nodes.filter test).orderedInsert (· ≤ ·) node
      = nodes.filter fun other => other = node || test other := by
  have hnodup : nodes.Nodup := hascending.imp Nat.ne_of_lt
  have hmem : node ∈ nodes.filter fun other => other = node || test other := by
    rw [List.mem_filter, decide_eq_true rfl, Bool.true_or]
    exact ⟨hnode, rfl⟩
  have hsorted : (nodes.filter fun other => other = node || test other).Pairwise (· ≤ ·) :=
    (hascending.imp Nat.le_of_lt).sublist List.filter_sublist
  -- Without the member, the ones that pass are those that passed before.
  have herase : (nodes.filter fun other => other = node || test other).erase node
      = nodes.filter test := by
    rw [(hnodup.filter _).erase_eq_filter, List.filter_filter]
    refine List.filter_congr ?_
    intro other _
    by_cases hother : other = node
    · rw [hother, htest, bne_self_eq_false, Bool.false_and]
    · rw [bne_iff_ne.mpr hother, decide_eq_false hother, Bool.true_and, Bool.false_or]
  rw [← herase, List.orderedInsert_erase node _ hmem hsorted]

/-- What is written down for every node is found under the nodes. -/
theorem getElem?_map_range {α : Type} (size : Nat) (values : Nat → α) (node : Nat) :
    ((List.range size).map values)[node]? = if node < size then some (values node) else none := by
  split
  · next hlt => rw [List.getElem?_map, List.getElem?_range hlt, Option.map_some]
  · next hlt =>
    rw [List.getElem?_eq_none_iff, List.length_map, List.length_range]
    exact Nat.le_of_not_lt hlt

/-- A value in a list by nodes is replaced where its node stands. -/
theorem map_range_set {α : Type} (size : Nat) (values : Nat → α) (node : Nat) (value : α)
    (h : node < size) :
    ((List.range size).map values).set node value
      = (List.range size).map (Function.update values node value) := by
  have hplace : (List.range size).idxOf node = node := by
    have hlt : node < (List.range size).length := by
      rw [List.length_range]
      exact h
    have hget := List.nodup_range.idxOf_getElem node hlt
    rwa [List.getElem_range] at hget
  rw [List.nodup_range.map_update, if_pos (List.mem_range.mpr h), hplace]

namespace Countdown

theorem getElem?_counting (size : Nat) (nodes : List Nat) (numbers : Nat → Nat) {node : Nat}
    (h : node < size) : (counting size nodes numbers).counts[node]? = some (numbers node) := by
  rw [counting, List.getElem?_map, List.getElem?_range h, Option.map_some]

/-- A node that waits becomes ready when its number is set to zero, and
    changes nothing while it is set to anything else. -/
theorem ready_update {nodes : List Nat} (hascending : nodes.Pairwise (· < ·))
    (numbers : Nat → Nat) (node count : Nat) (hnode : node ∈ nodes) (hwaits : numbers node ≠ 0) :
    (if count = 0 then (nodes.filter fun other => numbers other = 0).orderedInsert (· ≤ ·) node
      else nodes.filter fun other => numbers other = 0)
      = nodes.filter fun other => Function.update numbers node count other = 0 := by
  by_cases hzero : count = 0
  · rw [if_pos hzero, filter_orderedInsert hascending _ node hnode (decide_eq_false hwaits)]
    refine List.filter_congr ?_
    intro other _
    by_cases hother : other = node
    · rw [hother, Function.update_self, hzero, decide_eq_true rfl, decide_eq_true rfl,
        Bool.true_or]
    · rw [Function.update_of_ne hother, decide_eq_false hother, Bool.false_or]
  · rw [if_neg hzero]
    refine List.filter_congr ?_
    intro other _
    by_cases hother : other = node
    · rw [hother, Function.update_self, decide_eq_false hwaits, decide_eq_false hzero]
    · rw [Function.update_of_ne hother]

/-- Counting one node down changes its number, and makes it ready at zero. -/
theorem release_counting (size : Nat) {nodes : List Nat} (hascending : nodes.Pairwise (· < ·))
    (numbers : Nat → Nat) (node count : Nat) (hnode : node ∈ nodes) (hsize : node < size)
    (hcount : numbers node = count + 1) :
    (counting size nodes numbers).release node
      = some (counting size nodes (Function.update numbers node count)) := by
  have hwaits : numbers node ≠ 0 := hcount ▸ Nat.succ_ne_zero count
  rw [release, getElem?_counting size nodes numbers hsize, hcount]
  simp only [counting, Option.some.injEq, Countdown.mk.injEq]
  exact ⟨map_range_set size numbers node count hsize,
    ready_update hascending numbers node count hnode hwaits⟩

/-- Counting down several nodes, some of them perhaps more than once, takes
    as much off each number as the node occurs. -/
theorem releaseAll_counting (size : Nat) {nodes : List Nat}
    (hascending : nodes.Pairwise (· < ·)) (hsize : ∀ node ∈ nodes, node < size)
    (consumers : List Nat) (numbers : Nat → Nat) (hmem : ∀ node ∈ consumers, node ∈ nodes)
    (hle : ∀ node, consumers.count node ≤ numbers node) :
    consumers.foldlM release (counting size nodes numbers)
      = some (counting size nodes fun node => numbers node - consumers.count node) := by
  induction consumers generalizing numbers with
  | nil => rfl
  | cons first rest ih =>
      rw [List.forall_mem_cons] at hmem
      have hfirst := hle first
      rw [List.count_cons_self] at hfirst
      rcases Nat.exists_eq_add_of_lt hfirst with ⟨spare, hspare⟩
      have hcount : numbers first = (numbers first - 1) + 1 := by omega
      rw [List.foldlM_cons, release_counting size hascending numbers first (numbers first - 1)
        hmem.1 (hsize first hmem.1) hcount, Option.bind_eq_bind, Option.bind_some]
      -- One less is asked of the first node, and it has one less to give.
      have hrest : ∀ node, rest.count node
          ≤ Function.update numbers first (numbers first - 1) node := by
        intro node
        by_cases hnode : node = first
        · rw [hnode, Function.update_self]
          omega
        · have hnodeLe := hle node
          rw [List.count_cons_of_ne (Ne.symm hnode)] at hnodeLe
          rw [Function.update_of_ne hnode]
          exact hnodeLe
      rw [ih _ hmem.2 hrest]
      refine congrArg (fun numbers => some (counting size nodes numbers)) ?_
      funext node
      by_cases hnode : node = first
      · rw [hnode, Function.update_self, List.count_cons_self]
        omega
      · rw [Function.update_of_ne hnode, List.count_cons_of_ne (Ne.symm hnode)]

end Countdown

namespace DependencyGraph

variable (graph : DependencyGraph)

/-- A node is ready if it waits for none of the nodes left. -/
theorem ready_eq_waitsFor (left : List Nat) (node : Nat) :
    graph.ready left node = decide (graph.waitsFor left node = 0) := by
  unfold ready waitsFor
  rw [Bool.eq_iff_iff, List.all_eq_true, decide_eq_true_eq, List.countP_eq_zero]
  simp only [Bool.not_eq_true', Bool.not_eq_true]

theorem waitsFor_pos_iff (left : List Nat) (node : Nat) :
    0 < graph.waitsFor left node ↔ ∃ u ∈ left, graph.Joined u node := by
  unfold waitsFor
  rw [List.countP_pos_iff]
  simp only [Bool.and_eq_true, decide_eq_true_eq, List.contains_eq_mem]
  constructor
  · rintro ⟨edge, hedge, hconsumer, hleft⟩
    exact ⟨edge.producer, hleft, edge, hedge, rfl, hconsumer⟩
  · rintro ⟨u, hleft, edge, hedge, rfl, hconsumer⟩
    exact ⟨edge, hedge, hconsumer, hleft⟩

theorem count_successors (node other : Nat) :
    (graph.successors node).count other
      = graph.edges.countP fun edge => edge.consumer = other && edge.producer = node := by
  unfold successors
  rw [List.count, List.countP_map, List.countP_filter]
  rfl

/-- Placing a node takes off each number the edges from it. The induction is
    on the edges, each of which counts on one side as often as on the other. -/
theorem waitsFor_erase {left : List Nat} (hnodup : left.Nodup) (node : Nat) (hnode : node ∈ left)
    (other : Nat) :
    graph.waitsFor (left.erase node) other + (graph.successors node).count other
      = graph.waitsFor left other := by
  rw [count_successors]
  unfold waitsFor
  induction graph.edges with
  | nil => rfl
  | cons edge rest ih =>
      simp only [List.countP_cons]
      by_cases hproducer : edge.producer = node
      · have hleft : left.contains edge.producer = true := by
          rw [hproducer]
          exact List.contains_iff_mem.mpr hnode
        have herase : (left.erase node).contains edge.producer = false := by
          rw [hproducer, List.contains_eq_mem, decide_eq_false_iff_not, hnodup.mem_erase_iff]
          exact fun h => h.1 rfl
        rw [hleft, herase, decide_eq_true hproducer, Bool.and_true, Bool.and_false,
          if_neg Bool.false_ne_true]
        omega
      · have hsame : (left.erase node).contains edge.producer = left.contains edge.producer := by
          rw [Bool.eq_iff_iff, List.contains_iff_mem, List.contains_iff_mem,
            List.mem_erase_of_ne hproducer]
        rw [hsame, decide_eq_false hproducer, Bool.and_false, if_neg Bool.false_ne_true]
        omega

/-- The counters hold how many producers are left, and the ready nodes are
    the ones that `place` looks for. -/
theorem counting_waitsFor (left nodes : List Nat) :
    Countdown.counting graph.size nodes (graph.waitsFor left)
      = ⟨(List.range graph.size).map (graph.waitsFor left), nodes.filter (graph.ready left)⟩ := by
  refine congrArg (Countdown.mk _) (List.filter_congr ?_)
  intro node _
  exact (graph.ready_eq_waitsFor left node).symm

/-- A node that is ready is no consumer of a node left, so the consumers are
    left without it. -/
theorem Closed.erase {graph : DependencyGraph} {left : List Nat} (hclosed : graph.Closed left)
    (hnodup : left.Nodup) (node : Nat) (hready : graph.ready left node = true) :
    ∀ u ∈ left, ∀ v, graph.Joined u v → v ∈ left.erase node := by
  intro u hu v hjoined
  rw [hnodup.mem_erase_iff]
  refine ⟨?_, hclosed u v hjoined hu⟩
  rintro rfl
  exact (ready_iff graph left v).mp hready u hjoined hu

/-- Once a ready node is placed and its consumers are counted down, the
    counters are right for the nodes that are then left. -/
theorem releaseAll_successors {left : List Nat} (hascending : left.Pairwise (· < ·))
    (hsize : ∀ node ∈ left, node < graph.size) (hclosed : graph.Closed left) (node : Nat)
    (hnode : node ∈ left) (hready : graph.ready left node = true) :
    (graph.successors node).foldlM Countdown.release
        (Countdown.counting graph.size (left.erase node) (graph.waitsFor left))
      = some (Countdown.counting graph.size (left.erase node)
          (graph.waitsFor (left.erase node))) := by
  have hnodup : left.Nodup := hascending.imp Nat.ne_of_lt
  have hsum := graph.waitsFor_erase hnodup node hnode
  -- A consumer is left too, and it is not the node itself, which waits for none.
  have hconsumers : ∀ v ∈ graph.successors node, v ∈ left.erase node := by
    intro v hv
    rcases List.mem_map.mp hv with ⟨edge, hedge, rfl⟩
    rw [List.mem_filter, decide_eq_true_eq] at hedge
    exact hclosed.erase hnodup node hready node hnode _ ⟨edge, hedge.1, hedge.2, rfl⟩
  -- The edges from the node are among those waited for, so no counter falls below zero.
  have hle : ∀ v, (graph.successors node).count v ≤ graph.waitsFor left v := by
    intro v
    have := hsum v
    omega
  have hnumbers : (fun v => graph.waitsFor left v - (graph.successors node).count v)
      = graph.waitsFor (left.erase node) := by
    funext v
    have := hsum v
    omega
  rw [Countdown.releaseAll_counting graph.size (hascending.sublist List.erase_sublist)
    (fun v hv => hsize v (List.mem_of_mem_erase hv)) _ _ hconsumers hle, hnumbers]

/-- The loop does what `place` does, and its counters hold the numbers of
    producers left. -/
theorem countDown_counting (rounds : Nat) (left : List Nat) (hlength : left.length ≤ rounds)
    (hascending : left.Pairwise (· < ·)) (hsize : ∀ node ∈ left, node < graph.size)
    (hclosed : graph.Closed left) :
    graph.countDown rounds (Countdown.counting graph.size left (graph.waitsFor left))
      = some ((graph.place rounds left).1,
        Countdown.counting graph.size (graph.place rounds left).2
          (graph.waitsFor (graph.place rounds left).2)) := by
  induction rounds generalizing left with
  | zero =>
      rw [List.length_eq_zero_iff.mp (Nat.le_zero.mp hlength)]
      rfl
  | succ rounds ih =>
      rw [countDown, graph.counting_waitsFor left left]
      cases hfind : left.find? (graph.ready left) with
      | none =>
          -- Nothing is ready on either side.
          have hnone : left.filter (graph.ready left) = [] :=
            List.filter_eq_nil_iff.mpr (List.find?_eq_none.mp hfind)
          rw [place_of_none graph rounds left hfind, graph.counting_waitsFor left left, hnone]
      | some node =>
          have hnode : node ∈ left := List.mem_of_find?_eq_some hfind
          have hready : graph.ready left node = true := List.find?_some hfind
          -- The first of the ready nodes is the one that `place` takes.
          have hnext := graph.releaseAll_successors hascending hsize hclosed node hnode hready
          have hlater : graph.Closed (left.erase node) := fun u v hjoined hu =>
            hclosed.erase (hascending.imp Nat.ne_of_lt) node hready u (List.mem_of_mem_erase hu) v
              hjoined
          have hshorter := List.length_erase_of_mem hnode
          have ih := ih (left.erase node) (by omega) (hascending.sublist List.erase_sublist)
            (fun v hv => hsize v (List.mem_of_mem_erase hv)) hlater
          rw [graph.counting_waitsFor left] at hnext
          rw [filter_of_find? hfind, place_of_some graph rounds node left hfind]
          simp only [hnext, Option.bind_some, ih, Option.map_some]

/-- The nodes that are stuck are the ones that still wait for a producer. -/
theorem filter_waitsFor_stuck :
    ((List.range graph.size).filter fun node => 0 < graph.waitsFor graph.stuck node)
      = graph.stuck := by
  have hwaiting : ((List.range graph.size).filter fun node =>
      0 < graph.waitsFor graph.stuck node).Pairwise (· < ·) :=
    List.pairwise_lt_range.sublist List.filter_sublist
  have hstuck : graph.stuck.Pairwise (· < ·) :=
    List.pairwise_lt_range.sublist graph.stuck_sublist
  -- Two ascending lists with the same members are one list.
  refine hwaiting.eq_of_mem_iff hstuck ?_
  intro node
  rw [List.mem_filter, decide_eq_true_eq, waitsFor_pos_iff]
  constructor
  · rintro ⟨hnode, u, hu, hjoined⟩
    exact graph.stuck_closed u node hjoined hu (List.mem_range.mp hnode)
  · intro hnode
    exact ⟨graph.stuck_sublist.subset hnode, graph.stuck_waits node hnode⟩

/-- The counters left above zero are those of the nodes that are stuck. -/
theorem filter_counts_stuck :
    ((List.range graph.size).filter fun node =>
        0 < ((Countdown.counting graph.size graph.stuck
          (graph.waitsFor graph.stuck)).counts[node]?).getD 0)
      = graph.stuck := by
  refine Eq.trans (List.filter_congr ?_) graph.filter_waitsFor_stuck
  intro node hnode
  rw [Countdown.getElem?_counting _ _ _ (List.mem_range.mp hnode), Option.getD_some]

/-- The order, told by how many nodes are placed. -/
theorem order_eq :
    graph.order
      = if graph.placed.length = graph.size then .ok graph.placed else .error graph.stuck := by
  have hlength := (graph.place_perm graph.size (List.range graph.size)).length_eq
  rw [List.length_append, List.length_range] at hlength
  unfold order placed stuck
  rcases hplace : graph.place graph.size (List.range graph.size) with ⟨placed, stuck⟩
  rw [hplace] at hlength
  cases stuck with
  | nil => rw [if_pos (by simpa using hlength)]
  | cons first rest =>
      rw [List.length_cons] at hlength
      rw [if_neg (by omega)]

section Bounded

variable (hbound : ∀ u v, graph.Joined u v → u < graph.size ∧ v < graph.size)

include hbound

/-- At the start a node waits for all its producers. -/
theorem inDegree_eq_waitsFor : graph.inDegree = graph.waitsFor (List.range graph.size) := by
  funext node
  refine List.countP_congr ?_
  intro edge hedge
  have hproducer := (hbound _ _ ⟨edge, hedge, rfl, rfl⟩).1
  rw [Bool.and_eq_true, List.contains_iff_mem, List.mem_range]
  exact (and_iff_left hproducer).symm

/-- The whole run of the loop, from the number of producers of each node. -/
theorem countDown_start :
    graph.countDown graph.size
        (Countdown.counting graph.size (List.range graph.size) graph.inDegree)
      = some (graph.placed,
        Countdown.counting graph.size graph.stuck (graph.waitsFor graph.stuck)) := by
  rw [graph.inDegree_eq_waitsFor hbound]
  exact graph.countDown_counting graph.size (List.range graph.size)
    (Nat.le_of_eq List.length_range) List.pairwise_lt_range
    (fun node hnode => List.mem_range.mp hnode)
    (fun u v hjoined _ => List.mem_range.mpr (hbound u v hjoined).2)

/-- Counting down never takes a counter below zero, and it answers with the
    order of the graph, or with its report. -/
theorem countedOrder_eq : graph.countedOrder = some graph.order := by
  unfold countedOrder
  change Option.map _ (graph.countDown graph.size
    (Countdown.counting graph.size (List.range graph.size) graph.inDegree)) = _
  rw [graph.countDown_start hbound, Option.map_some, graph.filter_counts_stuck, order_eq]

end Bounded

end DependencyGraph

end FrameGraph
