import FrameGraph.Proofs.Countdown
import FrameGraph.Proofs.Requests

/-!
# The Report of a Cycle

When no order exists, the answer is a list of nodes, and it is meant to lead
a reader to the cause. It holds the nodes of every cycle, of which there may
be several, and the nodes behind them, which could not be placed either. It
holds no others: a node in front of a cycle is placed like any node.

One direction is about what is placed. A node is placed after all its
producers, so whatever is placed has everything before it placed too, and a
node of a cycle would have to stand before itself.

The other direction is about what is stuck. Each such node waits for another,
so going back from it never ends, and among finitely many nodes going back
runs into a cycle. That there is some cycle is `exists_cycle_of_waits`, but
the report has to name one in front of the node it started from. Cutting the
relation down to the steps that lead to this node finds it.

## Main definitions

* `OnCycle`: A path leads from a node back to it.
* `BehindCycle`: A node is on a cycle, or a path leads to it from one.

## Theorems

* `behindCycle_of_waits`: Nodes that wait for one another are behind a cycle.
* `placed_of_transGen`: What leads to a node that is placed is placed before.
* `mem_stuck_iff`: What is stuck is what is behind a cycle.
* `order_stuck`: When there is a report, and what is in it.
-/

namespace FrameGraph

/-- A path leads from the node back to it. -/
def OnCycle (relation : Nat → Nat → Prop) (node : Nat) : Prop :=
  Relation.TransGen relation node node

/-- The node is on a cycle, or it is reached from a node on one. -/
def BehindCycle (relation : Nat → Nat → Prop) (node : Nat) : Prop :=
  ∃ origin, OnCycle relation origin ∧ Relation.ReflTransGen relation origin node

/-- If each of some nodes waits for another of them, all of them are behind a
    cycle. -/
theorem behindCycle_of_waits (relation : Nat → Nat → Prop) (stuck : List Nat)
    (hwaits : ∀ v ∈ stuck, ∃ u ∈ stuck, relation u v) (node : Nat) (hnode : node ∈ stuck) :
    BehindCycle relation node := by
  classical
  -- Only steps that lead to the node are of interest, and only from where they start.
  let leads : Nat → Prop := fun u => Relation.ReflTransGen relation u node
  let step : Nat → Nat → Prop := fun u v => relation u v ∧ leads v
  have hne : (stuck.filter fun u => leads u) ≠ [] := by
    refine List.ne_nil_of_mem (a := node) (List.mem_filter.mpr ⟨hnode, ?_⟩)
    exact decide_eq_true Relation.ReflTransGen.refl
  have hback : ∀ v ∈ stuck.filter fun u => leads u, ∃ u ∈ stuck.filter fun u => leads u,
      step u v := by
    intro v hv
    rw [List.mem_filter, decide_eq_true_eq] at hv
    rcases hwaits v hv.1 with ⟨u, hu, huv⟩
    refine ⟨u, List.mem_filter.mpr ⟨hu, decide_eq_true ?_⟩, huv, hv.2⟩
    exact Relation.ReflTransGen.head huv hv.2
  have hcycle := DependencyGraph.exists_cycle_of_waits step _ hne hback
  unfold Acyclic at hcycle
  push Not at hcycle
  rcases hcycle with ⟨origin, horigin⟩
  refine ⟨origin, Relation.TransGen.mono (fun _ _ h => h.1) _ _ horigin, ?_⟩
  -- The last step of the cycle leads to the node.
  rcases Relation.TransGen.tail'_iff.mp horigin with ⟨_, _, hlast⟩
  exact hlast.2

namespace DependencyGraph

variable (graph : DependencyGraph)
  (hbound : ∀ u v, graph.Joined u v → u < graph.size ∧ v < graph.size)

include hbound

/-- What leads to a node that is placed is placed before it. -/
theorem placed_of_transGen (u v : Nat) (hpath : Relation.TransGen graph.Joined u v)
    (hv : v ∈ graph.placed) :
    u ∈ graph.placed ∧ graph.placed.idxOf u < graph.placed.idxOf v := by
  induction hpath with
  | single huv => exact graph.placed_before _ _ huv (hbound _ _ huv).1 hv
  | tail _ hbc ih =>
      rcases graph.placed_before _ _ hbc (hbound _ _ hbc).1 hv with ⟨hb, hlt⟩
      rcases ih hb with ⟨hu, hltu⟩
      exact ⟨hu, hltu.trans hlt⟩

/-- A node of a cycle is stuck: were it placed, it would stand before itself. -/
theorem stuck_of_onCycle (node : Nat) (hcycle : OnCycle graph.Joined node) :
    node ∈ graph.stuck := by
  have hnode : node < graph.size := by
    rcases Relation.TransGen.head'_iff.mp hcycle with ⟨_, hfirst, _⟩
    exact (hbound _ _ hfirst).1
  rcases graph.mem_placed_or_stuck node hnode with hplaced | hstuck
  · have hbefore := graph.placed_of_transGen hbound node node hcycle hplaced
    exact absurd hbefore.2 (Nat.lt_irrefl _)
  · exact hstuck

/-- The nodes that are stuck are the ones on a cycle or behind one. -/
theorem mem_stuck_iff (node : Nat) : node ∈ graph.stuck ↔ BehindCycle graph.Joined node := by
  constructor
  · exact behindCycle_of_waits graph.Joined graph.stuck graph.stuck_waits node
  · rintro ⟨origin, hcycle, hpath⟩
    have horigin := graph.stuck_of_onCycle hbound origin hcycle
    induction hpath with
    | refl => exact horigin
    | tail _ hvw ih => exact graph.stuck_closed _ _ hvw ih (hbound _ _ hvw).2

end DependencyGraph

/-- There is no order exactly if the requests run in a circle somewhere. The
    report then lists, ascending and each once, the nodes that lie on a cycle
    or that a path reaches from one. Counting down comes to the same answer,
    and no counter is ever taken below zero. -/
theorem order_stuck (size : Nat) (requests : List EdgeRequest)
    (hbelow : RequestsBelow size requests) :
    ((∃ report, (DependencyGraph.ofRequests size requests).order = .error report)
        ↔ ∃ node, OnCycle (Asked requests) node)
      ∧ (∀ report, (DependencyGraph.ofRequests size requests).order = .error report →
          report.Pairwise (· < ·)
            ∧ ∀ node, node ∈ report ↔ BehindCycle (Asked requests) node)
      ∧ (DependencyGraph.ofRequests size requests).countedOrder
          = some (DependencyGraph.ofRequests size requests).order := by
  have hbound := DependencyGraph.joined_ofRequests_lt size requests hbelow
  have hstuck := DependencyGraph.mem_stuck_iff _ hbound
  rw [DependencyGraph.joined_ofRequests] at hstuck
  refine ⟨⟨?_, ?_⟩, ?_, DependencyGraph.countedOrder_eq _ hbound⟩
  · rintro ⟨report, h⟩
    rcases (DependencyGraph.order_eq_error_iff _ report).mp h with ⟨rfl, hne⟩
    -- Some node is in the report, and it is behind a cycle.
    rcases List.exists_mem_of_ne_nil _ hne with ⟨node, hnode⟩
    rcases (hstuck node).mp hnode with ⟨origin, hcycle, _⟩
    exact ⟨origin, hcycle⟩
  · rintro ⟨node, hcycle⟩
    have hnode := (hstuck node).mpr ⟨node, hcycle, Relation.ReflTransGen.refl⟩
    exact ⟨_, (DependencyGraph.order_eq_error_iff _ _).mpr ⟨rfl, List.ne_nil_of_mem hnode⟩⟩
  · intro report h
    rcases (DependencyGraph.order_eq_error_iff _ report).mp h with ⟨rfl, _⟩
    exact ⟨List.pairwise_lt_range.sublist (DependencyGraph.stuck_sublist _), hstuck⟩

/-- Requests over eight nodes with two cycles, one of which leads to the
    other and to a node behind both. One request is made twice, and a node
    that is asked to stand before itself is on no cycle for it. -/
def circularRequests : List EdgeRequest :=
  [⟨0, 1, "a"⟩, ⟨1, 3, "a"⟩, ⟨3, 1, "b"⟩, ⟨3, 5, "c"⟩, ⟨5, 6, "c"⟩, ⟨6, 5, "d"⟩, ⟨6, 7, "d"⟩,
    ⟨3, 5, "e"⟩, ⟨2, 2, "f"⟩]

/-- The report has both cycles and the node behind them, but not the node in
    front of them. -/
theorem order_stuck_twoCycles :
    RequestsBelow 8 circularRequests
      ∧ (DependencyGraph.ofRequests 8 circularRequests).order = .error [1, 3, 5, 6, 7]
      ∧ (∃ node, OnCycle (Asked circularRequests) node)
      ∧ BehindCycle (Asked circularRequests) 7
      ∧ ¬ BehindCycle (Asked circularRequests) 0 ∧ ¬ BehindCycle (Asked circularRequests) 2 := by
  have hbelow : RequestsBelow 8 circularRequests := by
    unfold RequestsBelow
    decide
  have horder : (DependencyGraph.ofRequests 8 circularRequests).order
      = .error [1, 3, 5, 6, 7] := by
    rfl
  rcases order_stuck 8 circularRequests hbelow with ⟨hcycle, hreport, _⟩
  have hmem := (hreport _ horder).2
  refine ⟨hbelow, horder, hcycle.mp ⟨_, horder⟩, (hmem 7).mp (by decide), ?_, ?_⟩
  · exact fun h => absurd ((hmem 0).mpr h) (by decide)
  · exact fun h => absurd ((hmem 2).mpr h) (by decide)

end FrameGraph
