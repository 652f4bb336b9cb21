import FrameGraph.Dependency.Order
import FrameGraph.Proofs.Edges
import Mathlib.Data.Fintype.Card
import Mathlib.Data.Fintype.EquivFin
import Mathlib.Data.Fintype.Sets
import Mathlib.Data.List.Nodup
import Mathlib.Data.List.Perm.Basic
import Mathlib.Order.WellFounded

/-!
# Placing Nodes

What `DependencyGraph.place` leaves behind when it stops. It moves nodes one
by one from the ones left to the ones placed, so the two together are always
the nodes it was given. A node is placed only when none of its producers is
left, which is why producers stand before consumers among the nodes placed.
And it stops only when every node left has a producer that is left as well.

That last fact is the whole theory of cycles here. A finite set in which
every node has a predecessor inside the set must hold a cycle: were there
none, the transitive closure would be well founded on the set, and a minimal
node would have no predecessor. So an order exists for every graph without
cycles, and `exists_order_iff` is both directions of it.

## Main definitions

* `Acyclic`: No node is on a path to itself.
* `DependencyGraph.placed`, `DependencyGraph.stuck`: The nodes that can be
  placed, and those that cannot.

## Theorems

* `ready_iff`: A node is ready if none of its producers is left.
* `place_perm`: Placing neither loses nor invents nodes.
* `place_waits`: Each node that is stuck waits for one that is stuck.
* `place_before`: Producers are placed before their consumers.
* `place_sublist`, `place_closed`: The nodes that are stuck keep their order,
  and what depends on them is among them.
* `exists_cycle_of_waits`: Nodes that all wait for one another form a cycle.
* `order_eq_ok_iff`: The order is the nodes placed, if none is stuck.
* `order_perm`: An order has every node once.
* `order_before`: Edges point forward in an order.
* `order_before_of_transGen`: So do paths.
* `exists_order_iff`: There is an order exactly if there is no cycle.
* `order_eq_error_iff`: The report is the nodes that are stuck.
* `placed_before`: A node is placed after all its producers.
* `stuck_waits`, `stuck_sublist`, `stuck_closed`: What is known of the nodes
  that are stuck.
-/

namespace FrameGraph

/-- No node is on a path to itself. -/
def Acyclic (relation : Nat → Nat → Prop) : Prop :=
  ∀ node, ¬ Relation.TransGen relation node node

namespace DependencyGraph

variable (graph : DependencyGraph)

theorem ready_iff (left : List Nat) (node : Nat) :
    graph.ready left node = true ↔ ∀ u, graph.Joined u node → u ∉ left := by
  unfold ready
  rw [List.all_eq_true]
  constructor
  · rintro h u ⟨edge, hedge, rfl, hc⟩ hu
    have hno := h edge hedge
    simp only [hc, decide_true, Bool.true_and, Bool.not_eq_true', List.contains_eq_mem,
      decide_eq_false_iff_not] at hno
    exact hno hu
  · intro h edge hedge
    simp only [Bool.not_eq_true', Bool.and_eq_false_iff, decide_eq_false_iff_not,
      List.contains_eq_mem]
    by_cases hc : edge.consumer = node
    · exact Or.inr (h edge.producer ⟨edge, hedge, rfl, hc⟩)
    · exact Or.inl hc

/-- One more round, when no node is ready. -/
theorem place_of_none (rounds : Nat) (left : List Nat)
    (h : left.find? (graph.ready left) = none) :
    graph.place (rounds + 1) left = ([], left) := by
  rw [place, h]

/-- One more round, when a node is ready. -/
theorem place_of_some (rounds node : Nat) (left : List Nat)
    (h : left.find? (graph.ready left) = some node) :
    graph.place (rounds + 1) left
      = (node :: (graph.place rounds (left.erase node)).1,
        (graph.place rounds (left.erase node)).2) := by
  rw [place, h]

/-- The nodes placed and the nodes stuck are the nodes there were. -/
theorem place_perm (rounds : Nat) (left : List Nat) :
    ((graph.place rounds left).1 ++ (graph.place rounds left).2).Perm left := by
  induction rounds generalizing left with
  | zero => exact List.Perm.refl left
  | succ rounds ih =>
      cases hfind : left.find? (graph.ready left) with
      | none =>
          rw [place_of_none graph rounds left hfind]
          exact List.Perm.refl left
      | some node =>
          rw [place_of_some graph rounds node left hfind]
          have hmem : node ∈ left := List.mem_of_find?_eq_some hfind
          exact ((ih (left.erase node)).cons node).trans (List.perm_cons_erase hmem).symm

/-- With a round for each node, placing stops only where every node left has
    a producer among the nodes left. -/
theorem place_waits (rounds : Nat) (left : List Nat) (h : left.length ≤ rounds) :
    ∀ v ∈ (graph.place rounds left).2, ∃ u ∈ (graph.place rounds left).2, graph.Joined u v := by
  induction rounds generalizing left with
  | zero =>
      intro v hv
      rw [List.length_eq_zero_iff.mp (Nat.le_zero.mp h)] at hv
      exact absurd hv List.not_mem_nil
  | succ rounds ih =>
      cases hfind : left.find? (graph.ready left) with
      | none =>
          rw [place_of_none graph rounds left hfind]
          intro v hv
          have hnot := List.find?_eq_none.mp hfind v hv
          rw [ready_iff] at hnot
          simp only [not_forall, not_not] at hnot
          rcases hnot with ⟨u, hjoined, hu⟩
          exact ⟨u, hu, hjoined⟩
      | some node =>
          rw [place_of_some graph rounds node left hfind]
          have hmem : node ∈ left := List.mem_of_find?_eq_some hfind
          have hlen := List.length_erase_of_mem hmem
          exact ih (left.erase node) (by omega)

/-- A producer that was left when its consumer was placed was placed before
    it. -/
theorem place_before (rounds : Nat) (left : List Nat) (hnodup : left.Nodup) (u v : Nat)
    (hjoined : graph.Joined u v) (hu : u ∈ left) (hv : v ∈ (graph.place rounds left).1) :
    u ∈ (graph.place rounds left).1
      ∧ (graph.place rounds left).1.idxOf u < (graph.place rounds left).1.idxOf v := by
  induction rounds generalizing left with
  | zero => exact absurd hv List.not_mem_nil
  | succ rounds ih =>
      cases hfind : left.find? (graph.ready left) with
      | none =>
          rw [place_of_none graph rounds left hfind] at hv
          exact absurd hv List.not_mem_nil
      | some node =>
          have hready := (ready_iff graph left node).mp (List.find?_some hfind)
          rw [place_of_some graph rounds node left hfind] at hv ⊢
          -- The node placed first is not `v`, since its producer `u` is left.
          have hne : v ≠ node := by
            rintro rfl
            exact hready u hjoined hu
          have hvrest := (List.mem_cons.mp hv).resolve_left hne
          by_cases hun : u = node
          · subst hun
            refine ⟨List.mem_cons_self, ?_⟩
            rw [List.idxOf_cons_self, List.idxOf_cons_ne _ (Ne.symm hne)]
            omega
          · have hurest : u ∈ left.erase node := (List.mem_erase_of_ne hun).mpr hu
            rcases ih (left.erase node) (hnodup.erase node) hurest hvrest with ⟨hmem, hlt⟩
            refine ⟨List.mem_cons_of_mem _ hmem, ?_⟩
            rw [List.idxOf_cons_ne _ (Ne.symm hun), List.idxOf_cons_ne _ (Ne.symm hne)]
            omega

/-- The nodes that are stuck are in the order in which they were left. -/
theorem place_sublist (rounds : Nat) (left : List Nat) :
    (graph.place rounds left).2.Sublist left := by
  induction rounds generalizing left with
  | zero => exact List.Sublist.refl left
  | succ rounds ih =>
      cases hfind : left.find? (graph.ready left) with
      | none =>
          rw [place_of_none graph rounds left hfind]
      | some node =>
          rw [place_of_some graph rounds node left hfind]
          exact (ih (left.erase node)).trans List.erase_sublist

/-- What depends on a node that is stuck is stuck. -/
theorem place_closed (rounds : Nat) (left : List Nat) (hnodup : left.Nodup) (u v : Nat)
    (hjoined : graph.Joined u v) (hu : u ∈ (graph.place rounds left).2) (hv : v ∈ left) :
    v ∈ (graph.place rounds left).2 := by
  have hperm := graph.place_perm rounds left
  rcases List.mem_append.mp (hperm.mem_iff.mpr hv) with hplaced | hstuck
  · -- A node that was placed had all its producers placed, `u` among them.
    have hbefore := graph.place_before rounds left hnodup u v hjoined
      ((graph.place_sublist rounds left).subset hu) hplaced
    have hdisjoint := List.disjoint_of_nodup_append (hperm.nodup_iff.mpr hnodup)
    exact absurd hu (hdisjoint hbefore.1)
  · exact hstuck

/-- Nodes of which each waits for another of them are on or behind a cycle. -/
theorem exists_cycle_of_waits (relation : Nat → Nat → Prop) (stuck : List Nat)
    (hne : stuck ≠ []) (hwaits : ∀ v ∈ stuck, ∃ u ∈ stuck, relation u v) :
    ¬ Acyclic relation := by
  intro hacyclic
  let before : {node // node ∈ stuck} → {node // node ∈ stuck} → Prop :=
    fun a b => Relation.TransGen relation a.1 b.1
  have htrans : IsTrans _ before := ⟨fun _ _ _ hab hbc => Relation.TransGen.trans hab hbc⟩
  have hirrefl : Std.Irrefl before := ⟨fun a => hacyclic a.1⟩
  have hwf : WellFounded before := Finite.wellFounded_of_trans_of_irrefl before
  rcases List.exists_mem_of_ne_nil stuck hne with ⟨start, hstart⟩
  -- A minimal node waits for one that is smaller still.
  rcases hwf.has_min Set.univ ⟨⟨start, hstart⟩, Set.mem_univ _⟩ with ⟨⟨v, hv⟩, _, hmin⟩
  rcases hwaits v hv with ⟨u, hu, huv⟩
  exact hmin ⟨u, hu⟩ (Set.mem_univ _) (Relation.TransGen.single huv)

theorem order_eq_ok_iff (placed : List Nat) :
    graph.order = .ok placed
      ↔ graph.place graph.size (List.range graph.size) = (placed, []) := by
  unfold order
  rcases hplace : graph.place graph.size (List.range graph.size) with ⟨nodes, stuck⟩
  cases stuck with
  | nil => simp only [Except.ok.injEq, Prod.mk.injEq, and_true]
  | cons node rest =>
      simp only [reduceCtorEq, Prod.mk.injEq, and_false]

/-- An order has every node once. -/
theorem order_perm {placed : List Nat} (h : graph.order = .ok placed) :
    placed.Perm (List.range graph.size) := by
  have hperm := graph.place_perm graph.size (List.range graph.size)
  rw [(graph.order_eq_ok_iff placed).mp h, List.append_nil] at hperm
  exact hperm

/-- Edges between nodes point forward in an order. -/
theorem order_before {placed : List Nat} (h : graph.order = .ok placed) (u v : Nat)
    (hu : u < graph.size) (hv : v < graph.size) (hjoined : graph.Joined u v) :
    placed.idxOf u < placed.idxOf v := by
  have hplace := (graph.order_eq_ok_iff placed).mp h
  have hmem : v ∈ placed := (graph.order_perm h).mem_iff.mpr (List.mem_range.mpr hv)
  have hbefore := graph.place_before graph.size (List.range graph.size) List.nodup_range u v
    hjoined (List.mem_range.mpr hu)
  rw [hplace] at hbefore
  exact (hbefore hmem).2

section Bounded

variable (hbound : ∀ u v, graph.Joined u v → u < graph.size ∧ v < graph.size)

include hbound

/-- Paths point forward in an order. -/
theorem order_before_of_transGen {placed : List Nat} (h : graph.order = .ok placed) (u v : Nat)
    (hpath : Relation.TransGen graph.Joined u v) : placed.idxOf u < placed.idxOf v := by
  induction hpath with
  | single huv => exact graph.order_before h _ _ (hbound _ _ huv).1 (hbound _ _ huv).2 huv
  | tail _ hvw ih =>
      exact ih.trans (graph.order_before h _ _ (hbound _ _ hvw).1 (hbound _ _ hvw).2 hvw)

/-- There is an order exactly if there is no cycle. -/
theorem exists_order_iff : (∃ placed, graph.order = .ok placed) ↔ Acyclic graph.Joined := by
  constructor
  · rintro ⟨placed, h⟩ node hcycle
    exact Nat.lt_irrefl _ (graph.order_before_of_transGen hbound h node node hcycle)
  · intro hacyclic
    rcases hplace : graph.place graph.size (List.range graph.size) with ⟨placed, stuck⟩
    have hwaits := graph.place_waits graph.size (List.range graph.size)
      (Nat.le_of_eq List.length_range)
    rw [hplace] at hwaits
    have hnil : stuck = [] := by
      by_contra hne
      exact exists_cycle_of_waits graph.Joined stuck hne hwaits hacyclic
    exact ⟨placed, (graph.order_eq_ok_iff placed).mpr (hnil ▸ hplace)⟩

end Bounded

/-- The nodes that can be placed, in order. -/
def placed : List Nat := (graph.place graph.size (List.range graph.size)).1

/-- The nodes that cannot be placed. -/
def stuck : List Nat := (graph.place graph.size (List.range graph.size)).2

theorem order_eq_error_iff (nodes : List Nat) :
    graph.order = .error nodes ↔ graph.stuck = nodes ∧ nodes ≠ [] := by
  unfold order stuck
  rcases graph.place graph.size (List.range graph.size) with ⟨placed, rest⟩
  cases rest with
  | nil =>
      simp only [reduceCtorEq, false_iff, not_and, not_not]
      exact Eq.symm
  | cons node rest =>
      simp only [Except.error.injEq]
      constructor
      · rintro rfl
        exact ⟨rfl, List.cons_ne_nil node rest⟩
      · exact And.left

/-- Every node is placed or stuck. -/
theorem mem_placed_or_stuck (node : Nat) (h : node < graph.size) :
    node ∈ graph.placed ∨ node ∈ graph.stuck := by
  have hperm := graph.place_perm graph.size (List.range graph.size)
  exact List.mem_append.mp (hperm.mem_iff.mpr (List.mem_range.mpr h))

/-- A node is placed after all its producers, if these are nodes. -/
theorem placed_before (u v : Nat) (hjoined : graph.Joined u v) (hu : u < graph.size)
    (hv : v ∈ graph.placed) :
    u ∈ graph.placed ∧ graph.placed.idxOf u < graph.placed.idxOf v :=
  graph.place_before graph.size (List.range graph.size) List.nodup_range u v hjoined
    (List.mem_range.mpr hu) hv

/-- Each node that is stuck waits for one that is stuck. -/
theorem stuck_waits : ∀ v ∈ graph.stuck, ∃ u ∈ graph.stuck, graph.Joined u v :=
  graph.place_waits graph.size (List.range graph.size) (Nat.le_of_eq List.length_range)

/-- The nodes that are stuck are nodes, in ascending order. -/
theorem stuck_sublist : graph.stuck.Sublist (List.range graph.size) :=
  graph.place_sublist graph.size (List.range graph.size)

/-- What depends on a node that is stuck is stuck, if it is a node. -/
theorem stuck_closed (u v : Nat) (hjoined : graph.Joined u v) (hu : u ∈ graph.stuck)
    (hv : v < graph.size) : v ∈ graph.stuck :=
  graph.place_closed graph.size (List.range graph.size) List.nodup_range u v hjoined hu
    (List.mem_range.mpr hv)

end DependencyGraph

end FrameGraph
