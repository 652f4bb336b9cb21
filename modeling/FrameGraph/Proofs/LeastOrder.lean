import FrameGraph.Proofs.Countdown
import FrameGraph.Proofs.Requests
import Mathlib.Data.List.Basic

/-!
# The Least Order

A graph without cycles has many orders, and which one is chosen matters from
frame to frame. `DependencyGraph.order` takes the smallest node that is ready
each time, and this makes the whole list the least of all orders when lists
are compared entry by entry.

The comparison is with an arbitrary other order, and it is made at the front.
Whatever stands first in the other order has no producer among the nodes
left, or that producer would have to stand before it. So it was ready as
well, and the node taken is no larger. If it is smaller the comparison is
decided, and if it is equal both orders continue on the same nodes.

## Main definitions

* `Linearises`: The nodes once each, producers before their consumers.

## Theorems

* `le_of_find?`: In an ascending list the first match is the least.
* `ready_of_first`: What stands first in an order is ready.
* `place_least`: No arrangement of the nodes left is before the one placed.
* `linearises_order`: An order is among the lists it is compared with.
* `order_least`: Without cycles, the order is the least of all.
-/

namespace FrameGraph

/-- The nodes below a size once each, and wherever a request joins two of
    them the producer stands before the consumer. -/
def Linearises (size : Nat) (requests : List EdgeRequest) (nodes : List Nat) : Prop :=
  nodes.Perm (List.range size)
    ∧ ∀ request ∈ requests, request.producer ≠ request.consumer →
        nodes.idxOf request.producer < nodes.idxOf request.consumer

/-- In an ascending list, the first member that passes a test is the least. -/
theorem le_of_find? {nodes : List Nat} (hascending : nodes.Pairwise (· < ·)) {test : Nat → Bool}
    {first other : Nat} (hfind : nodes.find? test = some first) (hother : other ∈ nodes)
    (htest : test other = true) : first ≤ other := by
  rcases List.find?_eq_some_iff_append.mp hfind with ⟨_, before, after, rfl, hbefore⟩
  rcases List.mem_append.mp hother with hmem | hmem
  · -- Nothing before the first match passes.
    have hfails := hbefore other hmem
    rw [htest] at hfails
    exact absurd hfails Bool.false_ne_true
  · rcases List.mem_cons.mp hmem with rfl | hlater
    · exact Nat.le_refl _
    · have hrest := (List.pairwise_append.mp hascending).2.1
      exact Nat.le_of_lt ((List.pairwise_cons.mp hrest).1 other hlater)

/-- Without the first entry, the others stand in the order they stood in. -/
theorem idxOf_lt_of_cons {first u v : Nat} {rest : List Nat} (hu : u ≠ first) (hv : v ≠ first)
    (hlt : (first :: rest).idxOf u < (first :: rest).idxOf v) : rest.idxOf u < rest.idxOf v := by
  rw [List.idxOf_cons_ne _ (Ne.symm hu), List.idxOf_cons_ne _ (Ne.symm hv)] at hlt
  omega

namespace DependencyGraph

/-- Whatever stands first, where producers stand before their consumers, is
    ready: a producer would have to stand before it. -/
theorem ready_of_first (graph : DependencyGraph) (left : List Nat) (first : Nat) (rest : List Nat)
    (hbefore : ∀ u ∈ left, graph.Joined u first →
      (first :: rest).idxOf u < (first :: rest).idxOf first) :
    graph.ready left first = true := by
  rw [ready_iff]
  intro u hjoined hu
  have hlt := hbefore u hu hjoined
  rw [List.idxOf_cons_self] at hlt
  exact Nat.not_lt_zero _ hlt

/-- If placing gets through, the nodes placed come before every other
    arrangement of them that keeps producers before consumers. -/
theorem place_least (graph : DependencyGraph) (rounds : Nat) (left : List Nat)
    (hascending : left.Pairwise (· < ·)) (placed : List Nat)
    (hplace : graph.place rounds left = (placed, [])) (other : List Nat)
    (hperm : other.Perm left)
    (hbefore : ∀ u ∈ left, ∀ v ∈ left, graph.Joined u v → other.idxOf u < other.idxOf v) :
    placed = other ∨ List.Lex (· < ·) placed other := by
  induction rounds generalizing left placed other with
  | zero =>
      rw [place, Prod.mk.injEq] at hplace
      rcases hplace with ⟨rfl, rfl⟩
      exact Or.inl (List.perm_nil.mp hperm).symm
  | succ rounds ih =>
      cases hfind : left.find? (graph.ready left) with
      | none =>
          rw [place_of_none graph rounds left hfind, Prod.mk.injEq] at hplace
          rcases hplace with ⟨rfl, rfl⟩
          exact Or.inl (List.perm_nil.mp hperm).symm
      | some node =>
          rw [place_of_some graph rounds node left hfind, Prod.mk.injEq] at hplace
          rcases hplace with ⟨rfl, hstuck⟩
          have hnode : node ∈ left := List.mem_of_find?_eq_some hfind
          have hnodup : left.Nodup := hascending.imp Nat.ne_of_lt
          cases other with
          | nil => exact absurd (hperm.mem_iff.mpr hnode) List.not_mem_nil
          | cons first rest =>
              have hfirst : first ∈ left := hperm.mem_iff.mp List.mem_cons_self
              -- Both could have been taken, and the smaller one was.
              have hready : graph.ready left first = true :=
                graph.ready_of_first left first rest fun u hu => hbefore u hu first hfirst
              have hle : node ≤ first := le_of_find? hascending hfind hfirst hready
              rcases Nat.lt_or_eq_of_le hle with hlt | rfl
              · exact Or.inr (List.Lex.rel hlt)
              · have hrest : rest.Perm (left.erase node) :=
                  hperm.trans (List.perm_cons_erase hnode) |>.cons_inv
                have hlater : ∀ u ∈ left.erase node, ∀ v ∈ left.erase node, graph.Joined u v →
                    rest.idxOf u < rest.idxOf v := by
                  intro u hu v hv hjoined
                  rw [hnodup.mem_erase_iff] at hu hv
                  exact idxOf_lt_of_cons hu.1 hv.1 (hbefore u hu.2 v hv.2 hjoined)
                rcases ih (left.erase node) (hascending.sublist List.erase_sublist) _
                    (Prod.ext rfl hstuck) rest hrest hlater with heq | hlex
                · exact Or.inl (congrArg (node :: ·) heq)
                · exact Or.inr (List.Lex.cons hlex)

variable (size : Nat) (requests : List EdgeRequest) (hbelow : RequestsBelow size requests)

include hbelow

/-- The order of a graph has its nodes once each, producers first. -/
theorem linearises_order {placed : List Nat}
    (h : (ofRequests size requests).order = .ok placed) : Linearises size requests placed := by
  have hperm := order_perm _ h
  rw [size_ofRequests] at hperm
  refine ⟨hperm, ?_⟩
  intro request hrequest hne
  have hjoined : (ofRequests size requests).Joined request.producer request.consumer := by
    rw [joined_ofRequests]
    exact ⟨hne, request, hrequest, rfl, rfl⟩
  have hlt := joined_ofRequests_lt size requests hbelow _ _ hjoined
  exact order_before _ h _ _ hlt.1 hlt.2 hjoined

/-- If the requests do not run in a circle, their graph has an order, and
    counting down finds it too. It has the nodes once each with every producer
    before its consumers, and of all lists with these properties it is the
    least, entry by entry. -/
theorem order_least (hacyclic : Acyclic (Asked requests)) :
    ∃ placed, (ofRequests size requests).order = .ok placed
      ∧ (ofRequests size requests).countedOrder = some (.ok placed)
      ∧ Linearises size requests placed
      ∧ ∀ other, Linearises size requests other →
          placed = other ∨ List.Lex (· < ·) placed other := by
  have hbound := joined_ofRequests_lt size requests hbelow
  rw [← joined_ofRequests size] at hacyclic
  rcases (exists_order_iff _ hbound).mpr hacyclic with ⟨placed, h⟩
  have hcounted := countedOrder_eq _ hbound
  rw [h] at hcounted
  refine ⟨placed, h, hcounted, linearises_order size requests hbelow h, ?_⟩
  rintro other ⟨hperm, hbefore⟩
  have hplace := (order_eq_ok_iff _ placed).mp h
  rw [size_ofRequests] at hplace
  refine place_least _ size (List.range size) List.pairwise_lt_range placed hplace other hperm ?_
  intro u _ v _ hjoined
  rw [joined_ofRequests] at hjoined
  rcases hjoined with ⟨hne, request, hrequest, rfl, rfl⟩
  exact hbefore request hrequest hne

end DependencyGraph

/-- Requests over five nodes: one of them twice, and one that puts a node
    before itself. -/
def interleavedRequests : List EdgeRequest :=
  [⟨4, 0, "a"⟩, ⟨1, 3, "b"⟩, ⟨2, 2, "c"⟩, ⟨4, 0, "d"⟩, ⟨3, 2, "b"⟩]

/-- Node 0 becomes ready last and is placed last; nothing is gained by
    placing 4 earlier, since 1, 3 and 2 are smaller when their turn comes. -/
theorem order_least_interleaved :
    RequestsBelow 5 interleavedRequests ∧ Acyclic (Asked interleavedRequests)
      ∧ (DependencyGraph.ofRequests 5 interleavedRequests).order = .ok [1, 3, 2, 4, 0]
      ∧ Linearises 5 interleavedRequests [1, 3, 2, 4, 0]
      ∧ ∀ other, Linearises 5 interleavedRequests other →
          [1, 3, 2, 4, 0] = other ∨ List.Lex (· < ·) [1, 3, 2, 4, 0] other := by
  have hbelow : RequestsBelow 5 interleavedRequests := by
    unfold RequestsBelow
    decide
  have horder : (DependencyGraph.ofRequests 5 interleavedRequests).order
      = .ok [1, 3, 2, 4, 0] := by
    rfl
  have hacyclic : Acyclic (Asked interleavedRequests) := by
    rw [← DependencyGraph.joined_ofRequests 5]
    exact (DependencyGraph.exists_order_iff _
      (DependencyGraph.joined_ofRequests_lt 5 _ hbelow)).mp ⟨_, horder⟩
  rcases DependencyGraph.order_least 5 interleavedRequests hbelow hacyclic with
    ⟨placed, hplaced, _, hlinear, hleast⟩
  have heq : placed = [1, 3, 2, 4, 0] := Except.ok.inj (hplaced.symm.trans horder)
  exact ⟨hbelow, hacyclic, horder, heq ▸ hlinear, heq ▸ hleast⟩

end FrameGraph
