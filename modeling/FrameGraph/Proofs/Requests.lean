import FrameGraph.Proofs.Edges

/-!
# Graphs Grown on Request

A dependency graph can be grown by hand, one request after the other, and
the same pair of nodes may be asked for many times and for many reasons. The
graph keeps one edge for a pair and files the reasons under it, so its list
of edges is not the list of requests. What it says is: a pair is joined
exactly if it was asked for, and a request that would put a node before
itself says nothing.

`Asked` is that relation on the requests alone. With it, statements about
the order of a graph can be made without the graph.

## Main definitions

* `EdgeRequest`: One node before another because of a resource.
* `Asked`: Some request puts a node before another one.
* `RequestsBelow`: The requests name nodes that are there.
* `DependencyGraph.ofRequests`: The graph grown by some requests.

## Theorems

* `ofRequests_concat`: One more request is one more edge.
* `carries_ofRequests`: The graph carries the resources that were asked for.
* `joined_ofRequests`: The graph joins the pairs that were asked for.
* `joined_ofRequests_lt`: Joined nodes are nodes.
-/

namespace FrameGraph

/-- One node is to come before another because of a resource. -/
structure EdgeRequest where
  producer : Nat
  consumer : Nat
  resource : String
  deriving DecidableEq, Repr

/-- Some request puts the one node before the other, which is another node. -/
def Asked (requests : List EdgeRequest) (u v : Nat) : Prop :=
  u ≠ v ∧ ∃ request ∈ requests, request.producer = u ∧ request.consumer = v

/-- All requests are about nodes below a size. -/
def RequestsBelow (size : Nat) (requests : List EdgeRequest) : Prop :=
  ∀ request ∈ requests, request.producer < size ∧ request.consumer < size

namespace DependencyGraph

/-- The graph over the nodes below `size` after some requests, in order. -/
def ofRequests (size : Nat) (requests : List EdgeRequest) : DependencyGraph :=
  requests.foldl
    (fun graph request => graph.addEdge request.producer request.consumer request.resource)
    (new size)

/-- The last request is the last edge that is added. -/
theorem ofRequests_concat (size : Nat) (requests : List EdgeRequest) (last : EdgeRequest) :
    ofRequests size (requests ++ [last])
      = (ofRequests size requests).addEdge last.producer last.consumer last.resource := by
  unfold ofRequests
  rw [List.foldl_append, List.foldl_cons, List.foldl_nil]

theorem size_ofRequests (size : Nat) (requests : List EdgeRequest) :
    (ofRequests size requests).size = size := by
  unfold ofRequests
  refine List.foldlRecOn (motive := fun graph : DependencyGraph => graph.size = size)
    _ _ rfl ?_
  intro graph hgraph request _
  rw [size_addEdge, hgraph]

theorem reasoned_ofRequests (size : Nat) (requests : List EdgeRequest) :
    (ofRequests size requests).Reasoned := by
  unfold ofRequests
  refine List.foldlRecOn (motive := Reasoned) _ _ ?_ ?_
  · intro edge hedge
    exact absurd hedge List.not_mem_nil
  · intro graph hgraph request _
    exact reasoned_addEdge graph _ _ _ hgraph

/-- The requests one after the other, on any graph. -/
theorem carries_addRequests (requests : List EdgeRequest) (graph : DependencyGraph) (u v : Nat)
    (resource : String) :
    (requests.foldl
        (fun graph request =>
          graph.addEdge request.producer request.consumer request.resource)
        graph).Carries u v resource
      ↔ graph.Carries u v resource ∨ (u ≠ v ∧ EdgeRequest.mk u v resource ∈ requests) := by
  induction requests generalizing graph with
  | nil => simp only [List.foldl_nil, List.not_mem_nil, and_false, or_false]
  | cons request rest ih =>
      rw [List.foldl_cons, ih, carries_addEdge, List.mem_cons]
      constructor
      · rintro ((hg | ⟨hne, rfl, rfl, rfl⟩) | ⟨hne, hmem⟩)
        · exact Or.inl hg
        · exact Or.inr ⟨hne, Or.inl rfl⟩
        · exact Or.inr ⟨hne, Or.inr hmem⟩
      · rintro (hg | ⟨hne, rfl | hmem⟩)
        · exact Or.inl (Or.inl hg)
        · exact Or.inl (Or.inr ⟨hne, rfl, rfl, rfl⟩)
        · exact Or.inr ⟨hne, hmem⟩

/-- The graph carries the resources that were asked for, and no others. -/
theorem carries_ofRequests (size : Nat) (requests : List EdgeRequest) (u v : Nat)
    (resource : String) :
    (ofRequests size requests).Carries u v resource
      ↔ u ≠ v ∧ EdgeRequest.mk u v resource ∈ requests := by
  unfold ofRequests
  rw [carries_addRequests]
  constructor
  · rintro (⟨edge, hedge, _⟩ | hasked)
    · exact absurd hedge List.not_mem_nil
    · exact hasked
  · exact Or.inr

/-- The graph joins the pairs that were asked for, and no others. -/
theorem joined_ofRequests (size : Nat) (requests : List EdgeRequest) :
    (ofRequests size requests).Joined = Asked requests := by
  funext u v
  refine propext ?_
  rw [joined_iff_carries _ (reasoned_ofRequests size requests)]
  simp only [carries_ofRequests, Asked]
  constructor
  · rintro ⟨resource, hne, hmem⟩
    exact ⟨hne, _, hmem, rfl, rfl⟩
  · rintro ⟨hne, request, hmem, rfl, rfl⟩
    exact ⟨request.resource, hne, hmem⟩

/-- Joined nodes are nodes, if only nodes were asked for. -/
theorem joined_ofRequests_lt (size : Nat) (requests : List EdgeRequest)
    (hbelow : RequestsBelow size requests) (u v : Nat)
    (h : (ofRequests size requests).Joined u v) :
    u < (ofRequests size requests).size ∧ v < (ofRequests size requests).size := by
  rw [size_ofRequests]
  rw [joined_ofRequests] at h
  rcases h with ⟨_, request, hmem, rfl, rfl⟩
  exact hbelow request hmem

end DependencyGraph

end FrameGraph
