/-!
# Dependency Graphs

Nodes are the positions of passes in their declaration, and an edge says
that one of them must run before another because of some resources. Two
nodes are joined by at most one edge: a second reason to order them adds a
name to the edge that is there. A node never depends on itself.

Edges are kept in the order in which they first arose. Successors and
in-degrees are read off that one list, so they cannot disagree with it.

## Main definitions

* `DependencyEdge`, `DependencyGraph`: A graph over the nodes below `size`.
* `DependencyGraph.addEdge`: Order two nodes because of a resource.
* `DependencyGraph.addEdge?`: The same, unless a node is out of range.
* `DependencyGraph.successors`, `DependencyGraph.inDegree`: Read off the edges.
-/

namespace FrameGraph

/-- One node before another, because of the named resources. -/
structure DependencyEdge where
  producer : Nat
  consumer : Nat
  resources : List String
  deriving DecidableEq, Repr

namespace DependencyEdge

/-- The edge with one more reason, unless it has that reason already. -/
def noting (edge : DependencyEdge) (resource : String) : DependencyEdge :=
  if resource ∈ edge.resources then edge
  else { edge with resources := edge.resources ++ [resource] }

end DependencyEdge

/-- Edges between the nodes below `size`, in order of first insertion. -/
structure DependencyGraph where
  size : Nat
  edges : List DependencyEdge
  deriving DecidableEq, Repr

namespace DependencyGraph

/-- The graph without edges. -/
def new (size : Nat) : DependencyGraph := ⟨size, []⟩

/-- The edges after one more reason to put `producer` before `consumer`. -/
def note (producer consumer : Nat) (resource : String) :
    List DependencyEdge → List DependencyEdge
  | [] => [⟨producer, consumer, [resource]⟩]
  | edge :: rest =>
    if edge.producer = producer ∧ edge.consumer = consumer then edge.noting resource :: rest
    else edge :: note producer consumer resource rest

/-- Put `producer` before `consumer` because of a resource. -/
def addEdge (graph : DependencyGraph) (producer consumer : Nat) (resource : String) :
    DependencyGraph :=
  if producer = consumer then graph
  else { graph with edges := note producer consumer resource graph.edges }

/-- Put `producer` before `consumer`, if both are nodes. A node is never put
    before itself, so that case asks for nothing. -/
def addEdge? (graph : DependencyGraph) (producer consumer : Nat) (resource : String) :
    Option DependencyGraph :=
  if producer = consumer ∨ (producer < graph.size ∧ consumer < graph.size) then
    some (graph.addEdge producer consumer resource)
  else none

/-- The nodes that directly depend on a node, in order of first insertion. -/
def successors (graph : DependencyGraph) (node : Nat) : List Nat :=
  (graph.edges.filter fun edge => edge.producer = node).map DependencyEdge.consumer

/-- How many nodes a node directly depends on. -/
def inDegree (graph : DependencyGraph) (node : Nat) : Nat :=
  graph.edges.countP fun edge => edge.consumer = node

end DependencyGraph

end FrameGraph
