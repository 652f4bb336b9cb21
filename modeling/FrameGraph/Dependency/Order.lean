import FrameGraph.Dependency.Graph

/-!
# A Stable Topological Order

Nodes are placed one at a time, and each time the smallest node whose
producers are all placed is taken. Passes that nothing orders therefore stay
as they were declared, and the order does not change from frame to frame
for no reason.

If no node can be taken while some are left, each of these waits for
another, so there is a cycle among them; the nodes left are the ones on a
cycle and the ones behind it, and they are the report.

## Main definitions

* `DependencyGraph.ready`: Nothing left has to come before a node.
* `DependencyGraph.place`: Place nodes until none is ready.
* `DependencyGraph.order`: The order, or the nodes that cannot be placed.
-/

namespace FrameGraph

namespace DependencyGraph

/-- Of the nodes left, none has to come before this one. -/
def ready (graph : DependencyGraph) (left : List Nat) (node : Nat) : Bool :=
  graph.edges.all fun edge => !(edge.consumer = node && left.contains edge.producer)

/-- Place ready nodes, the smallest first, for a number of rounds; `left` is
    ascending. The answer is the nodes placed, in order, and those left. Each
    round places one node, so as many rounds as nodes are enough. -/
def place (graph : DependencyGraph) : Nat → List Nat → List Nat × List Nat
  | 0, left => ([], left)
  | rounds + 1, left =>
    match left.find? (graph.ready left) with
    | none => ([], left)
    | some node =>
      let (placed, stuck) := graph.place rounds (left.erase node)
      (node :: placed, stuck)

/-- All nodes, producers before consumers, or the nodes that lie on a cycle
    or behind one, in ascending order. -/
def order (graph : DependencyGraph) : Except (List Nat) (List Nat) :=
  match graph.place graph.size (List.range graph.size) with
  | (placed, []) => .ok placed
  | (_, stuck) => .error stuck

end DependencyGraph

end FrameGraph
