import FrameGraph.Dependency.Graph
import FrameGraph.Pass.Basic

/-!
# Dependencies Between Passes

For each resource the passes that write it form a chain in the order of
their declaration, and a pass that only reads it comes after all of them:
what it sees is the final value, wherever it was declared. A pass that
reads and writes counts as a writer, so it sees what the writer before it
left.

## Main definitions

* `resourceNames`: The names in use, in order of first use.
* `writersOf`, `readersOf`: The positions that write, or only read, a name.
* `dependencyPairs`: The pairs of positions that one resource orders.
* `dependencies`: The dependency graph of a list of passes.
-/

namespace FrameGraph

/-- The resources the passes use, each once, in order of first use. -/
def resourceNames (passes : List Pass) : List String :=
  (passes.flatMap fun pass => pass.usages.map Usage.resource).eraseDups

/-- The positions of the passes that satisfy a test. -/
def positionsWhere (passes : List Pass) (test : Pass → Bool) : List Nat :=
  (passes.zipIdx.filter fun entry => test entry.1).map (·.2)

/-- The positions of the passes that write a resource. -/
def writersOf (passes : List Pass) (resource : String) : List Nat :=
  positionsWhere passes fun pass => pass.writes resource

/-- The positions of the passes that use a resource without writing it. -/
def readersOf (passes : List Pass) (resource : String) : List Nat :=
  positionsWhere passes fun pass => pass.uses resource && !pass.writes resource

/-- The pairs of positions that one resource orders: each writer before the
    next, then every writer before each reader. -/
def dependencyPairs (passes : List Pass) (resource : String) : List (Nat × Nat) :=
  let writers := writersOf passes resource
  writers.zip writers.tail ++
    (readersOf passes resource).flatMap fun reader => writers.map fun writer => (writer, reader)

/-- The dependency graph of the passes, by position. -/
def dependencies (passes : List Pass) : DependencyGraph :=
  (resourceNames passes).foldl
    (fun graph resource =>
      (dependencyPairs passes resource).foldl
        (fun graph pair => graph.addEdge pair.1 pair.2 resource) graph)
    (DependencyGraph.new passes.length)

end FrameGraph
