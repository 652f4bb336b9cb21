import FrameGraph.Compilation.Batch
import FrameGraph.Dependency.Analysis
import FrameGraph.Dependency.Order
import FrameGraph.Error
import FrameGraph.Log
import FrameGraph.Sync.Plan

/-!
# Compiled Passes

From declared passes to everything a frame needs to know about them: the
order they run in, which of them share a render pass, the resources they
use, and the barriers between them.

Two things stand in the way. The index of a pass is its name everywhere
else, so it must not occur twice, and passes that wait for one another in a
circle have no order. The first is reported first.

## Main definitions

* `Compiled`: Passes in order, with batches, resources and plan.
* `Compiled.rank?`: The place of a pass in the order.
* `compile`: Compile declared passes.
* `compileLog`: What is reported while doing so.
-/

namespace FrameGraph

/-- Passes in the order they run, and what follows from it. -/
structure Compiled where
  order : List Pass
  batches : List Batch
  plan : SyncPlan
  resources : Registry
  conflicts : List LayoutConflict
  deriving DecidableEq, Repr

namespace Compiled

/-- The compilation of no passes. -/
def empty : Compiled := ⟨[], [], SyncPlan.empty, Registry.empty, []⟩

/-- There are no passes. -/
def isEmpty (compiled : Compiled) : Bool := compiled.order.isEmpty

/-- The place of a pass in the order. -/
def rank? (compiled : Compiled) (index : PassIndex) : Option Nat :=
  compiled.order.findIdx? fun pass => pass.index = index

/-- The place of passes nobody declared: behind every other. -/
def lowestRank : Nat := 18446744073709551615

/-- The place of a pass in the order, or the lowest if it has none. -/
def rankOrLowest (compiled : Compiled) (index : PassIndex) : Nat :=
  (compiled.rank? index).getD lowestRank

/-- The batch that holds a pass. -/
def batchOf (batches : List Batch) (index : PassIndex) : Option Nat :=
  batchLookup (batches.map fun batch => (batch.index, batch.passes)) index

/-- Passes that already stand in the order they run, with batches, resources
    and plan. -/
def ofOrder (order : List Pass) : Compiled :=
  let batches := Batch.ofOrder order
  let planned := planBarriers order (batchOf batches) Registry.empty
  ⟨order, batches, planned.plan, planned.registry, planned.conflicts⟩

end Compiled

/-- The first pass whose index occurs before it. -/
def firstRepeated? (seen : List PassIndex) : List Pass → Option Pass
  | [] => none
  | pass :: rest =>
    if seen.contains pass.index then some pass else firstRepeated? (pass.index :: seen) rest

/-- Compile declared passes. -/
def compile (passes : List Pass) : Except Error Compiled :=
  if passes.isEmpty then .ok Compiled.empty
  else
    match firstRepeated? [] passes with
    | some pass => .error (.duplicatePassIndex pass.index)
    | none =>
      match (dependencies passes).order with
      | .error stuck =>
        .error (.dependencyCycle (stuck.filterMap fun position => (passes[position]?).map Pass.name))
      | .ok order => .ok (Compiled.ofOrder (order.filterMap fun position => passes[position]?))

/-- What is reported while compiling: the reason of a failure, or else the
    layout conflicts of the passes. -/
def compileLog (passes : List Pass) : List LogEntry :=
  match compile passes with
  | .ok compiled => compiled.conflicts.map fun conflict => LogEntry.warn conflict.message
  | .error (.duplicatePassIndex index) =>
    (firstRepeated? [] passes).toList.map fun pass =>
      LogEntry.error ("pass index " ++ toString index.toNat ++ " (" ++ pass.name
        ++ ") is declared more than once")
  | .error (.dependencyCycle names) =>
    [LogEntry.error ("frame graph dependency cycle: " ++ Text.quotedList names)]
  | .error _ => []

end FrameGraph
