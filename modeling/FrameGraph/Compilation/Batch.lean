import FrameGraph.Pass.Basic

/-!
# Batches

Neighbouring graphics passes with the same attachments share a render pass.
They form a batch, found by cutting the order of the passes wherever two
neighbours do not agree; there is no looking ahead. A pass of any other
stage is a batch of its own.

## Main definitions

* `Pass.joins`: Two neighbours belong to one batch.
* `Batch`: Neighbouring passes that share a render pass.
* `Batch.ofOrder`: The batches of passes in the order they run.
-/

namespace FrameGraph

namespace Pass

/-- Two neighbours belong to one batch: both draw, to the same attachments. -/
def joins (first second : Pass) : Bool :=
  first.stage = .graphics && second.stage = .graphics && first.signature = second.signature

end Pass

/-- Neighbouring passes that share a render pass. -/
structure Batch where
  index : Nat
  stage : Stage
  signature : String
  passes : List PassIndex
  deriving DecidableEq, Repr

namespace Batch

/-- The batch of a run of passes, described by the first of them. -/
def ofRun? (index : Nat) : List Pass → Option Batch
  | [] => none
  | first :: rest =>
    some ⟨index, first.stage, first.signature, (first :: rest).map Pass.index⟩

/-- The batches of passes in the order they run, numbered from zero. -/
def ofOrder (order : List Pass) : List Batch :=
  (order.splitBy Pass.joins).zipIdx.filterMap fun run => ofRun? run.2 run.1

end Batch

end FrameGraph
