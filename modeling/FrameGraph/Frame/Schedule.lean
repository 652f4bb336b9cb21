import FrameGraph.Compilation.Basic
import FrameGraph.Frame.Op

/-!
# Scheduling

Producers append operations in their own order, and scheduling turns that
into the order of recording.

First, whatever draws to the presented image moves into one context, that
of the first such operation. Otherwise every producer would begin a render
pass of its own on it, and one that clears on load would throw away what was
drawn before.

Then the operations are sorted by where their identity first occurs and,
within an identity, by the rank of their pass. Taking the first occurrence
and not the value of the identity keeps groups in the order they came,
while the operations of a group become neighbours. Operations that agree in
both keep their order.

## Main definitions

* `shareSwapchainContext`: One context for the presented image.
* `sortOps`: The order of recording.
* `Bucket`, `buckets`: Runs of operations that can be recorded apart.
* `schedule`: All of it.
-/

namespace FrameGraph

namespace FrameOp

/-- The operation in another context, if it draws to the presented image. -/
def moveSwapchainTo (context : Context) (op : FrameOp) : FrameOp :=
  if op.targetsSwapchain then { op with context := context } else op

end FrameOp

/-- Whatever draws to the presented image, in the context of the first such
    operation. -/
def shareSwapchainContext (ops : List FrameOp) : List FrameOp :=
  match ops.find? FrameOp.targetsSwapchain with
  | none => ops
  | some first => ops.map (FrameOp.moveSwapchainTo first.context)

/-- Where the identity of an operation first occurs. -/
def identityPosition (ops : List FrameOp) (op : FrameOp) : Nat :=
  ops.findIdx fun other => other.context.identity = op.context.identity

/-- The first operation does not have to come after the second: its identity
    occurs first, or in one group its pass has no higher rank. -/
def mayPrecede (compiled : Compiled) (ops : List FrameOp) (first second : FrameOp) : Bool :=
  let a := identityPosition ops first
  let b := identityPosition ops second
  a < b || (a = b && compiled.rankOrLowest first.pass ≤ compiled.rankOrLowest second.pass)

/-- The operations in the order of recording. -/
def sortOps (compiled : Compiled) (ops : List FrameOp) : List FrameOp :=
  ops.mergeSort (mayPrecede compiled ops)

/-- A run of operations that can be recorded apart: from `start` up to, and
    without, `stop`. -/
structure Bucket where
  start : Nat
  stop : Nat
  kind : WorkKind
  pass : PassIndex
  context : Context
  deriving DecidableEq, Repr

namespace Bucket

/-- The run of one operation. -/
def single (position : Nat) (op : FrameOp) : Bucket :=
  ⟨position, position + 1, op.kind, op.pass, op.context⟩

/-- The operation continues the run: kind, pass and context are equal. -/
def accepts (bucket : Bucket) (op : FrameOp) : Bool :=
  bucket.kind = op.kind && bucket.pass = op.pass && bucket.context = op.context

/-- The runs of the operations from a position on, after a run that may be
    open there. -/
def scan : Nat → Option Bucket → List FrameOp → List Bucket
  | _, current, [] => current.toList
  | position, current, op :: rest =>
    if op.kind.recordsApart then
      match current with
      | none => scan (position + 1) (some (single position op)) rest
      | some bucket =>
        if bucket.accepts op then
          scan (position + 1) (some { bucket with stop := position + 1 }) rest
        else bucket :: scan (position + 1) (some (single position op)) rest
    else current.toList ++ scan (position + 1) none rest

end Bucket

/-- The longest runs of operations of one kind, pass and context that can be
    recorded apart. -/
def buckets (ops : List FrameOp) : List Bucket := Bucket.scan 0 none ops

/-- Operations in the order of recording, with their buckets. -/
structure Scheduled where
  ops : List FrameOp
  buckets : List Bucket
  deriving DecidableEq, Repr

/-- Schedule the operations of a frame, with buckets if they are wanted. -/
def schedule (compiled : Compiled) (withBuckets : Bool) (ops : List FrameOp) : Scheduled :=
  let ops := sortOps compiled (shareSwapchainContext ops)
  ⟨ops, if withBuckets then buckets ops else []⟩

end FrameGraph
