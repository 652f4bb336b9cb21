import FrameGraph.Pass.Usage
import FrameGraph.Text.Quoted

/-!
# Passes

A pass is a step of a frame: a number chosen by the caller, a name, the
stage it runs on and the resources it uses. The order in which passes are
declared does not decide the order in which they run; their uses do.

Two graphics passes can share a render pass if their attachments agree, and
that is decided by comparing their signatures. A signature lists the
attachments only, sorted, so that neither the order of declaration nor any
other use has a part in it.

## Main definitions

* `PassIndex`: The caller's number for a pass.
* `Pass`: A declared pass.
* `Pass.signature`: The attachments as one text.
* `Pass.resources`: The names a pass uses, in order of first use.
-/

namespace FrameGraph

/-- The caller's number for a pass. -/
abbrev PassIndex := UInt32

/-- Stands for the moment before the first pass that uses the presented
    image. No pass should carry this number. -/
def frameStart : PassIndex := 4294967295

/-- A step of a frame with the resources it uses. -/
structure Pass where
  index : PassIndex
  name : String
  stage : Stage
  usages : List Usage
  deriving DecidableEq, Repr

namespace Pass

/-- The signatures of the attachments, sorted, separated by bars. -/
def signature (pass : Pass) : String :=
  String.intercalate "|"
    (Text.ascending ((pass.usages.filter (·.isAttachment)).map Usage.signature))

/-- Some use is one of the presented image. -/
def touchesSwapchain (pass : Pass) : Bool := pass.usages.any Usage.isSwapchain

/-- The uses of one resource, in order of declaration. -/
def usagesOf (pass : Pass) (resource : String) : List Usage :=
  pass.usages.filter fun usage => usage.resource = resource

/-- The pass uses the resource. -/
def uses (pass : Pass) (resource : String) : Bool :=
  pass.usages.any fun usage => usage.resource = resource

/-- Some use of the resource writes. -/
def writes (pass : Pass) (resource : String) : Bool :=
  pass.usages.any fun usage => usage.resource = resource && usage.access.writes

/-- The resources a pass uses, each once, in order of first use. -/
def resources (pass : Pass) : List String :=
  (pass.usages.map Usage.resource).eraseDups

end Pass

end FrameGraph
