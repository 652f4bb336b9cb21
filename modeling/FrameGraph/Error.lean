import FrameGraph.Frame.Surface
import FrameGraph.Gpu.Code
import FrameGraph.Pass.Basic

/-!
# Errors

Everything that can go wrong with a frame. None of these can be recovered
from within a frame: either the declaration or the order of calls was wrong,
or the device failed, and the caller can only drop the frame.

## Main definitions

* `RecordingCall`: The calls of a stream that can fail.
* `Error`: What went wrong.
* `Error.message`: The words for it.
-/

namespace FrameGraph

open Gpu

/-- A call of a command stream that can fail. -/
inductive RecordingCall where
  | reset
  | begin
  | finish
  deriving DecidableEq, Repr

namespace RecordingCall

/-- The call's name in messages. -/
def text : RecordingCall → String
  | reset => "reset"
  | begin => "begin"
  | finish => "end"

end RecordingCall

/-- What went wrong with a frame. -/
inductive Error where
  /-- The passes wait for one another in a circle. -/
  | dependencyCycle (passes : List String)
  /-- Two passes carry one index. -/
  | duplicatePassIndex (index : PassIndex)
  | slotOutOfRange (slot slotCount : Nat)
  | streamNotAllocated (slot : Nat)
  | inconsistentDirtyFlags (flags streams : Nat)
  /-- The allocator has nothing to back a resource with. -/
  | missingResource (name : String)
  /-- The allocator does not know a surface. -/
  | missingTarget (surface : Surface)
  /-- A blit reads what it writes. -/
  | blitAliasing (surface : Surface)
  | backend (call : RecordingCall) (code : ResultCode)
  | deviceLost
  deriving DecidableEq, Repr

namespace Error

/-- The words for an error. -/
def message : Error → String
  | dependencyCycle passes =>
    "dependency cycle detected involving passes: " ++ Text.quotedList passes
  | duplicatePassIndex index =>
    "pass index " ++ toString index.toNat ++ " is declared more than once"
  | slotOutOfRange slot slotCount =>
    "frame slot " ++ toString slot ++ " is out of range (" ++ toString slotCount ++ " slots)"
  | streamNotAllocated slot =>
    "command stream of frame slot " ++ toString slot ++ " was never allocated"
  | inconsistentDirtyFlags flags streams =>
    "dirty flag count " ++ toString flags ++ " does not match command stream count "
      ++ toString streams
  | missingResource name => "resource group \"" ++ name ++ "\" could not be allocated"
  | missingTarget surface => "render target " ++ surface.text ++ " could not be resolved"
  | blitAliasing surface =>
    "blit source and destination alias the same surface " ++ surface.text
  | backend call code => "command stream " ++ call.text ++ " failed: " ++ ResultCode.text code
  | deviceLost => "GPU device lost"

end Error

end FrameGraph
