import FrameGraph.Log

/-!
# Loss of the Device

A device can be lost, and then nothing recorded or submitted has an effect
until the renderer is built anew. The flag that says so is shared by
everything that uses the device, so it is a value of its own that each step
takes and returns. Setting it again changes nothing and says nothing.

## Main definitions

* `Device`: The shared flag.
* `Device.markLost`: Set it, and report that only the first time.
* `Device.restored`: The flag after the renderer was built anew.
-/

namespace FrameGraph.Gpu

/-- What is known of the device. -/
structure Device where
  lost : Bool
  deriving DecidableEq, Repr

namespace Device

/-- A device that works. -/
def working : Device := ⟨false⟩

/-- Note that the device is lost. Only the first note is reported. -/
def markLost (device : Device) : Device × List LogEntry :=
  (⟨true⟩,
    if device.lost then []
    else [LogEntry.error "GPU device lost, all further frame recording is disabled"])

/-- The device after the renderer was built anew. -/
def restored (_ : Device) : Device := working

end Device

end FrameGraph.Gpu
