/-!
# Code Words of the Graphics Interface

Image layouts, the load and store operations of attachments, the filters of
copies, the bind points of pipelines and the result codes of device calls
are numbers of a fixed registry. They are kept as the numbers they are,
because a caller may use one that has no name here; the printed form falls
back to the decimal number then.

## Main definitions

* `Layout`, `LoadOp`, `StoreOp`: Codes with a printed form.
* `Filter`, `BindPoint`: Codes that are only passed on.
* `ResultCode`: The answer of a device call, zero for success.
* `ResultCode.text`: What a failure says.
-/

namespace FrameGraph.Gpu

/-- The name a table gives to a code, or else the code in decimal. -/
def codeText (names : List (Int32 × String)) (code : Int32) : String :=
  (names.lookup code).getD (toString code.toInt)

/-- How the texels of an image are arranged in memory. -/
abbrev Layout := Int32

namespace Layout

def undefined : Layout := 0
def general : Layout := 1
def colorAttachment : Layout := 2
def depthStencilAttachment : Layout := 3
def depthStencilReadOnly : Layout := 4
def shaderReadOnly : Layout := 5
def transferSource : Layout := 6
def transferDestination : Layout := 7
def present : Layout := 1000001002

/-- The printed form of a layout. -/
def text (layout : Layout) : String :=
  codeText [
    (undefined, "UNDEFINED"), (general, "GENERAL"),
    (colorAttachment, "COLOR_ATTACHMENT_OPTIMAL"),
    (depthStencilAttachment, "DEPTH_STENCIL_ATTACHMENT_OPTIMAL"),
    (depthStencilReadOnly, "DEPTH_STENCIL_READ_ONLY_OPTIMAL"),
    (shaderReadOnly, "SHADER_READ_ONLY_OPTIMAL"),
    (transferSource, "TRANSFER_SRC_OPTIMAL"), (transferDestination, "TRANSFER_DST_OPTIMAL"),
    (present, "PRESENT_SRC_KHR")] layout

end Layout

/-- What happens to an attachment's contents when its render pass begins. -/
abbrev LoadOp := Int32

namespace LoadOp

def load : LoadOp := 0
def clear : LoadOp := 1
def dontCare : LoadOp := 2
def none : LoadOp := 1000400000

/-- The printed form of a load operation. -/
def text (op : LoadOp) : String :=
  codeText [(load, "LOAD"), (clear, "CLEAR"), (dontCare, "DONT_CARE"), (none, "NONE_KHR")] op

end LoadOp

/-- What happens to an attachment's contents when its render pass ends. -/
abbrev StoreOp := Int32

namespace StoreOp

def store : StoreOp := 0
def dontCare : StoreOp := 1
def none : StoreOp := 1000301000

/-- The printed form of a store operation. -/
def text (op : StoreOp) : String :=
  codeText [(store, "STORE"), (dontCare, "DONT_CARE"), (none, "NONE")] op

end StoreOp

/-- How a copy reads between texels. -/
abbrev Filter := Int32

namespace Filter

def nearest : Filter := 0
def linear : Filter := 1

end Filter

/-- Which pipeline a bind replaces. -/
abbrev BindPoint := Int32

namespace BindPoint

def graphics : BindPoint := 0
def compute : BindPoint := 1

end BindPoint

/-- The answer of a device call. Zero is success, everything else a failure,
    the positive codes included. -/
abbrev ResultCode := Int32

namespace ResultCode

def success : ResultCode := 0
def deviceLost : ResultCode := -4

/-- What a failure says, or its decimal number if it has no words. -/
def text (code : ResultCode) : String :=
  codeText [
    (-1, "A host memory allocation has failed"),
    (-2, "A device memory allocation has failed"),
    (-3, "Initialization of an object has failed"),
    (deviceLost, "ERROR_DEVICE_LOST"),
    (-5, "Mapping of a memory object has failed"),
    (-6, "Layer specified does not exist"),
    (-7, "Extension specified does not exist"),
    (-8, "Requested feature is not available on this device"),
    (-9, "Unable to find a Vulkan driver"),
    (-10, "Too many objects of the type have already been created"),
    (-11, "Requested format is not supported on this device"),
    (-12, "A requested pool allocation has failed due to fragmentation of the pool's memory"),
    (-13, "An unknown error has occurred, due to an implementation or application bug"),
    (1, "A fence or query has not yet completed"),
    (2, "A wait operation has not completed in the specified time"),
    (3, "An event is signaled"),
    (4, "An event is unsignaled"),
    (5, "A return array was too small for the result"),
    (-1000069000, "ERROR_OUT_OF_POOL_MEMORY"),
    (-1000000000, "ERROR_SURFACE_LOST_KHR"),
    (-1000257000, "ERROR_INVALID_OPAQUE_CAPTURE_ADDRESS"),
    (1000001003, "SUBOPTIMAL_KHR")] code

end ResultCode

end FrameGraph.Gpu
