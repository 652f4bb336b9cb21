/-!
# Stages, Accesses and Aspects

A barrier names pipeline stages, kinds of memory access and image aspects,
each as a word with one bit per member. The words stay plain: a caller may
hand over bits this library does not know, and they have to pass through
unchanged. Only the printed form needs the names, and it lists them from
the lowest bit up.

## Main definitions

* `StageMask`, `AccessMask`, `AspectMask`: Sets of stages, accesses, aspects.
* `StageMask.text`, `AccessMask.text`, `AspectMask.text`: Their printed forms.
-/

namespace FrameGraph.Gpu

/-- A set of pipeline stages. -/
abbrev StageMask := UInt64

/-- A set of memory access kinds. -/
abbrev AccessMask := UInt64

/-- A set of image aspects. -/
abbrev AspectMask := UInt32

/-- The names of the bits set in a word, in the order of the table, separated
    by bars. An empty word has an empty text. -/
def flagText (names : List (Nat × String)) (bits : Nat) : String :=
  String.intercalate " | " ((names.filter fun entry => bits.testBit entry.1).map (·.2))

namespace StageMask

def topOfPipe : StageMask := 0x1
def drawIndirect : StageMask := 0x2
def vertexInput : StageMask := 0x4
def vertexShader : StageMask := 0x8
def fragmentShader : StageMask := 0x80
def earlyFragmentTests : StageMask := 0x100
def lateFragmentTests : StageMask := 0x200
def colorAttachmentOutput : StageMask := 0x400
def computeShader : StageMask := 0x800
def transfer : StageMask := 0x1000
def bottomOfPipe : StageMask := 0x2000
def host : StageMask := 0x4000
def allCommands : StageMask := 0x10000
def transformFeedback : StageMask := 0x1000000
def indexInput : StageMask := 0x1000000000

/-- Both fragment test stages. -/
def fragmentTests : StageMask := earlyFragmentTests ||| lateFragmentTests

/-- The shader stages of a draw. -/
def graphicsShaders : StageMask := vertexShader ||| fragmentShader

/-- The names of the stages by bit. -/
def names : List (Nat × String) := [
  (0, "TOP_OF_PIPE"), (1, "DRAW_INDIRECT"), (2, "VERTEX_INPUT"), (3, "VERTEX_SHADER"),
  (7, "FRAGMENT_SHADER"), (8, "EARLY_FRAGMENT_TESTS"), (9, "LATE_FRAGMENT_TESTS"),
  (10, "COLOR_ATTACHMENT_OUTPUT"), (11, "COMPUTE_SHADER"), (12, "ALL_TRANSFER"),
  (13, "BOTTOM_OF_PIPE"), (14, "HOST"), (16, "ALL_COMMANDS"),
  (24, "TRANSFORM_FEEDBACK_EXT"), (36, "INDEX_INPUT")]

/-- The printed form of a set of stages. -/
def text (mask : StageMask) : String := flagText names mask.toNat

end StageMask

namespace AccessMask

def indirectCommandRead : AccessMask := 0x1
def indexRead : AccessMask := 0x2
def vertexAttributeRead : AccessMask := 0x4
def uniformRead : AccessMask := 0x8
def shaderRead : AccessMask := 0x20
def shaderWrite : AccessMask := 0x40
def colorAttachmentRead : AccessMask := 0x80
def colorAttachmentWrite : AccessMask := 0x100
def depthStencilAttachmentRead : AccessMask := 0x200
def depthStencilAttachmentWrite : AccessMask := 0x400
def transferRead : AccessMask := 0x800
def transferWrite : AccessMask := 0x1000
def hostRead : AccessMask := 0x2000
def hostWrite : AccessMask := 0x4000
def memoryRead : AccessMask := 0x8000
def memoryWrite : AccessMask := 0x10000
def transformFeedbackWrite : AccessMask := 0x2000000
def shaderSampledRead : AccessMask := 0x100000000
def shaderStorageRead : AccessMask := 0x200000000
def shaderStorageWrite : AccessMask := 0x400000000

/-- Storage access in both directions. -/
def storageReadWrite : AccessMask := shaderStorageRead ||| shaderStorageWrite

/-- The accesses that write and whose results a later access may have to
    wait for. -/
def writing : AccessMask :=
  shaderStorageWrite ||| colorAttachmentWrite ||| depthStencilAttachmentWrite
    ||| transferWrite ||| shaderWrite ||| memoryWrite

/-- The names of the accesses by bit. -/
def names : List (Nat × String) := [
  (0, "INDIRECT_COMMAND_READ"), (1, "INDEX_READ"), (2, "VERTEX_ATTRIBUTE_READ"),
  (3, "UNIFORM_READ"), (5, "SHADER_READ"), (6, "SHADER_WRITE"),
  (7, "COLOR_ATTACHMENT_READ"), (8, "COLOR_ATTACHMENT_WRITE"),
  (9, "DEPTH_STENCIL_ATTACHMENT_READ"), (10, "DEPTH_STENCIL_ATTACHMENT_WRITE"),
  (11, "TRANSFER_READ"), (12, "TRANSFER_WRITE"), (13, "HOST_READ"), (14, "HOST_WRITE"),
  (15, "MEMORY_READ"), (16, "MEMORY_WRITE"), (25, "TRANSFORM_FEEDBACK_WRITE_EXT"),
  (32, "SHADER_SAMPLED_READ"), (33, "SHADER_STORAGE_READ"), (34, "SHADER_STORAGE_WRITE")]

/-- The printed form of a set of accesses. -/
def text (mask : AccessMask) : String := flagText names mask.toNat

end AccessMask

namespace AspectMask

def color : AspectMask := 0x1
def depth : AspectMask := 0x2
def stencil : AspectMask := 0x4

/-- The aspects of a depth attachment. -/
def depthStencil : AspectMask := depth ||| stencil

/-- The names of the aspects by bit. -/
def names : List (Nat × String) := [(0, "COLOR"), (1, "DEPTH"), (2, "STENCIL")]

/-- The printed form of a set of aspects. -/
def text (mask : AspectMask) : String := flagText names mask.toNat

end AspectMask

end FrameGraph.Gpu
