import FrameGraph.Compilation.Basic

/-!
# The Execution Plan in Print

A compilation written out for a person: the order of the passes, the
batches, and what each boundary waits for. The lines are log entries.

## Main definitions

* `Compiled.listing`: The lines of a compilation.
-/

namespace FrameGraph

open Gpu

namespace Listing

/-- A rule of some width between two corners. -/
def rule (left fill right : String) (width : Nat) : String :=
  left ++ String.join (List.replicate width fill) ++ right

/-- The frame of the title. -/
def titleWidth : Nat := 66

/-- The frame of a section. -/
def sectionWidth : Nat := 65

/-- The text before a name between quotes, without escapes. -/
def named (lead name : String) : String := lead ++ " \"" ++ name ++ "\""

/-- Numbers between brackets. -/
def numbers (indices : List PassIndex) : String :=
  "[" ++ String.intercalate ", " (indices.map fun index => toString index.toNat) ++ "]"

/-- A change from one text to another. -/
def change (label before after : String) : String :=
  "│       " ++ label ++ " " ++ before ++ " → " ++ after

/-- The title, with the order of the passes and the totals. -/
def title (compiled : Compiled) : List String := [
  rule "╔" "═" "╗" titleWidth,
  "║                 Frame Graph Execution Plan                       ║",
  rule "╠" "═" "╣" titleWidth,
  "║ Total Passes: " ++ toString compiled.order.length ++ "  |  Order: ["
    ++ String.intercalate " → " (compiled.order.map Pass.name) ++ "]",
  "║ Batches: " ++ toString compiled.batches.length ++ "  |  Barriers: "
    ++ toString compiled.plan.barriers.length,
  rule "╚" "═" "╝" titleWidth]

/-- The lines of one batch. -/
def batchLines (batch : Batch) : List String :=
  ["", rule "┌" "─" "┐" sectionWidth,
    "│ Batch #" ++ toString batch.index ++ " (" ++ batch.stage.text ++ ") passes "
      ++ numbers batch.passes]
  ++ (if batch.signature.isEmpty then [] else ["│ Attachments: " ++ batch.signature])
  ++ [rule "└" "─" "┘" sectionWidth]

/-- The lines of one barrier. -/
def barrierLines (barrier : PlannedBarrier) : List String :=
  let entry := if barrier.entry then " (entry)" else ""
  let scopes := [
    change "Stage: " (StageMask.text barrier.previous.stages) (StageMask.text barrier.next.stages),
    change "Access:" (AccessMask.text barrier.previous.access)
      (AccessMask.text barrier.next.access)]
  if barrier.isImage then
    [named "│   🔒 Image" barrier.resource ++ entry,
      change "Layout:" (Layout.text barrier.previous.layout) (Layout.text barrier.next.layout)]
    ++ scopes ++ ["│       Aspect: " ++ AspectMask.text barrier.aspect]
  else (named "│   🔒 Buffer" barrier.resource ++ entry) :: scopes

/-- The name of a boundary: that of its pass, if a pass has its index. -/
def boundaryName (compiled : Compiled) (boundary : PassIndex) : String :=
  ((compiled.order.find? fun pass => pass.index = boundary).map Pass.name).getD "<swapchain>"

/-- The lines of one boundary. -/
def boundaryLines (compiled : Compiled) (boundary : PassIndex) : List String :=
  let barriers := compiled.plan.barriersAt boundary
  ["", rule "┌" "─" "┐" sectionWidth,
    named "│ Barriers before" (boundaryName compiled boundary) ++ ": "
      ++ toString (barriers.countP (·.isImage)) ++ " image, "
      ++ toString (barriers.countP (!·.isImage)) ++ " buffer",
    rule "├" "─" "┤" sectionWidth]
  ++ (PlannedBarrier.imagesFirst barriers).flatMap barrierLines
  ++ [rule "└" "─" "┘" sectionWidth]

end Listing

namespace Compiled

/-- The lines of a compilation. -/
def listing (compiled : Compiled) : List LogEntry :=
  let lines := Listing.title compiled
    ++ compiled.batches.flatMap Listing.batchLines
    ++ compiled.plan.boundaries.flatMap (Listing.boundaryLines compiled)
    ++ ["", "═══════════════════════ End of Execution Plan ═══════════════════════"]
  lines.map LogEntry.info

end Compiled

end FrameGraph
