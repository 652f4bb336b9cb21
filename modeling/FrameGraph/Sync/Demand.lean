import FrameGraph.Pass.Basic

/-!
# Demands

A pass may use one resource several times, say as an attachment and as a
texture. What it asks of the resource as a whole is its demand. Uses in one
layout add up. Uses in different layouts cannot all be had; an attachment
wins over anything else, and otherwise the earlier use does, and the
conflict is reported.

Whether a use is read as one of an image or of a buffer depends on what the
resource is and not on the type of the use. A use of the other kind asks for
the undefined state.

## Main definitions

* `Demand`: The state a pass needs, and whether as an attachment.
* `Pass.demand?`: What a pass asks of one resource.
* `LayoutConflict`, `Pass.conflicts`: The uses that cannot all be had.
-/

namespace FrameGraph

open Gpu

/-- What a pass asks of one resource. -/
structure Demand where
  state : ResourceState
  /-- Some use that was heeded is an attachment. -/
  attachment : Bool
  deriving DecidableEq, Repr

namespace Demand

/-- What one use asks, given what the resource is. -/
def ofUsage (isImage : Bool) (stage : Stage) (usage : Usage) : Demand :=
  if isImage then ⟨usage.imageState stage, usage.isAttachment⟩
  else ⟨usage.bufferState stage, false⟩

/-- The two demands are in one layout. -/
def agrees (a b : Demand) : Bool := a.state.layout = b.state.layout

/-- A demand joined with that of a later use. -/
def merge (a b : Demand) : Demand :=
  if a.agrees b then ⟨a.state.mergeReader b.state, a.attachment || b.attachment⟩
  else if b.attachment && !a.attachment then b
  else a

/-- Several demands joined in order. -/
def mergeAll? : List Demand → Option Demand
  | [] => none
  | first :: rest => some (rest.foldl merge first)

end Demand

/-- Two uses of one resource in one pass that need different layouts. -/
structure LayoutConflict where
  pass : String
  resource : String
  first : Layout
  second : Layout
  deriving DecidableEq, Repr

namespace LayoutConflict

/-- The report of a conflict. -/
def message (conflict : LayoutConflict) : String :=
  "pass " ++ conflict.pass ++ " uses \"" ++ conflict.resource ++ "\" in conflicting layouts "
    ++ Layout.text conflict.first ++ " and " ++ Layout.text conflict.second

end LayoutConflict

namespace Pass

/-- What some uses of a pass ask of one resource together. -/
def demandOf? (stage : Stage) (isImage : Bool) (usages : List Usage) (resource : String) :
    Option Demand :=
  Demand.mergeAll?
    ((usages.filter fun usage => usage.resource = resource).map (Demand.ofUsage isImage stage))

/-- What a pass asks of one resource, if it uses it. -/
def demand? (pass : Pass) (isImage : Bool) (resource : String) : Option Demand :=
  demandOf? pass.stage isImage pass.usages resource

/-- The conflicts of later uses with the ones before them. -/
def conflictsAfter (pass : Pass) (isImage : String → Bool) :
    List Usage → List Usage → List LayoutConflict
  | _, [] => []
  | before, usage :: rest =>
    let resource := usage.resource
    let here :=
      match demandOf? pass.stage (isImage resource) before resource with
      | none => []
      | some first =>
        let second := Demand.ofUsage (isImage resource) pass.stage usage
        if first.agrees second then []
        else [⟨pass.name, resource, first.state.layout, second.state.layout⟩]
    here ++ conflictsAfter pass isImage (before ++ [usage]) rest

/-- The uses that need a layout other than the one asked for before them, in
    order of declaration. -/
def conflicts (pass : Pass) (isImage : String → Bool) : List LayoutConflict :=
  pass.conflictsAfter isImage [] pass.usages

end Pass

end FrameGraph
