import FrameGraph.Error
import FrameGraph.Frame.Op
import FrameGraph.Recording.Event

/-!
# Resolution

Before anything is recorded, every group gets its resource and every surface
its binding, so that recording cannot fail halfway for want of one. The
groups come first, in order of registration; then no blit may read the
surface it writes; then each surface that some operation needs is resolved
once, in order of first need. The presented image is always among them,
since every frame ends on it.

## Main definitions

* `Resolution`: The resources and bindings of a frame.
* `neededSurfaces`: The surfaces of a frame.
* `resolve`: Resolve a frame, or say what is missing.
-/

namespace FrameGraph

/-- The resources of a frame by name, and its bindings by surface. -/
structure Resolution where
  backings : Table String Backing
  targets : Table Surface TargetBinding
  deriving DecidableEq, Repr

namespace Resolution

/-- The states the resources come in. -/
def states (resolution : Resolution) : Table String ResourceState :=
  resolution.backings.map fun entry => (entry.1, entry.2.state)

end Resolution

/-- What became of a request to the pool, and the calls that were made. -/
structure Resolved (α : Type) where
  pool : Pool
  calls : List PoolCall
  result : Except Error α

/-- Resources for some groups, in order, up to the first that cannot be had. -/
def backGroups (pool : Pool) : List ResourceGroup → Resolved (Table String Backing)
  | [] => ⟨pool, [], .ok []⟩
  | group :: rest =>
    match pool.ensure group with
    | (pool, none) => ⟨pool, [.ensure group], .error (.missingResource group.name)⟩
    | (pool, some backing) =>
      let later := backGroups pool rest
      ⟨later.pool, .ensure group :: later.calls, later.result.map ((group.name, backing) :: ·)⟩

/-- Bindings for some surfaces, in order, up to the first that is unknown. -/
def bindSurfaces (pool : Pool) : List Surface → Resolved (Table Surface TargetBinding)
  | [] => ⟨pool, [], .ok []⟩
  | surface :: rest =>
    match pool.supply.target? surface with
    | none => ⟨pool, [.resolveTarget surface], .error (.missingTarget surface)⟩
    | some binding =>
      let later := bindSurfaces pool rest
      ⟨later.pool, .resolveTarget surface :: later.calls,
        later.result.map ((surface, binding) :: ·)⟩

/-- The surfaces of a frame, each once, in order of first need. -/
def neededSurfaces (ops : List FrameOp) : List Surface :=
  (ops.flatMap FrameOp.surfaces ++ [Surface.swapchain]).eraseDups

/-- Resolve a frame, or say what is missing. -/
def resolve (pool : Pool) (resources : Registry) (ops : List FrameOp) : Resolved Resolution :=
  let backed := backGroups pool resources.groups
  match backed.result with
  | .error error => ⟨backed.pool, backed.calls, .error error⟩
  | .ok backings =>
    match ops.findSome? FrameOp.aliased? with
    | some surface => ⟨backed.pool, backed.calls, .error (.blitAliasing surface)⟩
    | none =>
      let bound := bindSurfaces backed.pool (neededSurfaces ops)
      ⟨bound.pool, backed.calls ++ bound.calls, bound.result.map fun targets => ⟨backings, targets⟩⟩

end FrameGraph
