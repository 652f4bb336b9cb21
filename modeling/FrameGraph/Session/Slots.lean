import FrameGraph.Error

/-!
# Frame Slots

While one frame is shown the next is recorded, so there are several slots,
each with a command stream of its own and a flag that says whether the
stream has to be recorded again. Streams cannot be copied or dropped: the
owner who put one in gets it back when it is replaced or when all are taken,
in order to destroy it.

The flags may be set up apart from the streams, and then their number can be
wrong. That is found out by `validate` and not by every operation; a slot
without a flag counts as dirty.

## Main definitions

* `Slots`: Streams and flags.
* `Slots.allocate`, `Slots.resize`, `Slots.takeAll`: Where streams go.
* `Slots.isDirty`, `Slots.markAllDirty`, `Slots.clearDirty`: The flags.
* `Slots.stream`, `Slots.validate`: What recording needs to know first.
-/

namespace FrameGraph

/-- Command streams with their flags. -/
structure Slots (σ : Type) where
  streams : List (Option σ)
  dirty : List Bool
  deriving DecidableEq, Repr

namespace Slots

variable {σ : Type}

/-- Slots without streams, all dirty. -/
def new (count : Nat) : Slots σ := ⟨List.replicate count none, List.replicate count true⟩

/-- How many slots there are. -/
def count (slots : Slots σ) : Nat := slots.streams.length

/-- Another number of slots, all dirty. Streams beyond it are gone. -/
def resize (slots : Slots σ) (count : Nat) : Slots σ where
  streams := slots.streams.take count ++ List.replicate (count - slots.streams.length) none
  dirty := List.replicate count true

/-- Put a stream into a slot, which is dirty then. The answer is the stream
    that was there. -/
def allocate (slots : Slots σ) (slot : Nat) (stream : σ) : Slots σ × Except Error (Option σ) :=
  match slots.streams[slot]? with
  | none => (slots, .error (.slotOutOfRange slot slots.count))
  | some previous =>
    (⟨slots.streams.set slot (some stream), slots.dirty.set slot true⟩, .ok previous)

/-- The slot has to be recorded again. -/
def isDirty (slots : Slots σ) (slot : Nat) : Bool := (slots.dirty[slot]?).getD true

/-- The stream of a slot. -/
def stream (slots : Slots σ) (slot : Nat) : Except Error σ :=
  match slots.streams[slot]? with
  | none => .error (.slotOutOfRange slot slots.count)
  | some none => .error (.streamNotAllocated slot)
  | some (some stream) => .ok stream

/-- There are as many flags as slots. -/
def validate (slots : Slots σ) : Except Error Unit :=
  if slots.dirty.length = slots.streams.length then .ok ()
  else .error (.inconsistentDirtyFlags slots.dirty.length slots.streams.length)

/-- Every slot has to be recorded again. -/
def markAllDirty (slots : Slots σ) : Slots σ :=
  { slots with dirty := slots.dirty.map fun _ => true }

/-- The slot need not be recorded again. -/
def clearDirty (slots : Slots σ) (slot : Nat) : Slots σ :=
  { slots with dirty := slots.dirty.set slot false }

/-- Take all streams out, in the order of their slots. -/
def takeAll (slots : Slots σ) : Slots σ × List σ :=
  (⟨slots.streams.map fun _ => none, slots.dirty.map fun _ => true⟩,
    slots.streams.filterMap id)

end Slots

end FrameGraph
