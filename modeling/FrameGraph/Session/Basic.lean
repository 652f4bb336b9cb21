import FrameGraph.Compilation.Cache
import FrameGraph.Compilation.Listing
import FrameGraph.Frame.Schedule
import FrameGraph.Recording.Basic
import FrameGraph.Session.Settings
import FrameGraph.Session.Slots

/-!
# Sessions

What lasts from frame to frame: the settings, the last compilation, a
command stream per frame slot, and the hazards that wait for the next
recording.

A recorded stream may be submitted again without being recorded, so
whatever would make it wrong marks every slot dirty: another compilation, a
pending hazard, another number of slots. A slot is clean again once it has
been recorded, and only recording takes the pending hazards.

A lost device puts an end to recording before anything else is looked at.

## Main definitions

* `Session`: The state between frames.
* `Session.compile`, `Session.addHazards`, `Session.invalidate`: What may
  make streams wrong.
* `Session.recordFrame`: Compile, schedule and record one slot.
* `FrameOutcome`, `FrameResult`: What came of a frame.
-/

namespace FrameGraph

open Gpu

/-- The state between frames, with streams of some type. -/
structure Session (σ : Type) where
  settings : Settings
  cache : Cache
  slots : Slots σ
  /-- Hazards that the next recording has to answer. -/
  pending : HazardMask
  deriving DecidableEq, Repr

/-- What became of a slot. -/
inductive FrameOutcome where
  | recorded (stats : Stats)
  /-- The slot was clean, and its stream can be submitted as it is. -/
  | skipped
  deriving DecidableEq, Repr

/-- What came of a frame. -/
structure FrameResult (σ : Type) where
  session : Session σ
  result : Except Error FrameOutcome
  events : List Event
  pool : Pool
  device : Device
  log : List LogEntry

namespace Session

variable {σ : Type}

/-- A session whose slots have no streams yet. -/
def new (settings : Settings) : Session σ where
  settings := settings
  cache := Cache.new
  slots := Slots.new settings.framesInFlight
  pending := 0

/-- What is reported when a session is created. -/
def creationLog (settings : Settings) : List LogEntry :=
  [LogEntry.info ("frame graph created: " ++ toString settings.framesInFlight
    ++ " frames in flight, record policy " ++ settings.recordPolicy.text)]

/-- Every slot has to be recorded again. -/
def markAllDirty (session : Session σ) : Session σ :=
  { session with slots := session.slots.markAllDirty }

/-- Have the next recording answer hazards. -/
def addHazards (session : Session σ) (hazards : HazardMask) : Session σ :=
  if hazards = 0 then session
  else { session.markAllDirty with pending := session.pending ||| hazards }

/-- Forget the last compilation. -/
def invalidate (session : Session σ) : Session σ :=
  { session.markAllDirty with cache := session.cache.invalidate }

/-- Compile passes, or reuse the last compilation. A new one makes every
    stream wrong. -/
def compile (session : Session σ) (passes : List Pass) :
    Session σ × Except Error CacheAnswer :=
  match session.cache.compile passes with
  | (cache, .error error) => ({ session with cache := cache }, .error error)
  | (cache, .ok answer) =>
    let session := { session with cache := cache }
    (if answer.recompiled then session.markAllDirty else session, .ok answer)

/-- What is reported while compiling passes. -/
def compileLog (session : Session σ) (passes : List Pass) : List LogEntry :=
  session.cache.compileLog passes ++
    match session.cache.compile passes with
    | (_, .ok answer) =>
      if answer.recompiled && session.settings.printPlanOnRecompile then answer.compiled.listing
      else []
    | (_, .error _) => []

/-- The debug label of a slot. -/
def slotLabel (slot : Nat) : String := "frame-slot-" ++ toString slot

/-- The usage of a stream that has to be recorded, or nothing if the slot
    can be skipped. -/
def usage? (session : Session σ) (slot : Nat) : Option UInt32 :=
  match session.settings.recordPolicy with
  | .always => some oneTimeSubmit
  | .whenDirty => if session.slots.isDirty slot then some reusable else none

/-- The session after a slot was recorded. -/
def recorded (session : Session σ) (slot : Nat) : Session σ :=
  { session with slots := session.slots.clearDirty slot, pending := 0 }

/-- Schedule and record a slot, with the passes compiled. -/
def recordCompiled (session : Session σ) (slot : Nat) (compiled : Compiled)
    (ops : List FrameOp) (usage : UInt32) (renderers : Renderers) (replies : Replies)
    (pool : Pool) (device : Device) (log : List LogEntry) : FrameResult σ :=
  let scheduled := schedule compiled session.settings.buildSecondaryBuckets ops
  let request : Request := ⟨session.pending, usage, slotLabel slot, renderers⟩
  let recording := record compiled request replies pool device scheduled.ops
  match recording.result with
  | .error error =>
    ⟨session, .error error, recording.events, recording.pool, recording.device,
      log ++ recording.log⟩
  | .ok stats =>
    ⟨session.recorded slot, .ok (.recorded stats), recording.events, recording.pool,
      recording.device, log ++ recording.log⟩

/-- The slot has a stream, and there are as many flags as slots. -/
def checkSlot (session : Session σ) (slot : Nat) : Except Error Unit :=
  match session.slots.validate with
  | .error error => .error error
  | .ok _ =>
    match session.slots.stream slot with
    | .error error => .error error
    | .ok _ => .ok ()

/-- Compile passes and record operations into a slot, unless it is clean. -/
def recordFrame (session : Session σ) (slot : Nat) (passes : List Pass) (ops : List FrameOp)
    (renderers : Renderers) (replies : Replies) (pool : Pool) (device : Device) :
    FrameResult σ :=
  if device.lost then ⟨session, .error .deviceLost, [], pool, device, []⟩
  else
    match session.checkSlot slot with
    | .error error => ⟨session, .error error, [], pool, device, []⟩
    | .ok _ =>
      let log := session.compileLog passes
      match session.compile passes with
      | (session, .error error) => ⟨session, .error error, [], pool, device, log⟩
      | (session, .ok answer) =>
        match session.usage? slot with
        | none => ⟨session, .ok .skipped, [], pool, device, log⟩
        | some usage =>
          session.recordCompiled slot answer.compiled ops usage renderers replies pool device log

end Session

end FrameGraph
