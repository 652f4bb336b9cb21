import FrameGraph.Proofs.Replay

/-!
# Runs of a Session

A run is a list of calls, frames and upkeep in any order, with whatever pool a
frame is given at its time. What can be said of a run is said of every call in
the session it is made of, and `Throughout` says it by recursion on the calls,
so that a run goes on where another one ends.

Three questions come up at each call. `compile_cases` answers what compiling
does: nothing, or it keeps the passes and marks every slot. `readied?` and
`made?` say how far a frame gets, which its outcome does not tell: a frame that
failed may have compiled its passes or even recorded half a stream.

That a stream is in one slot only is not for a session to see. It is the
owner's part to put in streams that come from elsewhere, and then slots never
share one.

## Main definitions

* `SessionCall`, `Session.after`: Frames and upkeep, one after the other.
* `Throughout`: Something holds of every call where it is made.
* `SlotFrame.readied?`, `SlotFrame.made?`: How far a frame gets.
* `SlotFrame.RecordedFrom`: A slot was recorded, and from which passes.
* `Slots.Distinct`, `SessionCall.Moves`: Streams that are moved.

## Theorems

* `throughout_append`: A run that goes on.
* `Session.compile_cases`, `Session.compile_of_clean`: What compiling does.
* `SlotFrame.result_eq_of_unready`, `SlotFrame.result_of_ready`: What asking
  for a frame comes to.
* `SlotFrame.session_result`: What it does to the session.
* `Session.flags_tend`, `SlotFrame.flags_result`: Flags are as many as slots.
* `Session.stream_of_answer`: Where a stream comes from.
* `Session.distinct_throughout`: No stream is in two slots.
-/

namespace FrameGraph

open Gpu

/-- Something that a session is asked for. The pool of a frame is whatever it
    has become by then. -/
inductive SessionCall (σ : Type) where
  | frame (frame : SlotFrame) (pool : Pool)
  | upkeep (call : Upkeep σ)

namespace Slots

variable {σ : Type} (slots : Slots σ)

theorem validate_eq_ok_iff :
    slots.validate = .ok () ↔ slots.dirty.length = slots.streams.length := by
  unfold validate
  split
  · next h => exact ⟨fun _ => h, fun _ => rfl⟩
  · next h => exact ⟨fun hok => by simp only [reduceCtorEq] at hok, fun hsame => absurd hsame h⟩

theorem stream_eq_ok_iff (slot : Nat) (stream : σ) :
    slots.stream slot = .ok stream ↔ slots.streams[slot]? = some (some stream) := by
  unfold Slots.stream
  split
  · next h => simp only [h, reduceCtorEq]
  · next h => simp only [h, reduceCtorEq, Option.some.injEq]
  · next other h => simp only [h, Except.ok.injEq, Option.some.injEq]

end Slots

namespace Session

variable {σ : Type} (session : Session σ)

/-- Compiling fails, or the passes are those of the last compilation, or they
    are compiled and every slot is dirty. -/
theorem compile_cases (passes : List Pass) :
    (∃ error, session.compile passes = (session, .error error))
      ∨ (∃ entry, session.cache.entry = some entry ∧ entry.source = passes
        ∧ session.compile passes = (session, .ok ⟨entry.compiled, entry.token, false⟩))
      ∨ ∃ compiled token made, session.compile passes
        = ({ session.markAllDirty with cache := ⟨some ⟨passes, compiled, token⟩, made⟩ },
          .ok ⟨compiled, token, true⟩) := by
  unfold Session.compile Cache.compile
  cases hhit : session.cache.hit? passes with
  | some entry =>
      unfold Cache.hit? at hhit
      rw [Option.filter_eq_some_iff, decide_eq_true_eq] at hhit
      exact Or.inr (Or.inl ⟨entry, hhit.1, hhit.2, rfl⟩)
  | none =>
      cases FrameGraph.compile passes with
      | error error => exact Or.inl ⟨error, rfl⟩
      | ok compiled => exact Or.inr (Or.inr ⟨compiled, _, _, rfl⟩)

theorem streams_compile (passes : List Pass) :
    (session.compile passes).1.slots.streams = session.slots.streams := by
  rcases session.slots_compile passes with hsame | hdirty
  · rw [hsame]
  · rw [hdirty, Slots.markAllDirty]

/-- Compiling adds and removes no flags. -/
theorem length_dirty_compile (passes : List Pass) :
    (session.compile passes).1.slots.dirty.length = session.slots.dirty.length := by
  rcases session.slots_compile passes with hsame | hdirty
  · rw [hsame]
  · rw [hdirty, Slots.markAllDirty, List.length_map]

/-- If a slot is clean after compiling, then compiling changed nothing, and it
    was no compilation of other passes. -/
theorem compile_of_clean (passes : List Pass) (slot : Nat)
    (h : (session.compile passes).1.slots.isDirty slot = false) :
    (session.compile passes).1 = session
      ∧ ∀ answer, (session.compile passes).2 = .ok answer →
        ∃ entry, session.cache.entry = some entry ∧ entry.source = passes := by
  rcases session.compile_cases passes
    with ⟨error, hcompile⟩ | ⟨entry, hentry, hsource, hcompile⟩ | ⟨compiled, token, made, hcompile⟩
  · rw [hcompile]
    refine ⟨rfl, fun answer hanswer => ?_⟩
    simp only [reduceCtorEq] at hanswer
  · rw [hcompile]
    exact ⟨rfl, fun _ _ => ⟨entry, hentry, hsource⟩⟩
  · -- All slots are dirty then.
    rw [hcompile] at h
    exact (Slots.not_clean (session.slots.isDirty_markAllDirty slot) h).elim

/-- Passes that compiled are what the cache knows. -/
theorem source_of_compile (passes : List Pass) (answer : CacheAnswer)
    (h : (session.compile passes).2 = .ok answer) :
    ∃ entry, (session.compile passes).1.cache.entry = some entry ∧ entry.source = passes := by
  rcases session.compile_cases passes
    with ⟨error, hcompile⟩ | ⟨entry, hentry, hsource, hcompile⟩ | ⟨compiled, token, made, hcompile⟩
  · rw [hcompile] at h
    simp only [reduceCtorEq] at h
  · rw [hcompile]
    exact ⟨entry, hentry, hsource⟩
  · rw [hcompile]
    exact ⟨_, rfl, rfl⟩

/-- The session after a call. -/
def answer : SessionCall σ → Session σ
  | .frame frame pool => (frame.result session pool).session
  | .upkeep call => session.tend call

/-- The session after some calls. -/
def after (calls : List (SessionCall σ)) : Session σ := calls.foldl answer session

theorem after_append (first second : List (SessionCall σ)) :
    session.after (first ++ second) = (session.after first).after second := by
  simp only [after, List.foldl_append]

theorem after_concat (calls : List (SessionCall σ)) (call : SessionCall σ) :
    session.after (calls ++ [call]) = (session.after calls).answer call := by
  rw [after_append]
  rfl

end Session

/-- Something holds of every call and the session it is made of, from some
    session on. -/
def Throughout {σ : Type} (P : Session σ → SessionCall σ → Prop) :
    Session σ → List (SessionCall σ) → Prop
  | _, [] => True
  | session, call :: rest => P session call ∧ Throughout P (session.answer call) rest

theorem throughout_append {σ : Type} (P : Session σ → SessionCall σ → Prop) (session : Session σ)
    (first second : List (SessionCall σ)) :
    Throughout P session (first ++ second)
      ↔ Throughout P session first ∧ Throughout P (session.after first) second := by
  induction first generalizing session with
  | nil => exact ⟨fun h => ⟨trivial, h⟩, fun h => h.2⟩
  | cons call rest ih =>
      rw [List.cons_append, Throughout, Throughout, ih, and_assoc]
      rfl

/-- A slot that passes the check has a stream. -/
theorem Session.stream_of_checkSlot {σ : Type} (session : Session σ) (slot : Nat)
    (h : session.checkSlot slot = .ok ()) : ∃ stream, session.slots.stream slot = .ok stream := by
  unfold Session.checkSlot at h
  split at h
  · simp only [reduceCtorEq] at h
  · split at h
    · simp only [reduceCtorEq] at h
    · next stream hstream => exact ⟨stream, hstream⟩

namespace SlotFrame

variable {σ : Type} (frame : SlotFrame) (session : Session σ) (pool : Pool)

/-- The session with the passes of the frame compiled. -/
def ready : Session σ := (session.compile frame.passes).1

/-- The compilation that a frame gets, if it gets that far and the passes
    compile. -/
def readied? : Option CacheAnswer :=
  if frame.device.lost then none
  else
    match session.checkSlot frame.slot, (session.compile frame.passes).2 with
    | .ok _, .ok answer => some answer
    | _, _ => none

/-- What comes of recording the slot of a frame. -/
def recording (compiled : Compiled) (usage : UInt32) : Recording :=
  record compiled (frame.request (frame.ready session) usage) frame.replies (frame.offered pool)
    frame.device (frame.scheduled (frame.ready session) compiled)

/-- The compilation that a frame records its slot from and what comes of it,
    if the frame gets that far. -/
def made? : Option (Compiled × Recording) :=
  (frame.readied? session).bind fun answer =>
    ((frame.ready session).usage? frame.slot).map fun usage =>
      (answer.compiled, frame.recording session pool answer.compiled usage)

/-- A good recording was made, from what these passes compile to. -/
structure RecordedFrom (passes : List Pass) : Prop where
  asked : frame.passes = passes
  recorded : ∃ compiled recording stats, FrameGraph.compile passes = .ok compiled
    ∧ frame.made? session pool = some (compiled, recording)
    ∧ recording.result = .ok stats
    ∧ (frame.result session pool).result = .ok (.recorded stats)
    ∧ (frame.result session pool).events = recording.events

variable {frame session}

/-- A frame that does not get a compilation only says why. -/
theorem result_eq_of_unready (h : frame.readied? session = none) :
    ∃ error log, frame.result session pool
      = ⟨session, .error error, [], frame.offered pool, frame.device, log⟩ := by
  unfold SlotFrame.result Session.recordFrame
  unfold readied? at h
  split
  · exact ⟨_, _, rfl⟩
  · next hlost =>
      rw [if_neg hlost] at h
      cases hcheck : session.checkSlot frame.slot with
      | error error => exact ⟨error, _, rfl⟩
      | ok _ =>
          rcases session.compile_cases frame.passes
            with ⟨error, hcompile⟩ | ⟨entry, _, _, hcompile⟩ | ⟨compiled, token, made, hcompile⟩
          · rw [hcompile]
            exact ⟨error, _, rfl⟩
          · simp only [hcheck, hcompile, reduceCtorEq] at h
          · simp only [hcheck, hcompile, reduceCtorEq] at h

/-- It fails and leaves the session as it is. -/
theorem result_of_unready (h : frame.readied? session = none) :
    (∃ error, (frame.result session pool).result = .error error)
      ∧ (frame.result session pool).session = session := by
  rcases result_eq_of_unready pool h with ⟨error, _, hresult⟩
  rw [hresult]
  exact ⟨⟨error, rfl⟩, rfl⟩

/-- A frame that gets a compilation has a stream to record into. The session
    has compiled the passes, and then it is the policy that decides. -/
theorem result_of_ready {answer : CacheAnswer} (h : frame.readied? session = some answer) :
    (∃ stream, session.slots.stream frame.slot = .ok stream)
      ∧ (session.compile frame.passes).2 = .ok answer
      ∧ frame.result session pool
        = match (frame.ready session).usage? frame.slot with
          | none => ⟨frame.ready session, .ok .skipped, [], frame.offered pool, frame.device,
              session.compileLog frame.passes⟩
          | some usage => (frame.ready session).recordCompiled frame.slot answer.compiled frame.ops
              usage frame.renderers frame.replies (frame.offered pool) frame.device
              (session.compileLog frame.passes) := by
  unfold readied? at h
  split at h
  · simp only [reduceCtorEq] at h
  · next hlost =>
      split at h
      · next hcheck hanswer =>
          rcases Option.some.inj h with rfl
          refine ⟨session.stream_of_checkSlot frame.slot hcheck, hanswer, ?_⟩
          unfold SlotFrame.result Session.recordFrame ready
          rw [if_neg hlost, hcheck]
          cases hcompile : session.compile frame.passes with
          | mk compiled result =>
              rw [hcompile] at hanswer
              simp only at hanswer
              subst hanswer
              cases husage : compiled.usage? frame.slot with
              | none => simp only [husage]
              | some usage => simp only [husage]
      · simp only [reduceCtorEq] at h

end SlotFrame

namespace SessionCall

variable {σ : Type}

/-- The slot that a call records, for better or worse. -/
def slot? (session : Session σ) : SessionCall σ → Option Nat
  | .frame asked pool => (asked.made? session pool).map fun _ => asked.slot
  | .upkeep _ => none

/-- A stream that is put into a slot was in none. -/
def Moves (session : Session σ) : SessionCall σ → Prop
  | .upkeep (.allocate _ stream) => ∀ slot, session.slots.stream slot ≠ .ok stream
  | _ => True

end SessionCall

namespace Session

variable {σ : Type} (session : Session σ)

theorem flags_compile (h : session.slots.dirty.length = session.slots.streams.length)
    (passes : List Pass) : (session.compile passes).1.slots.dirty.length
      = (session.compile passes).1.slots.streams.length := by
  rw [length_dirty_compile, streams_compile]
  exact h

/-- Flags stay as many as slots. -/
theorem flags_tend (h : session.slots.dirty.length = session.slots.streams.length)
    (call : Upkeep σ) :
    (session.tend call).slots.dirty.length = (session.tend call).slots.streams.length := by
  cases call with
  | compile passes => exact session.flags_compile h passes
  | addHazards hazards =>
      simp only [tend, addHazards]
      split
      · exact h
      · simp only [markAllDirty, Slots.markAllDirty, List.length_map]
        exact h
  | invalidate =>
      simp only [tend, invalidate, markAllDirty, Slots.markAllDirty, List.length_map]
      exact h
  | allocate slot stream =>
      simp only [tend, Slots.allocate]
      split
      · exact h
      · simp only [List.length_set]
        exact h
  | resize count =>
      simp only [tend, Slots.resize, List.length_append, List.length_take, List.length_replicate]
      omega
  | markAllDirty =>
      simp only [tend, markAllDirty, Slots.markAllDirty, List.length_map]
      exact h
  | takeAll =>
      simp only [tend, Slots.takeAll, List.length_map]
      exact h

end Session

namespace SlotFrame

variable {σ : Type} (frame : SlotFrame) (session : Session σ) (pool : Pool)

/-- All that a frame does to a session is to compile the passes and to account
    for a recording. -/
theorem session_result :
    (frame.result session pool).session = session
      ∨ (frame.result session pool).session = frame.ready session
      ∨ (frame.result session pool).session = (frame.ready session).recorded frame.slot := by
  rcases session.recordFrame_cases frame.slot frame.passes frame.ops frame.renderers frame.replies
    (frame.offered pool) frame.device _ rfl
    with ⟨_, _, _, _, hsame | hsame⟩ | ⟨_, _, _, hsame, _⟩ | ⟨answer, usage, _, _, hresult⟩
  · exact Or.inl hsame
  · exact Or.inr (Or.inl hsame)
  · exact Or.inr (Or.inl hsame)
  · rcases Session.recordCompiled_cases _ _ _ _ _ _ _ _ _ _ _ rfl _ hresult.symm
      with ⟨_, _, ⟨_, _, _, hsame⟩ | ⟨_, _, _, hsame⟩⟩
    · exact Or.inr (Or.inl hsame)
    · exact Or.inr (Or.inr hsame)

/-- Frames leave the streams where they are. -/
theorem stream_result (slot : Nat) (stream : σ) :
    (frame.result session pool).session.slots.stream slot = .ok stream
      ↔ session.slots.stream slot = .ok stream := by
  have hstreams : (frame.result session pool).session.slots.streams = session.slots.streams := by
    rcases frame.session_result session pool with hsame | hsame | hsame
    · rw [hsame]
    · rw [hsame]
      exact session.streams_compile frame.passes
    · rw [hsame]
      exact session.streams_compile frame.passes
  rw [Slots.stream_eq_ok_iff, Slots.stream_eq_ok_iff, hstreams]

theorem flags_result (h : session.slots.dirty.length = session.slots.streams.length) :
    (frame.result session pool).session.slots.dirty.length
      = (frame.result session pool).session.slots.streams.length := by
  have hready := session.flags_compile h frame.passes
  rcases frame.session_result session pool with hsame | hsame | hsame
  · rw [hsame]
    exact h
  · rw [hsame]
    exact hready
  · rw [hsame]
    simp only [Session.recorded, Slots.clearDirty, List.length_set]
    exact hready

end SlotFrame

namespace Slots

variable {σ : Type}

/-- No stream is in two slots. -/
def Distinct (slots : Slots σ) : Prop :=
  ∀ first second stream, slots.stream first = .ok stream → slots.stream second = .ok stream →
    first = second

theorem distinct_new (count : Nat) : (new count : Slots σ).Distinct := by
  intro first second stream hfirst
  rw [stream_eq_ok_iff] at hfirst
  have hmem := List.mem_of_getElem? hfirst
  simp only [new, List.mem_replicate, reduceCtorEq, and_false] at hmem

end Slots

namespace Session

variable {σ : Type} (session : Session σ)

/-- A stream that is in a slot after a call was in it before, or was put in by
    the call. -/
theorem stream_of_answer (call : SessionCall σ) (slot : Nat) (stream : σ)
    (h : (session.answer call).slots.stream slot = .ok stream) :
    session.slots.stream slot = .ok stream ∨ call = .upkeep (.allocate slot stream) := by
  cases call with
  | frame frame pool =>
      rw [answer, SlotFrame.stream_result] at h
      exact Or.inl h
  | upkeep call =>
      rw [Slots.stream_eq_ok_iff] at h ⊢
      cases call with
      | compile passes =>
          rw [answer, tend, streams_compile] at h
          exact Or.inl h
      | addHazards hazards =>
          simp only [answer, tend, addHazards] at h
          split at h
          · exact Or.inl h
          · exact Or.inl h
      | invalidate => exact Or.inl h
      | allocate target other =>
          simp only [answer, tend, Slots.allocate] at h
          split at h
          · exact Or.inl h
          · rw [List.getElem?_set] at h
            split at h
            · next htarget =>
                split at h
                · simp only [Option.some.injEq] at h
                  rw [htarget, h]
                  exact Or.inr rfl
                · simp only [reduceCtorEq] at h
            · exact Or.inl h
      | resize count =>
          -- Slots that are added have no stream.
          simp only [answer, tend, Slots.resize] at h
          rw [List.getElem?_append] at h
          split at h
          · rw [List.getElem?_take] at h
            split at h
            · exact Or.inl h
            · simp only [reduceCtorEq] at h
          · have hadded := List.mem_of_getElem? h
            simp only [List.mem_replicate, reduceCtorEq, and_false] at hadded
      | markAllDirty => exact Or.inl h
      | takeAll =>
          simp only [answer, tend, Slots.takeAll, List.getElem?_map, Option.map_eq_some_iff,
            reduceCtorEq, and_false, exists_false] at h

/-- If streams come from elsewhere when they are put in, none is in two
    slots. -/
theorem distinct_answer (h : session.slots.Distinct) (call : SessionCall σ)
    (hmoves : call.Moves session) : (session.answer call).slots.Distinct := by
  intro first second stream hfirst hsecond
  rcases session.stream_of_answer call first stream hfirst with hbefore | rfl
  · rcases session.stream_of_answer call second stream hsecond with hother | rfl
    · exact h first second stream hbefore hother
    · exact absurd hbefore (hmoves first)
  · rcases session.stream_of_answer _ second stream hsecond with hother | hsame
    · exact absurd hother (hmoves second)
    · simp only [SessionCall.upkeep.injEq, Upkeep.allocate.injEq, and_true] at hsame
      exact hsame

theorem distinct_throughout (h : session.slots.Distinct) (calls : List (SessionCall σ))
    (hmoves : Throughout (fun session call => call.Moves session) session calls) :
    Throughout (fun session _ => session.slots.Distinct) session calls := by
  induction calls generalizing session with
  | nil => exact trivial
  | cons call rest ih =>
      exact ⟨h, ih _ (session.distinct_answer h call hmoves.1) hmoves.2⟩

end Session

end FrameGraph
