import FrameGraph.Proofs.PoolCalls
import FrameGraph.Proofs.Skipping

/-!
# After the Device is Lost

The flag that says that the device is lost is not part of a session. It is
shared with whatever else uses the device, which may set it at any time, and
only building the renderer anew clears it. A session can do two things about
it: look at it before anything else, and set it if a stream answers that the
device is gone.

Three calls of a stream can fail, and each of them ends the frame. So at most
one call that was made failed, and what it answered decides how the frame
ends. `Ends` says this of a recording and of a frame in the same words. All
other errors are found before the stream is touched, and none of them is an
error of the stream.

Over a run, the flag is set exactly if the device was lost before and was not
restored since. While it is set a frame does nothing at all.

## Main definitions

* `Error.ofStream`: Errors that come from the stream.
* `Called`, `Replies.to`: What was asked of a stream, and what it answered.
* `Ends`: How a frame ends, given the answers of its stream.
* `Host`, `HostCall`, `Host.after`: A session and the flag, over a run.
* `LostSince`: The device was lost and not restored since.

## Theorems

* `ofStream_compile`, `ofStream_checkSlot`, `ofStream_resolve`: Errors that
  do not come from the stream.
* `record_ends`, `SlotFrame.result_ends`: A frame ends as its stream answers.
* `Ends.lost_iff`, `Ends.deviceLost_iff`, `Ends.backend`: What an answer
  comes to.
* `Host.lost_answer`, `Host.lostSince_concat`, `Host.lost_after`: When the flag
  is set.
* `Host.asked_of_lost`: While it is, a frame does nothing.
* `device_loss_stops`: All of this along a run.
-/

namespace FrameGraph

open Gpu

/-- The error comes from the stream. -/
def Error.ofStream : Error → Bool
  | .backend _ _ | .deviceLost => true
  | _ => false

theorem ofStream_compile (passes : List Pass) (error : Error)
    (h : compile passes = .error error) : error.ofStream = false := by
  unfold compile at h
  split at h
  · simp only [reduceCtorEq] at h
  · split at h
    · rcases Except.error.inj h with rfl
      rfl
    · split at h
      · rcases Except.error.inj h with rfl
        rfl
      · simp only [reduceCtorEq] at h

theorem ofStream_session_compile {σ : Type} (session : Session σ) (passes : List Pass)
    (error : Error) (h : (session.compile passes).2 = .error error) : error.ofStream = false := by
  rw [(session.cache_compile passes).2] at h
  unfold Cache.compile at h
  split at h
  · simp only [reduceCtorEq] at h
  · split at h
    · next other hother =>
      rcases Except.error.inj h with rfl
      exact ofStream_compile passes _ hother
    · simp only [reduceCtorEq] at h

/-- A slot that fails the check fails it for a reason of its own. -/
theorem ofStream_checkSlot {σ : Type} (session : Session σ) (slot : Nat) (error : Error)
    (h : session.checkSlot slot = .error error) : error.ofStream = false := by
  have hvalidate : ∀ error, session.slots.validate = .error error → error.ofStream = false := by
    intro error herror
    unfold Slots.validate at herror
    split at herror
    · simp only [reduceCtorEq] at herror
    · rcases Except.error.inj herror with rfl
      rfl
  have hstream : ∀ error, session.slots.stream slot = .error error → error.ofStream = false := by
    intro error herror
    unfold Slots.stream at herror
    split at herror
    · rcases Except.error.inj herror with rfl
      rfl
    · rcases Except.error.inj herror with rfl
      rfl
    · simp only [reduceCtorEq] at herror
  unfold Session.checkSlot at h
  split at h
  · next other hother =>
    rcases Except.error.inj h with rfl
    exact hvalidate _ hother
  · split at h
    · next other hother =>
      rcases Except.error.inj h with rfl
      exact hstream _ hother
    · simp only [reduceCtorEq] at h

theorem ofStream_resolve (pool : Pool) (resources : Registry) (ops : List FrameOp) (error : Error)
    (h : (resolve pool resources ops).result = .error error) : error.ofStream = false := by
  have hresolving := ofResolving_resolve pool resources ops error h
  cases error <;> first
    | rfl
    | exact absurd hresolving Bool.false_ne_true

/-- The call of a stream that a command is, if it is one that can fail. -/
def Gpu.Command.call? : Command → Option RecordingCall
  | .reset => some .reset
  | .begin _ _ => some .begin
  | .finish => some .finish
  | _ => none

/-- What a stream answers to a call. -/
def Replies.to (replies : Replies) : RecordingCall → ResultCode
  | .reset => replies.reset
  | .begin => replies.begin
  | .finish => replies.finish

/-- The call was made of a stream among some events. -/
def Called (events : List Event) (call : RecordingCall) : Prop :=
  ∃ command ∈ commandsOf events, command.call? = some call

/-- Calls of the pool are none of them. -/
theorem called_iff (calls : List PoolCall) (commands : List Command) (call : RecordingCall) :
    Called (calls.map Event.pool ++ commands.map Event.command) call
      ↔ ∃ command ∈ commands, command.call? = some call := by
  have hcalls : commandsOf (calls.map Event.pool) = [] := commandsOf_pool id calls
  unfold Called
  rw [commandsOf_append, commandsOf_command, hcalls, List.nil_append]

/-- How a frame ends, with whatever result, and what it leaves of the device.
    Either all calls that were made went well, or none was made, or the only
    one that failed decides. -/
inductive Ends {α : Type} (replies : Replies) (device : Device) (events : List Event) :
    Except Error α → Device → Prop where
  | well (value : α)
    (answered : ∀ call, Called events call → replies.to call = ResultCode.success) :
    Ends replies device events (.ok value) device
  | early (error : Error) (notOfStream : error.ofStream = false)
    (uncalled : ∀ call, ¬ Called events call) : Ends replies device events (.error error) device
  | failed (call : RecordingCall) (called : Called events call)
    (answered : replies.to call ≠ ResultCode.success)
    (only : ∀ other, Called events other → replies.to other ≠ ResultCode.success → other = call) :
    Ends replies device events (.error (backendFailure device call (replies.to call)).1)
      (backendFailure device call (replies.to call)).2.1

/-- A failure marks the device exactly if the answer says that it is lost. -/
theorem backendFailure_cases (device : Device) (call : RecordingCall) (code : ResultCode) :
    (code = ResultCode.deviceLost ∧ (backendFailure device call code).1 = .deviceLost
        ∧ (backendFailure device call code).2.1.lost = true)
      ∨ (code ≠ ResultCode.deviceLost ∧ (backendFailure device call code).1 = .backend call code
        ∧ (backendFailure device call code).2.1 = device) := by
  unfold backendFailure
  by_cases hlost : code = ResultCode.deviceLost
  · rw [if_pos hlost]
    exact Or.inl ⟨hlost, rfl, rfl⟩
  · rw [if_neg hlost]
    exact Or.inr ⟨hlost, rfl, rfl⟩

namespace Ends

variable {α : Type} {replies : Replies} {device after : Device} {events : List Event}
  {result : Except Error α}

/-- A device that worked is lost exactly if a call that was made says so. -/
theorem lost_iff (h : Ends replies device events result after) (hworks : device.lost = false) :
    after.lost = true ↔ ∃ call, Called events call ∧ replies.to call = ResultCode.deviceLost := by
  cases h with
  | well value answered =>
      rw [hworks]
      refine ⟨fun hlost => absurd hlost Bool.false_ne_true, ?_⟩
      rintro ⟨call, hcalled, hlost⟩
      rw [answered call hcalled] at hlost
      exact absurd hlost (by decide)
  | early error notOfStream uncalled =>
      rw [hworks]
      refine ⟨fun hlost => absurd hlost Bool.false_ne_true, ?_⟩
      exact fun ⟨call, hcalled, _⟩ => absurd hcalled (uncalled call)
  | failed call called answered only =>
      rcases backendFailure_cases device call (replies.to call)
        with ⟨hlost, _, hmarked⟩ | ⟨hother, _, hsame⟩
      · exact ⟨fun _ => ⟨call, called, hlost⟩, fun _ => hmarked⟩
      · rw [hsame, hworks]
        refine ⟨fun hlost => absurd hlost Bool.false_ne_true, ?_⟩
        -- Any other call went well, so the answer was given to this one.
        rintro ⟨other, hcalled, hlost⟩
        have hfailed : replies.to other ≠ ResultCode.success := by
          rw [hlost]
          decide
        rw [only other hcalled hfailed] at hlost
        exact absurd hlost hother

/-- The loss is what such a frame reports, and no other frame does. -/
theorem deviceLost_iff (h : Ends replies device events result after)
    (hworks : device.lost = false) :
    result = .error .deviceLost ↔ after.lost = true := by
  cases h with
  | well value _ => simp only [reduceCtorEq, hworks]
  | early error notOfStream _ =>
      rw [hworks]
      refine ⟨?_, fun hlost => absurd hlost Bool.false_ne_true⟩
      intro hlost
      rcases Except.error.inj hlost with rfl
      exact notOfStream.symm
  | failed call _ _ _ =>
      rcases backendFailure_cases device call (replies.to call)
        with ⟨_, herror, hmarked⟩ | ⟨_, herror, hsame⟩
      · simp only [herror, hmarked]
      · simp only [herror, hsame, hworks, Except.error.injEq, reduceCtorEq]

/-- Any other failure of a call is reported as it is. -/
theorem backend (h : Ends replies device events result after) {call : RecordingCall}
    (hcalled : Called events call) (hfailed : replies.to call ≠ ResultCode.success)
    (hother : replies.to call ≠ ResultCode.deviceLost) :
    result = .error (.backend call (replies.to call)) ∧ after = device := by
  cases h with
  | well _ answered => exact absurd (answered call hcalled) hfailed
  | early _ _ uncalled => exact absurd hcalled (uncalled call)
  | failed first _ _ only =>
      rcases only call hcalled hfailed with rfl
      rcases backendFailure_cases device call (replies.to call)
        with ⟨hlost, _⟩ | ⟨_, herror, hsame⟩
      · exact absurd hlost hother
      · rw [herror, hsame]
        exact ⟨rfl, rfl⟩

end Ends

/-- A resolved frame makes its calls one after the other, up to the first
    that fails. -/
theorem recordResolved_ends (compiled : Compiled) (request : Request) (replies : Replies)
    (pool : Pool) (device : Device) (resolution : Resolution) (calls : List PoolCall)
    (ops : List FrameOp) :
    Ends replies device
      (recordResolved compiled request replies pool device resolution (calls.map Event.pool)
        ops).events
      (recordResolved compiled request replies pool device resolution (calls.map Event.pool)
        ops).result
      (recordResolved compiled request replies pool device resolution (calls.map Event.pool)
        ops).device := by
  unfold recordResolved
  by_cases hreset : replies.reset = ResultCode.success
  · by_cases hbegin : replies.begin = ResultCode.success
    · by_cases hfinish : replies.finish = ResultCode.success
      · simp only [hreset, hbegin, hfinish, ne_eq, not_true_eq_false, if_false]
        refine Ends.well _ ?_
        intro call _
        cases call with
        | reset => exact hreset
        | begin => exact hbegin
        | finish => exact hfinish
      · simp only [hreset, hbegin, hfinish, ne_eq, not_true_eq_false, if_false,
          not_false_eq_true, if_true]
        refine Ends.failed .finish ((called_iff _ _ _).mpr ⟨.finish, by simp, rfl⟩) hfinish ?_
        intro other _ hfailed
        cases other with
        | reset => exact absurd hreset hfailed
        | begin => exact absurd hbegin hfailed
        | finish => rfl
    · simp only [hreset, hbegin, ne_eq, not_true_eq_false, if_false, not_false_eq_true, if_true]
      have hcalled := (called_iff calls [.reset, .begin request.usage request.label] .begin).mpr
        ⟨.begin request.usage request.label, by simp, rfl⟩
      refine Ends.failed .begin hcalled hbegin ?_
      intro other hcalled hfailed
      -- The stream was reset and begun, and resetting it went well.
      rcases (called_iff _ _ _).mp hcalled with ⟨command, hmem, hcall⟩
      simp only [List.mem_cons, List.not_mem_nil, or_false] at hmem
      rcases hmem with rfl | rfl
      · rcases Option.some.inj hcall with rfl
        exact absurd hreset hfailed
      · exact (Option.some.inj hcall).symm
  · simp only [hreset, ne_eq, not_false_eq_true, if_true]
    refine Ends.failed .reset ((called_iff _ _ _).mpr ⟨.reset, by simp, rfl⟩) hreset ?_
    intro other hcalled _
    rcases (called_iff _ _ _).mp hcalled with ⟨command, hmem, hcall⟩
    rw [List.mem_singleton.mp hmem] at hcall
    exact (Option.some.inj hcall).symm

theorem record_ends (compiled : Compiled) (request : Request) (replies : Replies) (pool : Pool)
    (device : Device) (ops : List FrameOp) :
    Ends replies device (record compiled request replies pool device ops).events
      (record compiled request replies pool device ops).result
      (record compiled request replies pool device ops).device := by
  unfold record
  cases hresolved : (resolve pool compiled.resources ops).result with
  | error error =>
      simp only [hresolved]
      refine Ends.early error (ofStream_resolve _ _ _ error hresolved) ?_
      intro call hcalled
      rw [← List.append_nil ((resolve pool compiled.resources ops).calls.map Event.pool)] at hcalled
      rcases (called_iff _ [] call).mp hcalled with ⟨_, hmem, _⟩
      exact List.not_mem_nil hmem
  | ok resolution =>
      simp only [hresolved]
      exact recordResolved_ends compiled request replies _ device resolution _ ops

theorem recordCompiled_ends {σ : Type} (session : Session σ) (slot : Nat) (compiled : Compiled)
    (ops : List FrameOp) (usage : UInt32) (renderers : Renderers) (replies : Replies) (pool : Pool)
    (device : Device) (log : List LogEntry) (frame : FrameResult σ)
    (h : session.recordCompiled slot compiled ops usage renderers replies pool device log = frame) :
    Ends replies device frame.events frame.result frame.device := by
  subst h
  have hends := record_ends compiled ⟨session.pending, usage, Session.slotLabel slot, renderers⟩
    replies pool device (schedule compiled session.settings.buildSecondaryBuckets ops).ops
  unfold Session.recordCompiled
  simp only
  generalize record compiled ⟨session.pending, usage, Session.slotLabel slot, renderers⟩ replies
    pool device (schedule compiled session.settings.buildSecondaryBuckets ops).ops = recording
    at hends ⊢
  rcases recording with ⟨result, events, left, after, said⟩
  cases hends with
  | well stats answered => exact Ends.well _ answered
  | early error notOfStream uncalled => exact Ends.early error notOfStream uncalled
  | failed call called answered only => exact Ends.failed call called answered only

/-- So does a frame, if the device works when it is asked for. -/
theorem SlotFrame.result_ends {σ : Type} (frame : SlotFrame) (session : Session σ) (pool : Pool)
    (hworks : frame.device.lost = false) :
    Ends frame.replies frame.device (frame.result session pool).events
      (frame.result session pool).result (frame.result session pool).device := by
  have huncalled : ∀ call, ¬ Called [] call := fun _ ⟨_, hmem, _⟩ => List.not_mem_nil hmem
  unfold SlotFrame.result Session.recordFrame
  simp only [hworks, Bool.false_eq_true, if_false]
  cases hcheck : session.checkSlot frame.slot with
  | error error =>
      exact Ends.early error (ofStream_checkSlot session frame.slot error hcheck) huncalled
  | ok _ =>
      have hready := ofStream_session_compile session frame.passes
      cases hcompile : session.compile frame.passes with
      | mk ready answer =>
          rw [hcompile] at hready
          cases answer with
          | error error => exact Ends.early error (hready error rfl) huncalled
          | ok answer =>
              simp only
              cases ready.usage? frame.slot with
              | none => exact Ends.well _ fun call hcalled => absurd hcalled (huncalled call)
              | some usage => exact recordCompiled_ends ready _ _ _ _ _ _ _ _ _ _ rfl

/-- A session, and the flag that it shares with others. -/
structure Host (σ : Type) where
  session : Session σ
  device : Device

/-- Something that happens to a host. The device of a frame is that of the
    host at the time. -/
inductive HostCall (σ : Type) where
  | frame (frame : SlotFrame) (pool : Pool)
  | upkeep (call : Upkeep σ)
  /-- Whoever else uses the device finds it lost. -/
  | lose
  /-- The renderer is built anew. -/
  | restore

namespace Host

variable {σ : Type}

/-- A new session and a device that works. -/
def new (settings : Settings) : Host σ := ⟨Session.new settings, Device.working⟩

variable (host : Host σ)

/-- What comes of asking for a frame. -/
def asked (frame : SlotFrame) (pool : Pool) : FrameResult σ :=
  { frame with device := host.device }.result host.session pool

/-- The host after a call. -/
def answer : HostCall σ → Host σ
  | .frame frame pool => ⟨(host.asked frame pool).session, (host.asked frame pool).device⟩
  | .upkeep call => ⟨host.session.tend call, host.device⟩
  | .lose => ⟨host.session, host.device.markLost.1⟩
  | .restore => ⟨host.session, host.device.restored⟩

/-- The host after some calls. -/
def after (calls : List (HostCall σ)) : Host σ := calls.foldl answer host

theorem after_append (first second : List (HostCall σ)) :
    host.after (first ++ second) = (host.after first).after second := by
  simp only [after, List.foldl_append]

theorem after_concat (calls : List (HostCall σ)) (call : HostCall σ) :
    host.after (calls ++ [call]) = (host.after calls).answer call := by
  rw [after_append]
  rfl

end Host

/-- The call finds the device lost: another user does, or a stream answers so
    to a call that was made of it. -/
def HostCall.Loses {σ : Type} (host : Host σ) : HostCall σ → Prop
  | .frame asked pool => ∃ call, Called (host.asked asked pool).events call
    ∧ asked.replies.to call = ResultCode.deviceLost
  | .upkeep _ => False
  | .lose => True
  | .restore => False

/-- The device was lost in the course of some calls, and not restored since. -/
def LostSince {σ : Type} (start : Host σ) (calls : List (HostCall σ)) : Prop :=
  ∃ before call later, calls = before ++ call :: later ∧ call.Loses (start.after before)
    ∧ HostCall.restore ∉ later

namespace Host

variable {σ : Type} (host : Host σ)

/-- A frame of a device that is lost does nothing. -/
theorem asked_of_lost (hlost : host.device.lost = true) (frame : SlotFrame) (pool : Pool) :
    host.asked frame pool
      = ⟨host.session, .error .deviceLost, [], frame.offered pool, host.device, []⟩ := by
  unfold asked SlotFrame.result Session.recordFrame
  simp only [hlost, if_true]
  rfl

/-- One call sets the flag if it finds the device lost, and only restoring the
    device clears it. -/
theorem lost_answer (call : HostCall σ) :
    (host.answer call).device.lost = true
      ↔ call.Loses host ∨ (host.device.lost = true ∧ call ≠ .restore) := by
  cases call with
  | frame frame pool =>
      cases hflag : host.device.lost with
      | true =>
          simp [answer, host.asked_of_lost hflag, hflag]
      | false =>
          have hends := SlotFrame.result_ends { frame with device := host.device } host.session pool
            hflag
          simp only [Bool.false_eq_true, false_and, or_false]
          exact hends.lost_iff hflag
  | upkeep call => simp [answer, HostCall.Loses]
  | lose => simp [answer, HostCall.Loses, Device.markLost]
  | restore => simp [answer, HostCall.Loses, Device.restored, Device.working]

/-- One more call loses the device, or it was lost before and the call does
    not restore it. -/
theorem lostSince_concat (calls : List (HostCall σ)) (call : HostCall σ) :
    LostSince host (calls ++ [call])
      ↔ call.Loses (host.after calls) ∨ (LostSince host calls ∧ call ≠ .restore) := by
  constructor
  · rintro ⟨before, first, later, hcalls, hloses, hsince⟩
    rcases (cut_concat_iff _ _ _ _ _).mp hcalls with ⟨rfl, rfl, _⟩ | ⟨middle, rfl, rfl⟩
    · exact Or.inl hloses
    · -- The loss came before the last call.
      simp only [List.mem_append, List.mem_singleton, not_or] at hsince
      exact Or.inr ⟨⟨before, first, middle, rfl, hloses, hsince.1⟩, Ne.symm hsince.2⟩
  · rintro (hloses | ⟨⟨before, first, later, rfl, hloses, hsince⟩, hother⟩)
    · exact ⟨calls, call, [], rfl, hloses, List.not_mem_nil⟩
    · refine ⟨before, first, later ++ [call], by simp, hloses, ?_⟩
      simp [hsince, Ne.symm hother]

/-- Along a run that starts with a device that works, the flag is set exactly
    if the device was lost and not restored since. -/
theorem lost_after (hworks : host.device.lost = false) (calls : List (HostCall σ)) :
    (host.after calls).device.lost = true ↔ LostSince host calls := by
  induction calls using List.reverseRecOn with
  | nil =>
      simp only [after, List.foldl_nil, hworks, Bool.false_eq_true, false_iff]
      rintro ⟨before, call, later, hcalls, _⟩
      simp only [List.nil_eq, List.append_eq_nil_iff, reduceCtorEq, and_false] at hcalls
  | append_singleton calls call ih => rw [after_concat, lost_answer, ih, lostSince_concat]

/-- The flag stays set until the device is restored. -/
theorem lost_after_of_lost (hlost : host.device.lost = true) (later : List (HostCall σ))
    (hsince : HostCall.restore ∉ later) : (host.after later).device.lost = true := by
  induction later generalizing host with
  | nil => exact hlost
  | cons call rest ih =>
      rw [List.mem_cons, not_or] at hsince
      exact ih _ ((host.lost_answer call).mpr (Or.inr ⟨hlost, Ne.symm hsince.1⟩)) hsince.2

end Host

/-- Loss of the device stops everything, in any run of a session and whatever
    else uses the device. The flag is set exactly if the device was lost and
    not restored since. From then on, and until it is restored, a frame only
    says so: neither the session nor the pool changes, and no call of either
    kind is made. A frame that finds the device working sets the flag exactly
    if a call that it made was answered so, and this is when it reports the
    loss. Any other failure of a call is reported as such and leaves the flag
    clear. -/
theorem device_loss_stops {σ : Type} (settings : Settings) (calls : List (HostCall σ)) :
    ∃ host, host = (Host.new settings).after calls
      ∧ (host.device.lost = true ↔ LostSince (Host.new settings) calls)
      ∧ (host.device.lost = true → ∀ later, HostCall.restore ∉ later →
        (host.after later).device.lost = true
        ∧ ∀ (frame : SlotFrame) (pool : Pool), (host.after later).asked frame pool
          = ⟨(host.after later).session, .error .deviceLost, [], frame.offered pool,
            (host.after later).device, []⟩)
      ∧ (host.device.lost = false → ∀ (frame : SlotFrame) (pool : Pool),
        ((host.asked frame pool).device.lost = true
          ↔ ∃ call, Called (host.asked frame pool).events call
            ∧ frame.replies.to call = ResultCode.deviceLost)
        ∧ ((host.asked frame pool).result = .error .deviceLost
          ↔ (host.asked frame pool).device.lost = true)
        ∧ ∀ call, Called (host.asked frame pool).events call →
          frame.replies.to call ≠ ResultCode.success →
          frame.replies.to call ≠ ResultCode.deviceLost →
          (host.asked frame pool).result = .error (.backend call (frame.replies.to call))
            ∧ (host.asked frame pool).device.lost = false) := by
  refine ⟨_, rfl, (Host.new settings).lost_after rfl calls, ?_, ?_⟩
  · intro hlost later hsince
    have hstill := Host.lost_after_of_lost _ hlost later hsince
    exact ⟨hstill, Host.asked_of_lost _ hstill⟩
  · intro hworks frame pool
    have hends := SlotFrame.result_ends
      { frame with device := ((Host.new settings).after calls).device }
      ((Host.new settings).after calls).session pool hworks
    refine ⟨hends.lost_iff hworks, hends.deviceLost_iff hworks, ?_⟩
    intro call hcalled hfailed hother
    rcases hends.backend hcalled hfailed hother with ⟨hresult, hsame⟩
    exact ⟨hresult, (congrArg Device.lost hsame).trans hworks⟩

/-- A slot gets its stream, and the device is lost when the stream ends. -/
def lostAtEnd : List (HostCall Unit) :=
  let unfinished : Replies := ⟨ResultCode.success, ResultCode.success, ResultCode.deviceLost⟩
  [.upkeep (.allocate 0 ()), .frame { sampledFrame with replies := unfinished } poolOfTwo]

/-- After that a frame of the slot makes no calls, until the renderer is built
    anew. -/
theorem device_loss_stops_lostAtEnd :
    LostSince (Host.new oneLazySlot) lostAtEnd
      ∧ ((((Host.new oneLazySlot).after lostAtEnd).after [.upkeep .markAllDirty]).asked sampledFrame
          poolOfTwo).result = .error .deviceLost
      ∧ ((((Host.new oneLazySlot).after lostAtEnd).after [.upkeep .markAllDirty]).asked sampledFrame
          poolOfTwo).events = []
      ∧ ((((Host.new oneLazySlot).after lostAtEnd).after [.restore]).asked sampledFrame
          poolOfTwo).result = .ok (.recorded ⟨1, 1, 1, true⟩) := by
  rcases device_loss_stops oneLazySlot lostAtEnd with ⟨host, rfl, hsince, hstops, _⟩
  have hlost : ((Host.new oneLazySlot).after lostAtEnd).device.lost = true := by decide +kernel
  have hasked := (hstops hlost [.upkeep .markAllDirty] (by simp)).2 sampledFrame poolOfTwo
  have hrestored : ((((Host.new oneLazySlot).after lostAtEnd).after [.restore]).asked sampledFrame
      poolOfTwo).result = .ok (.recorded ⟨1, 1, 1, true⟩) := by
    decide +kernel
  exact ⟨hsince.mp hlost, congrArg FrameResult.result hasked, congrArg FrameResult.events hasked,
    hrestored⟩

end FrameGraph
