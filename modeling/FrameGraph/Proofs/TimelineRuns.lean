import FrameGraph.Gpu.Timeline
import Mathlib.Data.List.DropRight

/-!
# What a Wait Blocks On

A wait may block, so what it waits for has to be right: the value that the last
submission of the slot will signal, and nothing at all once no signal can come.
A timeline keeps a number for each slot, and the flag of a lost device is kept
elsewhere. Neither tells how it came to be what it is, and they are not reset
together. A loss that a wait is told of clears the numbers of every slot, a
loss that somebody else finds clears none, and clearing the flag brings no
number back.

So a run is read off what happened in it. `lastSet` is the value that was set
last for a slot since a wait was told of a loss, and `lastFlag` is what the flag
was left at. Each call keeps both in step with the timeline and the device
(`TimelineRun.kept_answer`), and then what a wait does depends on these two
alone.

A primitive is a function here, and calling one leaves no trace in its result.
A wait therefore says what it called the primitive with. That it says so
truthfully shows in two ways: a wait that called it passes on what it answers
for that value, and one with another primitive that agrees there goes the same
way.

## Main definitions

* `TimelineCall`: Something that happens to a timeline or to the flag.
* `TimelineEvent`: What calls leave behind that later waits depend on.
* `lastSet`, `lastFlag`: What was set last, and what the flag was left at.
* `Timeline.Comes`: What a wait comes to, for the value of its slot.
* `TimelineRun`, `TimelineRun.after?`: A timeline and the flag, over some calls.
* `TimelineRun.Kept`: What is kept from call to call.

## Theorems

* `lastSet_set`, `lastSet_asked`, `lastSet_flag`: What one event changes.
* `Timeline.wait?_comes`, `Timeline.wait?_congr`: What a wait comes to, and that
  it is decided by what its primitive answers where it is called.
* `TimelineRun.kept_answer`, `TimelineRun.kept_after`: The invariant.
* `timeline_waits`: What every wait of a run does.
-/

namespace FrameGraph.Gpu

/-- Something that happens to a timeline or to the flag that it shares. A wait
    brings a primitive to block on, which it uses up by calling it. -/
inductive TimelineCall where
  | setPending (slot : Nat) (value : UInt64)
  | wait (slot : Nat) (primitive : UInt64 → ResultCode)
  /-- Whoever else uses the device finds it lost. -/
  | lose
  /-- The renderer is built anew. -/
  | restore

/-- The call is about one of so many slots, if it is about a slot. -/
def TimelineCall.InRange (slots : Nat) : TimelineCall → Prop
  | .setPending slot _ => slot < slots
  | .wait slot _ => slot < slots
  | .lose => True
  | .restore => True

/-- Something that later waits depend on. -/
inductive TimelineEvent where
  | set (slot : Nat) (value : UInt64)
  /-- A primitive was called for a slot with a value, and it answered. -/
  | asked (slot : Nat) (value : UInt64) (answer : ResultCode)
  /-- The flag was set or cleared by others. -/
  | flag (lost : Bool)
  deriving DecidableEq, Repr

namespace TimelineEvent

/-- A primitive answered that the device is lost. -/
def reportsLoss : TimelineEvent → Bool
  | set _ _ => false
  | asked _ _ answer => answer = ResultCode.deviceLost
  | flag _ => false

/-- The value that is set for a slot. -/
def setsFor? (slot : Nat) : TimelineEvent → Option UInt64
  | set target value => if target = slot then some value else none
  | asked _ _ _ => none
  | flag _ => none

/-- What the flag is left at. -/
def flag? : TimelineEvent → Option Bool
  | set _ _ => none
  | asked _ _ answer => if answer = ResultCode.deviceLost then some true else none
  | flag lost => some lost

end TimelineEvent

/-- The events since a primitive last reported that the device is lost. -/
def sinceLoss (events : List TimelineEvent) : List TimelineEvent :=
  events.rtakeWhile fun event => !event.reportsLoss

/-- The value that was set last for a slot since then, or zero if none was. -/
def lastSet (events : List TimelineEvent) (slot : Nat) : UInt64 :=
  ((sinceLoss events).reverse.findSome? (TimelineEvent.setsFor? slot)).getD 0

/-- What the flag was left at, if it was `before` in the beginning. -/
def lastFlag (before : Bool) (events : List TimelineEvent) : Bool :=
  (events.reverse.findSome? TimelineEvent.flag?).getD before

theorem lastFlag_concat (before : Bool) (events : List TimelineEvent) (event : TimelineEvent) :
    lastFlag before (events ++ [event]) = event.flag?.getD (lastFlag before events) := by
  unfold lastFlag
  rw [List.reverse_append, List.reverse_singleton, List.singleton_append, List.findSome?_cons]
  cases event.flag? with
  | none => rfl
  | some lost => rfl

/-- An event that is no report of a loss sets a slot or leaves it as it was. -/
theorem lastSet_concat (events : List TimelineEvent) {event : TimelineEvent}
    (hquiet : event.reportsLoss = false) (slot : Nat) :
    lastSet (events ++ [event]) slot = (event.setsFor? slot).getD (lastSet events slot) := by
  have hsince : sinceLoss (events ++ [event]) = sinceLoss events ++ [event] :=
    List.rtakeWhile_concat_pos _ _ event (by rw [hquiet, Bool.not_false])
  unfold lastSet
  rw [hsince, List.reverse_append, List.reverse_singleton, List.singleton_append,
    List.findSome?_cons]
  cases event.setsFor? slot with
  | none => rfl
  | some value => rfl

theorem lastSet_set (events : List TimelineEvent) (target : Nat) (value : UInt64) (slot : Nat) :
    lastSet (events ++ [.set target value]) slot
      = if target = slot then value else lastSet events slot := by
  rw [lastSet_concat events rfl, TimelineEvent.setsFor?]
  split
  · rfl
  · rfl

theorem lastSet_flag (events : List TimelineEvent) (lost : Bool) (slot : Nat) :
    lastSet (events ++ [.flag lost]) slot = lastSet events slot :=
  lastSet_concat events rfl slot

/-- A report of a loss takes every value back, and another answer none. -/
theorem lastSet_asked (events : List TimelineEvent) (target : Nat) (value : UInt64)
    (answer : ResultCode) (slot : Nat) :
    lastSet (events ++ [.asked target value answer]) slot
      = if answer = ResultCode.deviceLost then 0 else lastSet events slot := by
  split
  · next hloss =>
      have hnone : sinceLoss (events ++ [.asked target value answer]) = [] :=
        List.rtakeWhile_concat_neg _ _ _ (by simp [TimelineEvent.reportsLoss, hloss])
      unfold lastSet
      rw [hnone]
      rfl
  · next hother =>
      exact lastSet_concat events (by simp [TimelineEvent.reportsLoss, hother]) slot

namespace Timeline

variable (timeline : Timeline) (device : Device)

/-- What a wait comes to, if `value` is pending for the slot. -/
inductive Comes (value : UInt64) (primitive : UInt64 → ResultCode) : Wait → Prop
  | lost (hlost : device.lost = true) :
    Comes value primitive ⟨timeline, device, ResultCode.deviceLost, none, []⟩
  | idle (hworks : device.lost = false) (hnone : value = 0) :
    Comes value primitive ⟨timeline, device, ResultCode.success, none, []⟩
  | reported (hworks : device.lost = false) (hsome : value ≠ 0)
    (hloss : primitive value = ResultCode.deviceLost) :
    Comes value primitive
      ⟨timeline.cleared, device.markLost.1, ResultCode.deviceLost, some value, device.markLost.2⟩
  | answered (hworks : device.lost = false) (hsome : value ≠ 0)
    (hother : primitive value ≠ ResultCode.deviceLost) :
    Comes value primitive ⟨timeline, device, primitive value, some value, []⟩

theorem wait?_comes {slot : Nat} {value : UInt64} (hpending : timeline.pending? slot = some value)
    (primitive : UInt64 → ResultCode) :
    ∃ wait, timeline.wait? device slot primitive = some wait
      ∧ timeline.Comes device value primitive wait := by
  unfold wait?
  rw [hpending]
  split
  · next hlost => exact ⟨_, rfl, .lost hlost⟩
  · next hlost =>
      have hworks : device.lost = false := Bool.not_eq_true _ ▸ hlost
      simp only
      split
      · next hnone => exact ⟨_, rfl, .idle hworks hnone⟩
      · next hsome =>
          split
          · next hloss => exact ⟨_, rfl, .reported hworks hsome hloss⟩
          · next hother => exact ⟨_, rfl, .answered hworks hsome hother⟩

/-- A wait with another primitive goes the same way, if that answers the same
    where the first one was called. -/
theorem wait?_congr {slot : Nat} {primitive other : UInt64 → ResultCode} {wait : Wait}
    (h : timeline.wait? device slot primitive = some wait)
    (hagree : ∀ value, wait.waitedFor = some value → other value = primitive value) :
    timeline.wait? device slot other = some wait := by
  cases hpending : timeline.pending? slot with
  | none =>
      unfold wait? at h ⊢
      rw [hpending] at h ⊢
      exact h
  | some value =>
      rcases timeline.wait?_comes device hpending primitive with ⟨_, hwait, hcomes⟩
      rcases Option.some.inj (hwait.symm.trans h) with rfl
      unfold wait?
      rw [hpending]
      cases hcomes with
      | lost hlost => rw [if_pos hlost]
      | idle hworks hnone => simp only [hworks, Bool.false_eq_true, if_false, hnone, if_true]
      | reported hworks hsome hloss =>
          have hsame := (hagree value rfl).trans hloss
          simp only [hworks, Bool.false_eq_true, if_false, hsome, hsame, if_true]
      | answered hworks hsome hother =>
          simp only [hworks, Bool.false_eq_true, if_false, hsome, hagree value rfl, hother]

namespace Comes

variable {timeline : Timeline} {device : Device} {value : UInt64} {primitive : UInt64 → ResultCode}
  {wait : Wait} (h : timeline.Comes device value primitive wait)

include h

/-- The primitive is called if the flag is clear and a value is pending. -/
theorem waitedFor_eq :
    wait.waitedFor = if device.lost = false ∧ value ≠ 0 then some value else none := by
  cases h with
  | lost hlost => rw [if_neg fun hboth => Bool.false_ne_true (hboth.1.symm.trans hlost)]
  | idle hworks hnone => rw [if_neg fun hboth => hboth.2 hnone]
  | reported hworks hsome hloss => rw [if_pos ⟨hworks, hsome⟩]
  | answered hworks hsome hother => rw [if_pos ⟨hworks, hsome⟩]

theorem result_of_lost (hlost : device.lost = true) : wait.result = ResultCode.deviceLost := by
  cases h with
  | lost _ => rfl
  | idle hworks _ => exact absurd (hworks.symm.trans hlost) Bool.false_ne_true
  | reported hworks _ _ => rfl
  | answered hworks _ _ => exact absurd (hworks.symm.trans hlost) Bool.false_ne_true

/-- A wait that calls nothing changes nothing. -/
theorem unasked (hnone : wait.waitedFor = none) :
    wait.timeline = timeline ∧ wait.device = device
      ∧ (device.lost = false → wait.result = ResultCode.success) := by
  cases h with
  | lost hlost =>
      exact ⟨rfl, rfl, fun hworks => absurd (hworks.symm.trans hlost) Bool.false_ne_true⟩
  | idle _ _ => exact ⟨rfl, rfl, fun _ => rfl⟩
  | reported _ _ _ => exact absurd hnone (Option.some_ne_none _)
  | answered _ _ _ => exact absurd hnone (Option.some_ne_none _)

/-- What the primitive answers is passed on, and only a loss changes anything. -/
theorem asked {sought : UInt64} (hsome : wait.waitedFor = some sought) :
    wait.result = primitive sought
      ∧ (primitive sought = ResultCode.deviceLost →
        wait.device.lost = true ∧ wait.timeline = timeline.cleared)
      ∧ (primitive sought ≠ ResultCode.deviceLost →
        wait.timeline = timeline ∧ wait.device = device) := by
  cases h with
  | lost _ => exact absurd hsome (Option.some_ne_none _).symm
  | idle _ _ => exact absurd hsome (Option.some_ne_none _).symm
  | reported _ _ hloss =>
      rcases Option.some.inj hsome with rfl
      exact ⟨hloss.symm, fun _ => ⟨rfl, rfl⟩, fun hother => absurd hloss hother⟩
  | answered _ _ hother =>
      rcases Option.some.inj hsome with rfl
      exact ⟨rfl, fun hloss => absurd hloss hother, fun _ => ⟨rfl, rfl⟩⟩

end Comes

/-- Setting a slot that is there sets it and no other. -/
theorem setPending?_eq {slot : Nat} (hslot : slot < timeline.pending.length) (value : UInt64) :
    timeline.setPending? slot value
      = some { timeline with pending := timeline.pending.set slot value } :=
  if_pos hslot

theorem pending?_cleared {slot : Nat} (hslot : slot < timeline.pending.length) :
    timeline.cleared.pending? slot = some 0 := by
  unfold pending? cleared
  rw [List.getElem?_map, List.getElem?_eq_getElem hslot, Option.map_some]

end Timeline

/-- What a wait asked the primitive that it was given, and what it was told. -/
def Wait.asked (wait : Wait) (slot : Nat) (primitive : UInt64 → ResultCode) :
    List TimelineEvent :=
  wait.waitedFor.toList.map fun value => .asked slot value (primitive value)

/-- A timeline and the flag of the device, with what happened so far. -/
structure TimelineRun where
  timeline : Timeline
  device : Device
  events : List TimelineEvent
  deriving DecidableEq, Repr

namespace TimelineRun

/-- A timeline that was just made. -/
def start (slots : Nat) (timeout : UInt64) (device : Device) : TimelineRun :=
  ⟨Timeline.new slots timeout, device, []⟩

/-- The run after a call, unless that is about a slot the timeline does not have. -/
def answer? (run : TimelineRun) : TimelineCall → Option TimelineRun
  | .setPending slot value =>
    (run.timeline.setPending? slot value).map fun timeline =>
      { run with timeline := timeline, events := run.events ++ [.set slot value] }
  | .wait slot primitive =>
    (run.timeline.wait? run.device slot primitive).map fun wait =>
      ⟨wait.timeline, wait.device, run.events ++ wait.asked slot primitive⟩
  | .lose =>
    some { run with device := run.device.markLost.1, events := run.events ++ [.flag true] }
  | .restore =>
    some { run with device := run.device.restored, events := run.events ++ [.flag false] }

/-- The run after some calls. -/
def after? (run : TimelineRun) (calls : List TimelineCall) : Option TimelineRun :=
  calls.foldlM answer? run

/-- What is kept from call to call, for a flag that was `before` in the
    beginning. -/
structure Kept (slots : Nat) (before : Bool) (run : TimelineRun) : Prop where
  count : run.timeline.pending.length = slots
  pending : ∀ slot < slots, run.timeline.pending? slot = some (lastSet run.events slot)
  flag : run.device.lost = lastFlag before run.events

theorem kept_start (slots : Nat) (timeout : UInt64) (device : Device) :
    (start slots timeout device).Kept slots device.lost where
  count := List.length_replicate
  pending := fun _ hslot => List.getElem?_replicate_of_lt hslot
  flag := rfl

variable {slots : Nat} {before : Bool} {run : TimelineRun}

/-- A slot that is set has the value from then on. -/
theorem Kept.setPending (h : run.Kept slots before) {slot : Nat} (hslot : slot < slots)
    (value : UInt64) :
    ∃ next, run.answer? (.setPending slot value) = some next ∧ next.Kept slots before := by
  have hset := run.timeline.setPending?_eq (h.count.symm ▸ hslot) value
  refine ⟨_, by rw [answer?, hset, Option.map_some], ?_⟩
  constructor
  · rw [List.length_set, h.count]
  · intro other hother
    rw [lastSet_set]
    by_cases hsame : slot = other
    · subst hsame
      rw [if_pos rfl]
      exact List.getElem?_set_self (h.count.symm ▸ hslot)
    · rw [if_neg hsame, ← h.pending other hother]
      exact List.getElem?_set_ne hsame
  · rw [lastFlag_concat]
    exact h.flag

/-- A wait that is told of a loss takes all values back and sets the flag, and
    any other changes nothing. -/
theorem Kept.wait (h : run.Kept slots before) {slot : Nat} (hslot : slot < slots)
    (primitive : UInt64 → ResultCode) :
    ∃ next, run.answer? (.wait slot primitive) = some next ∧ next.Kept slots before := by
  rcases run.timeline.wait?_comes run.device (h.pending slot hslot) primitive
    with ⟨wait, hwait, hcomes⟩
  refine ⟨_, by rw [answer?, hwait, Option.map_some], ?_⟩
  cases hcomes with
  | lost hlost =>
      simp only [Wait.asked, Option.toList_none, List.map_nil, List.append_nil]
      exact h
  | idle hworks hnone =>
      simp only [Wait.asked, Option.toList_none, List.map_nil, List.append_nil]
      exact h
  | reported hworks hsome hloss =>
      simp only [Wait.asked, Option.toList_some, List.map_cons, List.map_nil]
      constructor
      · exact (List.length_map _).trans h.count
      · intro other hother
        rw [lastSet_asked, if_pos hloss]
        exact run.timeline.pending?_cleared (h.count.symm ▸ hother)
      · rw [lastFlag_concat, TimelineEvent.flag?, if_pos hloss]
        rfl
  | answered hworks hsome hother =>
      simp only [Wait.asked, Option.toList_some, List.map_cons, List.map_nil]
      constructor
      · exact h.count
      · intro other hslot
        rw [lastSet_asked, if_neg hother]
        exact h.pending other hslot
      · rw [lastFlag_concat, TimelineEvent.flag?, if_neg hother]
        exact h.flag

/-- Others set and clear the flag, and no value changes by that. -/
theorem Kept.flagged (h : run.Kept slots before) (device : Device) :
    ({ run with device := device, events := run.events ++ [.flag device.lost] } :
      TimelineRun).Kept slots before := by
  constructor
  · exact h.count
  · intro slot hslot
    rw [lastSet_flag]
    exact h.pending slot hslot
  · rw [lastFlag_concat]
    rfl

theorem kept_answer (h : run.Kept slots before) (call : TimelineCall)
    (hrange : call.InRange slots) :
    ∃ next, run.answer? call = some next ∧ next.Kept slots before := by
  cases call with
  | setPending slot value => exact h.setPending hrange value
  | wait slot primitive => exact h.wait hrange primitive
  | lose => exact ⟨_, rfl, h.flagged run.device.markLost.1⟩
  | restore => exact ⟨_, rfl, h.flagged run.device.restored⟩

theorem kept_after (h : run.Kept slots before) (calls : List TimelineCall)
    (hrange : ∀ call ∈ calls, call.InRange slots) :
    ∃ last, run.after? calls = some last ∧ last.Kept slots before := by
  induction calls generalizing run with
  | nil => exact ⟨run, rfl, h⟩
  | cons call rest ih =>
      rw [List.forall_mem_cons] at hrange
      rcases kept_answer h call hrange.1 with ⟨next, hnext, hkept⟩
      rcases ih hkept hrange.2 with ⟨last, hlast, hend⟩
      refine ⟨last, ?_, hend⟩
      rw [after?, List.foldlM_cons, hnext]
      exact hlast

end TimelineRun

/-- Every wait of a run, whatever was set, lost and restored before it, and
    whoever set or cleared the flag. All calls are about slots that the timeline
    has, and then each of them is answered. A wait calls its primitive exactly if
    the flag is clear and a value was set for the slot since a primitive of this
    timeline last reported a loss, and it does so with the value that was set
    last. It reports the loss without a call if the flag is set. If the primitive
    reports a loss, the flag is set and no slot has a value left; any other
    answer is passed on and changes nothing. -/
theorem timeline_waits (slots : Nat) (timeout : UInt64) (device : Device)
    (calls : List TimelineCall) (hrange : ∀ call ∈ calls, call.InRange slots) :
    ∃ run, (TimelineRun.start slots timeout device).after? calls = some run
      ∧ run.device.lost = lastFlag device.lost run.events
      ∧ ∀ slot < slots, run.timeline.pending? slot = some (lastSet run.events slot)
        ∧ ∀ primitive, ∃ wait, run.timeline.wait? run.device slot primitive = some wait
          ∧ wait.waitedFor
            = (if run.device.lost = false ∧ lastSet run.events slot ≠ 0 then
                some (lastSet run.events slot)
              else none)
          ∧ (∀ other, (∀ value, wait.waitedFor = some value → other value = primitive value) →
            run.timeline.wait? run.device slot other = some wait)
          ∧ (run.device.lost = true → wait.result = ResultCode.deviceLost)
          ∧ (wait.waitedFor = none → wait.timeline = run.timeline ∧ wait.device = run.device
            ∧ (run.device.lost = false → wait.result = ResultCode.success))
          ∧ ∀ value, wait.waitedFor = some value → wait.result = primitive value
            ∧ (primitive value = ResultCode.deviceLost →
              wait.device.lost = true ∧ ∀ other < slots, wait.timeline.pending? other = some 0)
            ∧ (primitive value ≠ ResultCode.deviceLost →
              wait.timeline = run.timeline ∧ wait.device = run.device) := by
  rcases TimelineRun.kept_after (TimelineRun.kept_start slots timeout device) calls hrange
    with ⟨run, hrun, hkept⟩
  refine ⟨run, hrun, hkept.flag, ?_⟩
  intro slot hslot
  refine ⟨hkept.pending slot hslot, ?_⟩
  intro primitive
  rcases run.timeline.wait?_comes run.device (hkept.pending slot hslot) primitive
    with ⟨wait, hwait, hcomes⟩
  refine ⟨wait, hwait, hcomes.waitedFor_eq, ?_, hcomes.result_of_lost, hcomes.unasked, ?_⟩
  · intro other hagree
    exact run.timeline.wait?_congr run.device hwait hagree
  · intro value hasked
    rcases hcomes.asked hasked with ⟨hresult, hloss, hother⟩
    refine ⟨hresult, ?_, hother⟩
    intro hreported
    refine ⟨(hloss hreported).1, ?_⟩
    intro other hin
    rw [(hloss hreported).2]
    exact run.timeline.pending?_cleared (hkept.count.symm ▸ hin)

/-- Values are set for three slots, one wait times out and another is told of a
    loss. After that the renderer is built anew, and one slot is set. -/
def lostAndRestored : List TimelineCall :=
  [.setPending 2 3, .wait 2 (fun _ => 2), .setPending 0 5, .setPending 1 6,
    .wait 1 (fun _ => ResultCode.deviceLost), .wait 0 (fun _ => ResultCode.success), .restore,
    .setPending 2 9]

/-- What was set before the loss is not waited for, and what was set after it
    is. -/
theorem timeline_waits_lostAndRestored :
    ∃ run, (TimelineRun.start 3 1000 Device.working).after? lostAndRestored = some run
      ∧ (∃ wait, run.timeline.wait? run.device 0 (fun _ => ResultCode.success) = some wait
        ∧ wait.waitedFor = none ∧ wait.result = ResultCode.success)
      ∧ ∃ wait, run.timeline.wait? run.device 2 (fun _ => ResultCode.deviceLost) = some wait
        ∧ wait.waitedFor = some 9 ∧ wait.device.lost = true
        ∧ ∀ other < 3, wait.timeline.pending? other = some 0 := by
  have hrange : ∀ call ∈ lostAndRestored, call.InRange 3 := by
    simp [lostAndRestored, TimelineCall.InRange]
  rcases timeline_waits 3 1000 Device.working lostAndRestored hrange with ⟨run, hrun, -, hwaits⟩
  -- The flag is clear again, and of all values only the last one is left.
  have hend : (TimelineRun.start 3 1000 Device.working).after? lostAndRestored
      = some ⟨⟨[0, 0, 9], 1000⟩, Device.working,
        [.set 2 3, .asked 2 3 2, .set 0 5, .set 1 6, .asked 1 6 ResultCode.deviceLost,
          .flag false, .set 2 9]⟩ := by
    decide +kernel
  rcases Option.some.inj (hrun.symm.trans hend) with rfl
  refine ⟨_, hrun, ?_, ?_⟩
  · rcases (hwaits 0 (by decide)).2 fun _ => ResultCode.success
      with ⟨wait, hwait, hasked, _, _, hunasked, _⟩
    have hnone : wait.waitedFor = none := hasked.trans (by decide +kernel)
    exact ⟨wait, hwait, hnone, (hunasked hnone).2.2 rfl⟩
  · rcases (hwaits 2 (by decide)).2 fun _ => ResultCode.deviceLost
      with ⟨wait, hwait, hasked, _, _, _, hanswered⟩
    have hsome : wait.waitedFor = some 9 := hasked.trans (by decide +kernel)
    exact ⟨wait, hwait, hsome, (hanswered 9 hsome).2.1 rfl⟩

end FrameGraph.Gpu
