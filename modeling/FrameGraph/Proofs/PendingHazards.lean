import FrameGraph.Proofs.Skipping
import FrameGraph.Proofs.Work

/-!
# Pending Hazards

A hazard is noted once and answered once, by the first recording that ends
well. In between frames are skipped or fail, slots come and go and passes
are compiled, and none of this may lose it. The mask alone does not tell
whether that worked, since it is a set and forgets what it was made of. So a
run is cut where a slot was recorded the last time, and what waits is the
union of what was noted since then.

A slot that is skipped answers nothing. That this is never at the cost of a
hazard is due to the flags: a hazard marks every slot, and whatever clears a
flag, a recording, answers all hazards as well. `Session.Heeds` says so and is
kept by every call.

## Main definitions

* `SessionCall.noted`, `notedBy`: The hazards that calls note.
* `SessionCall.Records`: A call records a slot, and the recording is good.
* `SinceRecorded`: The calls since the last one of these.
* `Session.Heeds`: Slots are dirty while hazards wait.

## Theorems

* `Session.pending_tend`, `SlotFrame.outcomes`: What one call does to the
  hazards that wait.
* `Session.pending_after`: What calls do that record nothing.
* `exists_sinceRecorded`, `SinceRecorded.pending`: What waits is what was
  noted.
* `Session.heeds_answer`, `Session.heeds_after`: The invariant.
* `SlotFrame.commands_of_recorded`: A good recording answers what waits.
* `hazards_answered_once`: No hazard is lost, and none is answered twice.
-/

namespace FrameGraph

open Gpu

/-- The hazards that tending notes. -/
def Upkeep.noted {σ : Type} : Upkeep σ → HazardMask
  | .addHazards hazards => hazards
  | _ => 0

namespace SessionCall

variable {σ : Type}

/-- The hazards that a call notes. -/
def noted : SessionCall σ → HazardMask
  | .frame _ _ => 0
  | .upkeep call => call.noted

/-- The call records a slot, and the recording is good. -/
def Records (session : Session σ) : SessionCall σ → Prop
  | .frame asked pool => ∃ stats, (asked.result session pool).result = .ok (.recorded stats)
  | .upkeep _ => False

end SessionCall

/-- The hazards that some calls note together. -/
def notedBy {σ : Type} : List (SessionCall σ) → HazardMask
  | [] => 0
  | call :: rest => call.noted ||| notedBy rest

/-- The later of some calls, made since a slot was recorded the last time, or
    all of them if none was. -/
def SinceRecorded {σ : Type} (start : Session σ) (calls later : List (SessionCall σ)) : Prop :=
  ∃ before, calls = before ++ later
    ∧ (before = [] ∨ ∃ front call, before = front ++ [call] ∧ call.Records (start.after front))
    ∧ Throughout (fun session call => ¬ call.Records session) (start.after before) later

namespace Session

variable {σ : Type} (session : Session σ)

theorem pending_compile (passes : List Pass) :
    (session.compile passes).1.pending = session.pending := by
  rcases session.compile_cases passes
    with ⟨_, hcompile⟩ | ⟨_, _, _, hcompile⟩ | ⟨_, _, _, hcompile⟩
  · rw [hcompile]
  · rw [hcompile]
  · rw [hcompile, markAllDirty]

/-- Tending adds what it notes to what waits. -/
theorem pending_tend (call : Upkeep σ) :
    (session.tend call).pending = session.pending ||| call.noted := by
  cases call with
  | compile passes =>
      rw [tend, pending_compile]
      exact UInt32.or_zero.symm
  | addHazards hazards =>
      by_cases hnone : hazards = 0
      · simp only [tend, addHazards, Upkeep.noted, hnone, if_true, UInt32.or_zero]
      · simp only [tend, addHazards, Upkeep.noted, hnone, if_false]
  | _ => exact UInt32.or_zero.symm

/-- Tending that leaves a slot clean notes nothing. -/
theorem noted_of_clean (call : Upkeep σ) (slot : Nat)
    (h : (session.tend call).slots.isDirty slot = false) : call.noted = 0 := by
  cases call with
  | addHazards hazards =>
      simp only [tend, addHazards] at h
      split at h
      · assumption
      · exact (Slots.not_clean (session.slots.isDirty_markAllDirty slot) h).elim
  | _ => rfl

end Session

namespace SlotFrame

variable {σ : Type} (frame : SlotFrame) (session : Session σ) (pool : Pool)

/-- A frame fails, is skipped or is recorded, and only a good recording takes
    what waits. -/
theorem outcomes :
    (∃ error, (frame.result session pool).result = .error error
        ∧ (frame.result session pool).session.pending = session.pending)
      ∨ ((frame.result session pool).result = .ok .skipped
        ∧ (frame.result session pool).session.pending = session.pending
        ∧ session.slots.isDirty frame.slot = false)
      ∨ ∃ stats compiled usage, (frame.result session pool).result = .ok (.recorded stats)
        ∧ (frame.result session pool).session.pending = 0
        ∧ (frame.recording session pool compiled usage).result = .ok stats
        ∧ (frame.result session pool).events
          = (frame.recording session pool compiled usage).events := by
  have hpending : (frame.ready session).pending = session.pending :=
    session.pending_compile frame.passes
  rcases session.recordFrame_cases frame.slot frame.passes frame.ops frame.renderers frame.replies
    (frame.offered pool) frame.device _ rfl
    with ⟨error, herror, _, _, hsame | hready⟩ | ⟨hskipped, _, _, hready, _, hclean⟩
      | ⟨answer, usage, _, _, hresult⟩
  · exact Or.inl ⟨error, herror, congrArg Session.pending hsame⟩
  · exact Or.inl ⟨error, herror, (congrArg Session.pending hready).trans hpending⟩
  · exact Or.inr (Or.inl ⟨hskipped, (congrArg Session.pending hready).trans hpending,
      session.clean_of_compile frame.passes frame.slot hclean⟩)
  · rcases Session.recordCompiled_cases _ _ _ _ _ _ _ _ _ _ _ rfl _ hresult.symm
      with ⟨hevents, _, ⟨error, _, herror, hsame⟩ | ⟨stats, hstats, hrecorded, hsame⟩⟩
    · exact Or.inl ⟨error, herror, (congrArg Session.pending hsame).trans hpending⟩
    · exact Or.inr (Or.inr ⟨stats, answer.compiled, usage, hrecorded,
        congrArg Session.pending hsame, hstats, hevents⟩)

/-- A good recording answers what waits as soon as the stream is begun. Any
    other barrier on all memory is from a renderer. -/
theorem commands_of_recorded {stats : Stats}
    (h : (frame.result session pool).result = .ok (.recorded stats)) :
    ∃ usage rest, commandsOf (frame.result session pool).events
        = [.reset, .begin usage (Session.slotLabel frame.slot)]
          ++ Scene.hazardCommands session.pending ++ rest
      ∧ ∀ command ∈ rest, command.isMemoryBarrier = true → frame.renderers.Records command := by
  rcases frame.outcomes session pool
    with ⟨error, herror, _⟩ | ⟨hskipped, _⟩ | ⟨_, compiled, usage, _, _, hstats, hevents⟩
  · simp only [herror, reduceCtorEq] at h
  · simp only [hskipped, Except.ok.injEq, reduceCtorEq] at h
  · have hpending : (frame.request (frame.ready session) usage).hazards = session.pending :=
      session.pending_compile frame.passes
    rcases record_begun _ _ _ _ _ _ _ hstats with ⟨resolution, hresolved, hreset, hbegin⟩
    rcases record_commands compiled (frame.request (frame.ready session) usage) frame.replies
      (frame.offered pool) frame.device (frame.scheduled (frame.ready session) compiled) resolution
      hresolved hreset hbegin with ⟨final, rest, hcommands, _, haccounts⟩
    rw [hpending] at hcommands
    refine ⟨usage, rest ++ [.finish], ?_, ?_⟩
    · rw [hevents]
      unfold recording
      rw [hcommands]
      simp [request]
    · intro command hcommand hmemory
      have hkept := filter_of_bare Command.isMemoryBarrier Command.isMemoryBarrier_of_surrounds
        haccounts.bare
      have hrest : command ∈ rest := by
        rcases List.mem_append.mp hcommand with hrest | hfinish
        · exact hrest
        · rw [List.mem_singleton.mp hfinish] at hmemory
          exact absurd hmemory Bool.false_ne_true
      -- Such a barrier surrounds nothing, so it is in the work of the frame.
      have hmem := List.mem_filter.mpr ⟨hrest, hmemory⟩
      rw [hkept] at hmem
      rcases isWork_or_records _ _ _ command (List.mem_filter.mp hmem).1 with hwork | hrecords
      · rw [(command.uncounted_of_isWork hwork).2.2] at hmemory
        exact absurd hmemory Bool.false_ne_true
      · exact hrecords

end SlotFrame

namespace Session

variable {σ : Type} (session : Session σ)

theorem pending_answer (call : SessionCall σ) :
    (call.Records session → (session.answer call).pending = 0)
      ∧ (¬ call.Records session →
        (session.answer call).pending = session.pending ||| call.noted) := by
  cases call with
  | frame frame pool =>
      simp only [SessionCall.Records, SessionCall.noted, answer, UInt32.or_zero]
      rcases frame.outcomes session pool
        with ⟨error, herror, hsame⟩ | ⟨hskipped, hsame, _⟩ | ⟨stats, _, _, hrecorded, hnone, _⟩
      · simp [herror, hsame]
      · simp [hskipped, hsame]
      · simp [hrecorded, hnone]
  | upkeep call => exact ⟨False.elim, fun _ => session.pending_tend call⟩

/-- Calls that record nothing add what they note. -/
theorem pending_after (calls : List (SessionCall σ))
    (h : Throughout (fun session call => ¬ call.Records session) session calls) :
    (session.after calls).pending = session.pending ||| notedBy calls := by
  induction calls generalizing session with
  | nil => exact UInt32.or_zero.symm
  | cons call rest ih =>
      calc (session.after (call :: rest)).pending
          = ((session.answer call).after rest).pending := rfl
        _ = (session.answer call).pending ||| notedBy rest := ih _ h.2
        _ = session.pending ||| notedBy (call :: rest) := by
            rw [(session.pending_answer call).2 h.1, UInt32.or_assoc, notedBy]

/-- As long as hazards wait, every slot is dirty. -/
def Heeds : Prop := session.pending ≠ 0 → ∀ slot, session.slots.isDirty slot = true

variable {session}

/-- So where a slot is clean nothing waits. -/
theorem Heeds.pending (h : session.Heeds) {slot : Nat}
    (hclean : session.slots.isDirty slot = false) : session.pending = 0 := by
  by_contra hsome
  exact Slots.not_clean (h hsome slot) hclean

theorem heeds_of_clean (h : ∀ slot, session.slots.isDirty slot = false → session.pending = 0) :
    session.Heeds := by
  intro hsome slot
  by_contra hclean
  exact hsome (h slot (Bool.eq_false_of_not_eq_true hclean))

/-- It stays so over every call: a slot that is clean after it was clean
    before and nothing was noted, or it was recorded. -/
theorem heeds_answer (h : session.Heeds) (call : SessionCall σ) : (session.answer call).Heeds := by
  refine heeds_of_clean ?_
  intro slot hclean
  cases call with
  | upkeep call =>
      have hbefore := (session.clean_of_tend call slot hclean).1
      rw [answer, pending_tend, h.pending hbefore, session.noted_of_clean call slot hclean]
      rfl
  | frame frame pool =>
      rw [answer] at hclean ⊢
      rcases frame.session_result session pool with hsame | hsame | hsame
      · rw [hsame] at hclean ⊢
        exact h.pending hclean
      · rw [hsame] at hclean ⊢
        rw [SlotFrame.ready, pending_compile]
        exact h.pending (session.clean_of_compile frame.passes slot hclean)
      · rw [hsame, recorded]

theorem heeds_after (settings : Settings) (calls : List (SessionCall σ)) :
    ((Session.new settings : Session σ).after calls).Heeds := by
  induction calls using List.reverseRecOn with
  | nil => exact fun hsome => absurd rfl hsome
  | append_singleton calls call ih =>
      rw [after_concat]
      exact heeds_answer ih call

end Session

section Runs

variable {σ : Type} (start : Session σ) (calls : List (SessionCall σ))

/-- There is always a last good recording, or none at all. -/
theorem exists_sinceRecorded : ∃ later, SinceRecorded start calls later := by
  induction calls using List.reverseRecOn with
  | nil => exact ⟨[], [], rfl, Or.inl rfl, trivial⟩
  | append_singleton calls call ih =>
      by_cases hrecords : call.Records (start.after calls)
      · refine ⟨[], calls ++ [call], ?_, Or.inr ⟨calls, call, rfl, hrecords⟩, trivial⟩
        rw [List.append_nil]
      · -- The call comes after what was recorded before it.
        rcases ih with ⟨later, before, hcalls, hlast, hsince⟩
        refine ⟨later ++ [call], before, ?_, hlast, ?_⟩
        · rw [hcalls, List.append_assoc]
        · rw [throughout_append, ← Session.after_append, ← hcalls]
          exact ⟨hsince, hrecords, trivial⟩

variable {start calls}

/-- What waits is what was noted since a slot was recorded. -/
theorem SinceRecorded.pending (hstart : start.pending = 0) {later : List (SessionCall σ)}
    (h : SinceRecorded start calls later) : (start.after calls).pending = notedBy later := by
  rcases h with ⟨before, hcalls, hlast, hsince⟩
  have hbefore : (start.after before).pending = 0 := by
    rcases hlast with rfl | ⟨front, call, rfl, hrecords⟩
    · exact hstart
    · rw [Session.after_concat]
      exact (Session.pending_answer _ call).1 hrecords
  rw [hcalls, Session.after_append, Session.pending_after _ later hsince, hbefore, UInt32.zero_or]

end Runs

/-- No hazard is lost and none is answered twice, in any run of a session and
    under any settings. What waits is all that was noted since a slot was
    recorded the last time, or since the beginning. A good recording answers
    it by one barrier as soon as its stream is begun, or by none if nothing
    waits; other barriers on all memory are from renderers, and there are none
    if these only draw. Then nothing waits any more. A frame that is skipped
    or fails leaves what waits as it is, and while something waits no frame is
    skipped. -/
theorem hazards_answered_once {σ : Type} (settings : Settings) (calls : List (SessionCall σ)) :
    ∃ session, session = (Session.new settings).after calls
      ∧ (∃ later, SinceRecorded (Session.new settings) calls later)
      ∧ (∀ later, SinceRecorded (Session.new settings) calls later →
        session.pending = notedBy later)
      ∧ ∀ (frame : SlotFrame) (pool : Pool),
        (∀ stats, (frame.result session pool).result = .ok (.recorded stats) →
          (frame.result session pool).session.pending = 0
          ∧ ∃ usage answer rest, commandsOf (frame.result session pool).events
              = [.reset, .begin usage (Session.slotLabel frame.slot)] ++ answer ++ rest
            ∧ answer = (if session.pending = 0 then [] else
              [.memoryBarrier [HazardMask.widened (HazardMask.requested session.pending)]])
            ∧ (∀ command ∈ rest, command.isMemoryBarrier = true →
              frame.renderers.Records command)
            ∧ (frame.renderers.DrawsOnly →
              ∀ command ∈ rest, command.isMemoryBarrier = false))
        ∧ ((frame.result session pool).result = .ok .skipped →
          (frame.result session pool).session.pending = session.pending ∧ session.pending = 0)
        ∧ (∀ error, (frame.result session pool).result = .error error →
          (frame.result session pool).session.pending = session.pending) := by
  refine ⟨_, rfl, exists_sinceRecorded _ calls, fun later hlater => hlater.pending rfl, ?_⟩
  intro frame pool
  have hheeds := Session.heeds_after settings calls
  generalize (Session.new settings).after calls = session at hheeds ⊢
  refine ⟨?_, ?_, ?_⟩
  · intro stats hrecorded
    refine ⟨(session.pending_answer (.frame frame pool)).1 ⟨stats, hrecorded⟩, ?_⟩
    rcases frame.commands_of_recorded session pool hrecorded with ⟨usage, rest, hcommands, hrest⟩
    refine ⟨usage, _, rest, hcommands, ?_, hrest, ?_⟩
    · unfold Scene.hazardCommands HazardMask.barrier?
      split
      · rfl
      · rfl
    · intro hdraws command hcommand
      cases hmemory : command.isMemoryBarrier with
      | false => rfl
      | true =>
          have hwork := hdraws.isWork (hrest command hcommand hmemory)
          exact hmemory.symm.trans (command.uncounted_of_isWork hwork).2.2
  · intro hskipped
    rcases frame.outcomes session pool
      with ⟨_, herror, _⟩ | ⟨_, hsame, hclean⟩ | ⟨_, _, _, hrecorded, _⟩
    · simp only [herror, reduceCtorEq] at hskipped
    · exact ⟨hsame, hheeds.pending hclean⟩
    · simp only [hrecorded, Except.ok.injEq, reduceCtorEq] at hskipped
  · intro error herror
    rcases frame.outcomes session pool
      with ⟨_, _, hsame⟩ | ⟨hskipped, _, _⟩ | ⟨_, _, _, hrecorded, _⟩
    · exact hsame
    · simp only [hskipped, reduceCtorEq] at herror
    · simp only [hrecorded, reduceCtorEq] at herror

/-- A slot is recorded, and then hazards are noted before and after a frame
    whose stream does not end. -/
def notedTwice : List (SessionCall Unit) :=
  let unfinished : Replies := ⟨ResultCode.success, ResultCode.success, ResultCode.deviceLost⟩
  sampledOnce ++ [.upkeep (.addHazards 0x4),
    .frame { sampledFrame with replies := unfinished } poolOfTwo, .upkeep (.addHazards 0x20)]

/-- The next frame answers both by one barrier. -/
theorem hazards_answered_once_notedTwice :
    ((Session.new oneLazySlot).after notedTwice).pending = 0x24
      ∧ (∃ later, SinceRecorded (Session.new oneLazySlot) notedTwice later
        ∧ notedBy later = 0x24)
      ∧ (sampledFrame.result ((Session.new oneLazySlot).after notedTwice) poolOfTwo).session.pending
        = 0
      ∧ ∃ usage rest,
        commandsOf (sampledFrame.result ((Session.new oneLazySlot).after notedTwice)
            poolOfTwo).events
          = [.reset, .begin usage "frame-slot-0",
            .memoryBarrier [HazardMask.widened (HazardMask.requested 0x24)]] ++ rest := by
  rcases hazards_answered_once oneLazySlot notedTwice
    with ⟨session, rfl, ⟨later, hlater⟩, hpending, hframes⟩
  have hboth : ((Session.new oneLazySlot).after notedTwice).pending = 0x24 := by decide +kernel
  have hrecorded : (sampledFrame.result ((Session.new oneLazySlot).after notedTwice)
      poolOfTwo).result = .ok (.recorded ⟨1, 2, 1, true⟩) := by
    decide +kernel
  rcases (hframes sampledFrame poolOfTwo).1 _ hrecorded
    with ⟨hnone, usage, answer, rest, hcommands, hanswer, _⟩
  refine ⟨hboth, ⟨later, hlater, (hpending later hlater).symm.trans hboth⟩, hnone, usage, rest, ?_⟩
  rw [hcommands, hanswer, hboth]
  rfl

end FrameGraph
