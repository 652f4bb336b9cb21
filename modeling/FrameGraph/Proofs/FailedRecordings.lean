import FrameGraph.Proofs.DeviceLoss
import FrameGraph.Proofs.PendingHazards

/-!
# After a Recording Failed

A good recording clears the flag of its slot, and one that fails leaves all
flags as they are. By then the stream was reset at least, so there is nothing
left in it that could be submitted. Whether the flag says so depends on what it
was before.

Where slots are recorded only when they are dirty, the slot was dirty or it
would not have been recorded, and it still is. Where slots are recorded in every
frame, nobody asks the flag. The slot may have been clean, since it was recorded
before and nothing happened that would mark it, and then it is clean with half a
recording in it.

So what is left is to say when a slot is clean. `clean_after_iff` reads this off
the calls of a run: some frame recorded the slot well, and no call since then
marked it. It holds for both policies, and for a frame that compiles anew and
records its own slot well, which marks the slot and clears the flag again.

## Main definitions

* `SessionCall.Marks`: A call sets the flag of a slot.
* `SessionCall.RecordsSlot`: A call records a slot, and the recording is good.
* `CleanSince`: A slot was recorded, and nothing marked it since.
* `SlotFrame.FailsInStream`: A call of the stream fails.

## Theorems

* `Session.clean_compile_iff`, `Session.clean_tend_iff`: When a slot is clean
  after tending.
* `SlotFrame.session_of_ready`, `SlotFrame.clean_result_iff`: When a slot is
  clean after a frame.
* `Session.clean_answer_iff`, `cleanSince_concat`, `clean_after_iff`: When a slot
  is clean along a run.
* `SlotFrame.result_of_failed`: What a frame comes to whose stream fails.
* `record_failed_flag`: The flag after a recording that failed.
-/

namespace FrameGraph

open Gpu

/-- A flag that is cleared is clear, if there is one. -/
theorem Slots.isDirty_clearDirty_self {σ : Type} (slots : Slots σ) {slot : Nat}
    (h : slot < slots.dirty.length) : (slots.clearDirty slot).isDirty slot = false := by
  unfold isDirty clearDirty
  simp only [List.getElem?_set_self h, Option.getD_some]

namespace SessionCall

variable {σ : Type}

/-- The call sets the flag of a slot: it compiles anew, or it is one of those
    that leave no stream as it was. -/
def Marks (slot : Nat) (session : Session σ) : SessionCall σ → Prop
  | .frame asked _ => ∃ answer, asked.readied? session = some answer ∧ answer.recompiled = true
  | .upkeep (.compile passes) =>
    ∃ answer, (session.compile passes).2 = .ok answer ∧ answer.recompiled = true
  | .upkeep (.addHazards hazards) => hazards ≠ 0
  | .upkeep .invalidate => True
  | .upkeep (.allocate target _) => target = slot ∧ session.slots.streams[target]?.isSome = true
  | .upkeep (.resize _) => True
  | .upkeep .markAllDirty => True
  | .upkeep .takeAll => True

/-- The call records a slot, and the recording is good. -/
def RecordsSlot (slot : Nat) (session : Session σ) (call : SessionCall σ) : Prop :=
  call.Records session ∧ call.slot? session = some slot

end SessionCall

/-- A slot was recorded well in the course of some calls, and no call since then
    marked it. -/
def CleanSince {σ : Type} (start : Session σ) (calls : List (SessionCall σ)) (slot : Nat) : Prop :=
  ∃ before call later, calls = before ++ call :: later
    ∧ call.RecordsSlot slot (start.after before)
    ∧ Throughout (fun session call => ¬ call.Marks slot session)
      (start.after (before ++ [call])) later

namespace Session

variable {σ : Type} (session : Session σ)

/-- Compiling anew marks every slot, and otherwise compiling marks none. -/
theorem clean_compile_iff (passes : List Pass) (slot : Nat) :
    (session.compile passes).1.slots.isDirty slot = false
      ↔ session.slots.isDirty slot = false
        ∧ ¬ ∃ answer, (session.compile passes).2 = .ok answer ∧ answer.recompiled = true := by
  rcases session.compile_cases passes
    with ⟨error, hcompile⟩ | ⟨entry, _, _, hcompile⟩ | ⟨compiled, token, made, hcompile⟩
  · simp [hcompile]
  · simp [hcompile]
  · have hdirty := session.slots.isDirty_markAllDirty slot
    simp [hcompile, markAllDirty, hdirty]

theorem clean_tend_iff (call : Upkeep σ) (slot : Nat) :
    (session.tend call).slots.isDirty slot = false
      ↔ session.slots.isDirty slot = false
        ∧ ¬ (SessionCall.upkeep call).Marks slot session := by
  cases call with
  | compile passes => exact session.clean_compile_iff passes slot
  | addHazards hazards =>
      by_cases hnone : hazards = 0
      · simp [tend, addHazards, SessionCall.Marks, hnone]
      · have hdirty := session.slots.isDirty_markAllDirty slot
        simp [tend, addHazards, SessionCall.Marks, hnone, markAllDirty, hdirty]
  | invalidate =>
      have hdirty := session.slots.isDirty_markAllDirty slot
      simp [tend, invalidate, SessionCall.Marks, markAllDirty, hdirty]
  | allocate target stream =>
      simp only [tend, Slots.isDirty_allocate, SessionCall.Marks, Bool.or_eq_false_iff,
        Bool.and_eq_false_iff, decide_eq_false_iff_not, not_and_or, Bool.not_eq_true]
  | resize count => simp [tend, session.slots.isDirty_resize, SessionCall.Marks]
  | markAllDirty =>
      have hdirty := session.slots.isDirty_markAllDirty slot
      simp [tend, SessionCall.Marks, markAllDirty, hdirty]
  | takeAll => simp [tend, session.slots.isDirty_takeAll, SessionCall.Marks]

end Session

namespace SlotFrame

variable {σ : Type} {frame : SlotFrame} {session : Session σ}

/-- A frame that gets a compilation finds the device working and a flag for its
    slot. -/
theorem checked_of_ready {answer : CacheAnswer} (h : frame.readied? session = some answer) :
    frame.device.lost = false ∧ frame.slot < session.slots.dirty.length := by
  unfold readied? at h
  split at h
  · simp only [reduceCtorEq] at h
  · next hlost =>
      split at h
      · next hcheck _ =>
          refine ⟨Bool.eq_false_of_not_eq_true hlost, ?_⟩
          rcases session.stream_of_checkSlot frame.slot hcheck with ⟨stream, hstream⟩
          rw [Slots.stream_eq_ok_iff] at hstream
          have hflags : session.slots.dirty.length = session.slots.streams.length := by
            rw [← Slots.validate_eq_ok_iff]
            unfold Session.checkSlot at hcheck
            split at hcheck
            · simp only [reduceCtorEq] at hcheck
            · assumption
          rw [hflags]
          exact (List.getElem?_eq_some_iff.mp hstream).1
      · simp only [reduceCtorEq] at h

/-- Such a frame records its slot well or it leaves the session as the
    compilation left it. -/
theorem session_of_ready (pool : Pool) {answer : CacheAnswer}
    (h : frame.readied? session = some answer) :
    ((¬ (SessionCall.frame frame pool).Records session)
        ∧ (frame.result session pool).session = frame.ready session)
      ∨ ((SessionCall.frame frame pool).RecordsSlot frame.slot session
        ∧ (frame.result session pool).session = (frame.ready session).recorded frame.slot) := by
  have hresult := (result_of_ready pool h).2.2
  cases husage : (frame.ready session).usage? frame.slot with
  | none =>
      -- The slot is clean and is skipped.
      rw [husage] at hresult
      refine Or.inl ⟨?_, congrArg FrameResult.session hresult⟩
      rintro ⟨stats, hrecorded⟩
      rw [hresult] at hrecorded
      simp only [Except.ok.injEq, reduceCtorEq] at hrecorded
  | some usage =>
      rw [husage] at hresult
      rcases Session.recordCompiled_cases _ _ _ _ _ _ _ _ _ _ _ rfl _ hresult.symm
        with ⟨_, _, ⟨error, _, herror, hsession⟩ | ⟨stats, _, hgood, hsession⟩⟩
      · refine Or.inl ⟨?_, hsession⟩
        rintro ⟨stats, hrecorded⟩
        simp only [herror, reduceCtorEq] at hrecorded
      · refine Or.inr ⟨⟨⟨stats, hgood⟩, ?_⟩, hsession⟩
        simp only [SessionCall.slot?, made?, h, husage, Option.bind_some, Option.map_some]

variable (frame session) in
/-- After a frame a slot is clean if the frame recorded it well, or if it was
    clean before and the frame compiled nothing anew. -/
theorem clean_result_iff (pool : Pool) (slot : Nat) :
    (frame.result session pool).session.slots.isDirty slot = false
      ↔ (SessionCall.frame frame pool).RecordsSlot slot session
        ∨ (session.slots.isDirty slot = false
          ∧ ¬ (SessionCall.frame frame pool).Marks slot session) := by
  cases hready : frame.readied? session with
  | none =>
      rcases result_of_unready pool hready with ⟨⟨error, herror⟩, hsession⟩
      simp [hsession, SessionCall.RecordsSlot, SessionCall.Records, SessionCall.Marks, herror,
        hready]
  | some answer =>
      have hanswer := (result_of_ready pool hready).2.1
      have hcompiled : (frame.ready session).slots.isDirty slot = false
          ↔ session.slots.isDirty slot = false
            ∧ ¬ (SessionCall.frame frame pool).Marks slot session := by
        rw [ready, session.clean_compile_iff]
        simp only [SessionCall.Marks, hready, hanswer, Except.ok.injEq, Option.some.injEq]
      rw [← hcompiled]
      rcases session_of_ready pool hready with ⟨hnot, hsession⟩ | ⟨hrecords, hsession⟩
      · rw [hsession]
        exact ⟨Or.inr, fun h => h.resolve_left fun hrecords => hnot hrecords.1⟩
      · rw [hsession, Session.recorded]
        by_cases hslot : frame.slot = slot
        · -- Its own flag is cleared last.
          subst hslot
          refine ⟨fun _ => Or.inl hrecords, fun _ => ?_⟩
          refine Slots.isDirty_clearDirty_self _ ?_
          rw [ready, session.length_dirty_compile]
          exact (checked_of_ready hready).2
        · rw [Slots.isDirty_clearDirty _ (Ne.symm hslot)]
          refine ⟨Or.inr, fun h => h.resolve_left ?_⟩
          rintro ⟨_, hother⟩
          exact hslot (Option.some.inj (hrecords.2.symm.trans hother))

end SlotFrame

section Runs

variable {σ : Type} (start : Session σ)

/-- One call cleans a slot by recording it, and otherwise leaves it clean
    unless it marks it. -/
theorem Session.clean_answer_iff (session : Session σ) (call : SessionCall σ) (slot : Nat) :
    (session.answer call).slots.isDirty slot = false
      ↔ call.RecordsSlot slot session
        ∨ (session.slots.isDirty slot = false ∧ ¬ call.Marks slot session) := by
  cases call with
  | frame frame pool => exact frame.clean_result_iff session pool slot
  | upkeep call =>
      rw [answer, session.clean_tend_iff]
      exact ⟨Or.inr, fun h => h.resolve_left fun hrecords => hrecords.1⟩

/-- One more call records the slot, or it was recorded before and the call does
    not mark it. -/
theorem cleanSince_concat (calls : List (SessionCall σ)) (call : SessionCall σ) (slot : Nat) :
    CleanSince start (calls ++ [call]) slot
      ↔ call.RecordsSlot slot (start.after calls)
        ∨ (CleanSince start calls slot ∧ ¬ call.Marks slot (start.after calls)) := by
  constructor
  · rintro ⟨before, first, later, hcalls, hrecords, hsince⟩
    rcases (cut_concat_iff _ _ _ _ _).mp hcalls with ⟨rfl, rfl, _⟩ | ⟨middle, rfl, rfl⟩
    · exact Or.inl hrecords
    · -- The recording came before the last call.
      rw [throughout_append, ← Session.after_append, ← List.append_cons] at hsince
      exact Or.inr ⟨⟨before, first, middle, rfl, hrecords, hsince.1⟩, hsince.2.1⟩
  · rintro (hrecords | ⟨⟨before, first, later, rfl, hrecords, hsince⟩, hnot⟩)
    · exact ⟨calls, call, [], rfl, hrecords, trivial⟩
    · refine ⟨before, first, later ++ [call], by simp, hrecords, ?_⟩
      rw [throughout_append, ← Session.after_append, ← List.append_cons]
      exact ⟨hsince, hnot, trivial⟩

/-- Along a run a slot is clean exactly if it was recorded well, and not marked
    since. -/
theorem clean_after_iff (settings : Settings) (calls : List (SessionCall σ)) (slot : Nat) :
    ((Session.new settings : Session σ).after calls).slots.isDirty slot = false
      ↔ CleanSince (Session.new settings) calls slot := by
  induction calls using List.reverseRecOn with
  | nil =>
      have hdirty : ((Session.new settings : Session σ).after []).slots.isDirty slot = true :=
        Slots.isDirty_new settings.framesInFlight slot
      refine ⟨fun hclean => (Slots.not_clean hdirty hclean).elim, ?_⟩
      rintro ⟨before, call, later, hcalls, _⟩
      simp only [List.nil_eq, List.append_eq_nil_iff, reduceCtorEq, and_false] at hcalls
  | append_singleton calls call ih =>
      rw [Session.after_concat, Session.clean_answer_iff, ih, cleanSince_concat]

end Runs

namespace SlotFrame

variable {σ : Type} {frame : SlotFrame} {session : Session σ} {pool : Pool}

/-- A call of the stream that the frame makes fails. -/
def FailsInStream (frame : SlotFrame) (session : Session σ) (pool : Pool) : Prop :=
  ∃ call, Called (frame.result session pool).events call
    ∧ frame.replies.to call ≠ ResultCode.success

/-- Then the slot was to be recorded, the frame fails with an error of the
    stream, and the session stays as the compilation left it. -/
theorem result_of_failed (h : frame.FailsInStream session pool) :
    (∃ usage, (frame.ready session).usage? frame.slot = some usage)
      ∧ (∃ error, (frame.result session pool).result = .error error ∧ error.ofStream = true)
      ∧ (frame.result session pool).session = frame.ready session := by
  rcases h with ⟨call, hcalled, hfailed⟩
  have hevents : (frame.result session pool).events ≠ [] := by
    intro hnone
    rw [hnone] at hcalled
    rcases hcalled with ⟨_, hmem, _⟩
    exact List.not_mem_nil hmem
  cases hready : frame.readied? session with
  | none =>
      rcases result_eq_of_unready pool hready with ⟨_, _, hresult⟩
      exact absurd (congrArg FrameResult.events hresult) hevents
  | some answer =>
      -- The frame ends neither well nor early, as one of its calls failed.
      have herror : ∃ error, (frame.result session pool).result = .error error
          ∧ error.ofStream = true := by
        have hends := frame.result_ends session pool (checked_of_ready hready).1
        generalize (frame.result session pool).device = after at hends
        generalize (frame.result session pool).result = result at hends ⊢
        cases hends with
        | well value answered => exact absurd (answered call hcalled) hfailed
        | early error notOfStream uncalled => exact absurd hcalled (uncalled call)
        | failed first _ _ _ =>
            refine ⟨_, rfl, ?_⟩
            rcases backendFailure_cases frame.device first (frame.replies.to first)
              with ⟨_, hlost, _⟩ | ⟨_, hother, _⟩
            · rw [hlost, Error.ofStream]
            · rw [hother, Error.ofStream]
      refine ⟨?_, herror, ?_⟩
      · cases husage : (frame.ready session).usage? frame.slot with
        | some usage => exact ⟨usage, rfl⟩
        | none =>
            have hresult := (result_of_ready pool hready).2.2
            rw [husage] at hresult
            exact absurd (congrArg FrameResult.events hresult) hevents
      · rcases session_of_ready pool hready with ⟨_, hsession⟩ | ⟨⟨⟨stats, hgood⟩, _⟩, _⟩
        · exact hsession
        · rcases herror with ⟨error, herror, _⟩
          simp only [herror, reduceCtorEq] at hgood

/-- So where slots are recorded only when they are dirty, the slot is still
    dirty. -/
theorem dirty_of_failed (hpolicy : session.settings.recordPolicy = .whenDirty)
    (h : frame.FailsInStream session pool) :
    (frame.result session pool).session.slots.isDirty frame.slot = true := by
  rcases result_of_failed h with ⟨⟨usage, husage⟩, _, hsession⟩
  rw [hsession]
  refine (Session.usage?_whenDirty _ ?_ frame.slot usage husage).1
  rw [ready, session.settings_compile, hpolicy]

end SlotFrame

/-- The flag of a slot after a recording that failed, in any session whatever. The
    frame fails with an error of the stream, and its slot is dirty afterwards
    exactly if slots are recorded only when they are dirty, if it was dirty
    before, or if the frame compiled its passes anew. If none of this is so, it
    counts as clean with a stream that holds no whole recording. In a run from a
    new session a slot is clean exactly if it was recorded well and not marked
    since. -/
theorem record_failed_flag (σ : Type) :
    (∀ (session : Session σ) (frame : SlotFrame) (pool : Pool),
      frame.FailsInStream session pool →
      (∃ error, (frame.result session pool).result = .error error ∧ error.ofStream = true)
      ∧ ((frame.result session pool).session.slots.isDirty frame.slot = true
        ↔ session.settings.recordPolicy = .whenDirty
          ∨ session.slots.isDirty frame.slot = true
          ∨ (SessionCall.frame frame pool).Marks frame.slot session))
      ∧ ∀ (settings : Settings) (calls : List (SessionCall σ)) (slot : Nat),
        ((Session.new settings).after calls).slots.isDirty slot = false
          ↔ CleanSince (Session.new settings) calls slot := by
  refine ⟨?_, clean_after_iff⟩
  intro session frame pool hfails
  rcases SlotFrame.result_of_failed hfails with ⟨_, ⟨error, herror, hstream⟩, _⟩
  refine ⟨⟨error, herror, hstream⟩, ?_⟩
  -- Of the two ways to be clean after a frame only the older recording is left.
  have hfailed : ¬ (SessionCall.frame frame pool).RecordsSlot frame.slot session := by
    rintro ⟨⟨stats, hgood⟩, _⟩
    simp only [herror, reduceCtorEq] at hgood
  have hclean := frame.clean_result_iff session pool frame.slot
  constructor
  · intro hdirty
    by_contra hnone
    rw [not_or, not_or, Bool.not_eq_true] at hnone
    exact Slots.not_clean hdirty (hclean.mpr (Or.inr hnone.2))
  · rintro (hpolicy | hother)
    · exact SlotFrame.dirty_of_failed hpolicy hfails
    · by_contra hflag
      rcases hclean.mp (Bool.eq_false_of_not_eq_true hflag) with hrecords | ⟨hbefore, hnot⟩
      · exact hfailed hrecords
      · exact hother.elim (fun hdirty => Slots.not_clean hdirty hbefore) hnot

/-- The stream of the frame does not end well. -/
def unfinishedFrame : SlotFrame :=
  { sampledFrame with replies := ⟨ResultCode.success, ResultCode.success, -1⟩ }

/-- A slot that is recorded when it is dirty stays dirty. -/
theorem record_failed_flag_lazily :
    unfinishedFrame.FailsInStream ((Session.new oneLazySlot).after [.upkeep (.allocate 0 ())])
        poolOfTwo
      ∧ (∃ error, (unfinishedFrame.result
          ((Session.new oneLazySlot).after [.upkeep (.allocate 0 ())]) poolOfTwo).result
            = .error error ∧ error.ofStream = true)
      ∧ (unfinishedFrame.result ((Session.new oneLazySlot).after [.upkeep (.allocate 0 ())])
          poolOfTwo).session.slots.isDirty 0 = true := by
  have hfails : unfinishedFrame.FailsInStream
      ((Session.new oneLazySlot).after [.upkeep (.allocate 0 ())]) poolOfTwo := by
    refine ⟨.finish, ?_, by decide⟩
    unfold Called
    decide +kernel
  rcases (record_failed_flag Unit).1 _ unfinishedFrame poolOfTwo hfails with ⟨herror, hflag⟩
  exact ⟨hfails, herror, hflag.mpr (Or.inl rfl)⟩

/-- There is one slot, and it is recorded in every frame. -/
def oneEagerSlot : Settings := ⟨.always, true, false, 1⟩

/-- One that is recorded in every frame and was recorded well before is clean
    after a recording that did not end. -/
theorem clean_unfinished_recordedBefore :
    unfinishedFrame.FailsInStream ((Session.new oneEagerSlot).after sampledOnce) poolOfTwo
      ∧ (unfinishedFrame.result ((Session.new oneEagerSlot).after sampledOnce) poolOfTwo).result
        = .error (.backend .finish (-1))
      ∧ (unfinishedFrame.result ((Session.new oneEagerSlot).after sampledOnce)
          poolOfTwo).session.slots.isDirty unfinishedFrame.slot = false := by
  refine ⟨⟨.finish, ?_, by decide⟩, by decide +kernel, by decide +kernel⟩
  unfold Called
  decide +kernel

end FrameGraph
