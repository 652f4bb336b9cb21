import FrameGraph.Proofs.SessionRuns

/-!
# Skipping a Clean Slot

A slot is skipped because its flag is clear, and a flag says nothing about
why. What the owner relies on is a fact about the past: the stream in the slot
was recorded from the passes of this frame, and nothing happened since then
that it ought to know of. Nothing in a session keeps this history, so it has
to be read off the calls.

Two things are kept apart in a session and have to agree. The flag is per
slot, while the passes that the last compilation was made from are kept once
for all slots. They agree because compiling anything else sets every flag: a
slot that is clean after compiling was clean before, and then compiling
changed nothing at all. So for as long as a slot stays clean, the passes in
the cache are those it was recorded from.

The run is an induction from the last call. What is kept is `UpToDate` for
every clean slot, a statement on the calls so far.

## Main definitions

* `SessionCall.Outdates`, `SessionCall.Spares`: What makes a recorded stream
  wrong, and what does not.
* `UpToDate`: A stream was recorded from passes and is still right.
* `Accounted`: What is kept from call to call.
* `SlotFrame.Passed`: A frame that has nothing to do with a slot.

## Theorems

* `Session.tend_of_clean`, `SlotFrame.result_of_clean`: What one call does to
  a slot that is clean after it.
* `SlotFrame.passed_of_unready`, `SlotFrame.passed_of_unused`,
  `SlotFrame.clean_of_used`: The three ways a frame goes.
* `UpToDate.step`: A stream stays up to date.
* `accounted_upkeep`, `accounted_frame`, `accounted_after`: The invariant.
* `skipped_upToDate`: A slot that is skipped is up to date.
-/

namespace FrameGraph

namespace SessionCall

variable {σ : Type}

/-- A call makes the stream of a slot wrong that was recorded from passes. -/
def Outdates (slot : Nat) (passes : List Pass) (session : Session σ) : SessionCall σ → Prop
  | .frame asked _ => asked.passes ≠ passes ∧ ∃ answer, asked.readied? session = some answer
  | .upkeep (.compile others) => others ≠ passes ∧ ∃ answer, (session.compile others).2 = .ok answer
  | .upkeep (.addHazards hazards) => hazards ≠ 0
  | .upkeep .invalidate => True
  | .upkeep (.allocate target _) => target = slot
  | .upkeep (.resize _) => True
  | .upkeep .markAllDirty => True
  | .upkeep .takeAll => True

/-- A call finds a stream in a slot, does not record the slot and is nothing
    that a stream recorded from passes ought to know of. -/
structure Spares (slot : Nat) (stream : σ) (passes : List Pass) (session : Session σ)
    (call : SessionCall σ) : Prop where
  held : session.slots.stream slot = .ok stream
  notRecorded : call.slot? session ≠ some slot
  notOutdated : ¬ call.Outdates slot passes session

end SessionCall

/-- The stream of a slot was recorded from passes, and no call since then
    makes it wrong. -/
structure UpToDate {σ : Type} (start : Session σ) (calls : List (SessionCall σ)) (slot : Nat)
    (passes : List Pass) (stream : σ) : Prop where
  held : (start.after calls).slots.stream slot = .ok stream
  since : ∃ before frame pool later, calls = before ++ .frame frame pool :: later
    ∧ frame.slot = slot ∧ (start.after before).slots.stream slot = .ok stream
    ∧ frame.RecordedFrom (start.after before) pool passes
    ∧ Throughout (SessionCall.Spares slot stream passes)
      (start.after (before ++ [.frame frame pool])) later

/-- What is kept from call to call. -/
structure Accounted {σ : Type} (start : Session σ) (calls : List (SessionCall σ)) : Prop where
  policy : (start.after calls).settings.recordPolicy = .whenDirty
  cached : (start.after calls).cache.Sound
  flags : (start.after calls).slots.dirty.length = (start.after calls).slots.streams.length
  clean : ∀ slot, (start.after calls).slots.isDirty slot = false →
    ∃ entry stream, (start.after calls).cache.entry = some entry
      ∧ UpToDate start calls slot entry.source stream

/-- Tending that leaves a slot clean leaves its stream and the cache alone,
    and is nothing that the stream ought to know of. -/
theorem Session.tend_of_clean {σ : Type} (session : Session σ) (call : Upkeep σ) (slot : Nat)
    (stream : σ) (entry : CacheEntry)
    (hheld : session.slots.stream slot = .ok stream) (hentry : session.cache.entry = some entry)
    (hclean : (session.tend call).slots.isDirty slot = false) :
    (session.tend call).slots.stream slot = .ok stream
      ∧ (session.tend call).cache.entry = some entry
      ∧ ¬ (SessionCall.upkeep call).Outdates slot entry.source session := by
  cases call with
  | compile passes =>
      rcases session.compile_of_clean passes slot hclean with ⟨hsame, hknown⟩
      refine ⟨?_, ?_, ?_⟩
      · rw [tend, hsame]
        exact hheld
      · rw [tend, hsame]
        exact hentry
      · rintro ⟨hother, answer, hanswer⟩
        rcases hknown answer hanswer with ⟨known, hsome, hsource⟩
        rcases Option.some.inj (hsome.symm.trans hentry) with rfl
        exact hother hsource.symm
  | addHazards hazards =>
      simp only [tend, addHazards] at hclean ⊢
      split
      · next hnone => exact ⟨hheld, hentry, fun hsome => hsome hnone⟩
      · next hsome =>
          rw [if_neg hsome] at hclean
          exact (Slots.not_clean (session.slots.isDirty_markAllDirty slot) hclean).elim
  | invalidate =>
      exact (Slots.not_clean (session.slots.isDirty_markAllDirty slot) hclean).elim
  | allocate target other =>
      rw [Slots.stream_eq_ok_iff] at hheld
      simp only [tend, Slots.isDirty_allocate, Bool.or_eq_false_iff] at hclean
      have hne : target ≠ slot := by
        rintro rfl
        simp only [hheld, decide_true, Option.isSome_some, Bool.and_self, Bool.true_eq_false,
          and_false] at hclean
      refine ⟨?_, hentry, hne⟩
      rw [Slots.stream_eq_ok_iff]
      simp only [tend, Slots.allocate]
      split
      · exact hheld
      · rw [List.getElem?_set_ne hne]
        exact hheld
  | resize count =>
      exact (Slots.not_clean (session.slots.isDirty_resize count slot) hclean).elim
  | markAllDirty =>
      exact (Slots.not_clean (session.slots.isDirty_markAllDirty slot) hclean).elim
  | takeAll =>
      exact (Slots.not_clean (session.slots.isDirty_takeAll slot) hclean).elim

namespace SlotFrame

variable {σ : Type} (frame : SlotFrame) (session : Session σ) (pool : Pool)

/-- The frame passed a clean slot by: it compiled nothing new, and it recorded
    another slot if any. -/
structure Passed (slot : Nat) : Prop where
  clean : session.slots.isDirty slot = false
  cache : (frame.result session pool).session.cache = session.cache
  notRecorded : (SessionCall.frame frame pool).slot? session ≠ some slot
  known : ∀ answer, frame.readied? session = some answer →
    ∃ entry, session.cache.entry = some entry ∧ entry.source = frame.passes

variable {frame session pool}

-- A slot that is clean once the passes are compiled was not touched by that,
-- so only what comes after it has to be looked at.
theorem passed_of_ready {answer : CacheAnswer} {slot : Nat}
    (hready : frame.readied? session = some answer)
    (hclean : (frame.ready session).slots.isDirty slot = false)
    (hcache : (frame.result session pool).session.cache = (frame.ready session).cache)
    (hslot : (SessionCall.frame frame pool).slot? session ≠ some slot) :
    frame.Passed session pool slot := by
  rcases session.compile_of_clean frame.passes slot hclean with ⟨hsame, hknown⟩
  have hanswer := (result_of_ready pool hready).2.1
  constructor
  · exact session.clean_of_compile frame.passes slot hclean
  · exact hcache.trans (congrArg Session.cache hsame)
  · exact hslot
  · exact fun _ _ => hknown answer hanswer

/-- A frame that is not made ready leaves everything as it was. -/
theorem passed_of_unready {slot : Nat} (hready : frame.readied? session = none)
    (hclean : (frame.result session pool).session.slots.isDirty slot = false) :
    frame.Passed session pool slot := by
  rcases frame.result_of_unready pool hready with ⟨_, hsame⟩
  rw [hsame] at hclean
  refine ⟨hclean, congrArg Session.cache hsame, ?_, ?_⟩
  · simp only [SessionCall.slot?, made?, hready, Option.bind_none, Option.map_none, ne_eq,
      reduceCtorEq, not_false_eq_true]
  · intro answer hanswer
    simp only [hready, reduceCtorEq] at hanswer

/-- A frame that has nothing to record ends once it is ready. -/
theorem passed_of_unused {answer : CacheAnswer} {slot : Nat}
    (hready : frame.readied? session = some answer)
    (husage : (frame.ready session).usage? frame.slot = none)
    (hclean : (frame.result session pool).session.slots.isDirty slot = false) :
    frame.Passed session pool slot := by
  have hresult := (result_of_ready pool hready).2.2
  rw [husage] at hresult
  have hsession : (frame.result session pool).session = frame.ready session := by
    rw [hresult]
  rw [hsession] at hclean
  refine passed_of_ready hready hclean (congrArg Session.cache hsession) ?_
  simp only [SessionCall.slot?, made?, hready, husage, Option.bind_some, Option.map_none, ne_eq,
    reduceCtorEq, not_false_eq_true]

/-- A frame that records cleans its own slot, if the recording is good, and
    no other. -/
theorem clean_of_used (hpolicy : session.settings.recordPolicy = .whenDirty)
    (hcached : session.cache.Sound) {answer : CacheAnswer}
    (hready : frame.readied? session = some answer) {usage : UInt32}
    (husage : (frame.ready session).usage? frame.slot = some usage) (slot : Nat)
    (hclean : (frame.result session pool).session.slots.isDirty slot = false) :
    frame.Passed session pool slot
      ∨ (frame.slot = slot ∧ frame.RecordedFrom session pool frame.passes
        ∧ (∃ stream, session.slots.stream slot = .ok stream)
        ∧ ∃ entry, (frame.result session pool).session.cache.entry = some entry
          ∧ entry.source = frame.passes) := by
  rcases result_of_ready pool hready with ⟨⟨stream, hstream⟩, hanswer, hresult⟩
  rw [husage] at hresult
  have hmade : frame.made? session pool
      = some (answer.compiled, frame.recording session pool answer.compiled usage) := by
    simp only [made?, hready, husage, Option.bind_some, Option.map_some]
  have hrecords : ∀ other, frame.slot ≠ other →
      (SessionCall.frame frame pool).slot? session ≠ some other := by
    intro other hother
    simp only [SessionCall.slot?, hmade, Option.map_some, Option.some.injEq, ne_eq,
      hother, not_false_eq_true]
  rcases Session.recordCompiled_cases _ _ _ _ _ _ _ _ _ _ _ rfl _ hresult.symm
    with ⟨hevents, _, ⟨error, _, _, hsession⟩ | ⟨stats, hstats, hgood, hsession⟩⟩
  · -- Recording failed, and the slot is as dirty as it was.
    rw [hsession] at hclean
    have hreadied : (frame.ready session).settings.recordPolicy = .whenDirty :=
      (congrArg Settings.recordPolicy (session.settings_compile frame.passes)).trans hpolicy
    have hdirty := (Session.usage?_whenDirty _ hreadied frame.slot usage husage).1
    have hother : frame.slot ≠ slot := by
      rintro rfl
      exact Slots.not_clean hdirty hclean
    exact Or.inl
      (passed_of_ready hready hclean (congrArg Session.cache hsession) (hrecords slot hother))
  · by_cases hslot : frame.slot = slot
    · have hcompile : FrameGraph.compile frame.passes = .ok answer.compiled := by
        rw [(session.cache_compile frame.passes).2] at hanswer
        exact Cache.compiled_of_ok hcached frame.passes answer hanswer
      refine Or.inr ⟨hslot, ⟨rfl, _, _, stats, hcompile, hmade, hstats, hgood, hevents⟩,
        ⟨stream, hslot ▸ hstream⟩, ?_⟩
      rw [hsession]
      exact session.source_of_compile frame.passes answer hanswer
    · -- Another slot was recorded, and only its flag changed.
      rw [hsession, Session.recorded, Slots.isDirty_clearDirty _ (Ne.symm hslot)] at hclean
      refine Or.inl (passed_of_ready hready hclean ?_ (hrecords slot hslot))
      rw [hsession, Session.recorded]

/-- After a frame, a slot is clean because the frame passed it by or because
    it is the slot of the frame, and was recorded. -/
theorem result_of_clean (hpolicy : session.settings.recordPolicy = .whenDirty)
    (hcached : session.cache.Sound) (slot : Nat)
    (hclean : (frame.result session pool).session.slots.isDirty slot = false) :
    frame.Passed session pool slot
      ∨ (frame.slot = slot ∧ frame.RecordedFrom session pool frame.passes
        ∧ (∃ stream, session.slots.stream slot = .ok stream)
        ∧ ∃ entry, (frame.result session pool).session.cache.entry = some entry
          ∧ entry.source = frame.passes) := by
  cases hready : frame.readied? session with
  | none => exact Or.inl (passed_of_unready hready hclean)
  | some answer =>
      cases husage : (frame.ready session).usage? frame.slot with
      | none => exact Or.inl (passed_of_unused hready husage hclean)
      | some usage => exact clean_of_used hpolicy hcached hready husage slot hclean

end SlotFrame

section Runs

variable {σ : Type} {start : Session σ} {calls : List (SessionCall σ)}

/-- A stream stays up to date over a call that spares it. -/
theorem UpToDate.step {slot : Nat} {passes : List Pass} {stream : σ}
    (h : UpToDate start calls slot passes stream) (call : SessionCall σ)
    (hspares : call.Spares slot stream passes (start.after calls))
    (hheld : (start.after (calls ++ [call])).slots.stream slot = .ok stream) :
    UpToDate start (calls ++ [call]) slot passes stream := by
  rcases h.since with ⟨before, frame, pool, later, hcalls, hslot, hinto, hrecorded, hsince⟩
  refine ⟨hheld, before, frame, pool, later ++ [call], ?_, hslot, hinto, hrecorded, ?_⟩
  · rw [hcalls, List.append_assoc, List.cons_append]
  · -- The calls so far lead to where this one is made.
    rw [throughout_append]
    refine ⟨hsince, ?_, trivial⟩
    rw [← Session.after_append, ← List.append_cons, ← hcalls]
    exact hspares

theorem accounted_new (settings : Settings) (hpolicy : settings.recordPolicy = .whenDirty) :
    Accounted (Session.new settings : Session σ) [] where
  policy := hpolicy
  cached := Cache.sound_new
  flags := by
    simp only [Session.after, List.foldl_nil, Session.new, Slots.new, List.length_replicate]
  clean := by
    intro slot hclean
    exact (Slots.not_clean (Slots.isDirty_new settings.framesInFlight slot) hclean).elim

theorem accounted_upkeep (h : Accounted start calls) (call : Upkeep σ) :
    Accounted start (calls ++ [.upkeep call]) := by
  have hafter : start.after (calls ++ [.upkeep call]) = (start.after calls).tend call :=
    start.after_concat calls _
  constructor
  · rw [hafter, Session.settings_tend]
    exact h.policy
  · rw [hafter]
    exact Session.sound_tend _ h.cached call
  · rw [hafter]
    exact Session.flags_tend _ h.flags call
  · intro slot hclean
    rw [hafter] at hclean ⊢
    have hbefore := (Session.clean_of_tend _ call slot hclean).1
    rcases h.clean slot hbefore with ⟨entry, stream, hentry, hcurrent⟩
    rcases Session.tend_of_clean _ call slot stream entry hcurrent.held hentry hclean
      with ⟨hheld, hkept, hspares⟩
    refine ⟨entry, stream, hkept, hcurrent.step _ ⟨hcurrent.held, ?_, hspares⟩ ?_⟩
    · simp only [SessionCall.slot?, ne_eq, reduceCtorEq, not_false_eq_true]
    · rw [hafter]
      exact hheld

theorem accounted_frame (h : Accounted start calls) (frame : SlotFrame) (pool : Pool) :
    Accounted start (calls ++ [.frame frame pool]) := by
  have hafter : start.after (calls ++ [.frame frame pool])
      = (frame.result (start.after calls) pool).session := start.after_concat calls _
  constructor
  · rw [hafter]
    exact (congrArg Settings.recordPolicy
      (Session.settings_recordFrame _ _ _ _ _ _ _ _)).trans h.policy
  · rw [hafter]
    exact Session.sound_recordFrame _ h.cached _ _ _ _ _ _ _
  · rw [hafter]
    exact frame.flags_result _ pool h.flags
  · intro slot hclean
    rw [hafter] at hclean ⊢
    rcases SlotFrame.result_of_clean h.policy h.cached slot hclean
      with hpassed | ⟨hslot, hrecorded, ⟨stream, hheld⟩, entry, hentry, hsource⟩
    · -- What is known of the slot is still so, with one more call.
      rcases h.clean slot hpassed.clean with ⟨entry, stream, hentry, hcurrent⟩
      refine ⟨entry, stream, ?_, hcurrent.step _ ⟨hcurrent.held, hpassed.notRecorded, ?_⟩ ?_⟩
      · rw [hpassed.cache]
        exact hentry
      · rintro ⟨hother, answer, hready⟩
        rcases hpassed.known answer hready with ⟨known, hknown, hsource⟩
        rcases Option.some.inj (hknown.symm.trans hentry) with rfl
        exact hother hsource.symm
      · rw [hafter, SlotFrame.stream_result]
        exact hcurrent.held
    · -- The history of the slot begins anew.
      refine ⟨entry, stream, hentry, ?_, calls, frame, pool, [], rfl, hslot, hheld, ?_, trivial⟩
      · rw [hafter, SlotFrame.stream_result]
        exact hheld
      · rw [hsource]
        exact hrecorded

/-- The invariant holds along every run. -/
theorem accounted_after (settings : Settings) (hpolicy : settings.recordPolicy = .whenDirty)
    (calls : List (SessionCall σ)) : Accounted (Session.new settings) calls := by
  induction calls using List.reverseRecOn with
  | nil => exact accounted_new settings hpolicy
  | append_singleton calls call ih =>
      cases call with
      | frame frame pool => exact accounted_frame ih frame pool
      | upkeep call => exact accounted_upkeep ih call

/-- A slot that is skipped is clean, and then the passes compiled to what was
    compiled before. -/
theorem Accounted.of_skipped (h : Accounted start calls) (frame : SlotFrame) (pool : Pool)
    (hskipped : (frame.result (start.after calls) pool).result = .ok .skipped) :
    ∃ stream, UpToDate start calls frame.slot frame.passes stream := by
  have hready : ∃ answer, frame.readied? (start.after calls) = some answer := by
    cases hnone : frame.readied? (start.after calls) with
    | none =>
        rcases (frame.result_of_unready pool hnone).1 with ⟨error, herror⟩
        simp only [herror, reduceCtorEq] at hskipped
    | some answer => exact ⟨answer, rfl⟩
  have hclean : (frame.ready (start.after calls)).slots.isDirty frame.slot = false := by
    rcases (start.after calls).recordFrame_cases frame.slot frame.passes frame.ops frame.renderers
      frame.replies (frame.offered pool) frame.device _ rfl
      with ⟨error, herror, _⟩ | ⟨_, _, _, _, _, hclean⟩ | ⟨answer, usage, _, _, hresult⟩
    · exact absurd (herror.symm.trans hskipped) (by simp only [reduceCtorEq, not_false_eq_true])
    · exact hclean
    · rcases Session.recordCompiled_cases _ _ _ _ _ _ _ _ _ _ _ rfl _ hresult.symm
        with ⟨_, _, ⟨error, _, herror, _⟩ | ⟨stats, _, hgood, _⟩⟩
      · exact absurd (herror.symm.trans hskipped) (by simp only [reduceCtorEq, not_false_eq_true])
      · exact absurd (hgood.symm.trans hskipped)
          (by simp only [Except.ok.injEq, reduceCtorEq, not_false_eq_true])
  rcases hready with ⟨answer, hready⟩
  have hanswer := (SlotFrame.result_of_ready pool hready).2.1
  have hbefore := (start.after calls).clean_of_compile frame.passes frame.slot hclean
  rcases ((start.after calls).compile_of_clean frame.passes frame.slot hclean).2 answer hanswer
    with ⟨known, hknown, hsource⟩
  rcases h.clean frame.slot hbefore with ⟨entry, stream, hentry, hcurrent⟩
  rcases Option.some.inj (hknown.symm.trans hentry) with rfl
  exact ⟨stream, hsource ▸ hcurrent⟩

end Runs

/-- A slot that is skipped, where slots are recorded when they are dirty. It
    has a stream. The last recording of the slot was a good one, from what the
    passes of this frame compile to, and the stream was in the slot all the
    time since then. In that time nothing was invalidated or noted, no slots
    were taken or resized, no stream was put into this slot and no other
    passes compiled. Flags are as many as slots in every run. If streams that
    are put in come from elsewhere, then none is ever in two slots, so that
    this was the last recording of the stream as well. -/
theorem skipped_upToDate {σ : Type} (settings : Settings)
    (hpolicy : settings.recordPolicy = .whenDirty) (calls : List (SessionCall σ)) :
    ((Session.new settings).after calls).slots.validate = .ok ()
      ∧ (∀ (frame : SlotFrame) (pool : Pool),
        (frame.result ((Session.new settings).after calls) pool).result = .ok .skipped →
        ∃ stream, UpToDate (Session.new settings) calls frame.slot frame.passes stream)
      ∧ (Throughout (fun session call => call.Moves session) (Session.new settings) calls →
        Throughout (fun session _ => session.slots.Distinct) (Session.new settings) calls) := by
  have haccounted := accounted_after settings hpolicy calls
  refine ⟨?_, ?_, ?_⟩
  · rw [Slots.validate_eq_ok_iff]
    exact haccounted.flags
  · intro frame pool hskipped
    exact haccounted.of_skipped frame pool hskipped
  · intro hmoves
    exact Session.distinct_throughout _ (Slots.distinct_new settings.framesInFlight) calls hmoves

/-- A slot gets its stream and is recorded. -/
def sampledOnce : List (SessionCall Unit) :=
  [.upkeep (.allocate 0 ()), .frame sampledFrame poolOfTwo]

/-- The same frame again is skipped, and the slot holds what was recorded for
    it. -/
theorem skipped_upToDate_sampledAgain :
    (sampledFrame.result ((Session.new oneLazySlot).after sampledOnce) poolOfTwo).result
        = .ok .skipped
      ∧ (∃ stream, UpToDate (Session.new oneLazySlot) sampledOnce 0 sampledFrame.passes stream)
      ∧ Throughout (fun session _ => session.slots.Distinct) (Session.new oneLazySlot)
        sampledOnce := by
  have hskipped : (sampledFrame.result ((Session.new oneLazySlot).after sampledOnce)
      poolOfTwo).result = .ok .skipped := by
    decide +kernel
  have hall := skipped_upToDate oneLazySlot rfl sampledOnce
  refine ⟨hskipped, hall.2.1 sampledFrame poolOfTwo hskipped, hall.2.2 ⟨?_, trivial, trivial⟩⟩
  -- No slot has a stream in the beginning.
  intro slot hheld
  rw [Slots.stream_eq_ok_iff] at hheld
  have hmem := List.mem_of_getElem? hheld
  simp only [Session.new, Slots.new, List.mem_replicate, reduceCtorEq, and_false] at hmem

end FrameGraph
