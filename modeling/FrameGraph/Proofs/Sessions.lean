import FrameGraph.Session.Basic

/-!
# Sessions from Call to Call

A session is used in two ways. A frame is asked for, or the session is
tended: passes are compiled ahead, hazards are noted, streams are put in and
taken out. Only recording makes a slot clean, so after any tending a slot
that is clean was clean before and still has the stream it had.
`clean_of_tend` says so, and `recordFrame_cases` says all that asking for a
frame can come to.

What a frame is recorded from may come out of the cache. That it is what the
passes compile to then hangs on the cache not having been filled with
anything else, which is `Cache.Sound`.

## Main definitions

* `Cache.Sound`: What is kept is what its source compiles to.
* `Upkeep`, `Session.tend`: What can be done to a session between frames.
* `Upkeep.replaces`: A slot loses its stream.

## Theorems

* `Slots.isDirty_of_all`: Slots whose flags are all set.
* `Cache.sound_compile`, `Cache.compiled_of_ok`: Compiling through a cache.
* `Session.slots_compile`: What compiling does to the slots.
* `Session.clean_of_tend`: Tending makes no slot clean.
* `Session.settings_tend`, `Session.settings_recordFrame`: Settings stay.
* `Session.sound_tend`, `Session.sound_recordFrame`: The cache stays sound.
* `Session.recordFrame_cases`, `Session.recordCompiled_cases`: What asking
  for a frame comes to.
-/

namespace FrameGraph

namespace Slots

variable {σ : Type} (slots : Slots σ)

variable {slots} in
theorem not_clean {slot : Nat} (hdirty : slots.isDirty slot = true)
    (hclean : slots.isDirty slot = false) : False :=
  Bool.false_ne_true (hclean.symm.trans hdirty)

/-- A slot is dirty if all flags are set, whether it has one or not. -/
theorem isDirty_of_all (h : ∀ flag ∈ slots.dirty, flag = true) (slot : Nat) :
    slots.isDirty slot = true := by
  unfold isDirty
  cases hflag : slots.dirty[slot]? with
  | none => rfl
  | some flag => exact h flag (List.mem_of_getElem? hflag)

theorem isDirty_new (count slot : Nat) : (new count : Slots σ).isDirty slot = true :=
  isDirty_of_all _ (fun _ hflag => List.eq_of_mem_replicate hflag) slot

theorem isDirty_markAllDirty (slot : Nat) : slots.markAllDirty.isDirty slot = true := by
  refine isDirty_of_all _ ?_ slot
  intro flag hflag
  rcases List.mem_map.mp hflag with ⟨_, _, rfl⟩
  rfl

theorem isDirty_resize (count slot : Nat) : (slots.resize count).isDirty slot = true :=
  isDirty_of_all _ (fun _ hflag => List.eq_of_mem_replicate hflag) slot

theorem isDirty_takeAll (slot : Nat) : slots.takeAll.1.isDirty slot = true :=
  slots.isDirty_markAllDirty slot

/-- A slot that takes a stream is dirty, and the others stay as they are. -/
theorem isDirty_allocate (slot other : Nat) (stream : σ) :
    (slots.allocate slot stream).1.isDirty other
      = (slots.isDirty other || decide (slot = other) && slots.streams[slot]?.isSome) := by
  unfold allocate
  cases hstream : slots.streams[slot]? with
  | none => simp only [Option.isSome_none, Bool.and_false, Bool.or_false]
  | some previous =>
      simp only [isDirty, List.getElem?_set, Option.isSome_some, Bool.and_true]
      by_cases hother : slot = other
      · -- The flag is set now, or there is none and the slot was dirty already.
        subst hother
        simp only [if_true, decide_true, Bool.or_true]
        split
        · rfl
        · rfl
      · simp only [hother, if_false, decide_false, Bool.or_false]

/-- Only the slot that was recorded is clean afterwards, if it has a flag. -/
theorem isDirty_clearDirty {slot other : Nat} (h : other ≠ slot) :
    (slots.clearDirty slot).isDirty other = slots.isDirty other := by
  unfold isDirty clearDirty
  simp only [List.getElem?_set, h.symm, if_false]

end Slots

namespace Cache

/-- What is kept is what its source compiles to. -/
def Sound (cache : Cache) : Prop :=
  ∀ entry, cache.entry = some entry → FrameGraph.compile entry.source = .ok entry.compiled

theorem sound_new : new.Sound := by
  intro entry hentry
  simp only [new, reduceCtorEq] at hentry

theorem sound_invalidate (cache : Cache) : cache.invalidate.Sound := by
  intro entry hentry
  simp only [invalidate, reduceCtorEq] at hentry

variable {cache : Cache}

/-- Compiling puts nothing else into a cache. -/
theorem sound_compile (h : cache.Sound) (passes : List Pass) : (cache.compile passes).1.Sound := by
  unfold compile
  split
  · exact h
  · split
    · exact h
    · next compiled hcompile =>
        intro entry hentry
        rcases Option.some.inj hentry with rfl
        exact hcompile

/-- An answer is what the passes compile to, kept or not. -/
theorem compiled_of_ok (h : cache.Sound) (passes : List Pass) (answer : CacheAnswer)
    (hanswer : (cache.compile passes).2 = .ok answer) :
    FrameGraph.compile passes = .ok answer.compiled := by
  unfold compile at hanswer
  split at hanswer
  · next entry hhit =>
      -- A hit was made from these very passes.
      unfold hit? at hhit
      rw [Option.filter_eq_some_iff, decide_eq_true_eq] at hhit
      rcases Except.ok.inj hanswer with rfl
      rw [← hhit.2]
      exact h entry hhit.1
  · split at hanswer
    · simp only [reduceCtorEq] at hanswer
    · next compiled hcompile =>
        rcases Except.ok.inj hanswer with rfl
        exact hcompile

end Cache

/-- What can be done to a session between frames. -/
inductive Upkeep (σ : Type) where
  | compile (passes : List Pass)
  | addHazards (hazards : HazardMask)
  | invalidate
  | allocate (slot : Nat) (stream : σ)
  | resize (count : Nat)
  | markAllDirty
  | takeAll

/-- A slot loses the stream it had, if it had one. -/
def Upkeep.replaces {σ : Type} (slots : Slots σ) : Upkeep σ → Nat → Bool
  | .allocate slot _, other => decide (slot = other) && slots.streams[slot]?.isSome
  | .resize count, other => decide (count ≤ other)
  | .takeAll, _ => true
  | .compile _, _ => false
  | .addHazards _, _ => false
  | .invalidate, _ => false
  | .markAllDirty, _ => false

namespace Session

variable {σ : Type} (session : Session σ)

/-- The session after it was tended. -/
def tend : Upkeep σ → Session σ
  | .compile passes => (session.compile passes).1
  | .addHazards hazards => session.addHazards hazards
  | .invalidate => session.invalidate
  | .allocate slot stream => { session with slots := (session.slots.allocate slot stream).1 }
  | .resize count => { session with slots := session.slots.resize count }
  | .markAllDirty => session.markAllDirty
  | .takeAll => { session with slots := session.slots.takeAll.1 }

theorem cache_compile (passes : List Pass) :
    (session.compile passes).1.cache = (session.cache.compile passes).1
      ∧ (session.compile passes).2 = (session.cache.compile passes).2 := by
  unfold compile
  cases session.cache.compile passes with
  | mk cache result =>
      cases result with
      | error error => exact ⟨rfl, rfl⟩
      | ok answer =>
          simp only
          split
          · exact ⟨rfl, trivial⟩
          · exact ⟨rfl, trivial⟩

theorem settings_compile (passes : List Pass) :
    (session.compile passes).1.settings = session.settings := by
  unfold compile
  cases session.cache.compile passes with
  | mk cache result =>
      cases result with
      | error error => rfl
      | ok answer =>
          simp only
          split
          · rfl
          · rfl

/-- Compiling makes all slots dirty or leaves them as they are. -/
theorem slots_compile (passes : List Pass) :
    (session.compile passes).1.slots = session.slots
      ∨ (session.compile passes).1.slots = session.slots.markAllDirty := by
  unfold compile
  cases session.cache.compile passes with
  | mk cache result =>
      cases result with
      | error error => exact Or.inl rfl
      | ok answer =>
          simp only
          split
          · exact Or.inr rfl
          · exact Or.inl rfl

/-- A slot that is clean after compiling was clean before. -/
theorem clean_of_compile (passes : List Pass) (slot : Nat)
    (h : (session.compile passes).1.slots.isDirty slot = false) :
    session.slots.isDirty slot = false := by
  rcases session.slots_compile passes with hsame | hdirty
  · rw [← hsame]
    exact h
  · rw [hdirty] at h
    exact (Slots.not_clean (session.slots.isDirty_markAllDirty slot) h).elim

/-- A slot that is clean after tending was clean before, and has the stream
    it had. -/
theorem clean_of_tend (call : Upkeep σ) (slot : Nat)
    (h : (session.tend call).slots.isDirty slot = false) :
    session.slots.isDirty slot = false ∧ call.replaces session.slots slot = false := by
  cases call with
  | compile passes => exact ⟨session.clean_of_compile passes slot h, rfl⟩
  | addHazards hazards =>
      simp only [tend, addHazards] at h
      split at h
      · exact ⟨h, rfl⟩
      · exact (Slots.not_clean (session.slots.isDirty_markAllDirty slot) h).elim
  | invalidate =>
      exact (Slots.not_clean (session.slots.isDirty_markAllDirty slot) h).elim
  | allocate target stream =>
      simp only [tend, Slots.isDirty_allocate, Bool.or_eq_false_iff] at h
      exact h
  | resize count =>
      exact (Slots.not_clean (session.slots.isDirty_resize count slot) h).elim
  | markAllDirty =>
      exact (Slots.not_clean (session.slots.isDirty_markAllDirty slot) h).elim
  | takeAll =>
      exact (Slots.not_clean (session.slots.isDirty_takeAll slot) h).elim

theorem settings_tend (call : Upkeep σ) : (session.tend call).settings = session.settings := by
  cases call with
  | compile passes => exact session.settings_compile passes
  | addHazards hazards =>
      simp only [tend, addHazards]
      split
      · rfl
      · rfl
  | _ => rfl

theorem sound_tend (h : session.cache.Sound) (call : Upkeep σ) :
    (session.tend call).cache.Sound := by
  cases call with
  | compile passes =>
      simp only [tend, session.cache_compile]
      exact Cache.sound_compile h passes
  | addHazards hazards =>
      simp only [tend, addHazards]
      split
      · exact h
      · exact h
  | invalidate => exact Cache.sound_invalidate session.cache
  | _ => exact h

/-- What asking for a frame comes to. It fails before anything is recorded,
    the slot is clean and is skipped, or it is recorded for better or worse.
    The session only changes by compiling until then. -/
theorem recordFrame_cases (slot : Nat) (passes : List Pass) (ops : List FrameOp)
    (renderers : Renderers) (replies : Replies) (pool : Pool) (device : Gpu.Device)
    (frame : FrameResult σ)
    (h : session.recordFrame slot passes ops renderers replies pool device = frame) :
    (∃ error, frame.result = .error error ∧ frame.events = [] ∧ frame.pool = pool
        ∧ (frame.session = session ∨ frame.session = (session.compile passes).1))
      ∨ (frame.result = .ok .skipped ∧ frame.events = [] ∧ frame.pool = pool
        ∧ frame.session = (session.compile passes).1
        ∧ session.settings.recordPolicy = .whenDirty
        ∧ (session.compile passes).1.slots.isDirty slot = false)
      ∨ ∃ answer usage, (session.compile passes).2 = .ok answer
        ∧ (session.compile passes).1.usage? slot = some usage
        ∧ frame = (session.compile passes).1.recordCompiled slot answer.compiled ops usage
          renderers replies pool device (session.compileLog passes) := by
  subst h
  unfold recordFrame
  split
  · exact Or.inl ⟨_, rfl, rfl, rfl, Or.inl rfl⟩
  · split
    · exact Or.inl ⟨_, rfl, rfl, rfl, Or.inl rfl⟩
    · cases hcompile : session.compile passes with
      | mk compiled result =>
          have hsettings : compiled.settings = session.settings := by
            rw [← session.settings_compile passes, hcompile]
          cases result with
          | error error => exact Or.inl ⟨error, rfl, rfl, rfl, Or.inr rfl⟩
          | ok answer =>
              simp only
              cases husage : compiled.usage? slot with
              | some usage => exact Or.inr (Or.inr ⟨answer, usage, rfl, rfl, rfl⟩)
              | none =>
                  -- Nothing says that a slot need not be recorded but its flag.
                  unfold usage? at husage
                  cases hpolicy : compiled.settings.recordPolicy with
                  | always =>
                      rw [hpolicy] at husage
                      simp only [reduceCtorEq] at husage
                  | whenDirty =>
                      rw [hpolicy] at husage
                      simp only [ite_eq_right_iff, reduceCtorEq, imp_false,
                        Bool.not_eq_true] at husage
                      exact Or.inr (Or.inl ⟨rfl, rfl, rfl, rfl, hsettings ▸ hpolicy, husage⟩)

/-- What recording a slot comes to is what the recording comes to, and the
    slot is clean if that is good. -/
theorem recordCompiled_cases (slot : Nat) (compiled : Compiled) (ops : List FrameOp)
    (usage : UInt32) (renderers : Renderers) (replies : Replies) (pool : Pool)
    (device : Gpu.Device) (log : List LogEntry) (recording : Recording)
    (h : record compiled ⟨session.pending, usage, slotLabel slot, renderers⟩ replies pool device
      (schedule compiled session.settings.buildSecondaryBuckets ops).ops = recording)
    (frame : FrameResult σ)
    (hframe : session.recordCompiled slot compiled ops usage renderers replies pool device log
      = frame) :
    frame.events = recording.events ∧ frame.pool = recording.pool
      ∧ ((∃ error, recording.result = .error error ∧ frame.result = .error error
          ∧ frame.session = session)
        ∨ ∃ stats, recording.result = .ok stats ∧ frame.result = .ok (.recorded stats)
          ∧ frame.session = session.recorded slot) := by
  subst hframe
  unfold recordCompiled
  simp only [h]
  cases hresult : recording.result with
  | error error => exact ⟨rfl, rfl, Or.inl ⟨error, rfl, rfl, rfl⟩⟩
  | ok stats => exact ⟨rfl, rfl, Or.inr ⟨stats, rfl, rfl, rfl⟩⟩

/-- Nothing that becomes of a frame changes the settings. -/
theorem settings_recordFrame (slot : Nat) (passes : List Pass) (ops : List FrameOp)
    (renderers : Renderers) (replies : Replies) (pool : Pool) (device : Gpu.Device) :
    (session.recordFrame slot passes ops renderers replies pool device).session.settings
      = session.settings := by
  rcases session.recordFrame_cases slot passes ops renderers replies pool device _ rfl
    with ⟨_, _, _, _, hsame | hready⟩ | ⟨_, _, _, hready, _⟩ | ⟨answer, usage, _, _, hframe⟩
  · rw [hsame]
  · rw [hready, settings_compile]
  · rw [hready, settings_compile]
  · rw [← session.settings_compile passes]
    rcases recordCompiled_cases _ _ _ _ _ _ _ _ _ _ _ rfl _ hframe.symm
      with ⟨_, _, ⟨_, _, _, hready⟩ | ⟨_, _, _, hready⟩⟩
    · rw [hready]
    · rw [hready, recorded]

/-- Nor does it put anything into the cache that does not belong there. -/
theorem sound_recordFrame (h : session.cache.Sound) (slot : Nat) (passes : List Pass)
    (ops : List FrameOp) (renderers : Renderers) (replies : Replies) (pool : Pool)
    (device : Gpu.Device) :
    (session.recordFrame slot passes ops renderers replies pool device).session.cache.Sound := by
  have hcompiled : (session.compile passes).1.cache.Sound := session.sound_tend h (.compile passes)
  rcases session.recordFrame_cases slot passes ops renderers replies pool device _ rfl
    with ⟨_, _, _, _, hsame | hready⟩ | ⟨_, _, _, hready, _⟩ | ⟨answer, usage, _, _, hframe⟩
  · rw [hsame]
    exact h
  · rw [hready]
    exact hcompiled
  · rw [hready]
    exact hcompiled
  · rcases recordCompiled_cases _ _ _ _ _ _ _ _ _ _ _ rfl _ hframe.symm
      with ⟨_, _, ⟨_, _, _, hready⟩ | ⟨_, _, _, hready⟩⟩
    · rw [hready]
      exact hcompiled
    · rw [hready]
      exact hcompiled

/-- Where slots are recorded only when they are dirty, one that is recorded
    is dirty, and its stream may be submitted again. -/
theorem usage?_whenDirty (hpolicy : session.settings.recordPolicy = .whenDirty) (slot : Nat)
    (usage : UInt32) (h : session.usage? slot = some usage) :
    session.slots.isDirty slot = true ∧ usage = reusable := by
  unfold usage? at h
  rw [hpolicy] at h
  simp only [Option.ite_none_right_eq_some, Option.some.injEq] at h
  exact ⟨h.1, h.2.symm⟩

end Session

end FrameGraph
