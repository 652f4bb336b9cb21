import FrameGraph.Proofs.LayoutChain
import FrameGraph.Proofs.Sessions

/-!
# Submitting a Stream Again

A slot that is clean is not recorded. Its stream is submitted as it is, with
the layouts in it that the pool reported when it was recorded. By then other
frames may have moved the images, and so may the stream itself: it begins
where it found them and not where it left them.

The barriers of one stream link up, so all that can go wrong is at its first
barrier on an image. `submitted_fits` is therefore an equivalence. What a
stream records on an image fits what was submitted before it exactly if the
layout it found was undefined or is the one the image is in. For a stream
that was just recorded, what it found is where the recordings before it led;
the pool does not hear of older streams that were submitted in between.

It is enough that every frame brings an image back to the same layout. Then
it does not matter which stream is submitted, nor how often.

The run is an induction on actions with `Driver.Sound` for its invariant: a
slot that is clean holds a whole recording, one that was submitted when it
was made.

## Main definitions

* `Content`, `Submission`: What a stream holds, and a stream handed over.
* `SlotFrame`, `Action`: What the owner of a session asks for.
* `Driver`, `Driver.run`: A session whose streams are submitted.
* `Fits`: Barriers that start from undefined or from where an image is.
* `leftBy`: The layout that submissions leave an image in.
* `Submission.Sound`, `Driver.Sound`: What is kept from action to action.

## Theorems

* `fits_iff_of_chained`: Only the first barrier matters.
* `layoutAfter_flatMap_home`: Frames that all lead to one layout.
* `SlotFrame.result_cases`: What asking for a frame comes to.
* `cut_concat_iff`: Where a history can be cut that has one more entry.
* `Driver.sound_upkeep`, `Driver.sound_frame`, `Driver.sound_run`: The
  invariant.
* `found_of_home`: What a stream found, if images have a home.
* `submitted_fits`: When the barriers of a submission fit.
-/

namespace FrameGraph

open Gpu

/-- Each barrier starts from undefined or from where the one before it led,
    and the first from undefined or from `current`. -/
def Fits : Layout → List ImageBarrier → Prop
  | _, [] => True
  | current, barrier :: rest =>
    (barrier.oldLayout = Layout.undefined ∨ barrier.oldLayout = current)
      ∧ Fits barrier.newLayout rest

instance decidableFits : ∀ current barriers, Decidable (Fits current barriers)
  | _, [] => isTrue trivial
  | current, barrier :: rest =>
    haveI := decidableFits barrier.newLayout rest
    inferInstanceAs (Decidable (
      (barrier.oldLayout = Layout.undefined ∨ barrier.oldLayout = current)
        ∧ Fits barrier.newLayout rest))

theorem fits_of_chained {start : Layout} {barriers : List ImageBarrier}
    (h : Chained start barriers) : Fits start barriers := by
  induction barriers generalizing start with
  | nil => exact trivial
  | cons barrier rest ih => exact ⟨Or.inr h.1, ih h.2⟩

-- Behind the first barrier everything fits, wherever the first one starts.
theorem fits_iff_of_chained {start : Layout} (current : Layout) {barriers : List ImageBarrier}
    (h : Chained start barriers) :
    Fits current barriers ↔ (barriers ≠ [] → start = Layout.undefined ∨ start = current) := by
  cases barriers with
  | nil => exact ⟨fun _ hmoves => absurd rfl hmoves, fun _ => trivial⟩
  | cons barrier rest =>
      rcases h with ⟨hfirst, hrest⟩
      have hmoves : barrier :: rest ≠ [] := List.cons_ne_nil barrier rest
      constructor
      · rintro ⟨hstart, _⟩ _
        rw [hfirst] at hstart
        exact hstart
      · intro hstart
        refine ⟨?_, fits_of_chained hrest⟩
        rw [hfirst]
        exact hstart hmoves

/-- Lists of barriers that all lead to one layout lead there together, or
    there is no barrier in them. -/
theorem layoutAfter_flatMap_home {α : Type} (barriers : α → List ImageBarrier)
    (start home : Layout) (xs : List α) (h : ∀ x ∈ xs, layoutAfter home (barriers x) = home) :
    layoutAfter start (xs.flatMap barriers)
      = if xs.all fun x => (barriers x).isEmpty then start else home := by
  induction xs generalizing start with
  | nil => rfl
  | cons x rest ih =>
      have hrest := ih (layoutAfter start (barriers x))
        (fun y hy => h y (List.mem_cons_of_mem x hy))
      rw [List.flatMap_cons, layoutAfter_append, hrest, List.all_cons]
      cases hx : barriers x with
      | nil => rfl
      | cons barrier others =>
          -- Where the first of them starts from has no part in where they lead.
          have hhome := h x List.mem_cons_self
          rw [hx] at hhome
          have hlands : layoutAfter start (barrier :: others) = home := hhome
          rw [hlands, List.isEmpty_cons, Bool.false_and, if_neg Bool.false_ne_true, ite_self]

/-- What a stream holds: the layouts that were reported when it was recorded,
    what was recorded part by part, and all commands. -/
structure Content where
  found : String → Layout
  stretches : List Stretch
  commands : List Command

namespace Content

/-- A stream that nothing was recorded into. -/
def blank : Content := ⟨fun _ => Layout.undefined, [], []⟩

/-- The planned barriers in it on an image. -/
def images (content : Content) (name : String) : List ImageBarrier :=
  imagesOn name content.stretches

end Content

/-- What is in the stream of a call that was made with a pool. -/
def FrameCall.content (call : FrameCall) (pool : Pool) : Content :=
  ⟨pool.layout, call.trace pool, commandsOf (call.recording pool).events⟩

/-- A stream that was handed over. -/
structure Submission where
  content : Content
  /-- It was recorded for this. -/
  fresh : Bool

/-- The layout that submissions leave an image in. -/
def leftBy (name : String) (start : Layout) (submissions : List Submission) : Layout :=
  layoutAfter start (submissions.flatMap fun submission => submission.content.images name)

/-- What a frame is asked for with, and what the owner of the pool can
    provide at the time. -/
structure SlotFrame where
  slot : Nat
  passes : List Pass
  ops : List FrameOp
  renderers : Renderers
  replies : Replies
  device : Device
  provides : String → Bool
  target? : Surface → Option TargetBinding

namespace SlotFrame

variable {σ : Type} (frame : SlotFrame) (session : Session σ) (pool : Pool)

/-- The pool as the frame finds it. -/
def offered : Pool := pool.offering frame.provides frame.target?

/-- What came of the frame. -/
def result : FrameResult σ :=
  session.recordFrame frame.slot frame.passes frame.ops frame.renderers frame.replies
    (frame.offered pool) frame.device

/-- How a slot is to be recorded. -/
def request (usage : UInt32) : Request :=
  ⟨session.pending, usage, Session.slotLabel frame.slot, frame.renderers⟩

/-- The operations in the order of recording. -/
def scheduled (compiled : Compiled) : List FrameOp :=
  (schedule compiled session.settings.buildSecondaryBuckets frame.ops).ops

/-- The call that records the slot. -/
def call (compiled : Compiled) (compiles : ∃ passes, compile passes = .ok compiled)
    (usage : UInt32) : FrameCall where
  compiled := compiled
  compiles := compiles
  request := frame.request session usage
  replies := frame.replies
  device := frame.device
  ops := frame.scheduled session compiled
  provides := frame.provides
  target? := frame.target?

/-- What the frame recorded part by part, if it was not skipped. -/
def trace : List Stretch :=
  let ready := (session.compile frame.passes).1
  match (session.compile frame.passes).2, ready.usage? frame.slot with
  | .ok answer, some usage =>
    recordTrace answer.compiled (frame.request ready usage) (frame.offered pool)
      (frame.scheduled ready answer.compiled)
  | _, _ => []

end SlotFrame

/-- What the owner of a session can do. The flag of a slot is cleared by
    recording and not by hand. -/
inductive Action (σ : Type) where
  | frame (frame : SlotFrame)
  | upkeep (call : Upkeep σ)

/-- What becomes of a slot after a frame was good. -/
def FrameOutcome.isRecorded : FrameOutcome → Bool
  | .recorded _ => true
  | .skipped => false

/-- A session with its pool, what the stream of each slot holds, and the
    streams submitted so far. -/
structure Driver (σ : Type) where
  session : Session σ
  pool : Pool
  held : Nat → Content
  submitted : List Submission

namespace Driver

variable {σ : Type}

/-- Nothing was recorded yet. -/
def start (settings : Settings) (pool : Pool) : Driver σ :=
  ⟨Session.new settings, pool, fun _ => Content.blank, []⟩

variable (driver : Driver σ)

/-- What the streams hold after a frame. It leaves them alone unless it got
    as far as to record commands, and these stay whatever becomes of it. -/
def heldAfter (frame : SlotFrame) (slot : Nat) : Content :=
  let commands := commandsOf (frame.result driver.session driver.pool).events
  if slot = frame.slot ∧ commands ≠ [] then
    ⟨driver.pool.layout, frame.trace driver.session driver.pool, commands⟩
  else driver.held slot

/-- The stream of a slot is submitted after each good frame of it. -/
def handsOver (frame : SlotFrame) : List Submission :=
  match (frame.result driver.session driver.pool).result with
  | .error _ => []
  | .ok outcome => [⟨driver.heldAfter frame frame.slot, outcome.isRecorded⟩]

/-- One action. -/
def step : Action σ → Driver σ
  | .frame frame =>
    ⟨(frame.result driver.session driver.pool).session,
      (frame.result driver.session driver.pool).pool, driver.heldAfter frame,
      driver.submitted ++ driver.handsOver frame⟩
  | .upkeep call =>
    { driver with
      session := driver.session.tend call
      held := fun slot =>
        if call.replaces driver.session.slots slot then Content.blank else driver.held slot }

/-- Some actions, one after the other. -/
def run (actions : List (Action σ)) : Driver σ :=
  actions.foldl step driver

end Driver

/-- A submission that comes after others is of a whole recording of a stream
    that may be submitted again. If it was just recorded, the layouts it found
    are where the recordings before it led. If not, it was submitted when it
    was recorded. -/
structure Submission.Sound (start : Pool) (front : List Submission) (submission : Submission) :
    Prop where
  whole : ∃ call pool stats, (FrameCall.recording call pool).result = .ok stats
    ∧ call.Recorded pool ∧ call.request.usage = reusable ∧ submission.content = call.content pool
  fresh : submission.fresh = true → ∀ name, submission.content.found name
    = leftBy name (start.layout name) (front.filter Submission.fresh)
  replayed : submission.fresh = false → ⟨submission.content, true⟩ ∈ front

/-- What is kept from action to action. -/
structure Driver.Sound {σ : Type} (start : Pool) (driver : Driver σ) : Prop where
  policy : driver.session.settings.recordPolicy = .whenDirty
  cached : driver.session.cache.Sound
  reported : ∀ name, driver.pool.layout name
    = leftBy name (start.layout name) (driver.submitted.filter Submission.fresh)
  clean : ∀ slot, driver.session.slots.isDirty slot = false →
    ⟨driver.held slot, true⟩ ∈ driver.submitted
  submissions : ∀ front submission back, driver.submitted = front ++ submission :: back →
    submission.Sound start front

theorem leftBy_append (name : String) (start : Layout) (first second : List Submission) :
    leftBy name start (first ++ second) = leftBy name (leftBy name start first) second := by
  unfold leftBy
  rw [List.flatMap_append, layoutAfter_append]

/-- The barriers of a whole recording link up from what it found. -/
theorem Submission.Sound.linked {start : Pool} {front : List Submission} {submission : Submission}
    (h : submission.Sound start front) (name : String) :
    Chained (submission.content.found name) (submission.content.images name) := by
  rcases h.whole with ⟨call, pool, stats, hok, _, _, hcontent⟩
  rw [hcontent]
  exact (record_linked _ call.typed _ _ _ _ _ stats hok name).1

/-- What asking for a frame comes to, where slots are recorded when they are
    dirty. Nothing is recorded, and then it failed or the slot is clean. Or a
    dirty slot is recorded, by a call like any other. -/
theorem SlotFrame.result_cases {σ : Type} (frame : SlotFrame) (session : Session σ) (pool : Pool)
    (hcached : session.cache.Sound) (hpolicy : session.settings.recordPolicy = .whenDirty)
    (result : FrameResult σ) (h : frame.result session pool = result) :
    (commandsOf result.events = [] ∧ result.pool = frame.offered pool
        ∧ (∃ error, result.result = .error error)
        ∧ (result.session = session ∨ result.session = (session.compile frame.passes).1))
      ∨ (commandsOf result.events = [] ∧ result.pool = frame.offered pool
        ∧ result.result = .ok .skipped ∧ result.session = (session.compile frame.passes).1
        ∧ (session.compile frame.passes).1.slots.isDirty frame.slot = false)
      ∨ ∃ call : FrameCall, call.request.usage = reusable
        ∧ (session.compile frame.passes).1.slots.isDirty frame.slot = true
        ∧ call.content pool
          = ⟨pool.layout, frame.trace session pool, commandsOf result.events⟩
        ∧ result.pool = (call.recording pool).pool
        ∧ ((∃ error, (call.recording pool).result = .error error ∧ result.result = .error error
            ∧ result.session = (session.compile frame.passes).1)
          ∨ ∃ stats, (call.recording pool).result = .ok stats
            ∧ result.result = .ok (.recorded stats)
            ∧ result.session = (session.compile frame.passes).1.recorded frame.slot) := by
  rcases session.recordFrame_cases frame.slot frame.passes frame.ops frame.renderers frame.replies
    (frame.offered pool) frame.device result h
    with ⟨error, herror, hevents, hpool, hsession⟩ | ⟨hok, hevents, hpool, hsession, _, hclean⟩
      | ⟨answer, usage, hanswer, husage, hresult⟩
  · refine Or.inl ⟨?_, hpool, ⟨error, herror⟩, hsession⟩
    rw [hevents]
    rfl
  · refine Or.inr (Or.inl ⟨?_, hpool, hok, hsession, hclean⟩)
    rw [hevents]
    rfl
  · -- The passes compiled, so what is recorded is a call.
    have hcompile : compile frame.passes = .ok answer.compiled := by
      rw [(session.cache_compile frame.passes).2] at hanswer
      exact Cache.compiled_of_ok hcached frame.passes answer hanswer
    have hready : (session.compile frame.passes).1.settings.recordPolicy = .whenDirty := by
      rw [session.settings_compile]
      exact hpolicy
    have hdirty := Session.usage?_whenDirty _ hready frame.slot usage husage
    have htrace : frame.trace session pool
        = (frame.call (session.compile frame.passes).1 answer.compiled
          ⟨frame.passes, hcompile⟩ usage).trace pool := by
      unfold trace
      simp only [hanswer, husage]
      rfl
    rcases Session.recordCompiled_cases _ frame.slot answer.compiled frame.ops usage
      frame.renderers frame.replies (frame.offered pool) frame.device _
      ((frame.call (session.compile frame.passes).1 answer.compiled
        ⟨frame.passes, hcompile⟩ usage).recording pool) rfl
      result hresult.symm with ⟨hevents, hpool, houtcome⟩
    refine Or.inr (Or.inr ⟨_, hdirty.2, hdirty.1, ?_, hpool, houtcome⟩)
    rw [htrace, hevents]
    rfl

/-- A history with one more entry, cut at one of its entries. That is the last
    one, or there was the same cut before. -/
theorem cut_concat_iff {α : Type} (history before later : List α) (last entry : α) :
    history ++ [last] = before ++ entry :: later
      ↔ (history = before ∧ last = entry ∧ later = [])
        ∨ ∃ middle, history = before ++ entry :: middle ∧ later = middle ++ [last] := by
  constructor
  · intro hcut
    rcases List.eq_nil_or_concat' later with rfl | ⟨middle, other, rfl⟩
    · rcases List.append_inj' hcut rfl with ⟨rfl, hsame⟩
      exact Or.inl ⟨rfl, List.singleton_inj.mp hsame, rfl⟩
    · rw [← List.cons_append, ← List.append_assoc] at hcut
      rcases List.append_inj' hcut rfl with ⟨rfl, hsame⟩
      rcases List.singleton_inj.mp hsame with rfl
      exact Or.inr ⟨middle, rfl, rfl⟩
  · rintro (⟨rfl, rfl, rfl⟩ | ⟨middle, rfl, rfl⟩)
    · rfl
    · rw [List.append_assoc, List.cons_append]

namespace Driver

variable {σ : Type} {start : Pool} {driver : Driver σ}

/-- A session that has just begun has no clean slot. -/
theorem sound_start (settings : Settings) (hpolicy : settings.recordPolicy = .whenDirty)
    (pool : Pool) : (Driver.start settings pool : Driver σ).Sound pool where
  policy := hpolicy
  cached := Cache.sound_new
  reported := fun _ => rfl
  clean := by
    intro slot hclean
    exact (Slots.not_clean (Slots.isDirty_new settings.framesInFlight slot) hclean).elim
  submissions := by
    intro front submission back hsplit
    exact absurd hsplit.symm (List.append_ne_nil_of_right_ne_nil front (List.cons_ne_nil _ _))

/-- Nothing is submitted, and no slot becomes clean or holds something else
    while it is. -/
theorem Sound.of_kept (h : driver.Sound start) (next : Driver σ)
    (hpolicy : next.session.settings.recordPolicy = .whenDirty)
    (hcached : next.session.cache.Sound)
    (hlayout : ∀ name, next.pool.layout name = driver.pool.layout name)
    (hheld : ∀ slot, next.session.slots.isDirty slot = false →
      driver.session.slots.isDirty slot = false ∧ next.held slot = driver.held slot)
    (hsubmitted : next.submitted = driver.submitted) : next.Sound start where
  policy := hpolicy
  cached := hcached
  reported := by
    intro name
    rw [hlayout, hsubmitted]
    exact h.reported name
  clean := by
    intro slot hclean
    rcases hheld slot hclean with ⟨hbefore, hsame⟩
    rw [hsubmitted, hsame]
    exact h.clean slot hbefore
  submissions := by
    rw [hsubmitted]
    exact h.submissions

/-- One more stream is submitted. -/
theorem Sound.of_submitted (h : driver.Sound start) (next : Driver σ) (submission : Submission)
    (hpolicy : next.session.settings.recordPolicy = .whenDirty)
    (hcached : next.session.cache.Sound)
    (hsubmitted : next.submitted = driver.submitted ++ [submission])
    (hlayout : ∀ name, next.pool.layout name
      = leftBy name (start.layout name)
        ((driver.submitted ++ [submission]).filter Submission.fresh))
    (hheld : ∀ slot, next.session.slots.isDirty slot = false →
      ⟨next.held slot, true⟩ ∈ driver.submitted ++ [submission])
    (hsound : submission.Sound start driver.submitted) : next.Sound start where
  policy := hpolicy
  cached := hcached
  reported := by
    intro name
    rw [hsubmitted]
    exact hlayout name
  clean := by
    rw [hsubmitted]
    exact hheld
  submissions := by
    intro front other back hsplit
    rw [hsubmitted] at hsplit
    rcases (cut_concat_iff _ _ _ _ _).mp hsplit with ⟨rfl, rfl, _⟩ | ⟨before, hbefore, _⟩
    · -- It is the last one.
      exact hsound
    · exact h.submissions front other before hbefore

/-- A clean slot holds a whole recording that was submitted, so it may be
    submitted again. -/
theorem Sound.replays (h : driver.Sound start) {slot : Nat}
    (hclean : driver.session.slots.isDirty slot = false) :
    Submission.Sound start driver.submitted ⟨driver.held slot, false⟩ where
  whole := by
    rcases List.append_of_mem (h.clean slot hclean) with ⟨front, back, hsplit⟩
    exact (h.submissions front _ back hsplit).whole
  fresh := fun hfresh => absurd hfresh Bool.false_ne_true
  replayed := fun _ => h.clean slot hclean

theorem heldAfter_of_nil (driver : Driver σ) (frame : SlotFrame)
    (h : commandsOf (frame.result driver.session driver.pool).events = []) :
    driver.heldAfter frame = driver.held := by
  funext slot
  simp only [heldAfter, h, ne_eq, not_true_eq_false, and_false, if_false]

theorem heldAfter_of_ne (driver : Driver σ) (frame : SlotFrame) {slot : Nat}
    (h : slot ≠ frame.slot) : driver.heldAfter frame slot = driver.held slot := by
  simp only [heldAfter, h, false_and, if_false]

/-- A frame that failed is not submitted. -/
theorem submitted_of_error (driver : Driver σ) (frame : SlotFrame) {error : Error}
    (h : (frame.result driver.session driver.pool).result = .error error) :
    (driver.step (.frame frame)).submitted = driver.submitted := by
  simp only [step, handsOver, h, List.append_nil]

theorem Sound.policy_frame (h : driver.Sound start) (frame : SlotFrame) :
    (driver.step (.frame frame)).session.settings.recordPolicy = .whenDirty :=
  (congrArg Settings.recordPolicy
    (driver.session.settings_recordFrame _ _ _ _ _ _ _)).trans h.policy

theorem Sound.cached_frame (h : driver.Sound start) (frame : SlotFrame) :
    (driver.step (.frame frame)).session.cache.Sound :=
  driver.session.sound_recordFrame h.cached _ _ _ _ _ _ _

/-- Tending a session keeps the invariant. -/
theorem sound_upkeep (h : driver.Sound start) (call : Upkeep σ) :
    (driver.step (.upkeep call)).Sound start := by
  refine h.of_kept _ ?_ (driver.session.sound_tend h.cached call) (fun _ => rfl) ?_ rfl
  · exact (congrArg Settings.recordPolicy (driver.session.settings_tend call)).trans h.policy
  · intro slot hclean
    rcases driver.session.clean_of_tend call slot hclean with ⟨hbefore, hkept⟩
    refine ⟨hbefore, ?_⟩
    simp only [step, hkept, Bool.false_eq_true, if_false]

/-- A frame that was recorded is submitted as it is. It was recorded from what
    was reported, which is where the recordings before it led. -/
theorem sound_recorded (h : driver.Sound start) (frame : SlotFrame) (call : FrameCall)
    (husage : call.request.usage = reusable) (stats : Stats)
    (hstats : (call.recording driver.pool).result = .ok stats)
    (hresult : (frame.result driver.session driver.pool).result = .ok (.recorded stats))
    (hcontent : call.content driver.pool
      = ⟨driver.pool.layout, frame.trace driver.session driver.pool,
        commandsOf (frame.result driver.session driver.pool).events⟩)
    (hpool : (frame.result driver.session driver.pool).pool = (call.recording driver.pool).pool)
    (hsession : (frame.result driver.session driver.pool).session
      = (driver.session.compile frame.passes).1.recorded frame.slot) :
    (driver.step (.frame frame)).Sound start := by
  have hrecorded := recorded_of_ok call driver.pool stats hstats
  have hcommands : commandsOf (frame.result driver.session driver.pool).events ≠ [] := by
    have hsame : (call.content driver.pool).commands
        = commandsOf (frame.result driver.session driver.pool).events :=
      congrArg Content.commands hcontent
    rw [← hsame, FrameCall.content, hrecorded.stream]
    exact List.cons_ne_nil _ _
  have hmine : driver.heldAfter frame frame.slot = call.content driver.pool := by
    simp only [heldAfter, hcommands, ne_eq, not_false_eq_true, and_self, if_true, hcontent]
  have hhands : driver.handsOver frame = [⟨call.content driver.pool, true⟩] := by
    unfold handsOver
    rw [hresult, hmine]
    rfl
  refine h.of_submitted _ ⟨call.content driver.pool, true⟩ (h.policy_frame frame)
    (h.cached_frame frame) (congrArg _ hhands) (fun name => ?_) (fun slot hafter => ?_) ?_
  · -- The recordings now end with this one, which leads on from the report.
    have hlinked := (record_linked _ call.typed _ _ _ _ _ stats hstats name).2
    rw [step, hpool, List.filter_append, leftBy_append, ← h.reported name]
    simp only [List.filter_cons_of_pos, List.filter_nil, leftBy, List.flatMap_cons,
      List.flatMap_nil, List.append_nil]
    exact hlinked
  · rw [step, hsession] at hafter
    by_cases hslot : slot = frame.slot
    · refine List.mem_append_right _ (List.mem_singleton.mpr ?_)
      rw [hslot, ← hmine]
      rfl
    · -- The flags of the others are those from before.
      have hready : (driver.session.compile frame.passes).1.slots.isDirty slot = false := by
        rw [← Slots.isDirty_clearDirty _ hslot]
        exact hafter
      have hbefore := h.clean slot (driver.session.clean_of_compile frame.passes slot hready)
      rw [← driver.heldAfter_of_ne frame hslot] at hbefore
      exact List.mem_append_left _ hbefore
  · constructor
    · exact ⟨call, driver.pool, stats, hstats, hrecorded, husage, rfl⟩
    · exact fun _ name => h.reported name
    · exact fun hfresh => absurd hfresh.symm Bool.false_ne_true

/-- A clean slot is skipped and what it holds is submitted again. -/
theorem sound_skipped (h : driver.Sound start) (frame : SlotFrame)
    (hcommands : commandsOf (frame.result driver.session driver.pool).events = [])
    (hresult : (frame.result driver.session driver.pool).result = .ok .skipped)
    (hpool : (frame.result driver.session driver.pool).pool = frame.offered driver.pool)
    (hsession : (frame.result driver.session driver.pool).session
      = (driver.session.compile frame.passes).1)
    (hslot : (driver.session.compile frame.passes).1.slots.isDirty frame.slot = false) :
    (driver.step (.frame frame)).Sound start := by
  have hclean := driver.session.clean_of_compile frame.passes
  have hheld := driver.heldAfter_of_nil frame hcommands
  have hhands : driver.handsOver frame = [⟨driver.held frame.slot, false⟩] := by
    unfold handsOver
    rw [hresult, hheld]
    rfl
  refine h.of_submitted _ ⟨driver.held frame.slot, false⟩ (h.policy_frame frame)
    (h.cached_frame frame) (congrArg _ hhands) (fun name => ?_) (fun slot hafter => ?_)
    (h.replays (hclean frame.slot hslot))
  · -- It is no recording, and so the report stays.
    rw [step, hpool, List.filter_append, List.filter_cons_of_neg Bool.false_ne_true,
      List.filter_nil, List.append_nil]
    exact h.reported name
  · rw [step, hsession] at hafter
    have hbefore := h.clean slot (hclean slot hafter)
    rw [← hheld] at hbefore
    exact List.mem_append_left _ hbefore

/-- A frame keeps the invariant. -/
theorem sound_frame (h : driver.Sound start) (frame : SlotFrame) :
    (driver.step (.frame frame)).Sound start := by
  have hclean := driver.session.clean_of_compile frame.passes
  rcases frame.result_cases driver.session driver.pool h.cached h.policy _ rfl
    with ⟨hcommands, hpool, ⟨error, hresult⟩, hsession⟩
      | ⟨hcommands, hpool, hresult, hsession, hslot⟩
      | ⟨call, husage, hslot, hcontent, hpool,
        ⟨error, herror, hresult, hsession⟩ | ⟨stats, hstats, hresult, hsession⟩⟩
  · -- It failed before the stream was touched.
    have hheld := driver.heldAfter_of_nil frame hcommands
    refine h.of_kept _ (h.policy_frame frame) (h.cached_frame frame) (fun name => ?_)
      (fun slot hafter => ⟨?_, congrFun hheld slot⟩) (driver.submitted_of_error frame hresult)
    · rw [step, hpool]
      rfl
    · rcases hsession with hsame | hready
      · rw [step, hsame] at hafter
        exact hafter
      · rw [step, hready] at hafter
        exact hclean slot hafter
  · exact sound_skipped h frame hcommands hresult hpool hsession hslot
  · -- Recording failed and the stream is lost, but then its slot is dirty.
    refine h.of_kept _ (h.policy_frame frame) (h.cached_frame frame) (fun name => ?_)
      (fun slot hafter => ?_) (driver.submitted_of_error frame hresult)
    · rw [step, hpool]
      exact congrArg ResourceState.layout
        (reported_record_of_error _ _ _ _ _ _ error herror true name)
    · rw [step, hsession] at hafter
      have hother : slot ≠ frame.slot := by
        rintro rfl
        exact Slots.not_clean hslot hafter
      exact ⟨hclean slot hafter, driver.heldAfter_of_ne frame hother⟩
  · exact sound_recorded h frame call husage stats hstats hresult hcontent hpool hsession

/-- Every action keeps it, and so does a run. -/
theorem sound_run (h : driver.Sound start) (actions : List (Action σ)) :
    (driver.run actions).Sound start := by
  induction actions generalizing driver with
  | nil => exact h
  | cons action rest ih =>
      cases action with
      | frame frame => exact ih (sound_frame h frame)
      | upkeep call => exact ih (sound_upkeep h call)

end Driver

/-- Without the streams that were submitted again, the same images were
    moved. -/
theorem all_filter_fresh (front : List Submission) (name : String)
    (h : ∀ submission ∈ front, submission.fresh = false → ⟨submission.content, true⟩ ∈ front) :
    ((front.filter Submission.fresh).all fun submission =>
        (submission.content.images name).isEmpty)
      = front.all fun submission => (submission.content.images name).isEmpty := by
  rw [Bool.eq_iff_iff, List.all_eq_true, List.all_eq_true]
  constructor
  · intro hfresh submission hsubmission
    cases hkind : submission.fresh with
    | true => exact hfresh submission (List.mem_filter.mpr ⟨hsubmission, hkind⟩)
    | false =>
        -- What it holds was fresh once.
        exact hfresh ⟨submission.content, true⟩
          (List.mem_filter.mpr ⟨h submission hsubmission hkind, rfl⟩)
  · intro hall submission hsubmission
    exact hall submission (List.mem_filter.mp hsubmission).1

/-- What was submitted before a submission is sound as well. -/
theorem sound_of_earlier {σ : Type} {start : Pool} {driver : Driver σ} (h : driver.Sound start)
    {front : List Submission} {submission : Submission} {back : List Submission}
    (hsplit : driver.submitted = front ++ submission :: back) {earlier : Submission}
    (hmem : earlier ∈ front) : ∃ before, before ⊆ front ∧ earlier.Sound start before := by
  rcases List.append_of_mem hmem with ⟨before, after, rfl⟩
  refine ⟨before, List.subset_append_left before _, ?_⟩
  rw [List.append_assoc, List.cons_append] at hsplit
  exact h.submissions before earlier _ hsplit

-- Three layouts can differ: the one in the stream, the one the image is in
-- and the one that is reported. With a home there are only `home` and the
-- layout from the beginning, and which one it is hangs on whether the image
-- was moved at all.
theorem found_of_home {σ : Type} {start : Pool} {driver : Driver σ} (h : driver.Sound start)
    (front : List Submission) (submission : Submission) (back : List Submission)
    (hsplit : driver.submitted = front ++ submission :: back) (name : String) (home : Layout)
    (hstart : start.layout name = Layout.undefined ∨ start.layout name = home)
    (hhome : ∀ other ∈ front, layoutAfter home (other.content.images name) = home)
    (hmoves : submission.content.images name ≠ []) :
    submission.content.found name = Layout.undefined
      ∨ submission.content.found name = leftBy name (start.layout name) front := by
  have hleft : ∀ submissions, submissions ⊆ front →
      leftBy name (start.layout name) submissions
        = if submissions.all fun other => (other.content.images name).isEmpty
          then start.layout name else home := by
    intro submissions hsub
    exact layoutAfter_flatMap_home _ _ _ _ fun other hother => hhome other (hsub hother)
  have hsound := h.submissions front submission back hsplit
  cases hkind : submission.fresh with
  | true =>
      -- It found what the recordings left, and no other stream moved more.
      have hagain : ∀ other ∈ front, other.fresh = false → ⟨other.content, true⟩ ∈ front := by
        intro other hother hfresh
        rcases sound_of_earlier h hsplit hother with ⟨before, hbefore, hearlier⟩
        exact hbefore (hearlier.replayed hfresh)
      right
      rw [hsound.fresh hkind name, hleft front (fun _ hmem => hmem),
        hleft _ (List.filter_subset_self front), all_filter_fresh front name hagain]
  | false =>
      -- It was submitted before, so the image is at home.
      have hmem := hsound.replayed hkind
      rcases sound_of_earlier h hsplit hmem with ⟨before, hbefore, hearlier⟩
      have hmoved : ¬ (front.all fun other => (other.content.images name).isEmpty) = true := by
        rw [List.all_eq_true]
        intro hempty
        have hnone := hempty ⟨submission.content, true⟩ hmem
        exact hmoves (List.isEmpty_iff.mp hnone)
      rw [hleft front (fun _ hmem => hmem), if_neg hmoved, hearlier.fresh rfl name,
        hleft _ (fun _ hmem => hbefore (List.mem_of_mem_filter hmem))]
      split
      · exact hstart
      · exact Or.inr rfl

/-- Streams that are submitted again, where slots are recorded when they are
    dirty and the stream of a slot is submitted after every good frame of it.
    Whatever is asked for in between, and whatever fails, only whole
    recordings are submitted. The barriers on an image fit what was submitted
    before exactly if the stream found the image undefined or where it is now.
    A stream that was just recorded found it where the recordings before it
    led; one that is submitted again found it where those before its own
    recording did. If all that was submitted brings an image back to one
    layout, the barriers on it always fit. -/
theorem submitted_fits {σ : Type} (settings : Settings)
    (hpolicy : settings.recordPolicy = .whenDirty) (pool : Pool) (actions : List (Action σ))
    (front : List Submission) (submission : Submission) (back : List Submission)
    (h : ((Driver.start settings pool).run actions).submitted = front ++ submission :: back) :
    submission.Sound pool front
      ∧ ∀ name,
        (Fits (leftBy name (pool.layout name) front) (submission.content.images name)
          ↔ (submission.content.images name ≠ [] →
            submission.content.found name = Layout.undefined
              ∨ submission.content.found name = leftBy name (pool.layout name) front))
        ∧ ∀ home, pool.layout name = Layout.undefined ∨ pool.layout name = home →
          (∀ other ∈ front, layoutAfter home (other.content.images name) = home) →
          Fits (leftBy name (pool.layout name) front) (submission.content.images name) := by
  have hstart : (Driver.start settings pool : Driver σ).Sound pool :=
    Driver.sound_start settings hpolicy pool
  have hrun := Driver.sound_run hstart actions
  have hsound := hrun.submissions front submission back h
  refine ⟨hsound, fun name => ?_⟩
  have hfits := fits_iff_of_chained (leftBy name (pool.layout name) front) (hsound.linked name)
  refine ⟨hfits, ?_⟩
  intro home hstart hhome
  exact hfits.mpr (found_of_home hrun front submission back h name home hstart hhome)

/-- A frame of slot 0 with one pass, in which a shader uses an image. -/
def usedFrame (usage : Usage) : SlotFrame where
  slot := 0
  passes := [⟨0, "shade", .compute, [usage]⟩]
  ops := [⟨0, ⟨1, .offscreen 7⟩, .dispatch ⟨5, 1, 1, 1⟩⟩]
  renderers := ⟨fun _ _ _ => [], none⟩
  replies := Replies.good
  device := Device.working
  provides := fun _ => true
  target? := twoSurfaces

/-- The image is sampled. -/
def sampledFrame : SlotFrame := usedFrame (Usage.plain .read .sampledImage "color")

/-- The image is written to. -/
def writtenFrame : SlotFrame := usedFrame (Usage.plain .write .storageImage "color")

/-- A slot gets its stream, and then there are frames of it. -/
def framesOfSlot (frames : List SlotFrame) : List (Action Unit) :=
  .upkeep (.allocate 0 ()) :: frames.map Action.frame

/-- There is one slot, and it is recorded when it is dirty. -/
def oneLazySlot : Settings := ⟨.whenDirty, true, false, 1⟩

/-- A run of one slot. -/
def driven (frames : List SlotFrame) : Driver Unit :=
  (Driver.start oneLazySlot poolOfTwo).run (framesOfSlot frames)

/-- The same frame again. The stream is submitted again, begins with undefined
    and leaves the image where it left it before. -/
theorem submitted_fits_sampledAgain :
    ∃ front submission, (driven [sampledFrame, sampledFrame]).submitted = front ++ [submission]
      ∧ submission.fresh = false
      ∧ leftBy "color" (poolOfTwo.layout "color") front = Layout.shaderReadOnly
      ∧ Fits (leftBy "color" (poolOfTwo.layout "color") front)
        (submission.content.images "color") := by
  have hhome : ∀ other ∈ (driven [sampledFrame, sampledFrame]).submitted.dropLast,
      layoutAfter Layout.shaderReadOnly (other.content.images "color") = Layout.shaderReadOnly := by
    decide +kernel
  refine ⟨(driven [sampledFrame, sampledFrame]).submitted.dropLast,
    (driven [sampledFrame, sampledFrame]).submitted.getLast (by decide +kernel),
    (List.dropLast_append_getLast _).symm, by decide +kernel, by decide +kernel, ?_⟩
  have hfits := (submitted_fits oneLazySlot rfl poolOfTwo
    (framesOfSlot [sampledFrame, sampledFrame]) _ _ []
    (List.dropLast_append_getLast (by decide +kernel)).symm).2 "color"
  exact hfits.2 Layout.shaderReadOnly (Or.inl rfl) hhome

/-- The image was sampled before it was written to. When the stream that
    writes is submitted again it still takes the image for sampled. -/
theorem submitted_misfit_writtenAgain :
    ∃ front submission,
      (driven [sampledFrame, writtenFrame, writtenFrame]).submitted = front ++ [submission]
        ∧ submission.fresh = false
        ∧ (submission.content.images "color").map ImageBarrier.oldLayout
          = [Layout.shaderReadOnly]
        ∧ leftBy "color" (poolOfTwo.layout "color") front = Layout.general
        ∧ ¬ Fits (leftBy "color" (poolOfTwo.layout "color") front)
          (submission.content.images "color") :=
  ⟨(driven [sampledFrame, writtenFrame, writtenFrame]).submitted.dropLast,
    (driven [sampledFrame, writtenFrame, writtenFrame]).submitted.getLast (by decide +kernel),
    (List.dropLast_append_getLast _).symm, by decide +kernel, by decide +kernel,
    by decide +kernel, by decide +kernel⟩

end FrameGraph
