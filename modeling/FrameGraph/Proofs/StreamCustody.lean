import FrameGraph.Proofs.SessionRuns
import Mathlib.Data.List.Count
import Mathlib.Data.List.ReduceOption

/-!
# Where Streams Go

A command stream has to be destroyed by whoever owns it, and it does not do so
by itself. While it is in a slot the slots own it. The owner gets it back when
another one is put into its slot, or when all are taken out, and a stream that
leaves the slots in any other way can never be destroyed.

There is one such way. Slots are cut off from the end when there are to be
fewer of them, and the streams in them go with them; making room again brings
none back. All other calls keep account: what was put in is what the slots
hold, what was given back and what was cut off, each stream as often as it was
put in (`Custody.conserved_after`). So no stream is lost exactly if slots are
only cut off while they are empty.

A stream that is put in again after it was given back counts once more.

## Main definitions

* `SlotsCall`: Something that is done to slots.
* `Slots.held`, `Slots.beyond`: The streams in all slots, and in the last ones.
* `Custody`, `Custody.after`: Slots with an account of their streams, over some
  calls.
* `Custody.Conserved`: The account is right.

## Theorems

* `Slots.allocate_cases`, `Slots.held_resize`, `Slots.held_takeAll`: What one call
  does to the streams in slots.
* `Slots.count_held`, `Slots.existsUnique_of_count_held`: In how many slots a
  stream is.
* `Custody.conserved_answer`, `Custody.conserved_after`: The invariant.
* `Custody.mem_dropped_after`: Which streams are cut off.
* `streams_accounted`: Where every stream is, at any time.
-/

namespace FrameGraph

/-- Something that is done to slots. -/
inductive SlotsCall (σ : Type) where
  | allocate (slot : Nat) (stream : σ)
  | resize (count : Nat)
  | markAllDirty
  | clearDirty (slot : Nat)
  | takeAll
  deriving DecidableEq, Repr

namespace Slots

variable {σ : Type} (slots : Slots σ)

/-- The streams in all slots, in the order of the slots. -/
def held : List σ := slots.streams.reduceOption

/-- The streams in the slots from some number on. -/
def beyond (count : Nat) : List σ := (slots.streams.drop count).reduceOption

/-- There is no such slot, or the stream takes the place of what is given back. -/
theorem allocate_cases (slot : Nat) (stream : σ) :
    (∃ error, slots.allocate slot stream = (slots, .error error))
      ∨ ∃ next previous, slots.allocate slot stream = (next, .ok previous)
        ∧ (slots.held ++ [stream]).Perm (next.held ++ previous.toList) := by
  unfold allocate
  cases hbefore : slots.streams[slot]? with
  | none => exact Or.inl ⟨_, rfl⟩
  | some previous =>
      refine Or.inr ⟨_, previous, rfl, ?_⟩
      rcases List.getElem?_eq_some_iff.mp hbefore with ⟨hslot, hat⟩
      -- The slots before it and behind it keep what they have.
      have hsplit : slots.streams
          = slots.streams.take slot ++ [previous] ++ slots.streams.drop (slot + 1) := by
        rw [← hat, List.append_assoc, List.singleton_append, ← List.drop_eq_getElem_cons hslot,
          List.take_append_drop]
      unfold held
      rw [List.set_eq_take_append_cons_drop, if_pos hslot]
      nth_rewrite 1 [hsplit]
      simp only [List.reduceOption_append, List.reduceOption_cons_of_some,
        List.reduceOption_singleton, List.append_assoc]
      refine List.Perm.append_left _ ?_
      refine List.perm_append_comm.trans ?_
      rw [List.append_assoc, List.singleton_append]
      exact List.perm_middle

/-- Slots that are cut off take their streams with them, and slots that are
    added have none. -/
theorem held_resize (count : Nat) :
    slots.held = (slots.resize count).held ++ slots.beyond count := by
  unfold held resize beyond
  simp only
  rw [List.reduceOption_append, List.reduceOption_replicate_none, List.append_nil,
    ← List.reduceOption_append, List.take_append_drop]

theorem held_takeAll : slots.takeAll.1.held = [] := by
  unfold held takeAll
  simp only
  rw [List.map_const', List.reduceOption_replicate_none]

theorem mem_held_iff (stream : σ) :
    stream ∈ slots.held ↔ ∃ slot, slots.stream slot = .ok stream := by
  rw [held, List.reduceOption_mem_iff, List.mem_iff_getElem?]
  exact exists_congr fun slot => (slots.stream_eq_ok_iff slot stream).symm

theorem mem_beyond_iff (count : Nat) (stream : σ) :
    stream ∈ slots.beyond count ↔ ∃ slot, count ≤ slot ∧ slots.stream slot = .ok stream := by
  simp only [beyond, List.reduceOption_mem_iff, List.mem_drop_iff_getElem, stream_eq_ok_iff]
  constructor
  · rintro ⟨offset, hin, hat⟩
    exact ⟨count + offset, Nat.le_add_right _ _, List.getElem?_eq_some_iff.mpr ⟨_, hat⟩⟩
  · rintro ⟨slot, hle, hat⟩
    rcases List.getElem?_eq_some_iff.mp hat with ⟨hin, hsome⟩
    refine ⟨slot - count, by omega, ?_⟩
    simp only [Nat.add_sub_cancel' hle, hsome]

/-- As often as a stream is held, there is a slot for it. -/
theorem count_held [DecidableEq σ] (stream : σ) :
    slots.held.count stream = slots.streams.count (some stream) := by
  unfold held
  induction slots.streams with
  | nil => rfl
  | cons first rest ih =>
      cases first with
      | none =>
          rw [List.reduceOption_cons_of_none, ih, List.count_cons_of_ne (Option.some_ne_none _).symm]
      | some other =>
          rw [List.reduceOption_cons_of_some, List.count_cons, List.count_cons, ih]
          simp only [beq_iff_eq, Option.some.injEq]

/-- A stream that is held once is in one slot. -/
theorem existsUnique_of_count_held [DecidableEq σ] {stream : σ} (h : slots.held.count stream = 1) :
    ∃! slot, slots.stream slot = .ok stream := by
  simp only [stream_eq_ok_iff]
  rw [count_held] at h
  have hmem : some stream ∈ slots.streams := List.count_pos_iff.mp (h ▸ Nat.one_pos)
  rcases List.append_of_mem hmem with ⟨front, back, hsplit⟩
  rw [hsplit, List.count_append, List.count_cons_self] at h
  have hfront : some stream ∉ front := List.count_eq_zero.mp (by omega)
  have hback : some stream ∉ back := List.count_eq_zero.mp (by omega)
  rw [hsplit]
  refine ⟨front.length, by simp, ?_⟩
  intro slot hat
  rcases Nat.lt_trichotomy slot front.length with hlt | heq | hgt
  · rw [List.getElem?_append_left hlt] at hat
    exact absurd (List.mem_of_getElem? hat) hfront
  · exact heq
  · rw [List.getElem?_append_right (Nat.le_of_lt hgt), List.getElem?_cons,
      if_neg (by omega)] at hat
    exact absurd (List.mem_of_getElem? hat) hback

end Slots

/-- Slots with an account of the streams that were put in, of those that the
    owner got back, and of those that were cut off. -/
structure Custody (σ : Type) where
  slots : Slots σ
  received : List σ
  returned : List σ
  dropped : List σ
  deriving DecidableEq, Repr

namespace Custody

variable {σ : Type}

/-- Slots that were just made. -/
def new (count : Nat) : Custody σ := ⟨Slots.new count, [], [], []⟩

variable (custody : Custody σ)

/-- The slots after a call, and the account with it. A stream counts as put in
    if there is a slot for it. -/
def answer : SlotsCall σ → Custody σ
  | .allocate slot stream =>
    match custody.slots.allocate slot stream with
    | (slots, .ok previous) =>
      { custody with
        slots := slots
        received := custody.received ++ [stream]
        returned := custody.returned ++ previous.toList }
    | (slots, .error _) => { custody with slots := slots }
  | .resize count =>
    { custody with
      slots := custody.slots.resize count
      dropped := custody.dropped ++ custody.slots.beyond count }
  | .markAllDirty => { custody with slots := custody.slots.markAllDirty }
  | .clearDirty slot => { custody with slots := custody.slots.clearDirty slot }
  | .takeAll =>
    { custody with
      slots := custody.slots.takeAll.1
      returned := custody.returned ++ custody.slots.takeAll.2 }

/-- The slots and the account after some calls. -/
def after (calls : List (SlotsCall σ)) : Custody σ := calls.foldl answer custody

theorem after_concat (calls : List (SlotsCall σ)) (call : SlotsCall σ) :
    custody.after (calls ++ [call]) = (custody.after calls).answer call := by
  simp only [after, List.foldl_append, List.foldl_cons, List.foldl_nil]

/-- What was put in is held, was given back or was cut off. -/
def Conserved : Prop :=
  custody.received.Perm (custody.slots.held ++ custody.returned ++ custody.dropped)

theorem conserved_new (count : Nat) : (new count : Custody σ).Conserved := by
  unfold Conserved new Slots.held Slots.new
  simp only
  rw [List.reduceOption_replicate_none]
  exact List.Perm.refl _

variable {custody}

/-- A stream that is put in is held from then on, and the one in its place was
    given back. -/
theorem Conserved.allocate (h : custody.Conserved) (slot : Nat) (stream : σ) :
    (custody.answer (.allocate slot stream)).Conserved := by
  rcases custody.slots.allocate_cases slot stream
    with ⟨error, hresult⟩ | ⟨next, previous, hresult, hplace⟩
  · simp only [answer, hresult]
    exact h
  · simp only [answer, hresult]
    classical
    refine List.perm_iff_count.mpr fun other => ?_
    have hbefore := h.count_eq other
    have hcount := hplace.count_eq other
    simp only [List.count_append] at hbefore hcount ⊢
    omega

/-- Streams that are cut off were held before. -/
theorem Conserved.resize (h : custody.Conserved) (count : Nat) :
    (custody.answer (.resize count)).Conserved := by
  classical
  refine List.perm_iff_count.mpr fun other => ?_
  have hbefore := h.count_eq other
  rw [custody.slots.held_resize count] at hbefore
  simp only [answer, List.count_append] at hbefore ⊢
  omega

/-- So were those that are taken out. -/
theorem Conserved.takeAll (h : custody.Conserved) : (custody.answer .takeAll).Conserved := by
  classical
  refine List.perm_iff_count.mpr fun other => ?_
  have hbefore := h.count_eq other
  have htaken : custody.slots.takeAll.2 = custody.slots.held := rfl
  simp only [answer, custody.slots.held_takeAll, htaken, List.count_append, List.count_nil]
    at hbefore ⊢
  omega

theorem conserved_answer (h : custody.Conserved) (call : SlotsCall σ) :
    (custody.answer call).Conserved := by
  cases call with
  | allocate slot stream => exact h.allocate slot stream
  | resize count => exact h.resize count
  | markAllDirty => exact h
  | clearDirty slot => exact h
  | takeAll => exact h.takeAll

theorem conserved_after (h : custody.Conserved) (calls : List (SlotsCall σ)) :
    (custody.after calls).Conserved := by
  induction calls generalizing custody with
  | nil => exact h
  | cons call rest ih => exact ih (conserved_answer h call)

/-- Only cutting slots off drops anything. -/
theorem mem_dropped_answer (custody : Custody σ) (call : SlotsCall σ) (stream : σ) :
    stream ∈ (custody.answer call).dropped
      ↔ stream ∈ custody.dropped
        ∨ ∃ count, call = .resize count
          ∧ ∃ slot, count ≤ slot ∧ custody.slots.stream slot = .ok stream := by
  cases call with
  | allocate slot other =>
      rcases custody.slots.allocate_cases slot other
        with ⟨error, hresult⟩ | ⟨next, previous, hresult, _⟩
      · simp only [answer, hresult, reduceCtorEq, false_and, exists_false, or_false]
      · simp only [answer, hresult, reduceCtorEq, false_and, exists_false, or_false]
  | resize count =>
      simp only [answer, List.mem_append, custody.slots.mem_beyond_iff, SlotsCall.resize.injEq,
        exists_eq_left']
  | markAllDirty => simp only [answer, reduceCtorEq, false_and, exists_false, or_false]
  | clearDirty slot => simp only [answer, reduceCtorEq, false_and, exists_false, or_false]
  | takeAll => simp only [answer, reduceCtorEq, false_and, exists_false, or_false]

/-- The streams that are dropped along a run are those that some call found in a
    slot that it cut off. -/
theorem mem_dropped_after (count : Nat) (calls : List (SlotsCall σ)) (stream : σ) :
    stream ∈ ((new count).after calls).dropped
      ↔ ∃ before fewer later, calls = before ++ .resize fewer :: later
        ∧ ∃ slot, fewer ≤ slot ∧ ((new count).after before).slots.stream slot = .ok stream := by
  induction calls using List.reverseRecOn with
  | nil =>
      simp only [after, List.foldl_nil, new, List.not_mem_nil, false_iff]
      rintro ⟨before, fewer, later, hcalls, _⟩
      simp only [List.nil_eq, List.append_eq_nil_iff, reduceCtorEq, and_false] at hcalls
  | append_singleton calls call ih =>
      rw [after_concat, mem_dropped_answer, ih]
      constructor
      · rintro (⟨before, fewer, later, rfl, hcut⟩ | ⟨fewer, rfl, hcut⟩)
        · exact ⟨before, fewer, later ++ [call], by simp, hcut⟩
        · exact ⟨calls, fewer, [], rfl, hcut⟩
      · rintro ⟨before, fewer, later, hcalls, hcut⟩
        rcases (cut_concat_iff _ _ _ _ _).mp hcalls with ⟨rfl, rfl, _⟩ | ⟨middle, rfl, _⟩
        · exact Or.inr ⟨fewer, rfl, hcut⟩
        · -- The slot was cut off before the last call.
          exact Or.inl ⟨before, fewer, middle, rfl, hcut⟩

end Custody

/-- Where the streams are that were put into slots, after any calls. As often as
    a stream was put in, it is in a slot, was given back by putting another one
    in or by taking all out, or was cut off with its slot. One that was put in
    once is in exactly one slot, was given back once, or was cut off, and no two
    of these. It was cut off exactly if the number of slots was once set to a
    number up to that of the slot it was in. So every stream is held or was given
    back exactly if no slot was ever cut off with a stream in it. -/
theorem streams_accounted {σ : Type} [DecidableEq σ] (count : Nat) (calls : List (SlotsCall σ)) :
    ∃ custody, custody = (Custody.new count).after calls
      ∧ custody.received.Perm (custody.slots.held ++ custody.returned ++ custody.dropped)
      ∧ (∀ stream, custody.received.count stream = 1 →
        ((∃! slot, custody.slots.stream slot = .ok stream)
            ∧ custody.returned.count stream = 0 ∧ custody.dropped.count stream = 0)
          ∨ ((∀ slot, custody.slots.stream slot ≠ .ok stream)
            ∧ custody.returned.count stream = 1 ∧ custody.dropped.count stream = 0)
          ∨ ((∀ slot, custody.slots.stream slot ≠ .ok stream)
            ∧ custody.returned.count stream = 0 ∧ custody.dropped.count stream = 1))
      ∧ (∀ stream, stream ∈ custody.dropped
        ↔ ∃ before fewer later, calls = before ++ .resize fewer :: later
          ∧ ∃ slot, fewer ≤ slot
            ∧ ((Custody.new count).after before).slots.stream slot = .ok stream)
      ∧ (custody.received.Perm (custody.slots.held ++ custody.returned)
        ↔ custody.dropped = []) := by
  have hconserved : ((Custody.new count).after calls).Conserved :=
    Custody.conserved_after (Custody.conserved_new count) calls
  refine ⟨_, rfl, hconserved, ?_, Custody.mem_dropped_after count calls, ?_⟩
  · generalize (Custody.new count).after calls = custody at hconserved ⊢
    intro stream honce
    have hcount := hconserved.count_eq stream
    rw [honce, List.count_append, List.count_append] at hcount
    have hnowhere : custody.slots.held.count stream = 0 →
        ∀ slot, custody.slots.stream slot ≠ .ok stream := by
      intro hnone slot hat
      exact List.count_eq_zero.mp hnone ((custody.slots.mem_held_iff stream).mpr ⟨slot, hat⟩)
    by_cases hheld : custody.slots.held.count stream = 0
    · by_cases hreturned : custody.returned.count stream = 0
      · exact Or.inr (Or.inr ⟨hnowhere hheld, hreturned, by omega⟩)
      · exact Or.inr (Or.inl ⟨hnowhere hheld, by omega, by omega⟩)
    · exact Or.inl
        ⟨custody.slots.existsUnique_of_count_held (by omega), by omega, by omega⟩
  · generalize (Custody.new count).after calls = custody at hconserved ⊢
    constructor
    · intro hkept
      have hlength := hkept.length_eq.symm.trans hconserved.length_eq
      simp only [List.length_append] at hlength
      exact List.eq_nil_of_length_eq_zero (by omega)
    · intro hnone
      have hall := hconserved
      unfold Custody.Conserved at hall
      rw [hnone, List.append_nil] at hall
      exact hall

/-- Two slots get a stream each. Then one slot is enough, and what is there is
    taken out. -/
def emptiedLater : List (SlotsCall String) :=
  [.allocate 0 "first", .allocate 1 "second", .resize 1, .takeAll]

/-- The first stream was put in once, and it was given back. -/
theorem streams_accounted_emptiedLater :
    ((Custody.new 2).after emptiedLater).received.count "first" = 1
      ∧ (∀ slot, ((Custody.new 2).after emptiedLater).slots.stream slot ≠ .ok "first")
      ∧ ((Custody.new 2).after emptiedLater).returned.count "first" = 1 := by
  rcases streams_accounted 2 emptiedLater with ⟨custody, rfl, _, honce, _⟩
  have hreceived : ((Custody.new 2).after emptiedLater).received.count "first" = 1 := by decide
  have hreturned : ((Custody.new 2).after emptiedLater).returned.count "first" = 1 := by decide
  rcases honce "first" hreceived with ⟨_, hnone, _⟩ | ⟨hnowhere, hback, _⟩ | ⟨_, hnone, _⟩
  · exact absurd (hreturned.symm.trans hnone) Nat.one_ne_zero
  · exact ⟨hreceived, hnowhere, hback⟩
  · exact absurd (hreturned.symm.trans hnone) Nat.one_ne_zero

/-- The second stream was put in, is in no slot and was never given back. -/
theorem stream_lost_emptiedLater :
    ((Custody.new 2).after emptiedLater).received = ["first", "second"]
      ∧ ((Custody.new 2).after emptiedLater).returned = ["first"]
      ∧ ¬ ∀ stream ∈ ((Custody.new 2).after emptiedLater).received,
        (∃! slot, ((Custody.new 2).after emptiedLater).slots.stream slot = .ok stream)
          ∨ ((Custody.new 2).after emptiedLater).returned.count stream = 1 := by
  have hreceived : ((Custody.new 2).after emptiedLater).received = ["first", "second"] := rfl
  have hreturned : ((Custody.new 2).after emptiedLater).returned = ["first"] := rfl
  refine ⟨hreceived, hreturned, ?_⟩
  intro hall
  rcases hall "second" (by rw [hreceived]; decide) with ⟨slot, hat, _⟩ | honce
  · -- All slots are empty.
    have hheld := (Slots.mem_held_iff _ "second").mpr ⟨slot, hat⟩
    exact absurd hheld (by decide)
  · rw [hreturned] at honce
    exact absurd honce (by decide)

end FrameGraph
