import FrameGraph.Proofs.Sessions
import Mathlib.Data.List.Induction

/-!
# Runs of a Cache

A cache is meant not to be noticed: what it answers is what compiling would
have answered. Nothing in it says so. It keeps passes next to a compilation,
and an answer is right because the one was made from the other, which is
`Cache.Sound` and is kept by every call.

Whether an answer is a new one is a question about the past, and the cache
keeps nothing of the past but its entry. So the question is put to the calls:
`LastAnswer` finds the last one that compiled, with nothing but failures after
it. A failure leaves the cache alone, hence the entry is what that call left
there. In the other direction the induction is from the last call, since it is
the one that decides what is kept.

That two answers are one compilation is seen by their tokens. This is worth
something only if a new compilation never has a token that was given out
before, and for this the tokens given out so far are numbered below `made`.

## Main definitions

* `CacheCall`, `Cache.after`: What a cache is asked for, one after the other.
* `Cache.AllFail`: Calls none of which compiles.
* `LastAnswer`: The last call that compiled, with nothing forgotten since.
* `Token.Below`: The token was given out before.

## Theorems

* `Cache.compile_cases`: What compiling through a cache comes to.
* `Cache.after_of_allFail`, `Cache.entry_of_ok`: What failures and answers do
  to a cache.
* `LastAnswer.entry`, `exists_lastAnswer`: The entry is the last answer.
* `Cache.below_answer`: Tokens of answers are numbered.
* `compile_transparent`: A cache answers as compiling does.
-/

namespace FrameGraph

/-- What a cache is asked for. -/
inductive CacheCall where
  | compile (passes : List Pass)
  | invalidate
  deriving DecidableEq, Repr

namespace Cache

variable (cache : Cache)

/-- The cache after a call. -/
def serve : CacheCall → Cache
  | .compile passes => (cache.compile passes).1
  | .invalidate => cache.invalidate

/-- The cache after some calls. -/
def after (calls : List CacheCall) : Cache := calls.foldl serve cache

theorem after_append (first second : List CacheCall) :
    cache.after (first ++ second) = (cache.after first).after second := by
  simp only [after, List.foldl_append]

theorem after_concat (calls : List CacheCall) (call : CacheCall) :
    cache.after (calls ++ [call]) = (cache.after calls).serve call := by
  rw [after_append]
  rfl

/-- The passes are those that the entry was made from, or they do not compile,
    or there is a new entry. -/
theorem compile_cases (passes : List Pass) :
    (∃ entry, cache.entry = some entry ∧ entry.source = passes
        ∧ cache.compile passes = (cache, .ok ⟨entry.compiled, entry.token, false⟩))
      ∨ (∃ error, FrameGraph.compile passes = .error error
        ∧ cache.compile passes = (cache, .error error))
      ∨ ∃ compiled, FrameGraph.compile passes = .ok compiled
        ∧ (∀ entry, cache.entry = some entry → entry.source ≠ passes)
        ∧ cache.compile passes
          = (⟨some ⟨passes, compiled, cache.nextToken passes⟩, cache.made + 1⟩,
            .ok ⟨compiled, cache.nextToken passes, true⟩) := by
  unfold compile
  cases hhit : cache.hit? passes with
  | some entry =>
      unfold hit? at hhit
      rw [Option.filter_eq_some_iff, decide_eq_true_eq] at hhit
      exact Or.inl ⟨entry, hhit.1, hhit.2, rfl⟩
  | none =>
      have hmiss : ∀ entry, cache.entry = some entry → entry.source ≠ passes := by
        intro entry hentry hsource
        unfold hit? at hhit
        simp only [hentry, Option.filter_some, hsource, decide_true, if_true, reduceCtorEq] at hhit
      cases hcompile : FrameGraph.compile passes with
      | error error => exact Or.inr (Or.inl ⟨error, rfl, rfl⟩)
      | ok compiled => exact Or.inr (Or.inr ⟨compiled, rfl, hmiss, rfl⟩)

/-- Whatever the answer was made from is what is kept after it. -/
theorem entry_of_ok {source : List Pass} {answer : CacheAnswer}
    (h : (cache.compile source).2 = .ok answer) :
    (cache.compile source).1.entry = some ⟨source, answer.compiled, answer.token⟩ := by
  rcases cache.compile_cases source
    with ⟨entry, hentry, rfl, hcompile⟩ | ⟨error, _, hcompile⟩ | ⟨compiled, _, _, hcompile⟩
  · rw [hcompile] at h ⊢
    rcases Except.ok.inj h with rfl
    exact hentry
  · rw [hcompile] at h
    simp only [reduceCtorEq] at h
  · rw [hcompile] at h ⊢
    rcases Except.ok.inj h with rfl
    rfl

/-- A call that fails leaves the cache as it was. -/
theorem eq_of_error {passes : List Pass} {error : Error}
    (h : (cache.compile passes).2 = .error error) : (cache.compile passes).1 = cache := by
  rcases cache.compile_cases passes
    with ⟨entry, _, _, hcompile⟩ | ⟨error, _, hcompile⟩ | ⟨compiled, _, _, hcompile⟩
  · rw [hcompile]
  · rw [hcompile]
  · rw [hcompile] at h
    simp only [reduceCtorEq] at h

/-- All of some calls ask for passes that do not compile. -/
def AllFail : Cache → List CacheCall → Prop
  | _, [] => True
  | cache, call :: rest =>
    (∃ passes error, call = .compile passes ∧ (cache.compile passes).2 = .error error)
      ∧ AllFail (cache.serve call) rest

theorem allFail_append (first second : List CacheCall) :
    cache.AllFail (first ++ second)
      ↔ cache.AllFail first ∧ (cache.after first).AllFail second := by
  induction first generalizing cache with
  | nil => exact ⟨fun h => ⟨trivial, h⟩, fun h => h.2⟩
  | cons call rest ih =>
      rw [List.cons_append, AllFail, AllFail, ih, and_assoc]
      rfl

/-- So do any number of them. -/
theorem after_of_allFail (calls : List CacheCall) (h : cache.AllFail calls) :
    cache.after calls = cache := by
  induction calls generalizing cache with
  | nil => rfl
  | cons call rest ih =>
      rcases h with ⟨⟨passes, error, rfl, herror⟩, hrest⟩
      have hsame : cache.serve (.compile passes) = cache := cache.eq_of_error herror
      rw [hsame] at hrest
      change (cache.serve (.compile passes)).after rest = cache
      rw [hsame]
      exact ih cache hrest

/-- What a cache keeps is sound along every run. -/
theorem sound_after (calls : List CacheCall) : (new.after calls).Sound := by
  induction calls using List.reverseRecOn with
  | nil => exact sound_new
  | append_singleton calls call ih =>
      rw [after_concat]
      cases call with
      | compile passes => exact sound_compile ih passes
      | invalidate => exact sound_invalidate _

/-- A sound cache answers what compiling answers, and with the same error. -/
theorem map_compiled (h : cache.Sound) (passes : List Pass) :
    (cache.compile passes).2.map CacheAnswer.compiled = FrameGraph.compile passes := by
  rcases cache.compile_cases passes
    with ⟨entry, hentry, rfl, hcompile⟩ | ⟨error, herror, hcompile⟩ | ⟨compiled, hok, _, hcompile⟩
  · rw [hcompile, h entry hentry]
    rfl
  · rw [hcompile, herror]
    rfl
  · rw [hcompile, hok]
    rfl

end Cache

/-- The last call that compiled anything was for this source and was answered
    like this, and nothing was forgotten since. -/
def LastAnswer (calls : List CacheCall) (source : List Pass) (answer : CacheAnswer) : Prop :=
  ∃ before later, calls = before ++ .compile source :: later
    ∧ ((Cache.new.after before).compile source).2 = .ok answer
    ∧ (Cache.new.after (before ++ [.compile source])).AllFail later

section Runs

variable {calls : List CacheCall}

/-- What it was answered with is kept. -/
theorem LastAnswer.entry {source : List Pass} {answer : CacheAnswer}
    (h : LastAnswer calls source answer) :
    (Cache.new.after calls).entry = some ⟨source, answer.compiled, answer.token⟩ := by
  rcases h with ⟨before, later, rfl, hanswer, hfail⟩
  -- The failures since then change nothing.
  rw [List.append_cons, Cache.after_append, Cache.after_of_allFail _ later hfail,
    Cache.after_concat]
  exact Cache.entry_of_ok _ hanswer

/-- It stays the last one over a call that fails. -/
theorem LastAnswer.step {source passes : List Pass} {answer : CacheAnswer} {error : Error}
    (h : LastAnswer calls source answer)
    (hfail : ((Cache.new.after calls).compile passes).2 = .error error) :
    LastAnswer (calls ++ [.compile passes]) source answer := by
  rcases h with ⟨before, later, rfl, hanswer, hsince⟩
  refine ⟨before, later ++ [.compile passes], List.append_assoc _ _ _, hanswer, ?_⟩
  rw [Cache.allFail_append, ← Cache.after_append, ← List.append_cons]
  exact ⟨hsince, ⟨passes, error, rfl, hfail⟩, trivial⟩

theorem lastAnswer_of_ok {source : List Pass} {answer : CacheAnswer}
    (h : ((Cache.new.after calls).compile source).2 = .ok answer) :
    LastAnswer (calls ++ [.compile source]) source answer :=
  ⟨calls, [], rfl, h, trivial⟩

/-- What is kept is what was answered last. The induction is from the last
    call, which leaves the entry to those before it only if it failed. -/
theorem exists_lastAnswer {entry : CacheEntry} (h : (Cache.new.after calls).entry = some entry) :
    ∃ answer, LastAnswer calls entry.source answer := by
  induction calls using List.reverseRecOn with
  | nil =>
      simp only [Cache.after, List.foldl_nil, Cache.new, reduceCtorEq] at h
  | append_singleton calls call ih =>
      rw [Cache.after_concat] at h
      cases call with
      | invalidate =>
          simp only [Cache.serve, Cache.invalidate, reduceCtorEq] at h
      | compile passes =>
          cases hresult : ((Cache.new.after calls).compile passes).2 with
          | error error =>
              rw [Cache.serve, Cache.eq_of_error _ hresult] at h
              rcases ih h with ⟨answer, hlast⟩
              exact ⟨answer, hlast.step hresult⟩
          | ok answer =>
              rw [Cache.serve, Cache.entry_of_ok _ hresult] at h
              rcases Option.some.inj h with rfl
              exact ⟨answer, lastAnswer_of_ok hresult⟩

end Runs

/-- The token was given out before the compilation of this number. -/
def Token.Below (made : Nat) : Token → Prop
  | .empty => True
  | .made serial => serial < made

theorem Token.Below.mono {token : Token} {m n : Nat} (h : token.Below m) (hle : m ≤ n) :
    token.Below n := by
  cases token with
  | empty => trivial
  | made serial => exact Nat.lt_of_lt_of_le h hle

namespace Cache

variable {cache : Cache}

/-- What is kept has a token that was given out. -/
def Numbered (cache : Cache) : Prop :=
  ∀ entry, cache.entry = some entry → entry.token.Below cache.made

theorem below_nextToken (passes : List Pass) :
    (cache.nextToken passes).Below (cache.made + 1) := by
  unfold nextToken
  split
  · trivial
  · exact Nat.lt_succ_self cache.made

theorem made_le_serve (call : CacheCall) : cache.made ≤ (cache.serve call).made := by
  cases call with
  | invalidate => exact Nat.le_refl _
  | compile passes =>
      rcases cache.compile_cases passes
        with ⟨_, _, _, hcompile⟩ | ⟨_, _, hcompile⟩ | ⟨_, _, _, hcompile⟩
      · simp only [serve, hcompile, Nat.le_refl]
      · simp only [serve, hcompile, Nat.le_refl]
      · simp only [serve, hcompile, Nat.le_add_right]

theorem made_le_after (calls : List CacheCall) : cache.made ≤ (cache.after calls).made := by
  induction calls generalizing cache with
  | nil => exact Nat.le_refl _
  | cons call rest ih => exact Nat.le_trans (made_le_serve call) ih

theorem numbered_serve (h : cache.Numbered) (call : CacheCall) : (cache.serve call).Numbered := by
  cases call with
  | invalidate =>
      intro entry hentry
      simp only [serve, invalidate, reduceCtorEq] at hentry
  | compile passes =>
      rcases cache.compile_cases passes
        with ⟨_, _, _, hcompile⟩ | ⟨_, _, hcompile⟩ | ⟨_, _, _, hcompile⟩
      · rw [serve, hcompile]
        exact h
      · rw [serve, hcompile]
        exact h
      · rw [serve, hcompile]
        intro entry hentry
        rcases Option.some.inj hentry with rfl
        exact below_nextToken passes

theorem numbered_after (calls : List CacheCall) : (new.after calls).Numbered := by
  induction calls using List.reverseRecOn with
  | nil =>
      intro entry hentry
      simp only [after, List.foldl_nil, new, reduceCtorEq] at hentry
  | append_singleton calls call ih =>
      rw [after_concat]
      exact numbered_serve ih call

/-- The token of an answer was given out by then. -/
theorem below_answer {before later : List CacheCall} {source : List Pass} {answer : CacheAnswer}
    (h : ((new.after before).compile source).2 = .ok answer) :
    answer.token.Below (new.after (before ++ .compile source :: later)).made := by
  have hkept := entry_of_ok _ h
  have hnumbered := numbered_after (before ++ [.compile source])
  rw [after_concat] at hnumbered
  have hbelow := hnumbered _ hkept
  rw [List.append_cons, after_append, after_concat]
  exact hbelow.mono (made_le_after later)

end Cache

/-- A cache cannot be told from compiling, whatever it was asked for before.
    Its answer is what the passes compile to, with the same error if they do
    not, and a failure leaves the cache as it was. The answer is no new
    compilation exactly if the last call that compiled anything since the cache
    was made to forget was for these very passes, and then it is the
    compilation of that call. A new one is none that was answered before,
    unless there are no passes in it. -/
theorem compile_transparent (calls : List CacheCall) (passes : List Pass) :
    ((Cache.new.after calls).compile passes).2.map CacheAnswer.compiled = compile passes
      ∧ (∀ error, ((Cache.new.after calls).compile passes).2 = .error error →
        ((Cache.new.after calls).compile passes).1 = Cache.new.after calls)
      ∧ ∀ answer, ((Cache.new.after calls).compile passes).2 = .ok answer →
        (answer.recompiled = false ↔ ∃ earlier, LastAnswer calls passes earlier)
        ∧ (∀ earlier, LastAnswer calls passes earlier →
          answer.compiled = earlier.compiled ∧ answer.token = earlier.token)
        ∧ (answer.recompiled = true → passes ≠ [] → ∀ before source later earlier,
          calls = before ++ .compile source :: later →
          ((Cache.new.after before).compile source).2 = .ok earlier →
          answer.token ≠ earlier.token) := by
  refine ⟨Cache.map_compiled _ (Cache.sound_after calls) passes,
    fun error => Cache.eq_of_error _, ?_⟩
  intro answer hanswer
  rcases (Cache.new.after calls).compile_cases passes
    with ⟨entry, hentry, rfl, hcompile⟩ | ⟨error, _, hcompile⟩ | ⟨compiled, _, hother, hcompile⟩
  · -- The entry is answered, and it is the last answer.
    rw [hcompile] at hanswer
    rcases Except.ok.inj hanswer with rfl
    refine ⟨⟨fun _ => exists_lastAnswer hentry, fun _ => rfl⟩, ?_, ?_⟩
    · intro earlier hlast
      have hsame := Option.some.inj (hentry.symm.trans hlast.entry)
      exact ⟨congrArg CacheEntry.compiled hsame, congrArg CacheEntry.token hsame⟩
    · intro hnew
      exact absurd hnew Bool.false_ne_true
  · rw [hcompile] at hanswer
    simp only [reduceCtorEq] at hanswer
  · -- A new compilation is made, since what is kept is from other passes.
    rw [hcompile] at hanswer
    rcases Except.ok.inj hanswer with rfl
    have hnone : ∀ earlier, ¬ LastAnswer calls passes earlier :=
      fun earlier hlast => hother _ hlast.entry rfl
    refine ⟨⟨fun hold => absurd hold.symm Bool.false_ne_true, ?_⟩, ?_, ?_⟩
    · rintro ⟨earlier, hlast⟩
      exact absurd hlast (hnone earlier)
    · intro earlier hlast
      exact absurd hlast (hnone earlier)
    · intro _ hsome before source later earlier hcalls hearlier hsame
      have hbelow : earlier.token.Below
          (Cache.new.after (before ++ .compile source :: later)).made :=
        Cache.below_answer hearlier
      have hnext : (Cache.new.after calls).nextToken passes
          = .made (Cache.new.after calls).made := by
        unfold Cache.nextToken
        rw [if_neg (fun h => hsome (List.isEmpty_iff.mp h))]
      rw [← hcalls, ← hsame, hnext] at hbelow
      exact absurd hbelow (Nat.lt_irrefl _)

/-- Two passes that each wait for what the other one writes. -/
def waitingInCircle : List Pass := [
  ⟨0, "a", .compute, [Usage.plain .write .storageBuffer "x", Usage.plain .read .storageBuffer "y"]⟩,
  ⟨1, "b", .compute, [Usage.plain .write .storageBuffer "y", Usage.plain .read .storageBuffer "x"]⟩]

/-- One pass that writes a buffer. -/
def oneWriter : List Pass :=
  [⟨0, "cull", .compute, [Usage.plain .write .storageBuffer "lights"]⟩]

/-- A failure in between does not matter: the same compilation is answered
    again. -/
theorem compile_transparent_oneWriter :
    ((Cache.new.after [.compile oneWriter, .compile waitingInCircle]).compile oneWriter).2
        = .ok ⟨Compiled.ofOrder oneWriter, .made 0, false⟩
      ∧ ∃ earlier, LastAnswer [.compile oneWriter, .compile waitingInCircle] oneWriter earlier
        ∧ earlier.token = .made 0 := by
  have hanswer : ((Cache.new.after [.compile oneWriter, .compile waitingInCircle]).compile
      oneWriter).2 = .ok ⟨Compiled.ofOrder oneWriter, .made 0, false⟩ := by
    decide +kernel
  have hall := (compile_transparent [.compile oneWriter, .compile waitingInCircle] oneWriter).2.2
    _ hanswer
  rcases hall.1.mp rfl with ⟨earlier, hlast⟩
  exact ⟨hanswer, earlier, hlast, (hall.2.1 earlier hlast).2.symm⟩

end FrameGraph
