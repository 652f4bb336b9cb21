import FrameGraph.Frame.Schedule
import Mathlib.Data.List.Pairwise

/-!
# Buckets as Longest Runs

Operations that can be recorded apart are found by one scan with at most one
run open. What the scan gives out is described here without it, by positions:
the runs lie one behind the other, a position is in a run exactly if its
operation can be recorded apart, and two neighbours that can are in one run
exactly if they agree in kind, pass and context. No other list of runs has
these properties, so they say all there is to say about the scan.

The proof goes along with the scan and adds one operation at a time at the
end. There are three ways in which it can go on: the operation is in no run,
it begins one, or it makes the last one longer. Which of them the scan takes
depends on the run that is open, and `Scanned` says what that is worth: it is
the only run that reaches up to the end of what was scanned.

## Main definitions

* `FrameOp.Apart`, `FrameOp.Alike`: The operation can be recorded apart, and two
  operations agree.
* `Bucket.Covers`, `Bucket.Suits`: A run has a position, and fits an operation.
* `LongestRuns`: What the runs of some operations have to satisfy.
* `Scanned`: Where the scan stands.

## Theorems

* `LongestRuns.skip`, `LongestRuns.begin`, `LongestRuns.grow`: One more
  operation.
* `longestRuns_scan`: From anywhere, the scan completes the runs.
* `LongestRuns.eq_of_longestRuns`: There is one list of longest runs only.
* `buckets_longestRuns`: The buckets are the only longest runs.
-/

namespace FrameGraph

namespace FrameOp

/-- The operation can be recorded apart: it is a blit, an indirect draw or a
    dispatch. -/
def Apart (op : FrameOp) : Prop :=
  op.kind = .blit ∨ op.kind = .indirect ∨ op.kind = .dispatch

/-- The operations agree in kind, pass and context. -/
def Alike (first second : FrameOp) : Prop :=
  first.kind = second.kind ∧ first.pass = second.pass ∧ first.context = second.context

theorem recordsApart_iff (op : FrameOp) : op.kind.recordsApart = true ↔ op.Apart := by
  unfold Apart
  cases op.kind <;> simp only [WorkKind.recordsApart, reduceCtorEq, or_self, or_true, true_or]

end FrameOp

namespace Bucket

/-- The run has the position. -/
def Covers (bucket : Bucket) (position : Nat) : Prop :=
  bucket.start ≤ position ∧ position < bucket.stop

/-- The run has the kind, pass and context of the operation. -/
def Suits (bucket : Bucket) (op : FrameOp) : Prop :=
  bucket.kind = op.kind ∧ bucket.pass = op.pass ∧ bucket.context = op.context

theorem accepts_iff (bucket : Bucket) (op : FrameOp) :
    bucket.accepts op = true ↔ bucket.Suits op := by
  unfold accepts Suits
  simp only [Bool.and_eq_true, decide_eq_true_eq, and_assoc]

/-- Operations that a run fits agree. -/
theorem Suits.alike {bucket : Bucket} {first second : FrameOp} (hfirst : bucket.Suits first)
    (hsecond : bucket.Suits second) : first.Alike second :=
  ⟨hfirst.1.symm.trans hsecond.1, hfirst.2.1.symm.trans hsecond.2.1,
    hfirst.2.2.symm.trans hsecond.2.2⟩

theorem Suits.of_alike {bucket : Bucket} {first second : FrameOp} (hfirst : bucket.Suits first)
    (h : first.Alike second) : bucket.Suits second :=
  ⟨hfirst.1.trans h.1, hfirst.2.1.trans h.2.1, hfirst.2.2.trans h.2.2⟩

end Bucket

/-- The runs are the longest ones of the operations: they are not empty, lie
    within the operations and one behind the other, have the positions of the
    operations that can be recorded apart and no others, are of one kind, pass
    and context each, and part two neighbours only if these differ. -/
structure LongestRuns (ops : List FrameOp) (runs : List Bucket) : Prop where
  within : ∀ run ∈ runs, run.start < run.stop ∧ run.stop ≤ ops.length
  ascending : runs.Pairwise fun first second => first.stop ≤ second.start
  covered : ∀ (n : Nat) (op : FrameOp), ops[n]? = some op →
    ((∃ run ∈ runs, run.Covers n) ↔ op.Apart)
  suited : ∀ run ∈ runs, ∀ (n : Nat) (op : FrameOp), ops[n]? = some op → run.Covers n →
    run.Suits op
  joined : ∀ (n : Nat) (first second : FrameOp), ops[n]? = some first →
    ops[n + 1]? = some second → first.Apart → second.Apart →
    ((∃ run ∈ runs, run.Covers n ∧ run.Covers (n + 1)) ↔ first.Alike second)

/-- What stands at a position of a list with one more element. -/
theorem getElem?_concat_iff {α : Type} (front : List α) (last x : α) (n : Nat) :
    (front ++ [last])[n]? = some x ↔ front[n]? = some x ∨ n = front.length ∧ last = x := by
  rcases Nat.lt_trichotomy n front.length with hlt | rfl | hgt
  · rw [List.getElem?_append_left hlt]
    exact ⟨Or.inl, fun h => h.resolve_right fun hlast => Nat.ne_of_lt hlt hlast.1⟩
  · rw [List.getElem?_concat_length, List.getElem?_eq_none (Nat.le_refl _)]
    simp only [Option.some.injEq, reduceCtorEq, true_and, false_or]
  · rw [List.getElem?_eq_none (by rw [List.length_append, List.length_singleton]; omega),
      List.getElem?_eq_none (Nat.le_of_lt hgt)]
    simp only [reduceCtorEq, false_or, false_iff, not_and]
    omega

namespace LongestRuns

variable {front : List FrameOp} {op : FrameOp}

theorem lt_length {n : Nat} {other : FrameOp} (h : front[n]? = some other) : n < front.length :=
  (List.getElem?_eq_some_iff.mp h).1

/-- No run reaches behind the operations. -/
theorem not_covers_length {runs : List Bucket} (h : LongestRuns front runs) :
    ∀ run ∈ runs, ¬ run.Covers front.length := by
  rintro run hrun ⟨_, hlt⟩
  have hle := (h.within run hrun).2
  omega

/-- An operation that cannot be recorded apart is in no run. -/
theorem skip {runs : List Bucket} (h : LongestRuns front runs) (hop : ¬ op.Apart) :
    LongestRuns (front ++ [op]) runs where
  within := by
    intro run hrun
    have hwithin := h.within run hrun
    rw [List.length_append, List.length_singleton]
    omega
  ascending := h.ascending
  covered := by
    intro n other hother
    rcases (getElem?_concat_iff front op other n).mp hother with hold | ⟨rfl, rfl⟩
    · exact h.covered n other hold
    · refine iff_of_false ?_ hop
      rintro ⟨run, hrun, hcovers⟩
      exact h.not_covers_length run hrun hcovers
  suited := by
    intro run hrun n other hother hcovers
    rcases (getElem?_concat_iff front op other n).mp hother with hold | ⟨rfl, _⟩
    · exact h.suited run hrun n other hold hcovers
    · exact absurd hcovers (h.not_covers_length run hrun)
  joined := by
    intro n first second hfirst hsecond hapartFirst hapartSecond
    rcases (getElem?_concat_iff front op second (n + 1)).mp hsecond with hold | ⟨_, rfl⟩
    · have hlt := lt_length hold
      rcases (getElem?_concat_iff front op first n).mp hfirst with hbefore | ⟨hlast, _⟩
      · exact h.joined n first second hbefore hold hapartFirst hapartSecond
      · omega
    · exact absurd hapartSecond hop

/-- An operation that can, and does not agree with a neighbour that can, begins
    a run. -/
theorem begin {runs : List Bucket} (h : LongestRuns front runs) (hop : op.Apart)
    (hparted : ∀ (n : Nat) (last : FrameOp), n + 1 = front.length → front[n]? = some last →
      last.Apart → ¬ last.Alike op) :
    LongestRuns (front ++ [op]) (runs ++ [Bucket.single front.length op]) where
  within := by
    intro run hrun
    rw [List.length_append, List.length_singleton]
    rcases List.mem_append.mp hrun with hold | hnew
    · have hwithin := h.within run hold
      omega
    · rw [List.mem_singleton.mp hnew]
      exact ⟨Nat.lt_succ_self _, Nat.le_refl _⟩
  ascending := by
    refine List.pairwise_append.mpr ⟨h.ascending, List.pairwise_singleton _ _, ?_⟩
    intro run hrun other hother
    rw [List.mem_singleton.mp hother]
    exact (h.within run hrun).2
  covered := by
    intro n other hother
    simp only [List.mem_append, List.mem_singleton, or_and_right, exists_or, exists_eq_left]
    rcases (getElem?_concat_iff front op other n).mp hother with hold | ⟨rfl, rfl⟩
    · rw [← h.covered n other hold, or_iff_left_iff_imp]
      rintro ⟨hle, _⟩
      have hlt := lt_length hold
      exact absurd hle (Nat.not_le_of_lt hlt)
    · exact iff_of_true (Or.inr ⟨Nat.le_refl _, Nat.lt_succ_self _⟩) hop
  suited := by
    intro run hrun n other hother hcovers
    rcases List.mem_append.mp hrun with hold | hnew
    · rcases (getElem?_concat_iff front op other n).mp hother with hbefore | ⟨rfl, _⟩
      · exact h.suited run hold n other hbefore hcovers
      · exact absurd hcovers (h.not_covers_length run hold)
    · rw [List.mem_singleton.mp hnew] at hcovers ⊢
      rcases (getElem?_concat_iff front op other n).mp hother with hbefore | ⟨_, rfl⟩
      · exact absurd hcovers.1 (Nat.not_le_of_lt (lt_length hbefore))
      · exact ⟨rfl, rfl, rfl⟩
  joined := by
    intro n first second hfirst hsecond hapartFirst hapartSecond
    simp only [List.mem_append, List.mem_singleton, or_and_right, exists_or, exists_eq_left]
    have hsingle : ¬ ((Bucket.single front.length op).Covers n
        ∧ (Bucket.single front.length op).Covers (n + 1)) := by
      rintro ⟨⟨hle, _⟩, ⟨_, hlt⟩⟩
      change front.length ≤ n at hle
      change n + 1 < front.length + 1 at hlt
      omega
    rw [or_iff_left hsingle]
    rcases (getElem?_concat_iff front op second (n + 1)).mp hsecond with hold | ⟨hlast, rfl⟩
    · have hlt := lt_length hold
      rcases (getElem?_concat_iff front op first n).mp hfirst with hbefore | ⟨hend, _⟩
      · exact h.joined n first second hbefore hold hapartFirst hapartSecond
      · omega
    · rcases (getElem?_concat_iff front op first n).mp hfirst with hbefore | ⟨hend, _⟩
      · refine iff_of_false ?_ (hparted n first hlast hbefore hapartFirst)
        rintro ⟨run, hrun, _, hcovers⟩
        rw [hlast] at hcovers
        exact h.not_covers_length run hrun hcovers
      · omega

/-- An operation that fits the last run, which reaches up to it, makes that
    longer. -/
theorem grow {closed : List Bucket} {run : Bucket} (h : LongestRuns front (closed ++ [run]))
    (hstop : run.stop = front.length) (hop : op.Apart) (hsuits : run.Suits op) :
    LongestRuns (front ++ [op]) (closed ++ [{ run with stop := front.length + 1 }]) := by
  have hrun : run ∈ closed ++ [run] := List.mem_append_right _ (List.mem_singleton_self run)
  have hstart : run.start < front.length := hstop ▸ (h.within run hrun).1
  -- The longer run has one position more.
  have hcovers : ∀ n, n < front.length →
      (({ run with stop := front.length + 1 } : Bucket).Covers n ↔ run.Covers n) := by
    intro n hn
    unfold Bucket.Covers
    rw [hstop]
    exact and_congr_right fun _ => iff_of_true (Nat.lt_succ_of_lt hn) hn
  have hclosed : ∀ other ∈ closed, ¬ other.Covers front.length := fun other hother =>
    h.not_covers_length other (List.mem_append_left _ hother)
  refine ⟨?_, ?_, ?_, ?_, ?_⟩
  · intro other hother
    rw [List.length_append, List.length_singleton]
    rcases List.mem_append.mp hother with hold | hnew
    · have hwithin := h.within other (List.mem_append_left _ hold)
      omega
    · rw [List.mem_singleton.mp hnew]
      exact ⟨Nat.lt_succ_of_lt hstart, Nat.le_refl _⟩
  · rcases List.pairwise_append.mp h.ascending with ⟨hbefore, _, hbetween⟩
    refine List.pairwise_append.mpr ⟨hbefore, List.pairwise_singleton _ _, ?_⟩
    intro first hfirst second hsecond
    rw [List.mem_singleton.mp hsecond]
    exact hbetween first hfirst run (List.mem_singleton_self run)
  · intro n other hother
    simp only [List.mem_append, List.mem_singleton, or_and_right, exists_or, exists_eq_left]
    rcases (getElem?_concat_iff front op other n).mp hother with hold | ⟨rfl, rfl⟩
    · have hcovered := h.covered n other hold
      simp only [List.mem_append, List.mem_singleton, or_and_right, exists_or, exists_eq_left]
        at hcovered
      rw [hcovers n (lt_length hold)]
      exact hcovered
    · exact iff_of_true (Or.inr ⟨Nat.le_of_lt hstart, Nat.lt_succ_self _⟩) hop
  · intro other hmem n found hfound hcover
    rcases List.mem_append.mp hmem with hold | hnew
    · rcases (getElem?_concat_iff front op found n).mp hfound with hbefore | ⟨rfl, _⟩
      · exact h.suited other (List.mem_append_left _ hold) n found hbefore hcover
      · exact absurd hcover (hclosed other hold)
    · rw [List.mem_singleton.mp hnew] at hcover ⊢
      rcases (getElem?_concat_iff front op found n).mp hfound with hbefore | ⟨_, rfl⟩
      · exact h.suited run hrun n found hbefore ((hcovers n (lt_length hbefore)).mp hcover)
      · exact hsuits
  · intro n first second hfirst hsecond hapartFirst hapartSecond
    simp only [List.mem_append, List.mem_singleton, or_and_right, exists_or, exists_eq_left]
    rcases (getElem?_concat_iff front op second (n + 1)).mp hsecond with hold | ⟨hlast, rfl⟩
    · have hlt := lt_length hold
      rcases (getElem?_concat_iff front op first n).mp hfirst with hbefore | ⟨hend, _⟩
      · have hjoined := h.joined n first second hbefore hold hapartFirst hapartSecond
        simp only [List.mem_append, List.mem_singleton, or_and_right, exists_or, exists_eq_left]
          at hjoined
        rw [hcovers n (lt_length hbefore), hcovers (n + 1) hlt]
        exact hjoined
      · omega
    · rcases (getElem?_concat_iff front op first n).mp hfirst with hbefore | ⟨hend, _⟩
      · -- The run had the neighbour, so it has both, and fits both.
        have hneighbour : run.Covers n := ⟨by omega, by omega⟩
        refine iff_of_true (Or.inr ⟨⟨hneighbour.1, ?_⟩, ⟨?_, ?_⟩⟩) ?_
        · change n < front.length + 1
          omega
        · exact Nat.le_succ_of_le hneighbour.1
        · change n + 1 < front.length + 1
          omega
        · exact (h.suited run hrun n first hbefore hneighbour).alike hsuits
      · omega

end LongestRuns

/-- Where the scan stands behind some operations: with the runs that it has
    given out and the one that is open it has the longest runs so far, and only
    the open one reaches up to here. -/
structure Scanned (front : List FrameOp) (closed : List Bucket) (current : Option Bucket) :
    Prop where
  runs : LongestRuns front (closed ++ current.toList)
  closed : ∀ run ∈ closed, run.stop < front.length
  current : ∀ run ∈ current, run.stop = front.length

namespace Scanned

variable {front : List FrameOp} {op : FrameOp} {given : List Bucket} {current : Option Bucket}
  (h : Scanned front given current)
include h

/-- The last run reaches up to the end of what was scanned, or no run does. -/
theorem stop_le : ∀ run ∈ given ++ current.toList, run.stop < front.length + 1 := by
  intro run hrun
  exact Nat.lt_succ_of_le (h.runs.within run hrun).2

theorem skip (hop : ¬ op.Apart) : Scanned (front ++ [op]) (given ++ current.toList) none where
  runs := by
    rw [Option.toList_none, List.append_nil]
    exact h.runs.skip hop
  closed := by
    rw [List.length_append, List.length_singleton]
    exact h.stop_le
  current := by
    intro run hrun
    exact absurd hrun (Option.not_mem_none run)

theorem begin (hop : op.Apart) (hrefuses : ∀ run ∈ current, ¬ run.Suits op) :
    Scanned (front ++ [op]) (given ++ current.toList)
      (some (Bucket.single front.length op)) where
  runs := by
    refine h.runs.begin hop ?_
    intro n last hlast hfound hapart halike
    -- The neighbour is in a run that reaches up to here, which is the open one.
    rcases (h.runs.covered n last hfound).mpr hapart with ⟨run, hrun, hcovers⟩
    rcases List.mem_append.mp hrun with hclosed | hopen
    · have hlt := h.closed run hclosed
      have hbehind := hcovers.2
      omega
    · refine hrefuses run (Option.mem_toList.mp hopen) ?_
      exact (h.runs.suited run hrun n last hfound hcovers).of_alike halike
  closed := by
    rw [List.length_append, List.length_singleton]
    exact h.stop_le
  current := by
    intro run hrun
    rw [List.length_append, List.length_singleton, ← Option.some.inj hrun]
    rfl

theorem grow {run : Bucket} (hcurrent : current = some run) (hop : op.Apart)
    (hsuits : run.Suits op) :
    Scanned (front ++ [op]) given (some { run with stop := front.length + 1 }) where
  runs := by
    have hruns := h.runs
    rw [hcurrent] at hruns
    exact hruns.grow (h.current run hcurrent) hop hsuits
  closed := by
    intro other hother
    rw [List.length_append, List.length_singleton]
    exact Nat.lt_succ_of_lt (h.closed other hother)
  current := by
    intro other hother
    rw [List.length_append, List.length_singleton, ← Option.some.inj hother]

end Scanned

/-- From anywhere, the scan completes the runs. The induction is on what is
    still to be scanned. -/
theorem longestRuns_scan (front rest : List FrameOp) (closed : List Bucket)
    (current : Option Bucket) (h : Scanned front closed current) :
    LongestRuns (front ++ rest) (closed ++ Bucket.scan front.length current rest) := by
  induction rest generalizing front closed current with
  | nil =>
      rw [List.append_nil]
      exact h.runs
  | cons op rest ih =>
      have hlength : (front ++ [op]).length = front.length + 1 := by
        rw [List.length_append, List.length_singleton]
      -- Whatever is closed here is given out before what the scan goes on to find.
      have hgoes : ∀ given next, Scanned (front ++ [op]) given next →
          LongestRuns (front ++ op :: rest)
            (given ++ Bucket.scan (front.length + 1) next rest) := by
        intro given next hscanned
        have hnext := ih (front ++ [op]) given next hscanned
        rw [hlength, List.append_assoc, List.singleton_append] at hnext
        exact hnext
      unfold Bucket.scan
      by_cases happart : op.kind.recordsApart = true
      · rw [if_pos happart]
        rw [FrameOp.recordsApart_iff] at happart
        cases hcurrent : current with
        | none =>
            have hbegun := h.begin happart fun run hrun => by
              rw [hcurrent] at hrun
              exact absurd hrun (Option.not_mem_none run)
            rw [hcurrent, Option.toList_none, List.append_nil] at hbegun
            exact hgoes _ _ hbegun
        | some run =>
            simp only
            by_cases haccepts : run.accepts op = true
            · rw [if_pos haccepts]
              exact hgoes _ _ (h.grow hcurrent happart ((run.accepts_iff op).mp haccepts))
            · rw [if_neg haccepts]
              have hbegun := h.begin happart fun other hother => by
                rw [hcurrent] at hother
                rw [← Option.some.inj hother, ← run.accepts_iff op]
                exact haccepts
              have hnext := hgoes _ _ hbegun
              rw [hcurrent, Option.toList_some, List.append_assoc, List.singleton_append] at hnext
              exact hnext
      · rw [if_neg happart]
        rw [FrameOp.recordsApart_iff] at happart
        have hnext := hgoes _ _ (h.skip happart)
        rw [List.append_assoc] at hnext
        exact hnext

namespace LongestRuns

variable {ops : List FrameOp} {runs others : List Bucket}

/-- The run of a position has an operation there. -/
theorem exists_op (h : LongestRuns ops runs) {run : Bucket} (hrun : run ∈ runs) {n : Nat}
    (hcovers : run.Covers n) : ∃ op, ops[n]? = some op ∧ op.Apart := by
  have hwithin := h.within run hrun
  have hlt : n < ops.length := Nat.lt_of_lt_of_le hcovers.2 hwithin.2
  exact ⟨ops[n], List.getElem?_eq_getElem hlt,
    (h.covered n _ (List.getElem?_eq_getElem hlt)).mp ⟨run, hrun, hcovers⟩⟩

/-- A position is in one run only. -/
theorem eq_of_covers (h : LongestRuns ops runs) {first second : Bucket} (hfirst : first ∈ runs)
    (hsecond : second ∈ runs) {n : Nat} (hcoversFirst : first.Covers n)
    (hcoversSecond : second.Covers n) : first = second := by
  rcases List.mem_iff_getElem.mp hfirst with ⟨i, hi, rfl⟩
  rcases List.mem_iff_getElem.mp hsecond with ⟨j, hj, rfl⟩
  have hpairs := List.pairwise_iff_getElem.mp h.ascending
  unfold Bucket.Covers at hcoversFirst hcoversSecond
  rcases Nat.lt_trichotomy i j with hlt | rfl | hgt
  · have hle := hpairs i j hi hj hlt
    omega
  · rfl
  · have hle := hpairs j i hj hi hgt
    omega

/-- Neighbours in a run of one list are in one run of any other, since whether
    they are is up to the operations. -/
theorem covers_both (h : LongestRuns ops runs) (hother : LongestRuns ops others) {run : Bucket}
    (hrun : run ∈ runs) {n : Nat} (hcovers : run.Covers n) (hnext : run.Covers (n + 1)) :
    ∃ other ∈ others, other.Covers n ∧ other.Covers (n + 1) := by
  rcases h.exists_op hrun hcovers with ⟨first, hfirst, hapartFirst⟩
  rcases h.exists_op hrun hnext with ⟨second, hsecond, hapartSecond⟩
  refine (hother.joined n first second hfirst hsecond hapartFirst hapartSecond).mpr ?_
  exact (h.suited run hrun n first hfirst hcovers).alike
    (h.suited run hrun (n + 1) second hsecond hnext)

/-- A run of one list that shares a position with a run of another reaches no
    further than that. -/
theorem extends_of_covers (h : LongestRuns ops runs) (hother : LongestRuns ops others)
    {run other : Bucket} (hrun : run ∈ runs) (hmem : other ∈ others) {n : Nat}
    (hcovers : run.Covers n) (hshared : other.Covers n) :
    other.start ≤ run.start ∧ run.stop ≤ other.stop := by
  constructor
  · by_contra hnot
    -- Before its start the other run would have a neighbour that agrees.
    have hstart : run.start < other.start := Nat.lt_of_not_le hnot
    have hbefore : run.Covers (other.start - 1) ∧ run.Covers (other.start - 1 + 1) := by
      unfold Bucket.Covers at hcovers hshared ⊢
      omega
    have hown : other.Covers (other.start - 1 + 1) := by
      unfold Bucket.Covers at hshared ⊢
      omega
    rcases h.covers_both hother hrun hbefore.1 hbefore.2 with ⟨found, hfound, hfirst, hsecond⟩
    rw [hother.eq_of_covers hfound hmem hsecond hown] at hfirst
    have hle := hfirst.1
    omega
  · by_contra hnot
    have hstop : other.stop < run.stop := Nat.lt_of_not_le hnot
    have hbehind : run.Covers (other.stop - 1) ∧ run.Covers (other.stop - 1 + 1) := by
      unfold Bucket.Covers at hcovers hshared ⊢
      omega
    have hown : other.Covers (other.stop - 1) := by
      unfold Bucket.Covers at hshared ⊢
      omega
    rcases h.covers_both hother hrun hbehind.1 hbehind.2 with ⟨found, hfound, hfirst, hsecond⟩
    rw [hother.eq_of_covers hfound hmem hfirst hown] at hsecond
    have hlt := hsecond.2
    omega

/-- A run of one list of longest runs is a run of any other. -/
theorem mem_of_mem (h : LongestRuns ops runs) (hother : LongestRuns ops others) {run : Bucket}
    (hrun : run ∈ runs) : run ∈ others := by
  have hcovers : run.Covers run.start := ⟨Nat.le_refl _, (h.within run hrun).1⟩
  rcases h.exists_op hrun hcovers with ⟨op, hop, happart⟩
  rcases (hother.covered run.start op hop).mpr happart with ⟨other, hmem, hshared⟩
  have hinside := h.extends_of_covers hother hrun hmem hcovers hshared
  have houtside := hother.extends_of_covers h hmem hrun hshared hcovers
  have hfits := h.suited run hrun run.start op hop hcovers
  have hfitsOther := hother.suited other hmem run.start op hop hshared
  have hsame : run = other := by
    rcases run with ⟨start, stop, kind, pass, context⟩
    rcases other with ⟨start', stop', kind', pass', context'⟩
    simp only at hinside houtside
    simp only [Bucket.mk.injEq]
    exact ⟨by omega, by omega, hfits.1.trans hfitsOther.1.symm,
      hfits.2.1.trans hfitsOther.2.1.symm, hfits.2.2.trans hfitsOther.2.2.symm⟩
  rw [hsame]
  exact hmem

/-- Longest runs start one behind the other. -/
theorem pairwise_start (h : LongestRuns ops runs) :
    runs.Pairwise fun first second => first.start < second.start := by
  refine h.ascending.imp_of_mem ?_
  intro first second hfirst _ hle
  exact Nat.lt_of_lt_of_le (h.within first hfirst).1 hle

/-- There is one list of longest runs only. -/
theorem eq_of_longestRuns (h : LongestRuns ops runs) (hother : LongestRuns ops others) :
    runs = others := by
  have hnodup : ∀ list : List Bucket,
      (list.Pairwise fun first second => first.start < second.start) → list.Nodup := by
    intro list hstart
    refine hstart.imp ?_
    intro first second hlt hsame
    exact Nat.ne_of_lt hlt (congrArg Bucket.start hsame)
  have hperm : runs.Perm others := by
    rw [List.perm_ext_iff_of_nodup (hnodup _ h.pairwise_start) (hnodup _ hother.pairwise_start)]
    intro run
    exact ⟨h.mem_of_mem hother, hother.mem_of_mem h⟩
  refine hperm.eq_of_pairwise ?_ h.pairwise_start hother.pairwise_start
  intro first second _ _ hlt hgt
  exact absurd hgt (Nat.lt_asymm hlt)

end LongestRuns

/-- The buckets are the longest runs of the operations, and nothing else is. -/
theorem buckets_longestRuns (ops : List FrameOp) :
    LongestRuns ops (buckets ops) ∧ ∀ runs, LongestRuns ops runs → runs = buckets ops := by
  have hempty : LongestRuns [] [] := by
    refine ⟨?_, List.Pairwise.nil, ?_, ?_, ?_⟩
    · intro run hrun
      exact absurd hrun List.not_mem_nil
    · intro n op hop
      exact absurd hop.symm (Option.some_ne_none op)
    · intro run hrun
      exact absurd hrun List.not_mem_nil
    · intro n first second hfirst
      exact absurd hfirst.symm (Option.some_ne_none first)
  have hscan : LongestRuns ops (buckets ops) := by
    refine longestRuns_scan [] ops [] none ⟨hempty, ?_, ?_⟩
    · intro run hrun
      exact absurd hrun List.not_mem_nil
    · intro run hrun
      exact absurd hrun (Option.not_mem_none run)
  exact ⟨hscan, fun runs h => h.eq_of_longestRuns hscan⟩

/-- Another pass, a clear in between and another context each part a run. -/
example :
    let dispatch (pass : PassIndex) (identity : UInt64) : FrameOp :=
      ⟨pass, ⟨identity, .offscreen 0⟩, .dispatch ⟨0, 8, 8, 1⟩⟩
    let clear : FrameOp :=
      ⟨1, ⟨1, .offscreen 0⟩, .clear ⟨true, false, false, ⟨0, 0, 0, 0⟩, 0, 0, ⟨0, 0, 8, 8⟩⟩⟩
    (buckets [dispatch 0 1, dispatch 0 1, dispatch 1 1, clear, dispatch 1 1, dispatch 1 2]).map
        (fun bucket => (bucket.start, bucket.stop))
      = [(0, 2), (2, 3), (4, 5), (5, 6)] := by
  decide

end FrameGraph
