import FrameGraph.Compilation.Basic
import FrameGraph.Proofs.Placement
import Mathlib.Data.Set.Function

/-!
# The Order of a Compilation

When passes compile, and what the order they get is worth. A compilation
exists exactly if no index is declared twice and the passes do not depend on
one another in a circle; of the two failures a repeated index is reported
first. The order it gives is a rearrangement of the passes, ranks number it
without gaps, a pass that writes a resource runs before every pass that only
reads it, and the writers of a resource stay in order of declaration.

Positions are the way there. The dependency graph speaks of positions in the
declaration, and the sort answers with a list of them; `compile_eq_ok_iff`
splits a compilation into that list and the passes read off it. Since indices
are distinct, the rank of a pass is the place of its position in the list
(`rank?_of_position`), and every statement about ranks becomes one about
`idxOf`, which is where the sort's theorems live.

## Main definitions

* `Compiled.Before`: One index has a smaller rank than another.
* `declaredBackwards`: Passes whose order is not that of their declaration.

## Theorems

* `firstRepeated?_eq_none_iff`: No index is repeated.
* `firstRepeated?_append`: The first pass whose index came before.
* `compile_eq_ok_iff`: A compilation is an order of positions, read off.
* `filterMap_range_getElem?`: Reading off all positions gives the passes.
* `rank?_eq_none_iff`: Only declared indices have a rank.
* `Compiled.before_of_split`, `Compiled.before_of_mem_between`,
  `Compiled.exists_split`: Ranks as places to cut the order at.
* `rank?_of_position`: The rank of a pass is the place of its position.
* `exists_compile_iff`: When passes compile.
* `compile_order_perm`, `compile_rank?_bijOn`: The order has the passes once
  each, and ranks number it without gaps.
* `compile_writer_before_reader`, `compile_writers_pairwise`: What a resource
  asks of the order.
* `compile_order`: When passes compile, and the order they get.
-/

namespace FrameGraph

open Gpu

/-- No pass is found exactly if the indices differ from one another and from
    those already seen. -/
theorem firstRepeated?_eq_none_iff (seen : List PassIndex) (passes : List Pass) :
    firstRepeated? seen passes = none
      ↔ (passes.map Pass.index).Nodup ∧ ∀ pass ∈ passes, pass.index ∉ seen := by
  induction passes generalizing seen with
  | nil =>
      simp only [firstRepeated?, List.map_nil, List.nodup_nil, List.not_mem_nil, false_implies,
        implies_true, and_self]
  | cons pass rest ih =>
      by_cases h : pass.index ∈ seen
      · -- The search ends at this pass, and it is the witness on the other side.
        have hfound : firstRepeated? seen (pass :: rest) = some pass :=
          if_pos (List.contains_iff_mem.mpr h)
        simp only [hfound, reduceCtorEq, false_iff, not_and, not_forall, not_not]
        intro _
        exact ⟨pass, List.mem_cons_self, h⟩
      · have hnext : firstRepeated? seen (pass :: rest)
            = firstRepeated? (pass.index :: seen) rest :=
          if_neg fun hc => h (List.contains_iff_mem.mp hc)
        rw [hnext, ih, List.map_cons, List.nodup_cons, List.forall_mem_cons]
        constructor
        · rintro ⟨hnodup, hfresh⟩
          refine ⟨⟨?_, hnodup⟩, h, ?_⟩
          · intro hmem
            rcases List.mem_map.mp hmem with ⟨other, hother, heq⟩
            exact hfresh other hother (List.mem_cons.mpr (Or.inl heq))
          · intro other hother hseen
            exact hfresh other hother (List.mem_cons_of_mem _ hseen)
        · rintro ⟨⟨hnew, hnodup⟩, _, hfresh⟩
          refine ⟨hnodup, ?_⟩
          intro other hother hmem
          rcases List.mem_cons.mp hmem with heq | hseen
          · exact hnew (List.mem_map.mpr ⟨other, hother, heq⟩)
          · exact hfresh other hother hseen

/-- Behind passes with indices of their own, a pass whose index came before
    is the one that is found. -/
theorem firstRepeated?_append (seen : List PassIndex) (before : List Pass) (pass : Pass)
    (after : List Pass) (hnodup : (before.map Pass.index).Nodup)
    (hfresh : ∀ other ∈ before, other.index ∉ seen)
    (hrepeats : pass.index ∈ seen ∨ pass.index ∈ before.map Pass.index) :
    firstRepeated? seen (before ++ pass :: after) = some pass := by
  induction before generalizing seen with
  | nil =>
      rw [List.map_nil] at hrepeats
      have hseen : pass.index ∈ seen := hrepeats.resolve_right List.not_mem_nil
      exact if_pos (List.contains_iff_mem.mpr hseen)
  | cons first rest ih =>
      rw [List.map_cons, List.nodup_cons] at hnodup
      rw [List.forall_mem_cons] at hfresh
      have hnext : firstRepeated? seen (first :: rest ++ pass :: after)
          = firstRepeated? (first.index :: seen) (rest ++ pass :: after) :=
        if_neg fun hc => hfresh.1 (List.contains_iff_mem.mp hc)
      rw [hnext]
      refine ih (first.index :: seen) hnodup.2 ?_ ?_
      · intro other hother hmem
        rcases List.mem_cons.mp hmem with heq | hseen
        · exact hnodup.1 (List.mem_map.mpr ⟨other, hother, heq⟩)
        · exact hfresh.2 other hother hseen
      · rcases hrepeats with hseen | hmem
        · exact Or.inl (List.mem_cons_of_mem _ hseen)
        · rw [List.map_cons, List.mem_cons] at hmem
          rcases hmem with heq | hmem
          · exact Or.inl (List.mem_cons.mpr (Or.inl heq))
          · exact Or.inr hmem

/-- A repeated index is reported, whatever else is wrong with the passes. -/
theorem compile_of_repeated (before : List Pass) (pass : Pass) (after : List Pass)
    (hnodup : (before.map Pass.index).Nodup) (hrepeats : pass.index ∈ before.map Pass.index) :
    compile (before ++ pass :: after) = .error (.duplicatePassIndex pass.index) := by
  have hfound := firstRepeated?_append [] before pass after hnodup
    (fun _ _ => List.not_mem_nil) (Or.inr hrepeats)
  have hne : (before ++ pass :: after).isEmpty = false := by
    rw [List.isEmpty_eq_false_iff]
    exact List.append_ne_nil_of_right_ne_nil _ (List.cons_ne_nil _ _)
  simp only [compile, hne, Bool.false_eq_true, if_false, hfound]

/-- A compilation is an order of positions and what follows from the passes
    read off it. The compilation of no passes is no exception. -/
theorem compile_eq_ok_iff (passes : List Pass) (compiled : Compiled) :
    compile passes = .ok compiled
      ↔ (passes.map Pass.index).Nodup ∧ ∃ placed, (dependencies passes).order = .ok placed
        ∧ compiled = Compiled.ofOrder (placed.filterMap fun position => passes[position]?) := by
  cases passes with
  | nil =>
      have horder : (dependencies []).order = .ok [] := rfl
      simp only [compile, List.isEmpty_nil, if_true, Except.ok.injEq, List.map_nil,
        List.nodup_nil, true_and, horder, exists_eq_left', List.filterMap_nil]
      exact eq_comm
  | cons first rest =>
      have hsome := firstRepeated?_eq_none_iff [] (first :: rest)
      simp only [List.not_mem_nil, not_false_eq_true, implies_true, and_true] at hsome
      rw [← hsome]
      unfold compile
      rw [List.isEmpty_cons, if_neg Bool.false_ne_true]
      cases hrepeated : firstRepeated? [] (first :: rest) with
      | some pass => simp only [reduceCtorEq, false_and]
      | none =>
          cases horder : (dependencies (first :: rest)).order with
          | error stuck => simp only [reduceCtorEq, false_and, exists_false, and_false]
          | ok placed =>
              simp only [Except.ok.injEq, true_and, exists_eq_left']
              exact eq_comm

/-- Reading off every position in order gives the passes back. -/
theorem filterMap_range_getElem? {α : Type} (xs : List α) :
    (List.range xs.length).filterMap (fun i => xs[i]?) = xs := by
  induction xs with
  | nil => rfl
  | cons x rest ih =>
      rw [List.length_cons, List.range_succ_eq_map, List.filterMap_cons, List.getElem?_cons_zero,
        List.filterMap_map]
      exact congrArg (x :: ·) ih

/-- Positions that are a rearrangement of all positions read off a
    rearrangement of the passes. -/
theorem perm_of_positions (passes : List Pass) (placed : List Nat)
    (h : placed.Perm (List.range passes.length)) :
    (placed.filterMap fun position => passes[position]?).Perm passes := by
  have hperm := h.filterMap fun position => passes[position]?
  rwa [filterMap_range_getElem?] at hperm

namespace Compiled

/-- One index has a smaller rank than another. -/
def Before (compiled : Compiled) (first second : PassIndex) : Prop :=
  ∃ i j, compiled.rank? first = some i ∧ compiled.rank? second = some j ∧ i < j

theorem rank?_eq_none_iff (compiled : Compiled) (index : PassIndex) :
    compiled.rank? index = none ↔ ∀ pass ∈ compiled.order, pass.index ≠ index := by
  unfold rank?
  rw [List.findIdx?_eq_none_iff]
  simp only [decide_eq_false_iff_not, ne_eq]

theorem rank?_lt_length (compiled : Compiled) {index : PassIndex} {rank : Nat}
    (h : compiled.rank? index = some rank) : rank < compiled.order.length := by
  unfold rank? at h
  rw [List.findIdx?_eq_some_iff_getElem] at h
  exact h.1

/-- Two indices of one rank are the same index. -/
theorem rank?_injective (compiled : Compiled) {first second : PassIndex} {rank : Nat}
    (h1 : compiled.rank? first = some rank) (h2 : compiled.rank? second = some rank) :
    first = second := by
  unfold rank? at h1 h2
  rw [List.findIdx?_eq_some_iff_getElem] at h1 h2
  rcases h1 with ⟨_, hfirst, _⟩
  rcases h2 with ⟨_, hsecond, _⟩
  rw [decide_eq_true_eq] at hfirst hsecond
  exact hfirst.symm.trans hsecond

/-- Among passes with indices of their own, the index at a place has that
    place as its rank. -/
theorem rank?_getElem (compiled : Compiled) (hnodup : (compiled.order.map Pass.index).Nodup)
    (rank : Nat) (h : rank < compiled.order.length) :
    compiled.rank? compiled.order[rank].index = some rank := by
  unfold rank?
  rw [List.findIdx?_eq_some_iff_getElem]
  refine ⟨h, decide_eq_true rfl, ?_⟩
  -- An earlier place with this index would repeat it.
  intro earlier hlt hsame
  rw [decide_eq_true_eq] at hsame
  have hindex : (compiled.order.map Pass.index)[earlier]?
      = (compiled.order.map Pass.index)[rank]? := by
    rw [List.getElem?_map, List.getElem?_map, List.getElem?_eq_getElem (hlt.trans h),
      List.getElem?_eq_getElem h, Option.map_some, Option.map_some, hsame]
  have hbound : earlier < (compiled.order.map Pass.index).length := by
    rw [List.length_map]
    omega
  have := (List.getElem?_inj hbound hnodup).mp hindex
  omega

/-- No index is before one that is before it. -/
theorem Before.asymm {compiled : Compiled} {first second : PassIndex}
    (h : compiled.Before first second) : ¬ compiled.Before second first := by
  rintro ⟨k, l, hk, hl, hlt⟩
  rcases h with ⟨i, j, hi, hj, hij⟩
  rw [hi, Option.some.injEq] at hl
  rw [hj, Option.some.injEq] at hk
  omega

/-- Who comes first in the order has the smaller rank. -/
theorem before_of_split (compiled : Compiled) (hnodup : (compiled.order.map Pass.index).Nodup)
    (before : List Pass) (first : Pass) (between : List Pass) (second : Pass) (after : List Pass)
    (horder : compiled.order = before ++ first :: (between ++ second :: after)) :
    compiled.Before first.index second.index := by
  have hfirst : compiled.order[before.length]? = some first := by
    rw [horder, List.getElem?_append_right (Nat.le_refl _), Nat.sub_self, List.getElem?_cons_zero]
  have hsecond : compiled.order[before.length + (between.length + 1)]? = some second := by
    rw [horder, List.getElem?_append_right (Nat.le_add_right _ _), Nat.add_sub_cancel_left,
      List.getElem?_cons_succ, List.getElem?_append_right (Nat.le_refl _), Nat.sub_self,
      List.getElem?_cons_zero]
  rcases List.getElem?_eq_some_iff.mp hfirst with ⟨hltFirst, hgetFirst⟩
  rcases List.getElem?_eq_some_iff.mp hsecond with ⟨hltSecond, hgetSecond⟩
  have hrankFirst := compiled.rank?_getElem hnodup _ hltFirst
  have hrankSecond := compiled.rank?_getElem hnodup _ hltSecond
  rw [hgetFirst] at hrankFirst
  rw [hgetSecond] at hrankSecond
  exact ⟨_, _, hrankFirst, hrankSecond, by omega⟩

/-- What stands between two passes of the order has a rank between theirs. -/
theorem before_of_mem_between (compiled : Compiled)
    (hnodup : (compiled.order.map Pass.index).Nodup) (before : List Pass) (first : Pass)
    (between : List Pass) (second : Pass) (after : List Pass)
    (horder : compiled.order = before ++ first :: (between ++ second :: after)) (pass : Pass)
    (hpass : pass ∈ between) :
    compiled.Before first.index pass.index ∧ compiled.Before pass.index second.index := by
  rcases List.append_of_mem hpass with ⟨front, back, rfl⟩
  constructor
  · refine compiled.before_of_split hnodup before first front pass (back ++ second :: after) ?_
    rw [horder, List.append_assoc, List.cons_append]
  · refine compiled.before_of_split hnodup (before ++ first :: front) pass back second after ?_
    simp only [horder, List.append_assoc, List.cons_append]

/-- The order can be cut at two of its passes, the one before the other. -/
theorem exists_split (compiled : Compiled) (hnodup : (compiled.order.map Pass.index).Nodup)
    (first second : Pass) (hfirst : first ∈ compiled.order) (hsecond : second ∈ compiled.order)
    (hbefore : compiled.Before first.index second.index) :
    ∃ before between after, compiled.order = before ++ first :: (between ++ second :: after) := by
  rcases List.append_of_mem hfirst with ⟨before, rest, horder⟩
  have hplace : second ∈ before ++ first :: rest := horder ▸ hsecond
  rcases List.mem_append.mp hplace with hearlier | hhere
  · -- Cut the other way round, the ranks would be too.
    rcases List.append_of_mem hearlier with ⟨front, back, rfl⟩
    rw [List.append_assoc, List.cons_append] at horder
    exact absurd (compiled.before_of_split hnodup front second back first rest horder)
      hbefore.asymm
  · rcases List.mem_cons.mp hhere with rfl | hlater
    · exact absurd hbefore hbefore.asymm
    · rcases List.append_of_mem hlater with ⟨between, after, rfl⟩
      exact ⟨before, between, after, horder⟩

/-- The rank of a pass is the place of its position. The induction is on the
    positions: an earlier place has another position, so another index. -/
theorem rank?_of_position (passes : List Pass) (hnodup : (passes.map Pass.index).Nodup)
    (placed : List Nat) (hbound : ∀ position ∈ placed, position < passes.length)
    (position : Nat) (hmem : position ∈ placed) (pass : Pass)
    (hget : passes[position]? = some pass) :
    (placed.filterMap fun position => passes[position]?).findIdx?
      (fun other => other.index = pass.index) = some (placed.idxOf position) := by
  induction placed with
  | nil => exact absurd hmem List.not_mem_nil
  | cons first rest ih =>
      rw [List.forall_mem_cons] at hbound
      have hfirst : passes[first]? = some passes[first] := List.getElem?_eq_getElem hbound.1
      rw [List.filterMap_cons_some hfirst, List.findIdx?_cons]
      -- The scan for the index and the scan for the position stop together.
      by_cases heq : first = position
      · subst heq
        rw [hfirst, Option.some.injEq] at hget
        rw [hget, decide_eq_true rfl, if_pos rfl, List.idxOf_cons_self]
      · have hindex : ¬ passes[first].index = pass.index := by
          intro hsame
          have hmap : (passes.map Pass.index)[first]? = (passes.map Pass.index)[position]? := by
            rw [List.getElem?_map, List.getElem?_map, hget, hfirst, Option.map_some,
              Option.map_some, hsame]
          have hlt : first < (passes.map Pass.index).length := by
            rw [List.length_map]
            exact hbound.1
          exact heq ((List.getElem?_inj hlt hnodup).mp hmap)
        rw [decide_eq_false hindex, if_neg Bool.false_ne_true,
          ih hbound.2 ((List.mem_cons.mp hmem).resolve_left (Ne.symm heq)),
          List.idxOf_cons_ne _ heq]
        rfl

end Compiled

/-- Joined positions are positions of passes. -/
theorem depends_lt_size (passes : List Pass) (u v : Nat)
    (h : (dependencies passes).Joined u v) :
    u < (dependencies passes).size ∧ v < (dependencies passes).size := by
  rw [size_dependencies]
  rcases (joined_dependencies passes u v).mp h with ⟨resource, hp⟩
  exact Precedes.lt_length passes resource hp

theorem acyclic_joined_iff (passes : List Pass) :
    Acyclic (dependencies passes).Joined ↔ Acyclic (Depends passes) := by
  have heq : (dependencies passes).Joined = Depends passes := by
    funext u v
    exact propext (joined_dependencies passes u v)
  rw [heq]

/-- Of two positions on a path, the index at the first has the smaller rank. -/
theorem before_of_transGen (passes : List Pass) (compiled : Compiled)
    (h : compile passes = .ok compiled) (u v : Nat) (p q : Pass)
    (hu : passes[u]? = some p) (hv : passes[v]? = some q)
    (hpath : Relation.TransGen (Depends passes) u v) : compiled.Before p.index q.index := by
  rcases (compile_eq_ok_iff passes compiled).mp h with ⟨hnodup, placed, horder, rfl⟩
  have hperm := DependencyGraph.order_perm _ horder
  rw [size_dependencies] at hperm
  have hbound : ∀ position ∈ placed, position < passes.length :=
    fun position hmem => List.mem_range.mp (hperm.mem_iff.mp hmem)
  have hplaced : ∀ position, position < passes.length → position ∈ placed :=
    fun position hlt => hperm.mem_iff.mpr (List.mem_range.mpr hlt)
  have hjoined : Relation.TransGen (dependencies passes).Joined u v :=
    Relation.TransGen.mono (fun a b hab => (joined_dependencies passes a b).mpr hab) _ _ hpath
  -- Ranks are places of positions, and places are what the sort orders.
  refine ⟨placed.idxOf u, placed.idxOf v, ?_, ?_, ?_⟩
  · exact Compiled.rank?_of_position passes hnodup placed hbound u
      (hplaced u (List.getElem?_eq_some_iff.mp hu).1) p hu
  · exact Compiled.rank?_of_position passes hnodup placed hbound v
      (hplaced v (List.getElem?_eq_some_iff.mp hv).1) q hv
  · exact DependencyGraph.order_before_of_transGen _ (depends_lt_size passes) horder u v hjoined

/-- What compiles keeps its passes. -/
theorem compile_order_perm (passes : List Pass) (compiled : Compiled)
    (h : compile passes = .ok compiled) : compiled.order.Perm passes := by
  rcases (compile_eq_ok_iff passes compiled).mp h with ⟨_, placed, horder, rfl⟩
  have hperm := DependencyGraph.order_perm _ horder
  rw [size_dependencies] at hperm
  exact perm_of_positions passes placed hperm

/-- The indices in the order are distinct. -/
theorem compile_order_nodup (passes : List Pass) (compiled : Compiled)
    (h : compile passes = .ok compiled) : (compiled.order.map Pass.index).Nodup :=
  ((compile_order_perm passes compiled h).map Pass.index).nodup_iff.mpr
    ((compile_eq_ok_iff passes compiled).mp h).1

/-- Passes compile exactly if their indices differ and they do not depend on
    one another in a circle. -/
theorem exists_compile_iff (passes : List Pass) :
    (∃ compiled, compile passes = .ok compiled)
      ↔ (passes.map Pass.index).Nodup ∧ Acyclic (Depends passes) := by
  rw [← acyclic_joined_iff, ← DependencyGraph.exists_order_iff _ (depends_lt_size passes)]
  constructor
  · rintro ⟨compiled, h⟩
    rcases (compile_eq_ok_iff passes compiled).mp h with ⟨hnodup, placed, horder, _⟩
    exact ⟨hnodup, placed, horder⟩
  · rintro ⟨hnodup, placed, horder⟩
    exact ⟨_, (compile_eq_ok_iff passes _).mpr ⟨hnodup, placed, horder, rfl⟩⟩

/-- Ranks map the declared indices one to one onto the numbers below their
    count. -/
theorem compile_rank?_bijOn (passes : List Pass) (compiled : Compiled)
    (h : compile passes = .ok compiled) :
    Set.BijOn compiled.rank? {index | ∃ pass ∈ passes, pass.index = index}
      (some '' {rank | rank < passes.length}) := by
  have hperm := compile_order_perm passes compiled h
  have hnodup := compile_order_nodup passes compiled h
  -- No rank at all means that no pass of the order has the index.
  have hranked : ∀ pass ∈ passes, compiled.rank? pass.index ≠ none := by
    intro pass hpass hnone
    exact (compiled.rank?_eq_none_iff pass.index).mp hnone pass (hperm.mem_iff.mpr hpass) rfl
  refine ⟨?_, ?_, ?_⟩
  · rintro index ⟨pass, hpass, rfl⟩
    rcases Option.ne_none_iff_exists'.mp (hranked pass hpass) with ⟨rank, hrank⟩
    have hlt := compiled.rank?_lt_length hrank
    rw [hperm.length_eq] at hlt
    exact ⟨rank, hlt, hrank.symm⟩
  · rintro first ⟨pass, hpass, rfl⟩ second _ hsame
    rcases Option.ne_none_iff_exists'.mp (hranked pass hpass) with ⟨rank, hrank⟩
    exact compiled.rank?_injective hrank (hsame ▸ hrank)
  · -- A number below the count is the rank of the pass at that place.
    rintro _ ⟨rank, hrank, rfl⟩
    change rank < passes.length at hrank
    rw [← hperm.length_eq] at hrank
    exact ⟨_, ⟨_, hperm.mem_iff.mp (List.getElem_mem hrank), rfl⟩,
      compiled.rank?_getElem hnodup rank hrank⟩

/-- Who writes a resource runs before who only reads it. -/
theorem compile_writer_before_reader (passes : List Pass) (compiled : Compiled)
    (h : compile passes = .ok compiled) (writer reader : Pass) (hwriter : writer ∈ passes)
    (hreader : reader ∈ passes) (resource : String) (hwrites : writer.writes resource = true)
    (huses : reader.uses resource = true) (hreads : reader.writes resource = false) :
    compiled.Before writer.index reader.index := by
  rcases List.mem_iff_getElem?.mp hwriter with ⟨u, hgetu⟩
  rcases List.mem_iff_getElem?.mp hreader with ⟨v, hgetv⟩
  have hedge : Depends passes u v :=
    ⟨resource, Or.inr ⟨⟨writer, hgetu, hwrites⟩, ⟨reader, hgetv, huses, hreads⟩⟩⟩
  exact before_of_transGen passes compiled h u v writer reader hgetu hgetv
    (Relation.TransGen.single hedge)

/-- The writers of a resource run in order of declaration. -/
theorem compile_writers_pairwise (passes : List Pass) (compiled : Compiled)
    (h : compile passes = .ok compiled) :
    passes.Pairwise fun first second => ∀ resource, first.writes resource = true →
      second.writes resource = true → compiled.Before first.index second.index := by
  rw [List.pairwise_iff_getElem]
  intro u v hu hv hlt resource hwritesu hwritesv
  have hgetu := List.getElem?_eq_getElem hu
  have hgetv := List.getElem?_eq_getElem hv
  -- Neighbouring writers have an edge, so any two of them have a path.
  have hpath := transGen_of_writers passes resource (v - u) u v hlt (Nat.le_refl _)
    ⟨_, hgetu, hwritesu⟩ ⟨_, hgetv, hwritesv⟩
  exact before_of_transGen passes compiled h u v _ _ hgetu hgetv hpath

/-- Passes compile exactly if their indices differ and they do not depend on
    one another in a circle, and a repeated index is reported before a
    circle. The order of a compilation has the passes once each; ranks map
    the declared indices one to one onto the numbers below their count; and
    what a resource asks for holds: who writes it runs before who only reads
    it, and its writers run in order of declaration. -/
theorem compile_order (passes : List Pass) :
    ((∃ compiled, compile passes = .ok compiled)
      ↔ (passes.map Pass.index).Nodup ∧ Acyclic (Depends passes))
    ∧ (∀ before pass after, passes = before ++ pass :: after →
        (before.map Pass.index).Nodup → pass.index ∈ before.map Pass.index →
        compile passes = .error (.duplicatePassIndex pass.index))
    ∧ ∀ compiled, compile passes = .ok compiled →
        compiled.order.Perm passes
        ∧ Set.BijOn compiled.rank? {index | ∃ pass ∈ passes, pass.index = index}
            (some '' {rank | rank < passes.length})
        ∧ (∀ index, (∀ pass ∈ passes, pass.index ≠ index) → compiled.rank? index = none)
        ∧ (∀ writer ∈ passes, ∀ reader ∈ passes, ∀ resource, writer.writes resource = true →
            reader.uses resource = true → reader.writes resource = false →
            compiled.Before writer.index reader.index)
        ∧ passes.Pairwise fun first second => ∀ resource, first.writes resource = true →
            second.writes resource = true → compiled.Before first.index second.index := by
  refine ⟨exists_compile_iff passes, ?_, ?_⟩
  · rintro before pass after rfl hnodup hrepeats
    exact compile_of_repeated before pass after hnodup hrepeats
  · intro compiled h
    have hperm := compile_order_perm passes compiled h
    refine ⟨hperm, compile_rank?_bijOn passes compiled h, ?_, ?_,
      compile_writers_pairwise passes compiled h⟩
    · intro index hnone
      rw [compiled.rank?_eq_none_iff]
      exact fun pass hpass => hnone pass (hperm.mem_iff.mp hpass)
    · intro writer hwriter reader hreader resource hwrites huses hreads
      exact compile_writer_before_reader passes compiled h writer reader hwriter hreader resource
        hwrites huses hreads

/-- Three passes that are declared last to first: the third samples what the
    second draws, and the second samples what the first draws. -/
def declaredBackwards : List Pass := [
  ⟨30, "post", .compute, [Usage.plain .read .sampledImage "color"]⟩,
  ⟨20, "shade", .graphics, [Usage.plain .read .sampledImage "depth",
    Usage.attachment .colorAttachment "color" LoadOp.clear StoreOp.store]⟩,
  ⟨10, "depth", .graphics,
    [Usage.attachment .depthStencilAttachment "depth" LoadOp.clear StoreOp.store]⟩]

/-- They run first to last. -/
theorem compile_order_backwards :
    ∃ compiled, compile declaredBackwards = .ok compiled
      ∧ compiled.order.map Pass.index = [10, 20, 30]
      ∧ compiled.Before 10 20 ∧ compiled.Before 20 30 := by
  have hcompile : compile declaredBackwards = .ok (Compiled.ofOrder declaredBackwards.reverse) := by
    rfl
  rcases (compile_order declaredBackwards).2.2 _ hcompile with ⟨_, _, _, hreads, _⟩
  refine ⟨_, hcompile, rfl, ?_, ?_⟩
  · exact hreads declaredBackwards[2] (by decide) declaredBackwards[1] (by decide) "depth"
      (by decide) (by decide) (by decide)
  · exact hreads declaredBackwards[1] (by decide) declaredBackwards[0] (by decide) "color"
      (by decide) (by decide) (by decide)

end FrameGraph
