import FrameGraph.Gpu.Barrier
import Mathlib.Data.List.Induction
import Mathlib.Logic.Basic

/-!
# Scopes as Sets

A scope is two words with one bit for each stage and each access, and this
module says how these words behave as sets: which scope is a part of which,
what a union has and what it lacks. A union writes if one of its parts does,
and it includes all of them, so a barrier out of a union of uses waits for
every one of these uses.

## Main definitions

* `Scope.Includes`: Every stage and access of one scope is in the other.
* `Scope.unionAll`: The union of several scopes.

## Theorems

* `Scope.includes_refl`: A scope includes itself.
* `Scope.includes_union_left`, `Scope.includes_union_right`: A union includes
  its parts.
* `Scope.writes_union`: A union writes if one of its parts does.
* `Scope.empty_union`: The empty scope adds nothing.
* `Scope.includes_unionAll`: The union of several scopes includes each.
* `Scope.unionAll_cons_of_includes`: What the first includes adds nothing.
* `Scope.writes_unionAll`: It writes if one of them does.
-/

namespace FrameGraph.Gpu

theorem or_and_of_and {a c : UInt64} (b : UInt64) (h : a &&& c = c) : (a ||| b) &&& c = c := by
  rw [← UInt64.toBitVec_inj] at h ⊢
  simp only [UInt64.toBitVec_and, UInt64.toBitVec_or] at h ⊢
  ext i hi
  have hbit := congrArg (fun word => word[i]) h
  simp only [BitVec.getElem_and, BitVec.getElem_or] at hbit ⊢
  rw [Bool.and_or_distrib_right, hbit]
  cases c.toBitVec[i] <;> simp only [Bool.and_false, Bool.and_true, Bool.or_false, Bool.true_or]

theorem or_and_ne_zero_iff (a b mask : UInt64) :
    (a ||| b) &&& mask ≠ 0 ↔ a &&& mask ≠ 0 ∨ b &&& mask ≠ 0 := by
  -- Bit by bit, a mask passes over a union.
  have hdistrib : (a ||| b) &&& mask = (a &&& mask) ||| (b &&& mask) := by
    apply UInt64.toBitVec_inj.mp
    simp only [UInt64.toBitVec_and, UInt64.toBitVec_or]
    ext i hi
    simp only [BitVec.getElem_and, BitVec.getElem_or, Bool.and_or_distrib_right]
  rw [hdistrib, ne_eq, UInt64.or_eq_zero_iff, not_and_or]

namespace Scope

/-- Every stage and every access of the second scope is in the first. -/
def Includes (scope part : Scope) : Prop :=
  scope.stages &&& part.stages = part.stages ∧ scope.access &&& part.access = part.access

instance (scope part : Scope) : Decidable (scope.Includes part) :=
  inferInstanceAs (Decidable (_ ∧ _))

theorem includes_refl (scope : Scope) : scope.Includes scope :=
  ⟨UInt64.and_self, UInt64.and_self⟩

theorem includes_union_of_left {a c : Scope} (b : Scope) (h : a.Includes c) :
    (a.union b).Includes c :=
  ⟨or_and_of_and b.stages h.1, or_and_of_and b.access h.2⟩

theorem union_comm (a b : Scope) : a.union b = b.union a := by
  unfold union
  rw [UInt64.or_comm, UInt64.or_comm a.access]

theorem includes_union_left (a b : Scope) : (a.union b).Includes a :=
  includes_union_of_left b (includes_refl a)

theorem includes_union_right (a b : Scope) : (a.union b).Includes b := by
  rw [union_comm]
  exact includes_union_left b a

/-- A scope gains nothing from one that it includes. -/
theorem union_eq_left {a b : Scope} (h : a.Includes b) : a.union b = a := by
  have hword : ∀ x y : UInt64, x &&& y = y → x ||| y = x := by
    intro x y hxy
    rw [← hxy]
    apply UInt64.toBitVec_inj.mp
    simp only [UInt64.toBitVec_and, UInt64.toBitVec_or]
    ext i hi
    simp only [BitVec.getElem_and, BitVec.getElem_or]
    cases x.toBitVec[i] <;> simp only [Bool.false_and, Bool.or_false, Bool.true_or]
  unfold union
  rw [hword _ _ h.1, hword _ _ h.2]

theorem writes_iff (scope : Scope) :
    scope.writes = true ↔ scope.access &&& AccessMask.writing ≠ 0 := by
  unfold writes
  rw [bne_iff_ne]

/-- A union writes if one of its parts does. -/
theorem writes_union (a b : Scope) :
    (a.union b).writes = true ↔ a.writes = true ∨ b.writes = true := by
  rw [writes_iff, writes_iff, writes_iff]
  exact or_and_ne_zero_iff a.access b.access AccessMask.writing

theorem empty_union (scope : Scope) : Scope.empty.union scope = scope := by
  unfold union empty
  rw [UInt64.zero_or, UInt64.zero_or]

theorem writes_empty : Scope.empty.writes = false := rfl

/-- The stages and accesses of several scopes. -/
def unionAll (scopes : List Scope) : Scope := scopes.foldl union empty

theorem unionAll_singleton (scope : Scope) : unionAll [scope] = scope := empty_union scope

theorem unionAll_append (scopes : List Scope) (scope : Scope) :
    unionAll (scopes ++ [scope]) = (unionAll scopes).union scope := by
  unfold unionAll
  rw [List.foldl_append, List.foldl_cons, List.foldl_nil]

/-- The union of several scopes includes each of them. -/
theorem includes_unionAll (scopes : List Scope) (scope : Scope) (h : scope ∈ scopes) :
    (unionAll scopes).Includes scope := by
  induction scopes using List.reverseRecOn with
  | nil => exact absurd h List.not_mem_nil
  | append_singleton front last ih =>
      rw [unionAll_append]
      rcases List.mem_append.mp h with hfront | hlast
      · exact includes_union_of_left last (ih hfront)
      · rw [List.mem_singleton.mp hlast]
        exact includes_union_right _ _

/-- Scopes that the first one includes add nothing to it. -/
theorem unionAll_cons_of_includes (first : Scope) (rest : List Scope)
    (h : ∀ scope ∈ rest, first.Includes scope) : unionAll (first :: rest) = first := by
  induction rest using List.reverseRecOn with
  | nil => exact unionAll_singleton first
  | append_singleton front last ih =>
      have hfront := ih fun scope hscope => h scope (List.mem_append_left _ hscope)
      have hlast := h last (List.mem_append_right _ (List.mem_singleton_self last))
      rw [← List.cons_append, unionAll_append, hfront, union_eq_left hlast]

/-- The union of several scopes writes if one of them does. -/
theorem writes_unionAll (scopes : List Scope) :
    (unionAll scopes).writes = true ↔ ∃ scope ∈ scopes, scope.writes = true := by
  induction scopes using List.reverseRecOn with
  | nil => simp only [unionAll, List.foldl_nil, writes_empty, Bool.false_eq_true,
      List.not_mem_nil, false_and, exists_false]
  | append_singleton front last ih =>
      rw [unionAll_append, writes_union, ih]
      simp only [List.mem_append, List.mem_singleton, or_and_right, exists_or, exists_eq_left]

end Scope

end FrameGraph.Gpu
