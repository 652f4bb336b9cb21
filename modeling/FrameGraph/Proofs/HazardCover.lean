import FrameGraph.Proofs.PendingHazards

/-!
# What a Hazard Barrier Covers

Hazards add up until a frame is recorded, and one barrier answers all of them.
One more hazard must not make it weaker. Among categories it never does: both
scopes of a barrier are unions over the categories of a mask, and a larger mask
has more of these.

A bit that names no category is answered by everything, but only as long as it
is alone. What is widened is what no category filled, and a single category
fills every part of a barrier. So the bits without a name are dropped as soon
as a bit with a name is added, and a barrier that would have waited for
everything waits for one category. `HazardMask.covers_iff` says that this is
the only way in which a barrier gets weaker.

To cover is more than to include. The flag for all commands stands for every
stage, and the flags for memory stand for every access that reads or writes,
without having their bits.

## Main definitions

* `AccessMask.allReads`, `AccessMask.allWrites`: What the memory flags stand for.
* `Scope.meaning`: The stages and accesses that a scope stands for.
* `Scope.Covers`, `MemoryBarrier.Covers`: Everything asked for is waited for.
* `Scope.Filled`: A scope with stages and accesses.
* `HazardMask.bitsOf`: The bits of some categories.

## Theorems

* `HazardMask.requested_eq`: What a mask asks for is a union over categories.
* `HazardMask.requested_includes`: A larger mask asks for more.
* `HazardMask.members_eq_nil_iff`: When a mask has no category.
* `HazardMask.widened_of_members`: One category fills every part.
* `HazardMask.covers_iff`: When the barrier of a mask covers that of a part.
* `hazards_covered`: Which hazards noted since the last recording are covered.
* `hazards_covered_named`, `hazard_uncovered_unnamed`: Two hazards, of which one
  is covered.
-/

namespace FrameGraph

namespace Gpu

/-- The accesses that read. -/
def AccessMask.allReads : AccessMask :=
  indirectCommandRead ||| indexRead ||| vertexAttributeRead ||| uniformRead ||| shaderRead
    ||| colorAttachmentRead ||| depthStencilAttachmentRead ||| transferRead ||| hostRead
    ||| memoryRead ||| shaderSampledRead ||| shaderStorageRead

/-- The accesses that write, those of the host and of transform feedback
    included. -/
def AccessMask.allWrites : AccessMask :=
  shaderWrite ||| colorAttachmentWrite ||| depthStencilAttachmentWrite ||| transferWrite
    ||| hostWrite ||| memoryWrite ||| transformFeedbackWrite ||| shaderStorageWrite

/-- Every access with a name either reads or writes. -/
theorem AccessMask.allReads_allWrites :
    allReads &&& allWrites = 0
      ∧ ∀ entry ∈ names, (allReads ||| allWrites).toNat.testBit entry.1 = true := by
  decide

/-- The stages that a set stands for. All commands are every stage. -/
def StageMask.meaning (stages : StageMask) : StageMask :=
  if stages &&& allCommands = 0 then stages else 0xFFFFFFFFFFFFFFFF

/-- The accesses that a set stands for. Reads and writes of memory are every
    access that reads or writes. -/
def AccessMask.meaning (access : AccessMask) : AccessMask :=
  access ||| (if access &&& memoryRead = 0 then 0 else allReads)
    ||| (if access &&& memoryWrite = 0 then 0 else allWrites)

theorem and_of_and_of_and {a b c : UInt64} (hab : a &&& b = b) (hbc : b &&& c = c) :
    a &&& c = c := by
  rw [← hbc, ← UInt64.and_assoc, hab]

theorem and_or_of_and {a b c : UInt64} (hb : a &&& b = b) (hc : a &&& c = c) :
    a &&& (b ||| c) = b ||| c := by
  rw [← UInt64.toBitVec_inj] at hb hc ⊢
  simp only [UInt64.toBitVec_and, UInt64.toBitVec_or] at hb hc ⊢
  ext i hi
  have hbitB := congrArg (fun word => word[i]) hb
  have hbitC := congrArg (fun word => word[i]) hc
  simp only [BitVec.getElem_and, BitVec.getElem_or] at hbitB hbitC ⊢
  rw [Bool.and_or_distrib_left, hbitB, hbitC]

namespace Scope

/-- The stages and accesses that a scope stands for. -/
def meaning (scope : Scope) : Scope :=
  ⟨StageMask.meaning scope.stages, AccessMask.meaning scope.access⟩

/-- Whatever is in the part is among what the scope stands for. -/
def Covers (scope part : Scope) : Prop := scope.meaning.Includes part

/-- The scope has some stage and some access. -/
def Filled (scope : Scope) : Prop := scope.stages ≠ 0 ∧ scope.access ≠ 0

instance (scope part : Scope) : Decidable (scope.Covers part) :=
  inferInstanceAs (Decidable (scope.meaning.Includes part))

instance (scope : Scope) : Decidable scope.Filled :=
  inferInstanceAs (Decidable (_ ∧ _))

theorem Includes.trans {a b c : Scope} (hab : a.Includes b) (hbc : b.Includes c) :
    a.Includes c :=
  ⟨and_of_and_of_and hab.1 hbc.1, and_of_and_of_and hab.2 hbc.2⟩

/-- What a scope includes it also covers. -/
theorem Includes.covers {scope part : Scope} (h : scope.Includes part) : scope.Covers part := by
  have hstages : StageMask.meaning scope.stages &&& scope.stages = scope.stages := by
    unfold StageMask.meaning
    split
    · exact UInt64.and_self
    · exact UInt64.neg_one_and
  have haccess : AccessMask.meaning scope.access &&& scope.access = scope.access := by
    unfold AccessMask.meaning
    exact or_and_of_and _ (or_and_of_and _ UInt64.and_self)
  exact Includes.trans ⟨hstages, haccess⟩ h

theorem Includes.filled {scope part : Scope} (h : scope.Includes part) (hpart : part.Filled) :
    scope.Filled := by
  constructor
  · intro hnone
    have hstages := h.1
    rw [hnone, UInt64.zero_and] at hstages
    exact hpart.1 hstages.symm
  · intro hnone
    have haccess := h.2
    rw [hnone, UInt64.zero_and] at haccess
    exact hpart.2 haccess.symm

/-- A scope that includes each of several scopes includes their union. -/
theorem includes_unionAll_of_forall (scope : Scope) (parts : List Scope)
    (h : ∀ part ∈ parts, scope.Includes part) : scope.Includes (unionAll parts) := by
  induction parts using List.reverseRecOn with
  | nil => exact ⟨UInt64.and_zero, UInt64.and_zero⟩
  | append_singleton front last ih =>
      have hfront := ih fun part hpart => h part (List.mem_append_left _ hpart)
      have hlast := h last (List.mem_append_right _ (List.mem_singleton_self last))
      rw [unionAll_append]
      exact ⟨and_or_of_and hfront.1 hlast.1, and_or_of_and hfront.2 hlast.2⟩

end Scope

namespace MemoryBarrier

/-- Both scopes cover those of the other barrier. -/
def Covers (barrier part : MemoryBarrier) : Prop :=
  barrier.source.Covers part.source ∧ barrier.destination.Covers part.destination

instance (barrier part : MemoryBarrier) : Decidable (barrier.Covers part) :=
  inferInstanceAs (Decidable (_ ∧ _))

end MemoryBarrier

end Gpu

open Gpu

namespace HazardMask

/-- Every category has a bit of its own among those that are known, and asks
    for something. -/
theorem categories_wellFormed : ∀ category ∈ categories,
    (∃ place < 15, category.bit.toBitVec = BitVec.twoPow 32 place)
      ∧ known &&& category.bit = category.bit ∧ category.destination.Filled := by
  decide

/-- The bits of some categories. -/
def bitsOf (among : List HazardCategory) : HazardMask :=
  among.foldr (fun category bits => category.bit ||| bits) 0

/-- The known bits are those of the categories. -/
theorem known_eq : known = bitsOf categories := by
  decide

theorem and_bitsOf_eq_zero {mask : HazardMask} {among : List HazardCategory}
    (h : ∀ category ∈ among, mask &&& category.bit = 0) : mask &&& bitsOf among = 0 := by
  induction among with
  | nil => exact UInt32.and_zero
  | cons first rest ih =>
      rw [List.forall_mem_cons] at h
      have hsplit : mask &&& bitsOf (first :: rest)
          = (mask &&& first.bit) ||| (mask &&& bitsOf rest) :=
        UInt32.toBitVec_inj.mp BitVec.and_or_distrib_left
      rw [hsplit, h.1, ih h.2, UInt32.or_zero]

theorem or_and_of_and {a c : HazardMask} (b : HazardMask) (h : a &&& c = c) :
    (a ||| b) &&& c = c := by
  have hsplit : (a ||| b) &&& c = (a &&& c) ||| (b &&& c) :=
    UInt32.toBitVec_inj.mp BitVec.and_or_distrib_right
  rw [hsplit, h, ← UInt32.toBitVec_inj, UInt32.toBitVec_or, UInt32.toBitVec_and]
  ext i hi
  simp only [BitVec.getElem_or, BitVec.getElem_and]
  cases c.toBitVec[i] <;> simp only [Bool.and_false, Bool.or_false, Bool.true_or]

/-- The bit of a category is in a mask, or the mask has nothing of it. -/
theorem and_bit_eq_zero {category : HazardCategory} (hcategory : category ∈ categories)
    {mask : HazardMask} (h : mask &&& category.bit ≠ category.bit) :
    mask &&& category.bit = 0 := by
  rcases (categories_wellFormed category hcategory).1 with ⟨place, _, hplace⟩
  have hcases := BitVec.and_twoPow mask.toBitVec place
  rw [← hplace, ← UInt32.toBitVec_and] at hcases
  split at hcases
  · exact absurd (UInt32.toBitVec_inj.mp hcases) h
  · exact UInt32.toBitVec_inj.mp hcases

theorem mem_members_iff (mask : HazardMask) (category : HazardCategory) :
    category ∈ members mask
      ↔ category ∈ categories ∧ mask &&& category.bit = category.bit := by
  unfold members
  rw [List.mem_filter, decide_eq_true_eq]

/-- A mask without categories has no bit that is known. -/
theorem members_eq_nil_iff (mask : HazardMask) : members mask = [] ↔ mask &&& known = 0 := by
  constructor
  · intro hnone
    have hbits : ∀ category ∈ categories, mask &&& category.bit = 0 := by
      intro category hcategory
      refine and_bit_eq_zero hcategory fun hin => ?_
      have hmem := (mem_members_iff mask category).mpr ⟨hcategory, hin⟩
      rw [hnone] at hmem
      exact List.not_mem_nil hmem
    rw [known_eq]
    exact and_bitsOf_eq_zero hbits
  · intro hnone
    rw [List.eq_nil_iff_forall_not_mem]
    intro category hmem
    -- The bit of a category is known, so the mask would have nothing of it.
    rcases (mem_members_iff mask category).mp hmem with ⟨hcategory, hin⟩
    rcases categories_wellFormed category hcategory with ⟨⟨place, hlt, hplace⟩, hknown, _⟩
    have hzero : category.bit = 0 := by
      rw [← hin, ← hknown, ← UInt32.and_assoc, hnone, UInt32.zero_and]
    rw [hzero] at hplace
    have hbit := congrArg (fun word => word.getLsbD place) hplace
    simp only [UInt32.toBitVec_zero, BitVec.getLsbD_zero, BitVec.getLsbD_twoPow] at hbit
    rw [decide_eq_true (by omega : place < 32)] at hbit
    exact Bool.false_ne_true (hbit.trans (by simp only [decide_true, Bool.and_self]))

/-- A larger mask has every category of a smaller one. -/
theorem members_subset {part whole : HazardMask} (h : whole &&& part = part) :
    members part ⊆ members whole := by
  intro category hmem
  rcases (mem_members_iff part category).mp hmem with ⟨hcategory, hin⟩
  refine (mem_members_iff whole category).mpr ⟨hcategory, ?_⟩
  rw [← hin, ← UInt32.and_assoc, h]

/-- What a mask asks for is a union over its categories, on either side. -/
theorem requested_eq (mask : HazardMask) :
    requested mask
      = ⟨Scope.unionAll ((members mask).map fun _ => producer),
        Scope.unionAll ((members mask).map HazardCategory.destination)⟩ := by
  unfold requested
  induction members mask using List.reverseRecOn with
  | nil => rfl
  | append_singleton front last ih =>
      rw [List.foldl_append, ih, List.map_append, List.map_append, List.map_singleton,
        List.map_singleton, Scope.unionAll_append, Scope.unionAll_append]
      rfl

/-- So a larger mask asks for more. -/
theorem requested_includes {part whole : HazardMask} (h : whole &&& part = part) :
    (requested whole).source.Includes (requested part).source
      ∧ (requested whole).destination.Includes (requested part).destination := by
  have hmore : ∀ scope : HazardCategory → Scope,
      (Scope.unionAll ((members whole).map scope)).Includes
        (Scope.unionAll ((members part).map scope)) := by
    intro scope
    refine Scope.includes_unionAll_of_forall _ _ ?_
    intro asked hasked
    rcases List.mem_map.mp hasked with ⟨category, hcategory, rfl⟩
    exact Scope.includes_unionAll _ _ (List.mem_map_of_mem (members_subset h hcategory))
  rw [requested_eq, requested_eq]
  exact ⟨hmore _, hmore _⟩

/-- Where there is a category, what is waited for is what may have been
    written. -/
theorem requested_source {mask : HazardMask} (h : members mask ≠ []) :
    (requested mask).source = producer := by
  rw [requested_eq]
  cases hmembers : members mask with
  | nil => exact absurd hmembers h
  | cons first rest =>
      -- Every category waits for the same writers, so one says it all.
      refine Scope.unionAll_cons_of_includes producer _ ?_
      intro scope hscope
      rcases List.mem_map.mp hscope with ⟨_, _, rfl⟩
      exact Scope.includes_refl producer

/-- One category fills every part of a barrier, and nothing is widened. -/
theorem widened_of_members {mask : HazardMask} (h : members mask ≠ []) :
    widened (requested mask) = requested mask := by
  have hsource : (requested mask).source.Filled := by
    rw [requested_source h]
    decide
  have hdestination : (requested mask).destination.Filled := by
    rcases List.exists_mem_of_ne_nil _ h with ⟨category, hmem⟩
    have hfilled := (categories_wellFormed category ((mem_members_iff _ _).mp hmem).1).2.2
    rw [requested_eq]
    exact (Scope.includes_unionAll _ _ (List.mem_map_of_mem hmem)).filled hfilled
  unfold widened widen
  rw [if_neg hsource.1, if_neg hsource.2, if_neg hdestination.1, if_neg hdestination.2]

/-- Without a category everything is widened. -/
theorem widened_of_not_members {mask : HazardMask} (h : members mask = []) :
    widened (requested mask) = MemoryBarrier.all := by
  unfold requested
  rw [h]
  decide

/-- No categories together wait for everything. -/
theorem not_covers_all {mask : HazardMask} (h : members mask ≠ []) :
    ¬ (requested mask).Covers MemoryBarrier.all := by
  rintro ⟨hsource, _⟩
  -- The writers are shaders and copies, which is not every command.
  rw [requested_source h] at hsource
  exact absurd hsource (by decide)

/-- The barrier of a mask covers that of a part of it, unless the part names no
    category and the mask names one. -/
theorem covers_iff {part whole : HazardMask} (h : whole &&& part = part) :
    (widened (requested whole)).Covers (widened (requested part))
      ↔ part &&& known ≠ 0 ∨ whole &&& known = 0 := by
  rw [ne_eq, ← members_eq_nil_iff, ← members_eq_nil_iff]
  by_cases hpart : members part = []
  · rw [widened_of_not_members hpart, or_iff_right (not_not_intro hpart)]
    by_cases hwhole : members whole = []
    · rw [widened_of_not_members hwhole]
      exact iff_of_true (by decide) hwhole
    · rw [widened_of_members hwhole]
      exact iff_of_false (not_covers_all hwhole) hwhole
  · -- The mask has the categories of the part, so nothing is widened.
    have hwhole : members whole ≠ [] := by
      intro hnone
      rcases List.exists_mem_of_ne_nil _ hpart with ⟨category, hmem⟩
      have hmore := members_subset h hmem
      rw [hnone] at hmore
      exact List.not_mem_nil hmore
    rw [widened_of_members hpart, widened_of_members hwhole]
    have hincludes := requested_includes h
    exact iff_of_true ⟨hincludes.1.covers, hincludes.2.covers⟩ (Or.inl hpart)

/-- Bits without a name change nothing for a mask that has a category. -/
theorem barrier?_and_known {mask : HazardMask} (h : mask &&& known ≠ 0) :
    barrier? mask = barrier? (mask &&& known) ∧ log mask = [] := by
  have hmembers : members (mask &&& known) = members mask := by
    unfold members
    refine List.filter_congr ?_
    intro category hcategory
    rw [UInt32.and_assoc, (categories_wellFormed category hcategory).2.1]
  have hmask : mask ≠ 0 := by
    intro hnone
    rw [hnone, UInt32.zero_and] at h
    exact h rfl
  have hsame : requested (mask &&& known) = requested mask := by
    unfold requested
    rw [hmembers]
  constructor
  · unfold barrier?
    rw [if_neg hmask, if_neg h, hsame]
  · have hwidened := widened_of_members (mt (members_eq_nil_iff mask).mp h)
    unfold log
    rw [hwidened, bne_self_eq_false, Bool.and_false]
    exact if_neg Bool.false_ne_true

end HazardMask

/-- What calls note together has all that one of them notes. -/
theorem notedBy_and_noted {σ : Type} {calls : List (SessionCall σ)} {call : SessionCall σ}
    (h : call ∈ calls) : notedBy calls &&& call.noted = call.noted := by
  induction calls with
  | nil => exact absurd h List.not_mem_nil
  | cons first rest ih =>
      rw [notedBy]
      rcases List.mem_cons.mp h with rfl | hrest
      · exact HazardMask.or_and_of_and _ UInt32.and_self
      · rw [UInt32.or_comm]
        exact HazardMask.or_and_of_and _ (ih hrest)

/-- In any run of a session and under any settings, the barrier that answers
    what waits covers the one that a hazard noted since the last recording
    would have got alone, exactly if that hazard names a category or nothing
    that waits does. Where something that waits names a category, the bits
    without a name have no part in the barrier, and nothing is reported. -/
theorem hazards_covered {σ : Type} (settings : Settings) (calls later : List (SessionCall σ))
    (h : SinceRecorded (Session.new settings) calls later) :
    ∃ pending, pending = ((Session.new settings).after calls).pending
      ∧ (∀ call ∈ later, call.noted ≠ 0 →
        ∃ alone together, HazardMask.barrier? call.noted = some alone
          ∧ HazardMask.barrier? pending = some together
          ∧ (together.Covers alone
            ↔ call.noted &&& HazardMask.known ≠ 0 ∨ pending &&& HazardMask.known = 0))
      ∧ (pending &&& HazardMask.known ≠ 0 →
        HazardMask.barrier? pending = HazardMask.barrier? (pending &&& HazardMask.known)
          ∧ HazardMask.log pending = []) := by
  refine ⟨_, rfl, ?_, HazardMask.barrier?_and_known⟩
  intro call hcall hnoted
  rw [h.pending rfl]
  have hpart := notedBy_and_noted hcall
  -- What waits is not empty, since it has the bits of this hazard.
  have hpending : notedBy later ≠ 0 := by
    intro hnone
    rw [hnone, UInt32.zero_and] at hpart
    exact hnoted hpart.symm
  refine ⟨_, _, ?_, ?_, HazardMask.covers_iff hpart⟩
  · exact if_neg hnoted
  · exact if_neg hpending

/-- A hazard without a category is noted, and then one with a category. -/
def unnamedThenNamed : List (SessionCall Unit) :=
  [.upkeep (.addHazards 0x100000), .upkeep (.addHazards 0x4)]

/-- Nothing was recorded before. -/
theorem sinceRecorded_unnamedThenNamed (settings : Settings) :
    SinceRecorded (Session.new settings) unnamedThenNamed unnamedThenNamed :=
  ⟨[], rfl, Or.inl rfl, id, id, trivial⟩

/-- The hazard with a category is covered. -/
theorem hazards_covered_named :
    ∃ alone together, HazardMask.barrier? 0x4 = some alone
      ∧ HazardMask.barrier? ((Session.new oneLazySlot).after unnamedThenNamed).pending
        = some together
      ∧ together.Covers alone := by
  rcases hazards_covered oneLazySlot unnamedThenNamed unnamedThenNamed
    (sinceRecorded_unnamedThenNamed oneLazySlot) with ⟨_, rfl, hcovered, _⟩
  rcases hcovered (.upkeep (.addHazards 0x4)) (List.mem_cons_of_mem _ List.mem_cons_self)
    (by decide) with ⟨alone, together, halone, htogether, hiff⟩
  exact ⟨alone, together, halone, htogether, hiff.mpr (Or.inl (by decide))⟩

/-- The one without a category is not: alone it would have waited for every
    command. -/
theorem hazard_uncovered_unnamed :
    ¬ ∀ (settings : Settings) (calls later : List (SessionCall Unit)),
        SinceRecorded (Session.new settings) calls later →
        ∀ call ∈ later, ∀ alone, HazardMask.barrier? call.noted = some alone →
          ∃ together, HazardMask.barrier? ((Session.new settings).after calls).pending
              = some together
            ∧ together.Covers alone := by
  intro hall
  have hpending : ((Session.new oneLazySlot).after unnamedThenNamed).pending = 0x100004 := by
    decide +kernel
  rcases hall oneLazySlot unnamedThenNamed unnamedThenNamed
    (sinceRecorded_unnamedThenNamed oneLazySlot) (.upkeep (.addHazards 0x100000))
    List.mem_cons_self MemoryBarrier.all (by decide) with ⟨together, htogether, hcovers⟩
  rw [hpending] at htogether
  have hknown : HazardMask.barrier? 0x100004
      = some (HazardMask.widened (HazardMask.requested 0x100004)) := by decide
  rw [hknown, Option.some.injEq] at htogether
  rw [← htogether] at hcovers
  exact absurd hcovers (by decide)

end FrameGraph
