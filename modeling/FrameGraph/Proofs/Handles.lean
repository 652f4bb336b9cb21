import FrameGraph.Proofs.Aspects

/-!
# Names and Handles

A registry answers a name with a handle and a handle with a group. Here it is the
list of its groups, and the handle of a name is looked up in that list. Usually a
handle is a key that a store of groups makes up, and a table beside the store
leads from names to keys. Then there are two tables which have to stay inverse to
each other, and each group is written twice: what its first use settles is set
down once and for all, and its aspect may be written again.

`IndexedRegistry` is kept in this way, over any store that gives a new key for a
new group and holds what was written last. A step of it has no answer where the
table leads to a key that the store does not know, and this never happens. What
carries it through a run is that its keys, in order of registration, stand for the
positions of the list (`IndexedRegistry.Mirrors`). So whatever is asked of one
registry can be asked of the other, and what both answer is said once
(`RegistryAnswers`).

The list itself is simple to follow. A use of a new name puts a group at the end,
and a use of a known one changes one group and moves none (`Registry.note_eq`). So
a position that was given for a name stays what the name is found at.

## Main definitions

* `GroupRecord`: A group with all that is written down of it.
* `KeyedStore`, `KeyedStore.Lawful`: A store that makes up the keys of its groups.
* `KeyedStore.positions`: The store whose keys are positions.
* `IndexedRegistry`: A store of groups, and a table from names to keys.
* `IndexedRegistry.Mirrors`: The keys stand for the positions of a registry.
* `Registry.handles`: What the calls that register some uses return.
* `RegistryAnswers`: What is answered after some uses.

## Theorems

* `Registry.note_eq`: What one use does to the groups.
* `Registry.find?_insert`, `Registry.find?_insertAll`: What it does to what is
  found.
* `Registry.group?_insertAll`, `Registry.group?_of_unused`: A group keeps its type,
  and there is none without a use.
* `Registry.names_empty_insertAll`: The names registered by some uses.
* `Registry.answers`: What a registry answers.
* `IndexedRegistry.mirrors_register`, `IndexedRegistry.mirrors_registerAll`: One
  call, and any number of them.
* `RegistryAnswers.relabel`: Other handles for the same groups.
* `registry_answers`: What both registries answer after any uses.
-/

namespace FrameGraph

open Gpu

/-- A group with all that is written down of it. -/
structure GroupRecord where
  name : String
  type : ResourceType
  isImage : Bool
  aspect : AspectMask
  isSwapchain : Bool
  deriving DecidableEq, Repr

namespace GroupRecord

/-- What the first use of a name writes. -/
def ofUsage (usage : Usage) : GroupRecord where
  name := usage.resource
  type := usage.type
  isImage := usage.type.isImage
  aspect := usage.type.aspect
  isSwapchain := usage.resource = swapchainName

/-- What a later use changes. -/
def noting (record : GroupRecord) (usage : Usage) : GroupRecord :=
  if usage.type = .depthStencilAttachment then { record with aspect := usage.type.aspect }
  else record

end GroupRecord

namespace ResourceGroup

/-- A group, written down. -/
def record (group : ResourceGroup) : GroupRecord where
  name := group.name
  type := group.type
  isImage := group.isImage
  aspect := group.aspect
  isSwapchain := group.isSwapchain

theorem record_noting (group : ResourceGroup) (usage : Usage) :
    (group.noting usage).record = group.record.noting usage := by
  unfold noting GroupRecord.noting
  split
  · rfl
  · rfl

end ResourceGroup

/-- A store that makes up the keys of what is put into it. -/
structure KeyedStore (κ σ : Type) where
  empty : σ
  insert : σ → GroupRecord → σ × κ
  get? : σ → κ → Option GroupRecord
  /-- Write anew what is under a key. -/
  set : σ → κ → GroupRecord → σ
  size : σ → Nat

namespace KeyedStore

variable {κ σ : Type}

/-- Putting something in gives a key that nothing was under, what was written last
    under a key is read from it, and the size is how often something was put in. -/
structure Lawful (store : KeyedStore κ σ) : Prop where
  get_empty : ∀ key, store.get? store.empty key = none
  size_empty : store.size store.empty = 0
  fresh : ∀ held record, store.get? held (store.insert held record).2 = none
  get_insert_self : ∀ held record,
    store.get? (store.insert held record).1 (store.insert held record).2 = some record
  get_insert_other : ∀ held record key, key ≠ (store.insert held record).2 →
    store.get? (store.insert held record).1 key = store.get? held key
  size_insert : ∀ held record, store.size (store.insert held record).1 = store.size held + 1
  get_set_self : ∀ held key old record, store.get? held key = some old →
    store.get? (store.set held key record) key = some record
  get_set_other : ∀ held key record other, other ≠ key →
    store.get? (store.set held key record) other = store.get? held other
  size_set : ∀ held key old record, store.get? held key = some old →
    store.size (store.set held key record) = store.size held

/-- The store whose keys are the positions of a list. -/
def positions : KeyedStore Nat (List GroupRecord) where
  empty := []
  insert held record := (held ++ [record], held.length)
  get? held key := held[key]?
  set held key record := held.set key record
  size held := held.length

theorem lawful_positions : positions.Lawful where
  get_empty _ := rfl
  size_empty := rfl
  fresh held _ := List.getElem?_eq_none (Nat.le_refl held.length)
  get_insert_self _ _ := List.getElem?_concat_length
  get_insert_other held record key hne := by
    change (held ++ [record])[key]? = held[key]?
    by_cases hlt : key < held.length
    · exact List.getElem?_append_left hlt
    · have hlater : held.length < key := Nat.lt_of_le_of_ne (Nat.le_of_not_lt hlt) (Ne.symm hne)
      rw [List.getElem?_eq_none (Nat.le_of_lt hlater), List.getElem?_eq_none]
      rw [List.length_append, List.length_singleton]
      exact hlater
  size_insert _ _ := List.length_append
  get_set_self held key old record hold := by
    rcases List.getElem?_eq_some_iff.mp hold with ⟨hlt, _⟩
    exact List.getElem?_set_self hlt
  get_set_other _ _ _ _ hne := List.getElem?_set_ne (Ne.symm hne)
  size_set _ _ _ _ _ := List.length_set

end KeyedStore

namespace Registry

/-- What is found under a name depends on the names alone. -/
theorem find?_eq (registry : Registry) (name : String) :
    registry.find? name
      = (registry.groups.map ResourceGroup.name).findIdx? fun other => other = name := by
  rw [List.findIdx?_map]
  rfl

theorem find?_eq_none_iff (registry : Registry) (name : String) :
    registry.find? name = none ↔ name ∉ registry.groups.map ResourceGroup.name := by
  rw [find?_eq, List.findIdx?_eq_none_iff]
  simp only [decide_eq_false_iff_not]
  constructor
  · intro hnone hmem
    exact hnone name hmem rfl
  · rintro hnone other hother rfl
    exact hnone hother

/-- What is found under a name is where the group of the name is. -/
theorem get?_of_find? {registry : Registry} {name : String} {handle : Nat}
    (h : registry.find? name = some handle) :
    ∃ group, registry.get? handle = some group ∧ registry.group? name = some group
      ∧ group.name = name := by
  rcases List.findIdx?_eq_some_iff_getElem.mp h with ⟨hlt, htest, hbefore⟩
  refine ⟨registry.groups[handle], List.getElem?_eq_getElem hlt, ?_, of_decide_eq_true htest⟩
  refine List.find?_eq_some_iff_getElem.mpr ⟨htest, handle, hlt, rfl, ?_⟩
  intro earlier hearlier
  rw [Bool.not_eq_true', Bool.eq_false_iff]
  exact hbefore earlier hearlier

/-- A use changes the group of its name where it stands, or it puts a new group at
    the end. -/
theorem note_eq (groups : List ResourceGroup) (usage : Usage) :
    note groups usage
      = match (Registry.mk groups).find? usage.resource with
        | some handle => groups.modify handle fun group => group.noting usage
        | none => groups ++ [ResourceGroup.ofUsage usage] := by
  unfold find?
  induction groups with
  | nil => rfl
  | cons group rest ih =>
      rw [note, List.findIdx?_cons]
      by_cases hname : group.name = usage.resource
      · simp only [hname, decide_true, if_true, List.modify_zero_cons]
      · rw [if_neg hname, ih]
        simp only [hname, decide_false, Bool.false_eq_true, if_false]
        cases rest.findIdx? fun group => decide (group.name = usage.resource) with
        | none => rfl
        | some handle => rfl

theorem insert_of_find? {registry : Registry} {usage : Usage} {handle : Nat}
    (h : registry.find? usage.resource = some handle) :
    (registry.insert usage).groups
      = registry.groups.modify handle fun group => group.noting usage := by
  have hnote := note_eq registry.groups usage
  rw [h] at hnote
  exact hnote

theorem insert_of_find?_none {registry : Registry} {usage : Usage}
    (h : registry.find? usage.resource = none) :
    (registry.insert usage).groups = registry.groups ++ [ResourceGroup.ofUsage usage] := by
  have hnote := note_eq registry.groups usage
  rw [h] at hnote
  exact hnote

/-- After a use its name is found where it was, or at the end. Other names are
    found where they were. -/
theorem find?_insert (registry : Registry) (usage : Usage) (name : String) :
    (registry.insert usage).find? name
      = if usage.resource = name then
          some ((registry.find? usage.resource).getD registry.groups.length)
        else registry.find? name := by
  have hnames : (registry.insert usage).find? name
      = ((note registry.groups usage).map ResourceGroup.name).findIdx? fun other => other = name :=
    find?_eq _ _
  rw [hnames, names_note, List.findIdx?_append, ← find?_eq]
  by_cases hname : usage.resource = name
  · rw [if_pos hname, ← hname]
    cases hfind : registry.find? usage.resource with
    | none =>
        rw [if_neg ((find?_eq_none_iff _ _).mp hfind), List.findIdx?_singleton,
          decide_eq_true rfl, if_pos rfl]
        simp only [Option.map_some, Option.none_or, Option.getD_none, List.length_map,
          Nat.zero_add]
    | some handle => rw [Option.some_or, Option.getD_some]
  · -- What the use adds is not looked for.
    rw [if_neg hname]
    split
    · rw [List.findIdx?_nil, Option.map_none, Option.or_none]
    · rw [List.findIdx?_singleton, decide_eq_false hname, if_neg Bool.false_ne_true,
        Option.map_none, Option.or_none]

/-- What is found stays found. -/
theorem find?_insertAll (registry : Registry) (usages : List Usage) {name : String} {handle : Nat}
    (h : registry.find? name = some handle) :
    (registry.insertAll usages).find? name = some handle := by
  induction usages generalizing registry with
  | nil => exact h
  | cons usage rest ih =>
      refine ih (registry.insert usage) ?_
      rw [find?_insert]
      split
      · next hname => rw [hname, h, Option.getD_some]
      · exact h

/-- A group that is there keeps its type. -/
theorem group?_insertAll (registry : Registry) (usages : List Usage) {name : String}
    {group : ResourceGroup} (h : registry.group? name = some group) :
    ∃ last, (registry.insertAll usages).group? name = some last ∧ last.type = group.type := by
  induction usages generalizing registry group with
  | nil => exact ⟨group, h, rfl⟩
  | cons usage rest ih =>
      have hnext := registry.group?_insert usage name
      rw [h, Option.map_some, Option.getD_some] at hnext
      split at hnext
      · rcases ih (registry.insert usage) hnext with ⟨last, hlast, htype⟩
        exact ⟨last, hlast, htype.trans (noting_type group usage)⟩
      · exact ih (registry.insert usage) hnext

/-- The names registered by some uses, in order of their first use. -/
theorem names_empty_insertAll (usages : List Usage) :
    (empty.insertAll usages).groups.map ResourceGroup.name
      = (usages.map Usage.resource).eraseDups := by
  induction usages using List.reverseRecOn with
  | nil => rfl
  | append_singleton before usage ih =>
      have hnote : (empty.insertAll (before ++ [usage])).groups
          = note (empty.insertAll before).groups usage :=
        congrArg groups (insertAll_append empty before [usage])
      rw [hnote, names_note, ih, List.map_append, List.map_singleton, eraseDups_concat]
      simp only [List.mem_eraseDups]

/-- What the calls that register some uses return. -/
def handles : Registry → List Usage → List Nat
  | _, [] => []
  | registry, usage :: rest => (registry.register usage).2 :: handles (registry.insert usage) rest

/-- A call returns what its name is found under from then on. -/
theorem find?_register (registry : Registry) (usage : Usage) :
    (registry.insert usage).find? usage.resource = some (registry.register usage).2 := by
  rw [find?_insert, if_pos rfl]
  rfl

/-- So all calls return what their names are found under in the end. -/
theorem handles_eq (registry : Registry) (usages : List Usage) :
    (registry.handles usages).map some
      = usages.map fun usage => (registry.insertAll usages).find? usage.resource := by
  induction usages generalizing registry with
  | nil => rfl
  | cons usage rest ih =>
      have hfirst : (registry.insertAll (usage :: rest)).find? usage.resource
          = some (registry.register usage).2 :=
        find?_insertAll (registry.insert usage) rest (registry.find?_register usage)
      rw [handles, List.map_cons, List.map_cons, hfirst, ih]
      rfl

end Registry

/-- What a registry answers after some uses, given what the calls returned. -/
structure RegistryAnswers {κ : Type} (usages : List Usage) (returned : List κ)
    (find? : String → Option κ) (get? : κ → Option GroupRecord) (size : Nat) : Prop where
  /-- The names that were used are the ones that are found. -/
  known : ∀ name, (∃ handle, find? name = some handle) ↔ ∃ usage ∈ usages, usage.resource = name
  /-- Every call returned what its name is found under. -/
  returned : returned.map some = usages.map fun usage => find? usage.resource
  distinct : ∀ first second handle,
    find? first = some handle → find? second = some handle → first = second
  counted : size = (usages.map Usage.resource).toFinset.card
  /-- The first use of a name settles all but the aspect, which depends on every
      use of the name. -/
  settled : ∀ before first after, usages = before ++ first :: after →
    (∀ usage ∈ before, usage.resource ≠ first.resource) →
    ∃ handle, find? first.resource = some handle
      ∧ get? handle = some
          { name := first.resource
            type := first.type
            isImage := first.type.isImage
            aspect := if ∃ usage ∈ usages, usage.resource = first.resource
                ∧ usage.type = .depthStencilAttachment then AspectMask.depthStencil
              else first.type.aspect
            isSwapchain := first.resource = "swapchain" }
  /-- There are no groups but these. -/
  inverse : ∀ handle record, get? handle = some record → find? record.name = some handle

namespace Registry

/-- A name that was not used has no group. -/
theorem group?_of_unused (usages : List Usage) {name : String}
    (h : ∀ usage ∈ usages, usage.resource ≠ name) :
    (empty.insertAll usages).group? name = none := by
  refine List.find?_eq_none.mpr ?_
  intro group hgroup hname
  have hmem := (mem_names_insertAll empty usages name).mp
    (List.mem_map.mpr ⟨group, hgroup, of_decide_eq_true hname⟩)
  rcases hmem with hmem | hmem
  · exact absurd hmem List.not_mem_nil
  · rcases List.mem_map.mp hmem with ⟨usage, husage, hresource⟩
    exact h usage husage hresource

/-- The group of a name, from its first use and from all of them. -/
theorem group?_of_first {usages before after : List Usage} {first : Usage}
    (husages : usages = before ++ first :: after)
    (hfirst : ∀ usage ∈ before, usage.resource ≠ first.resource) :
    ∃ group, (empty.insertAll usages).group? first.resource = some group
      ∧ group.type = first.type
      ∧ group.aspect = if ∃ usage ∈ usages, usage.resource = first.resource
            ∧ usage.type = .depthStencilAttachment then AspectMask.depthStencil
          else first.type.aspect := by
  have hsplit : empty.insertAll usages
      = ((empty.insertAll before).insert first).insertAll after := by
    rw [husages, insertAll_append]
    rfl
  have hmade := (empty.insertAll before).group?_insert first first.resource
  rw [if_pos rfl, group?_of_unused before hfirst, Option.map_none, Option.getD_none] at hmade
  rcases group?_insertAll _ after hmade with ⟨group, hgroup, hkept⟩
  have htype : group.type = first.type := hkept
  rw [← hsplit] at hgroup
  refine ⟨group, hgroup, htype, ?_⟩
  rw [aspect_insertAll usages _ hgroup]
  simp only [List.any_eq_true, Usage.isDepthOf, Bool.and_eq_true, decide_eq_true_eq]
  by_cases hdepth : ∃ usage ∈ usages, usage.resource = first.resource
      ∧ usage.type = .depthStencilAttachment
  · rw [if_pos hdepth, if_pos hdepth]
  · -- The first use is not one as depth, so its aspect is that of its kind.
    have hother : first.type ≠ .depthStencilAttachment := fun hfirst =>
      hdepth ⟨first, husages ▸ List.mem_append_right before List.mem_cons_self, rfl, hfirst⟩
    rw [if_neg hdepth, if_neg hdepth, ResourceType.aspect, if_neg hother, ResourceGroup.isImage,
      htype]

theorem find?_isSome_iff (usages : List Usage) (name : String) :
    (∃ handle, (empty.insertAll usages).find? name = some handle)
      ↔ ∃ usage ∈ usages, usage.resource = name := by
  have hempty : name ∉ empty.groups.map ResourceGroup.name := List.not_mem_nil
  have hmem : name ∈ (empty.insertAll usages).groups.map ResourceGroup.name
      ↔ ∃ usage ∈ usages, usage.resource = name := by
    rw [mem_names_insertAll, or_iff_right hempty, List.mem_map]
  rw [← hmem, ← not_iff_not, ← find?_eq_none_iff, Option.eq_none_iff_forall_ne_some, not_exists]

/-- The group at a position is found there by its name. -/
theorem find?_of_get? (usages : List Usage) {handle : Nat} {group : ResourceGroup}
    (h : (empty.insertAll usages).get? handle = some group) :
    (empty.insertAll usages).find? group.name = some handle := by
  have hname : ((empty.insertAll usages).groups.map ResourceGroup.name)[handle]?
      = some group.name := by
    rw [List.getElem?_map]
    exact congrArg (Option.map ResourceGroup.name) h
  cases hfind : (empty.insertAll usages).find? group.name with
  | none => exact absurd (List.mem_of_getElem? hname) ((find?_eq_none_iff _ _).mp hfind)
  | some found =>
      rcases get?_of_find? hfind with ⟨other, hother, _, hsame⟩
      -- No name stands at two positions.
      have hfound : ((empty.insertAll usages).groups.map ResourceGroup.name)[found]?
          = some group.name := by
        rw [List.getElem?_map, ← hsame]
        exact congrArg (Option.map ResourceGroup.name) hother
      rcases List.getElem?_eq_some_iff.mp hfound with ⟨hlt, _⟩
      have hnodup : ((empty.insertAll usages).groups.map ResourceGroup.name).Nodup :=
        nodup_insertAll empty usages List.nodup_nil
      rw [(List.getElem?_inj hlt hnodup).mp (hfound.trans hname.symm)]

theorem size_insertAll (usages : List Usage) :
    (empty.insertAll usages).size = (usages.map Usage.resource).toFinset.card := by
  rw [card_toFinset, ← names_empty_insertAll, List.length_map]
  rfl

/-- What a registry answers after some uses, its groups written down. -/
theorem answers (usages : List Usage) :
    RegistryAnswers usages (empty.handles usages) (empty.insertAll usages).find?
      (fun handle => ((empty.insertAll usages).get? handle).map ResourceGroup.record)
      (empty.insertAll usages).size where
  known := find?_isSome_iff usages
  returned := handles_eq empty usages
  distinct := by
    intro first second handle hfirst hsecond
    rcases get?_of_find? hfirst with ⟨group, hgroup, _, hname⟩
    rcases get?_of_find? hsecond with ⟨other, hother, _, hsame⟩
    rw [← hname, ← hsame, Option.some.inj (hgroup.symm.trans hother)]
  counted := size_insertAll usages
  settled := by
    intro before first after husages hfirst
    rcases group?_of_first husages hfirst with ⟨group, hgroup, htype, haspect⟩
    have hused : ∃ usage ∈ usages, usage.resource = first.resource :=
      ⟨first, husages ▸ List.mem_append_right before List.mem_cons_self, rfl⟩
    rcases (find?_isSome_iff usages _).mpr hused with ⟨handle, hhandle⟩
    rcases get?_of_find? hhandle with ⟨other, hget, hother, hname⟩
    rcases Option.some.inj (hother.symm.trans hgroup) with rfl
    refine ⟨handle, hhandle, ?_⟩
    rw [hget, Option.map_some, ResourceGroup.record, hname, htype, haspect,
      ResourceGroup.isImage, htype, ResourceGroup.isSwapchain, hname]
    rfl
  inverse := by
    intro handle record hget
    rcases Option.map_eq_some_iff.mp hget with ⟨group, hgroup, rfl⟩
    exact find?_of_get? usages hgroup

end Registry

/-- Groups in a store, with a table from each name to the key of its group. -/
structure IndexedRegistry (κ σ : Type) where
  groups : σ
  handles : Table String κ

namespace IndexedRegistry

variable {κ σ : Type} (store : KeyedStore κ σ)

/-- A registry without groups. -/
def empty : IndexedRegistry κ σ := ⟨store.empty, []⟩

/-- The handle of a name. -/
def find? (registry : IndexedRegistry κ σ) (name : String) : Option κ := registry.handles.get? name

/-- Register one use, and answer the handle of its group. There is no answer if
    the table leads to a key that nothing is under. -/
def register? (registry : IndexedRegistry κ σ) (usage : Usage) :
    Option (IndexedRegistry κ σ × κ) :=
  match registry.find? usage.resource with
  | some handle =>
    (store.get? registry.groups handle).map fun record =>
      ({ registry with groups := store.set registry.groups handle (record.noting usage) }, handle)
  | none =>
    let inserted := store.insert registry.groups (GroupRecord.ofUsage usage)
    some (⟨inserted.1, registry.handles.put usage.resource inserted.2⟩, inserted.2)

/-- Register several uses, in order, and answer what the calls return. -/
def registerAll? : IndexedRegistry κ σ → List Usage → Option (IndexedRegistry κ σ × List κ)
  | registry, [] => some (registry, [])
  | registry, usage :: rest =>
    (register? store registry usage).bind fun next =>
      (registerAll? next.1 rest).map fun last => (last.1, next.2 :: last.2)

/-- The keys, in order of registration, stand for the positions of a registry that
    holds the same groups. -/
structure Mirrors (indexed : IndexedRegistry κ σ) (registry : Registry) (keys : List κ) :
    Prop where
  nodup : keys.Nodup
  length : keys.length = registry.groups.length
  found : ∀ name, indexed.find? name = (registry.find? name).bind fun handle => keys[handle]?
  held : ∀ (handle : Nat) (key : κ), keys[handle]? = some key →
    store.get? indexed.groups key = (registry.get? handle).map ResourceGroup.record
  only : ∀ key record, store.get? indexed.groups key = some record → key ∈ keys
  size : store.size indexed.groups = registry.size

theorem mirrors_empty (hlawful : store.Lawful) :
    Mirrors store (empty store) Registry.empty [] where
  nodup := List.nodup_nil
  length := rfl
  found _ := rfl
  held _ _ hkey := absurd hkey (by simp)
  only key record hget := by
    rw [empty, hlawful.get_empty] at hget
    exact absurd hget (Option.some_ne_none record).symm
  size := hlawful.size_empty

variable {store}

theorem Mirrors.getElem?_of_find? {indexed : IndexedRegistry κ σ} {registry : Registry}
    {keys : List κ} (h : Mirrors store indexed registry keys) {name : String} {handle : Nat}
    (hfind : registry.find? name = some handle) :
    ∃ key group, keys[handle]? = some key ∧ indexed.find? name = some key
      ∧ registry.get? handle = some group
      ∧ store.get? indexed.groups key = some group.record := by
  rcases Registry.get?_of_find? hfind with ⟨group, hget, _, _⟩
  rcases List.getElem?_eq_some_iff.mp hget with ⟨hlt, _⟩
  rw [← h.length] at hlt
  have hkey : keys[handle]? = some keys[handle] := List.getElem?_eq_getElem hlt
  refine ⟨_, group, hkey, ?_, hget, ?_⟩
  · rw [h.found, hfind, Option.bind_some, hkey]
  · rw [h.held handle _ hkey, hget, Option.map_some]

/-- Something is under each of the keys. -/
theorem Mirrors.exists_record {indexed : IndexedRegistry κ σ} {registry : Registry}
    {keys : List κ} (h : Mirrors store indexed registry keys) {key : κ} (hkey : key ∈ keys) :
    ∃ record, store.get? indexed.groups key = some record := by
  rcases List.mem_iff_getElem?.mp hkey with ⟨handle, hhandle⟩
  rcases List.getElem?_eq_some_iff.mp hhandle with ⟨hlt, _⟩
  rw [h.length] at hlt
  have hget : registry.get? handle = some registry.groups[handle] := List.getElem?_eq_getElem hlt
  exact ⟨_, by rw [h.held handle key hhandle, hget, Option.map_some]⟩

/-- A use of a known name is written under the key of its group. -/
theorem Mirrors.note {indexed : IndexedRegistry κ σ} {registry : Registry} {keys : List κ}
    (hlawful : store.Lawful) (h : Mirrors store indexed registry keys) {usage : Usage}
    {handle : Nat} (hfind : registry.find? usage.resource = some handle) {key : κ}
    (hkey : keys[handle]? = some key) {record : GroupRecord}
    (hrecord : store.get? indexed.groups key = some record) :
    Mirrors store { indexed with groups := store.set indexed.groups key (record.noting usage) }
      (registry.insert usage) keys := by
  have hgroups : (registry.insert usage).groups
      = registry.groups.modify handle fun group => group.noting usage :=
    Registry.insert_of_find? hfind
  refine ⟨h.nodup, ?_, ?_, ?_, ?_, ?_⟩
  · rw [hgroups, List.length_modify]
    exact h.length
  · intro name
    refine (h.found name).trans ?_
    rw [Registry.find?_insert, hfind, Option.getD_some]
    split
    · next hname => rw [← hname, hfind]
    · rfl
  · intro place other hother
    have hget : (registry.insert usage).get? place
        = (registry.groups.modify handle fun group => group.noting usage)[place]? :=
      congrArg (·[place]?) hgroups
    rw [hget, List.getElem?_modify]
    by_cases hplace : handle = place
    · subst hplace
      rcases Option.some.inj (hother.symm.trans hkey) with rfl
      have hheld := h.held handle other hkey
      rw [hrecord] at hheld
      rcases Option.map_eq_some_iff.mp hheld.symm with ⟨group, hgroup, rfl⟩
      change registry.groups[handle]? = some group at hgroup
      rw [hgroup, hlawful.get_set_self _ _ _ _ hrecord]
      simp only [if_true, Option.map_eq_map, Option.map_some, ResourceGroup.record_noting]
    · have hne : other ≠ key := by
        rintro rfl
        rcases List.getElem?_eq_some_iff.mp hkey with ⟨hlt, _⟩
        exact hplace ((List.getElem?_inj hlt h.nodup).mp (hkey.trans hother.symm))
      rw [hlawful.get_set_other _ _ _ _ hne, h.held place other hother]
      simp only [if_neg hplace, Option.map_eq_map, Option.map_id']
      rfl
  · intro other kept hkept
    by_cases hne : other = key
    · exact hne ▸ List.mem_of_getElem? hkey
    · rw [hlawful.get_set_other _ _ _ _ hne] at hkept
      exact h.only other kept hkept
  · rw [hlawful.size_set _ _ _ _ hrecord, h.size, Registry.size, Registry.size, hgroups,
      List.length_modify]

/-- A use of a new name adds a key at the end. -/
theorem Mirrors.add {indexed : IndexedRegistry κ σ} {registry : Registry} {keys : List κ}
    (hlawful : store.Lawful) (h : Mirrors store indexed registry keys) {usage : Usage}
    (hfind : registry.find? usage.resource = none) {inserted : σ × κ}
    (hinserted : store.insert indexed.groups (GroupRecord.ofUsage usage) = inserted) :
    Mirrors store ⟨inserted.1, indexed.handles.put usage.resource inserted.2⟩
      (registry.insert usage) (keys ++ [inserted.2]) := by
  have hgroups := Registry.insert_of_find?_none hfind
  have hfresh := hlawful.fresh indexed.groups (GroupRecord.ofUsage usage)
  have hself := hlawful.get_insert_self indexed.groups (GroupRecord.ofUsage usage)
  have hother := hlawful.get_insert_other indexed.groups (GroupRecord.ofUsage usage)
  have hsize := hlawful.size_insert indexed.groups (GroupRecord.ofUsage usage)
  rw [hinserted] at hfresh hself hother hsize
  rcases inserted with ⟨groups, key⟩
  simp only at hfresh hself hother hsize ⊢
  -- Something is under each of the old keys, so the new one is none of them.
  have hnew : key ∉ keys := by
    intro hmem
    rcases h.exists_record hmem with ⟨record, hrecord⟩
    exact Option.some_ne_none record (hrecord.symm.trans hfresh)
  refine ⟨?_, ?_, ?_, ?_, ?_, ?_⟩
  · rw [← List.concat_eq_append]
    exact h.nodup.concat hnew
  · rw [hgroups, List.length_append, List.length_append, h.length, List.length_singleton,
      List.length_singleton]
  · intro name
    change (indexed.handles.put usage.resource key).get? name = _
    rw [Table.get?_put, Registry.find?_insert, hfind, Option.getD_none]
    split
    · rw [Option.bind_some, ← h.length, List.getElem?_concat_length]
    · refine (h.found name).trans ?_
      cases hname : registry.find? name with
      | none => rfl
      | some handle =>
          rcases h.getElem?_of_find? hname with ⟨old, _, hold, _⟩
          rcases List.getElem?_eq_some_iff.mp hold with ⟨hlt, _⟩
          rw [Option.bind_some, Option.bind_some, List.getElem?_append_left hlt]
  · intro place other hplace
    have hget : (registry.insert usage).get? place
        = (registry.groups ++ [ResourceGroup.ofUsage usage])[place]? :=
      congrArg (·[place]?) hgroups
    rw [hget]
    by_cases hlt : place < keys.length
    · rw [List.getElem?_append_left hlt] at hplace
      have hne : other ≠ key := fun heq => hnew (heq ▸ List.mem_of_getElem? hplace)
      rw [List.getElem?_append_left (h.length ▸ hlt), hother other hne]
      exact h.held place other hplace
    · -- The last place is that of the new key, and of the new group.
      rcases List.getElem?_eq_some_iff.mp hplace with ⟨hlast, _⟩
      rw [List.length_append, List.length_singleton] at hlast
      have hend : place = keys.length := by omega
      rw [hend, List.getElem?_concat_length] at hplace
      rcases Option.some.inj hplace with rfl
      rw [hend, h.length, List.getElem?_concat_length, hself]
      rfl
  · intro other record hrecord
    by_cases hne : other = key
    · exact hne ▸ List.mem_append_right keys List.mem_cons_self
    · rw [hother other hne] at hrecord
      exact List.mem_append_left _ (h.only other record hrecord)
  · rw [hsize, h.size, Registry.size, Registry.size, hgroups, List.length_append,
      List.length_singleton]

/-- One call keeps the keys in step with the positions, and what it returns is the
    key of what the registry returns. -/
theorem mirrors_register {indexed : IndexedRegistry κ σ} {registry : Registry} {keys : List κ}
    (hlawful : store.Lawful) (h : Mirrors store indexed registry keys) (usage : Usage) :
    ∃ next key later, register? store indexed usage = some (next, key)
      ∧ Mirrors store next (registry.insert usage) (keys ++ later)
      ∧ (keys ++ later)[(registry.register usage).2]? = some key := by
  cases hfind : registry.find? usage.resource with
  | some handle =>
      rcases h.getElem?_of_find? hfind with ⟨key, group, hkey, hfound, _, hrecord⟩
      refine ⟨⟨store.set indexed.groups key (group.record.noting usage), indexed.handles⟩, key, [],
        ?_, ?_, ?_⟩
      · rw [register?, hfound]
        simp only [hrecord, Option.map_some]
      · rw [List.append_nil]
        exact h.note hlawful hfind hkey hrecord
      · rw [List.append_nil, Registry.register, hfind, Option.getD_some]
        exact hkey
  | none =>
      have hfound := h.found usage.resource
      rw [hfind, Option.bind_none] at hfound
      let inserted := store.insert indexed.groups (GroupRecord.ofUsage usage)
      refine ⟨_, inserted.2, [inserted.2], ?_, h.add hlawful hfind rfl, ?_⟩
      · rw [register?, hfound]
      · rw [Registry.register, hfind, Option.getD_none, ← h.length, List.getElem?_concat_length]

/-- So do any number of calls, and every one returns what its name is found under
    in the end. -/
theorem mirrors_registerAll {indexed : IndexedRegistry κ σ} {registry : Registry} {keys : List κ}
    (hlawful : store.Lawful) (h : Mirrors store indexed registry keys) (usages : List Usage) :
    ∃ last returned later, registerAll? store indexed usages = some (last, returned)
      ∧ Mirrors store last (registry.insertAll usages) (keys ++ later)
      ∧ returned.map some = usages.map fun usage => last.find? usage.resource := by
  induction usages generalizing indexed registry keys with
  | nil =>
      refine ⟨indexed, [], [], rfl, ?_, rfl⟩
      rw [List.append_nil]
      exact h
  | cons usage rest ih =>
      rcases mirrors_register hlawful h usage with ⟨next, key, later, hcall, hnext, hkey⟩
      rcases ih hnext with ⟨last, returned, latest, hcalls, hlast, hreturned⟩
      refine ⟨last, key :: returned, later ++ latest, ?_, ?_, ?_⟩
      · rw [registerAll?, hcall, Option.bind_some, hcalls, Option.map_some]
      · rw [← List.append_assoc]
        exact hlast
      · -- The name stays where it is found now, and so does its key.
        have hfind := Registry.find?_insertAll _ rest (registry.find?_register usage)
        have hfirst : last.find? usage.resource = some key := by
          rcases List.getElem?_eq_some_iff.mp hkey with ⟨hlt, _⟩
          rw [hlast.found, hfind, Option.bind_some, List.getElem?_append_left hlt, hkey]
        rw [List.map_cons, List.map_cons, hfirst, hreturned]

end IndexedRegistry

/-- A registry that mirrors another one answers the same, with its keys for the
    positions. -/
theorem RegistryAnswers.mirrored {κ σ : Type} {store : KeyedStore κ σ} {usages : List Usage}
    {indexed : IndexedRegistry κ σ} {registry : Registry} {keys : List κ}
    {positions : List Nat} {returned : List κ}
    (h : RegistryAnswers usages positions registry.find?
      (fun handle => (registry.get? handle).map ResourceGroup.record) registry.size)
    (hmirrors : IndexedRegistry.Mirrors store indexed registry keys)
    (hreturned : returned.map some = usages.map fun usage => indexed.find? usage.resource) :
    RegistryAnswers usages returned indexed.find? (store.get? indexed.groups)
      (store.size indexed.groups) where
  known := by
    intro name
    rw [← h.known name]
    constructor
    · rintro ⟨key, hkey⟩
      rw [hmirrors.found] at hkey
      rcases Option.bind_eq_some_iff.mp hkey with ⟨handle, hhandle, _⟩
      exact ⟨handle, hhandle⟩
    · rintro ⟨handle, hhandle⟩
      rcases hmirrors.getElem?_of_find? hhandle with ⟨key, _, _, hkey, _⟩
      exact ⟨key, hkey⟩
  returned := hreturned
  distinct := by
    intro first second key hfirst hsecond
    rw [hmirrors.found] at hfirst hsecond
    rcases Option.bind_eq_some_iff.mp hfirst with ⟨handle, hhandle, hkey⟩
    rcases Option.bind_eq_some_iff.mp hsecond with ⟨other, hother, hsame⟩
    rcases List.getElem?_eq_some_iff.mp hkey with ⟨hlt, _⟩
    rcases (List.getElem?_inj hlt hmirrors.nodup).mp (hkey.trans hsame.symm) with rfl
    exact h.distinct first second handle hhandle hother
  counted := hmirrors.size.trans h.counted
  settled := by
    intro before first after husages hfirst
    rcases h.settled before first after husages hfirst with ⟨handle, hhandle, hget⟩
    rcases hmirrors.getElem?_of_find? hhandle with ⟨key, group, hkey, hfound, _⟩
    exact ⟨key, hfound, (hmirrors.held handle key hkey).trans hget⟩
  inverse := by
    intro key record hrecord
    rcases List.mem_iff_getElem?.mp (hmirrors.only key record hrecord) with ⟨handle, hkey⟩
    rw [hmirrors.held handle key hkey] at hrecord
    rw [hmirrors.found, h.inverse handle record hrecord, Option.bind_some, hkey]

/-- What a registry answers after any uses: exactly the names that were used are
    found, each under the handle that every call with the name returned, and two
    names under two handles. There are as many groups as distinct names. The group
    of a name has the type and the kind of its first use, it is the presented image
    exactly if it is called that, and its aspect is depth and stencil if any use
    of the name was as a depth attachment, and else the one of its first type. No
    call fails where groups are in a store and names in a table beside it, and the
    same is answered then, whatever keys the store makes up. -/
theorem registry_answers {κ σ : Type} (store : KeyedStore κ σ) (hlawful : store.Lawful)
    (usages : List Usage) :
    RegistryAnswers usages (Registry.empty.handles usages) (Registry.empty.insertAll usages).find?
        (fun handle =>
          ((Registry.empty.insertAll usages).get? handle).map ResourceGroup.record)
        (Registry.empty.insertAll usages).size
      ∧ ∃ indexed returned,
        IndexedRegistry.registerAll? store (IndexedRegistry.empty store) usages
            = some (indexed, returned)
          ∧ RegistryAnswers usages returned indexed.find? (store.get? indexed.groups)
              (store.size indexed.groups) := by
  have hanswers := Registry.answers usages
  rcases IndexedRegistry.mirrors_registerAll hlawful (IndexedRegistry.mirrors_empty store hlawful)
    usages with ⟨indexed, returned, keys, hcalls, hmirrors, hreturned⟩
  exact ⟨hanswers, indexed, returned, hcalls, hanswers.mirrored hmirrors hreturned⟩

/-- A texture is sampled, then the swapchain is written, and then the texture is
    used as depth. -/
def sampledThenDepth : List Usage :=
  [Usage.plain .read .sampledImage "shadow",
    Usage.attachment .colorAttachment swapchainName LoadOp.clear StoreOp.store,
    Usage.attachment .depthStencilAttachment "shadow" LoadOp.load StoreOp.store]

/-- The texture has one group, with the type of its first use and the aspect of
    its last one, and both calls for it return the same handle. -/
theorem registry_answers_sampledThenDepth :
    KeyedStore.positions.Lawful
      ∧ Registry.empty.handles sampledThenDepth = [0, 1, 0]
      ∧ (∃ handle, (Registry.empty.insertAll sampledThenDepth).find? "shadow" = some handle
        ∧ ((Registry.empty.insertAll sampledThenDepth).get? handle).map ResourceGroup.record
          = some ⟨"shadow", .sampledImage, true, AspectMask.depthStencil, false⟩)
      ∧ ∃ indexed,
        IndexedRegistry.registerAll? KeyedStore.positions
            (IndexedRegistry.empty KeyedStore.positions) sampledThenDepth
          = some (indexed, [0, 1, 0])
        ∧ KeyedStore.positions.size indexed.groups = 2 := by
  have hlawful := KeyedStore.lawful_positions
  rcases registry_answers KeyedStore.positions hlawful sampledThenDepth with
    ⟨hanswers, indexed, returned, hcalls, hindexed⟩
  refine ⟨hlawful, rfl, ?_, indexed, ?_, ?_⟩
  · exact hanswers.settled [] _ _ rfl fun usage husage => absurd husage List.not_mem_nil
  · have hreturned : (IndexedRegistry.registerAll? KeyedStore.positions
        (IndexedRegistry.empty KeyedStore.positions) sampledThenDepth).map Prod.snd
          = some [0, 1, 0] := rfl
    rw [hcalls, Option.map_some, Option.some.injEq] at hreturned
    rw [hcalls, ← hreturned]
  · exact hindexed.counted

end FrameGraph
