/-!
# Tables

A small map from keys to values, kept as a list of pairs in the order in
which the keys first came. The order is part of the value: what is written
out of a table later follows it. Putting a value under a key that is there
replaces the value and leaves the key where it stands.

## Main definitions

* `Table`: Pairs of keys and values.
* `Table.get?`, `Table.put`: Read and write one key.

## Theorems

* `Table.get?_put`: What a table holds after a write.
* `Table.get?_map`, `Table.put_map`: Reading and writing a table that holds the
  values of a function.
-/

namespace FrameGraph

/-- Keys with values, in the order in which the keys first came. -/
abbrev Table (κ α : Type) := List (κ × α)

namespace Table

variable {κ α : Type} [DecidableEq κ]

/-- The value under a key. -/
def get? : Table κ α → κ → Option α
  | [], _ => none
  | entry :: rest, key => if entry.1 = key then some entry.2 else get? rest key

/-- The table with a value under a key. -/
def put : Table κ α → κ → α → Table κ α
  | [], key, value => [(key, value)]
  | entry :: rest, key, value =>
    if entry.1 = key then (key, value) :: rest else entry :: put rest key value

/-- After a write, the key holds the value and every other key what it held
    before. -/
theorem get?_put (table : Table κ α) (key other : κ) (value : α) :
    (table.put key value).get? other = if key = other then some value else table.get? other := by
  induction table with
  | nil => simp only [put, get?]
  | cons entry rest ih =>
    by_cases hk : entry.1 = key
    · have hput : put (entry :: rest) key value = (key, value) :: rest := if_pos hk
      by_cases ho : key = other
      · simp only [hput, get?, if_pos ho]
      · simp only [hput, get?, if_neg ho, hk]
    · have hput : put (entry :: rest) key value = entry :: put rest key value := if_neg hk
      by_cases ho : entry.1 = other
      · have hne : key ≠ other := fun h => hk (ho.trans h.symm)
        simp only [hput, get?, if_pos ho, if_neg hne]
      · simp only [hput, get?, if_neg ho, ih]

/-- A table of the values of a function holds them under its keys and nothing
    under any other. -/
theorem get?_map (keys : List κ) (value : κ → α) (key : κ) :
    get? (keys.map fun other => (other, value other)) key
      = if key ∈ keys then some (value key) else none := by
  induction keys with
  | nil => rfl
  | cons first rest ih =>
    by_cases hk : first = key
    · rw [List.map_cons, get?, if_pos hk, if_pos (hk ▸ List.mem_cons_self), hk]
    · rw [List.map_cons, get?, if_neg hk, ih]
      simp only [List.mem_cons, Ne.symm hk, false_or]

/-- A write changes the function in one place. A new key goes to the end. -/
theorem put_map {keys : List κ} (hnodup : keys.Nodup) (value : κ → α) (key : κ) (new : α) :
    put (keys.map fun other => (other, value other)) key new
      = (keys ++ if key ∈ keys then [] else [key]).map fun other =>
          (other, if other = key then new else value other) := by
  induction keys with
  | nil =>
    simp only [List.map_nil, put, List.not_mem_nil, if_false, List.nil_append, List.map_cons,
      if_true]
  | cons first rest ih =>
    rw [List.nodup_cons] at hnodup
    by_cases hk : first = key
    · subst hk
      rw [List.map_cons, put, if_pos rfl, if_pos List.mem_cons_self, List.append_nil,
        List.map_cons, if_pos rfl]
      refine congrArg (List.cons _) (List.map_congr_left ?_)
      -- The key does not occur again, so nothing changes behind it.
      intro other hother
      have hne : other ≠ first := fun heq => hnodup.1 (heq ▸ hother)
      rw [if_neg hne]
    · rw [List.map_cons, put, if_neg hk, ih hnodup.2, List.cons_append, List.map_cons, if_neg hk]
      simp only [List.mem_cons, Ne.symm hk, false_or]

end Table

end FrameGraph
