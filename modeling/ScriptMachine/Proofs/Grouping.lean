import Mathlib.Data.List.Perm.Basic
import Mathlib.Data.List.Nodup
import ScriptMachine.GroupedMap

/-!
# Two tables in step

A map in groups is a list of entries with different keys, each in one group: adding appends an entry and
dropping a group takes its entries out. Both tables of the map are views of that list (`Represents`), the
values by key and the keys by group. As long as they are written together neither holds anything that
the other does not, so what is counted or dropped by the one table is what can be found in the other.
-/

namespace ScriptMachine.GroupedMap

variable {K V : Type} [LT K]

/-! ## Lists of entries -/

/-- The keys that a list of entries has in a group, in order. -/
def keysIn (l : List (K × Grouped V)) (group : String) : List K :=
  (l.filter fun e => e.2.group = group).map Prod.fst

omit [LT K] in
theorem mem_keysIn {l : List (K × Grouped V)} {group : String} {key : K} :
    key ∈ keysIn l group ↔ ∃ value, (key, ⟨group, value⟩) ∈ l := by
  unfold keysIn
  rw [List.mem_map]
  constructor
  · rintro ⟨⟨k, g, v⟩, hmem, rfl⟩
    obtain ⟨hmem, hgroup⟩ := List.mem_filter.1 hmem
    have hg : g = group := by simpa using hgroup
    exact ⟨v, hg ▸ hmem⟩
  · rintro ⟨value, hmem⟩
    exact ⟨(key, ⟨group, value⟩), List.mem_filter.2 ⟨hmem, by simp⟩, rfl⟩

omit [LT K] in
theorem keysIn_append (l : List (K × Grouped V)) (key : K) (value : V) (group q : String) :
    keysIn (l ++ [(key, ⟨group, value⟩)]) q =
      if group = q then keysIn l q ++ [key] else keysIn l q := by
  unfold keysIn
  by_cases hq : group = q <;> simp [List.filter_append, hq]

omit [LT K] in
/-- Without the entries of one group, the others are as they were. -/
theorem keysIn_filter_ne (l : List (K × Grouped V)) (group q : String) :
    keysIn (l.filter fun e => e.2.group ≠ group) q = if group = q then [] else keysIn l q := by
  unfold keysIn
  rw [List.filter_filter]
  by_cases hq : group = q
  · subst hq
    simp
  · rw [if_neg hq]
    congr 1
    refine List.filter_congr fun e _ => ?_
    by_cases he : e.2.group = q
    · simp [he, Ne.symm hq]
    · simp [he]

omit [LT K] in
theorem length_keysIn (l : List (K × Grouped V)) (group : String) :
    (l.filter fun e => e.2.group ≠ group).length + (keysIn l group).length = l.length := by
  have hsplit := List.length_eq_length_filter_add (l := l) fun e => decide (e.2.group = group)
  simp only [keysIn, List.length_map, ne_eq, decide_not]
  omega

/-! ## Representation -/

variable [DecidableEq K]

/-- Both tables of a map are views of one list of entries, and no group without keys is listed. -/
structure Represents (m : GroupedMap K V) (l : List (K × Grouped V)) : Prop where
  nodup : (l.map Prod.fst).Nodup
  get?_iff (key : K) (value : V) : m.get? key = some value ↔ ∃ group, (key, ⟨group, value⟩) ∈ l
  keysOf_eq (group : String) : m.keysOf group = keysIn l group
  listed_ne_nil (group : String) : m.listing.get? group ≠ some []

theorem represents_empty : Represents (empty : GroupedMap K V) [] where
  nodup := List.nodup_nil
  get?_iff key value := by simp [empty, get?]
  keysOf_eq group := by simp [empty, keysOf, keysIn]
  listed_ne_nil group := by simp [empty]

theorem get?_foldl_erase (keys : List K) (values : SortedMap K V) (q : K) :
    (keys.foldl SortedMap.erase values).get? q = if q ∈ keys then none else values.get? q := by
  induction keys generalizing values with
  | nil => simp
  | cons key rest ih =>
    rw [List.foldl_cons, ih, SortedMap.get?_erase]
    by_cases hq : q ∈ rest
    · simp [hq]
    · by_cases hkey : key = q
      · simp [hkey]
      · simp [hq, hkey, Ne.symm hkey]

namespace Represents

variable {m : GroupedMap K V} {l : List (K × Grouped V)}

/-- A key has one entry. -/
theorem entry_unique (h : Represents m l) {key : K} {a b : Grouped V} (ha : (key, a) ∈ l)
    (hb : (key, b) ∈ l) : a = b :=
  (Prod.mk.inj (List.inj_on_of_nodup_map h.nodup ha hb rfl)).2

theorem get?_eq_none_iff (h : Represents m l) {key : K} :
    m.get? key = none ↔ key ∉ l.map Prod.fst := by
  rw [Option.eq_none_iff_forall_ne_some]
  constructor
  · intro hnone hmem
    obtain ⟨⟨k, g, v⟩, hentry, rfl⟩ := List.mem_map.1 hmem
    exact hnone v ((h.get?_iff k v).2 ⟨g, hentry⟩)
  · intro hmem value hget
    obtain ⟨group, hentry⟩ := (h.get?_iff key value).1 hget
    exact hmem (List.mem_map.2 ⟨_, hentry, rfl⟩)

theorem listing_get? (h : Represents m l) (group : String) :
    m.listing.get? group = if keysIn l group = [] then none else some (keysIn l group) := by
  have hkeys := h.keysOf_eq group
  have hne := h.listed_ne_nil group
  unfold keysOf at hkeys
  cases hget : m.listing.get? group with
  | none =>
    rw [hget, Option.getD_none] at hkeys
    rw [if_pos hkeys.symm]
  | some keys =>
    rw [hget, Option.getD_some] at hkeys
    rw [hget, hkeys] at hne
    rw [if_neg fun hnil => hne (congrArg some hnil), hkeys]

/-! ### Writing -/

theorem add [DecidableLT K] [KeyOrder K] (h : Represents m l) {key : K}
    (hfresh : key ∉ l.map Prod.fst) (group : String) (value : V) :
    Represents (m.add group key value) (l ++ [(key, ⟨group, value⟩)]) where
  nodup := by
    rw [List.map_append, List.map_singleton]
    exact List.nodup_append_comm.1 (List.nodup_cons.2 ⟨hfresh, h.nodup⟩)
  get?_iff q v := by
    have hget : (m.add group key value).get? q = if key = q then some value else m.get? q :=
      SortedMap.get?_insert m.values key value q
    rw [hget]
    by_cases hq : key = q
    · subst hq
      have habsent : ∀ g, (key, ⟨g, v⟩) ∉ l := fun g hg => hfresh (List.mem_map.2 ⟨_, hg, rfl⟩)
      simp [habsent, eq_comm]
    · simp [hq, Ne.symm hq, h.get?_iff]
  keysOf_eq q := by
    rw [keysIn_append, ← h.keysOf_eq]
    unfold keysOf GroupedMap.add
    rw [SortedMap.get?_insert]
    by_cases hq : group = q
    · subst hq
      simp [keysOf]
    · simp [hq]
  listed_ne_nil q := by
    unfold GroupedMap.add
    rw [SortedMap.get?_insert]
    split
    · simp
    · exact h.listed_ne_nil q

/-- Dropping a group takes its entries out of both tables, and tells their number. -/
theorem drop (h : Represents m l) (group : String) :
    Represents (m.drop group).1 (l.filter fun e => e.2.group ≠ group) ∧
      (m.drop group).2 = (keysIn l group).length := by
  have hlisting := h.listing_get? group
  unfold GroupedMap.drop
  by_cases hnil : keysIn l group = []
  · -- no entry is in the group
    have hkept : (l.filter fun e => e.2.group ≠ group) = l := by
      have hlength := length_keysIn l group
      rw [hnil, List.length_nil, Nat.add_zero] at hlength
      exact List.filter_sublist.eq_of_length hlength
    rw [if_pos hnil] at hlisting
    rw [hlisting, hkept, hnil]
    exact ⟨h, rfl⟩
  · rw [if_neg hnil] at hlisting
    rw [hlisting]
    refine ⟨⟨?_, fun key value => ?_, fun q => ?_, fun q => ?_⟩, rfl⟩
    · exact h.nodup.sublist (List.filter_sublist.map Prod.fst)
    · have hget : (GroupedMap.mk ((keysIn l group).foldl SortedMap.erase m.values)
          (m.listing.erase group)).get? key =
          if key ∈ keysIn l group then none else m.get? key :=
        get?_foldl_erase _ m.values key
      rw [hget]
      simp only [List.mem_filter, ne_eq, decide_not, Bool.not_eq_eq_eq_not, Bool.not_true,
        decide_eq_false_iff_not]
      by_cases hkey : key ∈ keysIn l group
      · -- the key has no entry in another group
        obtain ⟨v, hv⟩ := mem_keysIn.1 hkey
        rw [if_pos hkey]
        constructor
        · intro hnone
          cases hnone
        · rintro ⟨g, hg, hne⟩
          exact absurd (congrArg Grouped.group (h.entry_unique hg hv)) hne
      · rw [if_neg hkey, h.get?_iff]
        refine exists_congr fun g => ⟨fun hg => ⟨hg, ?_⟩, And.left⟩
        rintro rfl
        exact hkey (mem_keysIn.2 ⟨value, hg⟩)
    · rw [keysIn_filter_ne, ← h.keysOf_eq q]
      unfold keysOf
      rw [SortedMap.get?_erase]
      split <;> rfl
    · rw [SortedMap.get?_erase]
      split
      · simp
      · exact h.listed_ne_nil q

/-! ### Reading -/

theorem mem_keysOf (h : Represents m l) {group : String} {key : K} :
    key ∈ m.keysOf group ↔ ∃ value, (key, ⟨group, value⟩) ∈ l := by
  rw [h.keysOf_eq, mem_keysIn]

theorem mem_values_keys (h : Represents m l) {key : K} :
    key ∈ m.values.keys ↔ ∃ group, key ∈ m.keysOf group := by
  simp only [SortedMap.mem_keys, h.mem_keysOf]
  constructor
  · rintro ⟨value, hget⟩
    obtain ⟨group, hentry⟩ := (h.get?_iff key value).1 hget
    exact ⟨group, value, hentry⟩
  · rintro ⟨group, value, hentry⟩
    exact ⟨value, (h.get?_iff key value).2 ⟨group, hentry⟩⟩

theorem mem_listing_keys (h : Represents m l) {group : String} :
    group ∈ m.listing.keys ↔ ∃ key, key ∈ m.keysOf group := by
  rw [SortedMap.mem_keys, h.listing_get?, h.keysOf_eq]
  by_cases hnil : keysIn l group = []
  · simp [hnil]
  · rw [if_neg hnil]
    exact ⟨fun _ => List.exists_mem_of_ne_nil _ hnil, fun _ => ⟨_, rfl⟩⟩

/-- Every entry has its key in the table of values. -/
theorem size_values [KeyOrder K] (h : Represents m l) : m.values.size = l.length := by
  have hperm : m.values.keys.Perm (l.map Prod.fst) := by
    refine (List.perm_ext_iff_of_nodup m.values.keys_nodup h.nodup).2 fun key => ?_
    rw [h.mem_values_keys]
    simp only [h.mem_keysOf, List.mem_map, Prod.exists, exists_and_right, exists_eq_right]
    constructor
    · rintro ⟨group, value, hentry⟩
      exact ⟨⟨group, value⟩, hentry⟩
    · rintro ⟨⟨group, value⟩, hentry⟩
      exact ⟨group, value, hentry⟩
  have hlength := hperm.length_eq
  rwa [List.length_map, SortedMap.keys, List.length_map] at hlength

/-- The keys of all groups together, each of them once. -/
theorem nodup_listed (h : Represents m l) : (m.listing.keys.flatMap m.keysOf).Nodup := by
  refine List.nodup_flatMap.2 ⟨fun group _ => ?_, ?_⟩
  · rw [h.keysOf_eq]
    exact h.nodup.sublist (List.filter_sublist.map Prod.fst)
  · refine m.listing.keys_nodup.imp fun {a b} hne => ?_
    intro key ha hb
    obtain ⟨v, hv⟩ := h.mem_keysOf.1 ha
    obtain ⟨w, hw⟩ := h.mem_keysOf.1 hb
    exact hne (congrArg Grouped.group (h.entry_unique hv hw))

end Represents

end ScriptMachine.GroupedMap
