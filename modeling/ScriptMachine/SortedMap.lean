/-!
# Finite maps in key order

A map is the list of its entries in strictly ascending order of their keys, so two maps with the same
entries are equal. Writing a key replaces its entry or inserts one at its place.
-/

namespace ScriptMachine

/-- A strict total order on keys. -/
class KeyOrder (K : Type) [LT K] : Prop where
  irrefl (a : K) : ¬ a < a
  trans {a b c : K} : a < b → b < c → a < c
  total {a b : K} : ¬ a < b → a ≠ b → b < a

instance : KeyOrder String where
  irrefl := String.lt_irrefl
  trans := String.lt_trans
  total {_ _} h hne :=
    Decidable.byContradiction fun h' =>
      hne (String.le_antisymm (String.not_lt.1 h') (String.not_lt.1 h))

/-- The entries of a map, one for each key, by ascending keys. -/
structure SortedMap (K V : Type) [LT K] where
  entries : List (K × V)
  sorted : entries.Pairwise fun a b => a.1 < b.1

namespace SortedMap

variable {K V : Type} [LT K]

@[ext] theorem ext {m n : SortedMap K V} (h : m.entries = n.entries) : m = n := by
  cases m; cases n; cases h; rfl

instance [DecidableEq K] [DecidableEq V] : DecidableEq (SortedMap K V) := fun m n =>
  if h : m.entries = n.entries then isTrue (ext h) else isFalse fun h' => h (h' ▸ rfl)

def empty : SortedMap K V := ⟨[], .nil⟩

def size (m : SortedMap K V) : Nat := m.entries.length

def isEmpty (m : SortedMap K V) : Bool := m.entries.isEmpty

def keys (m : SortedMap K V) : List K := m.entries.map Prod.fst

/-! ## Look-up -/

section Lookup

variable [DecidableEq K]

/-- The value of the first entry with a key. -/
def find? (key : K) : List (K × V) → Option V
  | [] => none
  | (k, v) :: rest => if k = key then some v else find? key rest

def get? (m : SortedMap K V) (key : K) : Option V := find? key m.entries

def contains (m : SortedMap K V) (key : K) : Bool := (m.get? key).isSome

end Lookup

/-! ## Writing -/

section Insert

variable [DecidableEq K] [DecidableLT K]

/-- Writes an entry into a sorted list. -/
def put (key : K) (value : V) : List (K × V) → List (K × V)
  | [] => [(key, value)]
  | (k, v) :: rest =>
    if key < k then (key, value) :: (k, v) :: rest
    else if key = k then (key, value) :: rest
    else (k, v) :: put key value rest

theorem mem_put {key : K} {value : V} {l : List (K × V)} {e : K × V} (h : e ∈ put key value l) :
    e = (key, value) ∨ e ∈ l := by
  induction l with
  | nil => exact .inl (List.mem_singleton.1 h)
  | cons x rest ih =>
    simp only [put] at h
    split at h
    · exact (List.mem_cons.1 h).imp_right id
    · split at h
      · exact (List.mem_cons.1 h).imp_right (List.mem_cons_of_mem _)
      · rcases List.mem_cons.1 h with h | h
        · exact .inr (h ▸ List.mem_cons_self)
        · exact (ih h).imp_right (List.mem_cons_of_mem _)

variable [KeyOrder K]

theorem sorted_put {key : K} {value : V} {l : List (K × V)}
    (h : l.Pairwise fun a b => a.1 < b.1) :
    (put key value l).Pairwise fun a b => a.1 < b.1 := by
  induction l with
  | nil => exact List.pairwise_singleton _ _
  | cons x rest ih =>
    obtain ⟨hx, hrest⟩ := List.pairwise_cons.1 h
    simp only [put]
    split
    next hlt =>
      refine List.pairwise_cons.2 ⟨fun e he => ?_, h⟩
      rcases List.mem_cons.1 he with rfl | he
      · exact hlt
      · exact KeyOrder.trans hlt (hx e he)
    next hlt =>
      split
      next heq => subst heq; exact List.pairwise_cons.2 ⟨hx, hrest⟩
      next hne =>
        refine List.pairwise_cons.2 ⟨fun e he => ?_, ih hrest⟩
        rcases mem_put he with rfl | he
        · exact KeyOrder.total hlt hne
        · exact hx e he

def insert (m : SortedMap K V) (key : K) (value : V) : SortedMap K V :=
  ⟨put key value m.entries, sorted_put m.sorted⟩

/-- The map of some entries; of several with one key the last counts. -/
def ofList (l : List (K × V)) : SortedMap K V := l.foldl (fun m e => m.insert e.1 e.2) empty

end Insert

/-- The map without a key. -/
def erase [DecidableEq K] (m : SortedMap K V) (key : K) : SortedMap K V :=
  ⟨m.entries.filter fun e => e.1 ≠ key, m.sorted.filter _⟩

/-! ## Laws -/

theorem keys_ascending (m : SortedMap K V) : m.keys.Pairwise (· < ·) :=
  List.pairwise_map.2 m.sorted

theorem keys_nodup [KeyOrder K] (m : SortedMap K V) : m.keys.Nodup := by
  refine m.keys_ascending.imp fun {a b} hlt => ?_
  rintro rfl
  exact KeyOrder.irrefl a hlt

section Laws

variable [DecidableEq K]

@[simp] theorem get?_empty (q : K) : (empty : SortedMap K V).get? q = none := rfl

omit [LT K] in
theorem find?_filter_ne (key : K) (l : List (K × V)) (q : K) :
    find? q (l.filter fun e => e.1 ≠ key) = if key = q then none else find? q l := by
  induction l with
  | nil => simp [find?]
  | cons x rest ih =>
    by_cases hx : x.1 = key
    · rw [List.filter_cons_of_neg (by simp [hx]), ih]
      by_cases hq : key = q <;> simp [find?, hx, hq]
    · rw [List.filter_cons_of_pos (by simp [hx])]
      simp only [find?, ih]
      by_cases hq : x.1 = q
      · simp [hq, show key ≠ q from fun h => hx (hq.trans h.symm)]
      · simp [hq]

theorem get?_erase (m : SortedMap K V) (key q : K) :
    (m.erase key).get? q = if key = q then none else m.get? q :=
  find?_filter_ne key m.entries q

omit [LT K] in
theorem mem_of_find? {key : K} {value : V} {l : List (K × V)} (h : find? key l = some value) :
    (key, value) ∈ l := by
  induction l with
  | nil => cases h
  | cons x rest ih =>
    simp only [find?] at h
    split at h
    next heq =>
      cases h
      exact heq ▸ List.mem_cons_self
    next => exact List.mem_cons_of_mem _ (ih h)

omit [LT K] in
theorem mem_keys_iff_find? {key : K} {l : List (K × V)} :
    key ∈ l.map Prod.fst ↔ ∃ value, find? key l = some value := by
  constructor
  · intro h
    induction l with
    | nil => cases h
    | cons x rest ih =>
      simp only [find?]
      by_cases hx : x.1 = key
      · exact ⟨x.2, if_pos hx⟩
      · rw [if_neg hx]
        exact ih ((List.mem_cons.1 h).resolve_left (Ne.symm hx))
  · rintro ⟨value, h⟩
    exact List.mem_map.2 ⟨(key, value), mem_of_find? h, rfl⟩

theorem mem_keys {m : SortedMap K V} {key : K} :
    key ∈ m.keys ↔ ∃ value, m.get? key = some value :=
  mem_keys_iff_find?

variable [DecidableLT K]

theorem find?_put (key : K) (value : V) (l : List (K × V)) (q : K) :
    find? q (put key value l) = if key = q then some value else find? q l := by
  induction l with
  | nil => simp [put, find?]
  | cons x rest ih =>
    simp only [put]
    split
    · simp [find?]
    · split
      next heq => subst heq; by_cases hq : x.1 = q <;> simp [find?, hq]
      next hne =>
        simp only [find?, ih]
        by_cases hq : x.1 = q
        · simp [hq, show key ≠ q from fun h => hne (h.trans hq.symm)]
        · simp [hq]

variable [KeyOrder K]

theorem get?_insert (m : SortedMap K V) (key : K) (value : V) (q : K) :
    (m.insert key value).get? q = if key = q then some value else m.get? q :=
  find?_put key value m.entries q

@[simp] theorem get?_insert_self (m : SortedMap K V) (key : K) (value : V) :
    (m.insert key value).get? key = some value := by
  rw [get?_insert, if_pos rfl]

theorem keys_put {key : K} {value current : V} {l : List (K × V)}
    (hsorted : l.Pairwise fun a b => a.1 < b.1) (h : find? key l = some current) :
    (put key value l).map Prod.fst = l.map Prod.fst := by
  induction l with
  | nil => cases h
  | cons x rest ih =>
    obtain ⟨hx, hrest⟩ := List.pairwise_cons.1 hsorted
    simp only [find?] at h
    simp only [put]
    by_cases heq : x.1 = key
    · subst heq
      rw [if_neg (KeyOrder.irrefl _), if_pos rfl]
      rfl
    · rw [if_neg heq] at h
      -- a key further down is above the one at the front
      have hlt : x.1 < key := hx _ (mem_of_find? h)
      rw [if_neg fun hgt => KeyOrder.irrefl _ (KeyOrder.trans hlt hgt), if_neg (Ne.symm heq),
        List.map_cons, List.map_cons, ih hrest h]

/-- Writing a key that is there keeps the keys. -/
theorem keys_insert {m : SortedMap K V} {key : K} {current : V} (h : m.get? key = some current)
    (value : V) : (m.insert key value).keys = m.keys :=
  keys_put m.sorted h

omit [DecidableLT K] in
theorem find?_of_mem {key : K} {value : V} {l : List (K × V)}
    (hsorted : l.Pairwise fun a b => a.1 < b.1) (h : (key, value) ∈ l) :
    find? key l = some value := by
  induction l with
  | nil => cases h
  | cons x rest ih =>
    obtain ⟨hx, hrest⟩ := List.pairwise_cons.1 hsorted
    simp only [find?]
    rcases List.mem_cons.1 h with rfl | hmem
    · exact if_pos rfl
    · have hne : x.1 ≠ key := by
        rintro rfl
        exact KeyOrder.irrefl x.1 (hx (x.1, value) hmem)
      rw [if_neg hne, ih hrest hmem]

omit [DecidableLT K] in
theorem mem_entries {m : SortedMap K V} {key : K} {value : V} :
    (key, value) ∈ m.entries ↔ m.get? key = some value :=
  ⟨find?_of_mem m.sorted, mem_of_find?⟩

/-- A key above all others goes to the end. -/
theorem put_of_forall_lt {key : K} {value : V} {l : List (K × V)} (h : ∀ e ∈ l, e.1 < key) :
    put key value l = l ++ [(key, value)] := by
  induction l with
  | nil => rfl
  | cons x rest ih =>
    have hlt : x.1 < key := h x List.mem_cons_self
    have hne : key ≠ x.1 := by
      rintro rfl
      exact KeyOrder.irrefl _ hlt
    simp only [put]
    rw [if_neg fun hgt => KeyOrder.irrefl _ (KeyOrder.trans hlt hgt), if_neg hne,
      ih fun e he => h e (List.mem_cons_of_mem _ he), List.cons_append]

theorem entries_foldl_insert {l : List (K × V)} {m : SortedMap K V}
    (hsorted : (m.entries ++ l).Pairwise fun a b => a.1 < b.1) :
    (l.foldl (fun m e => m.insert e.1 e.2) m).entries = m.entries ++ l := by
  induction l generalizing m with
  | nil => simp
  | cons e rest ih =>
    have hlast : (m.insert e.1 e.2).entries = m.entries ++ [e] :=
      put_of_forall_lt fun x hx => (List.pairwise_append.1 hsorted).2.2 x hx e List.mem_cons_self
    rw [List.foldl_cons, ih (by rw [hlast]; simpa using hsorted), hlast]
    simp

theorem entries_ofList {l : List (K × V)} (hsorted : l.Pairwise fun a b => a.1 < b.1) :
    (ofList l : SortedMap K V).entries = l :=
  entries_foldl_insert (m := empty) hsorted

end Laws

end SortedMap

end ScriptMachine
