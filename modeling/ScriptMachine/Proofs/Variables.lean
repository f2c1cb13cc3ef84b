import Mathlib.Data.Finset.Card
import Mathlib.Data.List.Induction
import ScriptMachine.Proofs.ByteOrder
import ScriptMachine.Proofs.Computation

/-!
# The variables and their history

A table of variables is declared, read and stored to in any order. What it holds is decided by that
history: a name has the value that was written under it last, where a store counts only if its value is of
the class that the name was last declared with (`Holds`). The table looks at the value it holds instead of
the declaration, which comes to the same, since no store that succeeds changes the class
(`classOf_after`).
-/

namespace ScriptMachine.SymbolTable

/-! ## Histories -/

/-- What is done with a table. -/
inductive Operation where
  | declare (name : String) (value : Value)
  | get (name : String)
  | contains (name : String)
  | load (name : String)
  | store (name : String) (value : Value)

/-- The table after an operation. A store that is refused leaves it as it is, and so does what only
reads. -/
def apply (t : SymbolTable) : Operation → SymbolTable
  | .declare name value => (t.declare name value).1
  | .store name value =>
    match t.store name value with
    | .ok stored => stored
    | .error _ => t
  | .get _ => t
  | .contains _ => t
  | .load _ => t

/-- The table after a history, which begins with nothing declared. -/
def after (history : List Operation) : SymbolTable := history.foldl apply .empty

/-- The operations that declare variables one after the other. -/
def declarations (init : List (String × Value)) : List Operation :=
  init.map fun e => .declare e.1 e.2

theorem after_append (history : List Operation) (op : Operation) :
    after (history ++ [op]) = (after history).apply op := by
  simp [after]

/-- A table that is collected from variables has declared them one after the other. -/
theorem after_declarations_append (init : List (String × Value)) (operations : List Operation) :
    after (declarations init ++ operations) = operations.foldl apply (.ofList init) := by
  rw [after, List.foldl_append, declarations, List.foldl_map]
  rfl

/-! ## Classes -/

/-- The class that a name was last declared with. -/
def declaredClass (history : List Operation) (name : String) : Option ValueType :=
  history.foldl (fun type op => match op with
    | .declare n value => if n = name then some value.type else type
    | _ => type) none

variable {t : SymbolTable} {name : String} {value : Value}

theorem store_eq_ok_iff {stored : SymbolTable} : t.store name value = .ok stored ↔
    t.classOf name = some value.type ∧ stored = t.insert name value := by
  constructor
  · intro h
    obtain ⟨_, hadmits, h⟩ := bind_eq_ok h
    cases h
    exact ⟨classOf_of_admits hadmits, rfl⟩
  · rintro ⟨hclass, rfl⟩
    unfold store
    rw [admits_of_classOf hclass]
    rfl

theorem store_eq_error_iff {e : ScriptError} : t.store name value = .error e ↔
    t.get? name = none ∧ e = .unknownVariable name ∨
      ∃ current, t.get? name = some current ∧ current.type ≠ value.type ∧
        e = .typeMismatch current.type value.type := by
  unfold store admits
  cases t.get? name with
  | none => simp [bind, Except.bind, eq_comm]
  | some current =>
    by_cases htype : current.type = value.type
    · simp [bind, Except.bind, pure, Except.pure, htype]
    · simp [bind, Except.bind, htype, @eq_comm _ e]

theorem declaredClass_append (history : List Operation) (op : Operation) (name : String) :
    declaredClass (history ++ [op]) name = match op with
      | .declare n value => if n = name then some value.type else declaredClass history name
      | _ => declaredClass history name := by
  simp [declaredClass]

/-- What one operation does to classes: a declaration may change one, and nothing else does. -/
theorem classOf_apply (t : SymbolTable) (op : Operation) (name : String) :
    (t.apply op).classOf name = match op with
      | .declare n value => if n = name then some value.type else t.classOf name
      | _ => t.classOf name := by
  cases op with
  | declare n value =>
    simp only [apply, declare, classOf, SortedMap.get?_insert]
    split <;> rfl
  | store n value =>
    simp only [apply]
    split
    next stored hstore =>
      obtain ⟨hclass, rfl⟩ := store_eq_ok_iff.1 hstore
      rw [classOf_insert (admits_of_classOf hclass)]
    next => rfl
  | get | contains | load => rfl

/-- A name has the class that it was last declared with. -/
theorem classOf_after (history : List Operation) (name : String) :
    (after history).classOf name = declaredClass history name := by
  induction history using List.reverseRecOn with
  | nil => rfl
  | append_singleton history op ih =>
    rw [after_append, classOf_apply, declaredClass_append, ih]

/-! ## Values -/

/-- An operation writes a value under a name: it declares it, or stores it in its class. -/
def Writes (history : List Operation) (name : String) (value : Value) (op : Operation) : Prop :=
  op = .declare name value ∨
    op = .store name value ∧ declaredClass history name = some value.type

/-- The operation with this number wrote the value under the name. -/
def WrittenAt (history : List Operation) (i : Nat) (name : String) (value : Value) : Prop :=
  ∃ op, history[i]? = some op ∧ Writes (history.take i) name value op

/-- The value was written under the name by the operation with this number, and by none since. -/
structure Holds (history : List Operation) (i : Nat) (name : String) (value : Value) : Prop where
  written : WrittenAt history i name value
  last (j : Nat) (h : i < j) (v : Value) : ¬ WrittenAt history j name v

theorem WrittenAt.lt_length {history : List Operation} {i : Nat}
    (h : WrittenAt history i name value) : i < history.length := by
  obtain ⟨op, hop, -⟩ := h
  exact (List.getElem?_eq_some_iff.1 hop).1

theorem writtenAt_append {history : List Operation} {op : Operation} {i : Nat} :
    WrittenAt (history ++ [op]) i name value ↔
      WrittenAt history i name value ∨ i = history.length ∧ Writes history name value op := by
  unfold WrittenAt
  rcases Nat.lt_trichotomy i history.length with hlt | rfl | hgt
  · rw [List.getElem?_append_left hlt, List.take_append_of_le_length (Nat.le_of_lt hlt)]
    simp [Nat.ne_of_lt hlt]
  · simp
  · rw [List.getElem?_eq_none (by simp; omega), List.getElem?_eq_none (Nat.le_of_lt hgt)]
    simp [Nat.ne_of_gt hgt]

/-- What one more operation does to a value that is held: it may put its own in its place. -/
theorem holds_append {history : List Operation} {op : Operation} {i : Nat} :
    Holds (history ++ [op]) i name value ↔
      Holds history i name value ∧ (∀ v, ¬ Writes history name v op) ∨
      i = history.length ∧ Writes history name value op := by
  constructor
  · rintro ⟨hwritten, hlast⟩
    rcases writtenAt_append.1 hwritten with hold | hnew
    · refine .inl ⟨⟨hold, fun j hj v hv => hlast j hj v (writtenAt_append.2 (.inl hv))⟩, ?_⟩
      intro v hv
      exact hlast _ hold.lt_length v (writtenAt_append.2 (.inr ⟨rfl, hv⟩))
    · exact .inr hnew
  · rintro (⟨⟨hold, hlast⟩, hop⟩ | ⟨rfl, hnew⟩)
    · refine ⟨writtenAt_append.2 (.inl hold), fun j hj v hv => ?_⟩
      rcases writtenAt_append.1 hv with hv | ⟨-, hv⟩
      · exact hlast j hj v hv
      · exact hop v hv
    · refine ⟨writtenAt_append.2 (.inr ⟨rfl, hnew⟩), fun j hj v hv => ?_⟩
      rcases writtenAt_append.1 hv with hv | ⟨rfl, -⟩
      · exact Nat.lt_asymm hj hv.lt_length
      · exact Nat.lt_irrefl _ hj

theorem Writes.unique {history : List Operation} {op : Operation} {name' : String} {value' : Value}
    (h : Writes history name value op) (h' : Writes history name' value' op) :
    name = name' ∧ value = value' := by
  rcases h with rfl | ⟨rfl, -⟩ <;> rcases h' with h' | ⟨h', -⟩ <;> cases h'
  · exact ⟨rfl, rfl⟩
  · exact ⟨rfl, rfl⟩

/-- An operation writes one entry or leaves the table as it is. -/
theorem apply_cases {history : List Operation}
    (hclass : ∀ name, t.classOf name = declaredClass history name) (op : Operation) :
    (∃ n v, Writes history n v op ∧ t.apply op = t.insert n v) ∨
      (∀ n v, ¬ Writes history n v op) ∧ t.apply op = t := by
  cases op with
  | declare n v => exact .inl ⟨n, v, .inl rfl, rfl⟩
  | store n v =>
    simp only [apply]
    split
    next stored hstore =>
      obtain ⟨hn, rfl⟩ := store_eq_ok_iff.1 hstore
      exact .inl ⟨n, v, .inr ⟨rfl, hclass n ▸ hn⟩, rfl⟩
    next e hstore =>
      refine .inr ⟨fun name value hwrites => ?_, rfl⟩
      rcases hwrites with h | ⟨h, hn⟩ <;> cases h
      have hok : t.store n v = .ok (t.insert n v) := store_eq_ok_iff.2 ⟨hclass n ▸ hn, rfl⟩
      rw [hok] at hstore
      cases hstore
  | get | contains | load => exact .inr ⟨by simp [Writes], rfl⟩

/-- What one operation does to values. -/
theorem get?_apply {history : List Operation}
    (hclass : ∀ name, t.classOf name = declaredClass history name) (op : Operation) :
    (t.apply op).get? name = some value ↔
      t.get? name = some value ∧ (∀ v, ¬ Writes history name v op) ∨
      Writes history name value op := by
  rcases apply_cases hclass op with ⟨n, v, hwrites, happly⟩ | ⟨hnone, happly⟩
  · rw [happly, SortedMap.get?_insert]
    constructor
    · intro h
      split at h
      next hn =>
        cases h
        exact .inr (hn ▸ hwrites)
      next hn => exact .inl ⟨h, fun w hw => hn (hwrites.unique hw).1⟩
    · rintro (⟨h, hother⟩ | h)
      · have hne : n ≠ name := by
          rintro rfl
          exact hother v hwrites
        rw [if_neg hne, h]
      · obtain ⟨rfl, rfl⟩ := hwrites.unique h
        exact if_pos rfl
  · rw [happly]
    simp [hnone]

/-- **A name has the value that it holds by its history.** -/
theorem get?_after {history : List Operation} :
    (after history).get? name = some value ↔ ∃ i, Holds history i name value := by
  induction history using List.reverseRecOn with
  | nil =>
    constructor
    · intro h
      cases h
    · rintro ⟨i, hwritten, -⟩
      exact absurd hwritten.lt_length (Nat.not_lt_zero i)
  | append_singleton history op ih =>
    simp only [after_append, get?_apply (classOf_after history), ih, holds_append, exists_or,
      exists_and_right, exists_eq, true_and]

/-! ## Names -/

/-- The names that a history declares, as often as it does. -/
def declaredNames (history : List Operation) : List String :=
  history.filterMap fun
    | .declare name _ => some name
    | _ => none

theorem mem_declaredNames {history : List Operation} :
    name ∈ declaredNames history ↔ ∃ value, .declare name value ∈ history := by
  unfold declaredNames
  rw [List.mem_filterMap]
  constructor
  · rintro ⟨op, hop, hname⟩
    cases op with
    | declare n value =>
      cases hname
      exact ⟨value, hop⟩
    | get | contains | load | store => cases hname
  · rintro ⟨value, hop⟩
    exact ⟨_, hop, rfl⟩

theorem isSome_declaredClass {history : List Operation} :
    (declaredClass history name).isSome = true ↔ name ∈ declaredNames history := by
  induction history using List.reverseRecOn with
  | nil => simp [declaredClass, declaredNames]
  | append_singleton history op ih =>
    rw [declaredClass_append, declaredNames, List.filterMap_append, List.mem_append, ← declaredNames,
      ← ih]
    cases op with
    | declare n value =>
      by_cases hn : n = name
      · simp [hn]
      · simp [hn, Ne.symm hn]
    | get | contains | load | store => simp

/-- A table has the names that were ever declared. -/
theorem mem_keys_after {history : List Operation} :
    name ∈ (after history).keys ↔ name ∈ declaredNames history := by
  rw [SortedMap.mem_keys, ← isSome_declaredClass, ← classOf_after, classOf, Option.isSome_map,
    Option.isSome_iff_exists]

theorem size_after (history : List Operation) :
    (after history).size = (declaredNames history).toFinset.card := by
  have hkeys : (after history).keys.toFinset = (declaredNames history).toFinset := by
    ext name
    rw [List.mem_toFinset, List.mem_toFinset, mem_keys_after]
  rw [← hkeys, List.toFinset_card_of_nodup (SortedMap.keys_nodup _), SortedMap.keys, List.length_map,
    SortedMap.size]

/-! ## The table -/

theorem load_eq_ok_iff : t.load name = .ok value ↔ t.get? name = some value := by
  unfold load
  cases t.get? name <;> simp

theorem load_eq_error_iff {e : ScriptError} :
    t.load name = .error e ↔ e = .unknownVariable name ∧ t.get? name = none := by
  unfold load
  cases t.get? name <;> simp [eq_comm]

/-- **A table of variables is a map that its history makes.** Collect a table from variables and then
declare, read and store in any order. The table lists every name that was ever declared once, by ascending
bytes, with the value written under it last, and has as many entries as there are such names. The class of
a name is that of its last declaration. A declaration gives the value that it replaces. A store succeeds
exactly if the name has a value of the class of the new one; otherwise the error tells which of the two is
wrong, and the table stays as it is. The three ways to read agree and change nothing. -/
theorem after_operations (init : List (String × Value)) (operations : List Operation) :
    let history := declarations init ++ operations
    let t := operations.foldl apply (.ofList init)
    (t.entries.map fun e => Text.bytes e.1).Pairwise (· < ·) ∧
    (∀ name, name ∈ t.keys ↔ ∃ value, .declare name value ∈ history) ∧
    (∀ name value, (name, value) ∈ t.entries ↔ ∃ i, Holds history i name value) ∧
    t.size = (declaredNames history).toFinset.card ∧
    (∀ name value, (name, value) ∈ t.entries → declaredClass history name = some value.type) ∧
    (∀ name value old, (t.declare name value).2 = some old ↔ (name, old) ∈ t.entries) ∧
    (∀ name value,
      ((∃ stored, t.store name value = .ok stored) ↔
        ∃ current, (name, current) ∈ t.entries ∧ current.type = value.type) ∧
      ((∃ stored, t.store name value = .ok stored) ↔
        declaredClass history name = some value.type) ∧
      ∀ e, t.store name value = .error e →
        (name ∉ t.keys ∧ e = .unknownVariable name ∨
          ∃ current, (name, current) ∈ t.entries ∧ current.type ≠ value.type ∧
            e = .typeMismatch current.type value.type) ∧
        t.apply (.store name value) = t) ∧
    (∀ name, (t.contains name = true ↔ name ∈ t.keys) ∧
      (∀ value, t.get? name = some value ↔ (name, value) ∈ t.entries) ∧
      (∀ value, t.load name = .ok value ↔ t.get? name = some value) ∧
      (∀ e, t.load name = .error e ↔ e = .unknownVariable name ∧ t.get? name = none) ∧
      t.apply (.get name) = t ∧ t.apply (.contains name) = t ∧ t.apply (.load name) = t) := by
  intro history t
  have ht : t = after history := (after_declarations_append init operations).symm
  have hentry : ∀ {name value}, (name, value) ∈ t.entries ↔ t.get? name = some value :=
    SortedMap.mem_entries
  have hclass : ∀ name, t.classOf name = declaredClass history name := by
    rw [ht]
    exact classOf_after history
  have hstore : ∀ {name value}, (∃ stored, t.store name value = .ok stored) ↔
      t.classOf name = some value.type := by
    simp only [store_eq_ok_iff, exists_and_left, exists_eq, and_true, implies_true]
  refine ⟨?_, ?_, ?_, ?_, ?_, fun _ _ _ => hentry.symm, fun name value => ⟨?_, ?_, ?_⟩, fun name =>
    ⟨?_, fun _ => hentry.symm, fun _ => load_eq_ok_iff, fun _ => load_eq_error_iff, rfl, rfl, rfl⟩⟩
  · exact List.pairwise_map.2 (t.sorted.imp Text.bytes_lt_of_lt)
  · intro name
    rw [ht, mem_keys_after, mem_declaredNames]
  · intro name value
    rw [hentry, ht, get?_after]
  · rw [ht, size_after]
  · intro name value h
    rw [← hclass, classOf, hentry.1 h, Option.map_some]
  · simp only [hstore, hentry, classOf, Option.map_eq_some_iff]
  · rw [hstore, hclass]
  · intro e he
    refine ⟨?_, by simp only [apply, he]⟩
    simp only [hentry, SortedMap.mem_keys, not_exists, ← Option.eq_none_iff_forall_ne_some]
    exact store_eq_error_iff.1 he
  · rw [SortedMap.contains, SortedMap.mem_keys, Option.isSome_iff_exists]

/-- A variable that is declared anew takes another class: what could be stored before is refused, and a
store that was refused before has left no trace. -/
theorem after_operations_of_redeclared :
    let init : List (String × Value) := [("b", .int 1), ("a", .bool true), ("b", .int 2)]
    let operations : List Operation := [
      .store "b" (.int 5), .store "b" (.str "early"), .declare "b" (.str "x"), .store "b" (.int 7),
      .load "c"]
    let t : SymbolTable := operations.foldl apply (.ofList init)
    t.entries = [("a", .bool true), ("b", .str "x")] ∧
      (∃ i, Holds (declarations init ++ operations) i "b" (.str "x")) ∧
      (declaredNames (declarations init ++ operations)).toFinset.card = 2 ∧
      (∃ stored, t.store "b" (.str "late") = .ok stored) ∧
      ¬ ∃ stored, t.store "b" (.int 5) = .ok stored := by
  intro init operations t
  obtain ⟨-, -, hholds, hsize, -, -, hstore, -⟩ := after_operations init operations
  have hentries : t.entries = [("a", .bool true), ("b", .str "x")] := by decide +kernel
  refine ⟨hentries, (hholds _ _).1 (by decide +kernel), ?_, ?_, ?_⟩
  · rw [← hsize]
    exact congrArg List.length hentries
  · exact (hstore "b" (.str "late")).2.1.2 (by decide +kernel)
  · rw [(hstore "b" (.int 5)).2.1]
    decide +kernel

end ScriptMachine.SymbolTable
