import ScriptMachine.Proofs.Typing

/-!
# Reading operands

What is known when a part of resolving has succeeded: the operand was there, the value that was read is
the one that the location held, and the stack is shorter by what the location takes from it. Two operands
are read one after the other (`Machine.Reads`): the second does not find on the stack what the first has
taken from it.
-/

namespace ScriptMachine

namespace Location

/-- The number of values that reading an operand takes off the stack. -/
def pops : Location → Nat
  | stack _ => 1
  | immediate _ | named .. => 0

/-- The value that an operand has while these values are on the stack, the top one first. -/
def heldOn (symbols : SymbolTable) (items : List Value) : Location → Option Value
  | stack _ => items.head?
  | location => location.held symbols

end Location

/-- The values of two operands that are read one after the other. -/
def Machine.Reads (m : Machine) (first second : Location) (lhs rhs : Value) : Prop :=
  first.heldOn m.symbols m.stack.items = some lhs ∧
    second.heldOn m.symbols (m.stack.items.drop first.pops) = some rhs

/-- The value is the whole number `n`, as an INT or as the code unit of a CHAR. -/
def Value.Counts (value : Value) (n : Int) : Prop :=
  (∃ i, value = .int i ∧ i.toInt = n) ∨ ∃ unit, value = .char unit ∧ unit.toNat = n

theorem Value.asInt?_iff_counts {value : Value} {n : Int} :
    (∃ i, value.asInt? = some i ∧ i.toInt = n) ↔ value.Counts n := by
  have hunit : ∀ unit : UInt16, (Int32.ofNat unit.toNat).toInt = unit.toNat := by
    intro unit
    have hlt := unit.toNat_lt
    exact Int32.toInt_ofNat_of_lt (by omega)
  unfold Counts
  cases value with
  | int i => simp [asInt?]
  | char unit => simp [asInt?, hunit]
  | bool | double | str | identifier | void => simp [asInt?]

namespace SymbolTable

variable {t : SymbolTable} {name : String} {value : Value}

theorem get?_of_load (h : t.load name = .ok value) : t.get? name = some value := by
  unfold load at h
  split at h
  next hget =>
    cases h
    exact hget
  next => cases h

theorem get?_of_admits (h : t.admits name value = .ok ()) :
    ∃ current, t.get? name = some current := by
  unfold admits at h
  split at h
  next => cases h
  next current hget => exact ⟨current, hget⟩

end SymbolTable

namespace Resolve

variable {α β : Type} {s t : Scratch}

theorem bind_ok {x : Resolve α} {f : α → Resolve β} {b : β} (h : (x >>= f) s = .ok b t) :
    ∃ a u, x s = .ok a u ∧ f a u = .ok b t := by
  change EStateM.bind x f s = .ok b t at h
  unfold EStateM.bind at h
  split at h
  next a u hx => exact ⟨a, u, hx, h⟩
  next => cases h

theorem operand_ok {i : Instruction} {slot : Slot} {location : Location}
    (h : operand i slot s = .ok location t) : i.operand slot = some location ∧ t = s := by
  unfold operand at h
  cases hl : i.operand slot with
  | none =>
    rw [hl] at h
    cases h
  | some l =>
    rw [hl] at h
    cases h
    exact ⟨rfl, rfl⟩

theorem lift_ok {x : Except ScriptError α} {a : α} (h : lift x s = .ok a t) : x = .ok a ∧ t = s := by
  cases x with
  | error e => cases h
  | ok b =>
    cases h
    exact ⟨rfl, rfl⟩

theorem view_ok {wanted : ValueType} {as? : Value → Option α} {value : Value} {a : α}
    (h : view wanted as? value s = .ok a t) : as? value = some a ∧ t = s := by
  unfold view at h
  cases ha : as? value with
  | none =>
    rw [ha] at h
    cases h
  | some b =>
    rw [ha] at h
    cases h
    exact ⟨rfl, rfl⟩

/-! The parts that leave the stack alone, with what follows them. -/

theorem operand_bind_ok {i : Instruction} {slot : Slot} {f : Location → Resolve β} {b : β}
    (h : (operand i slot >>= f) s = .ok b t) :
    ∃ location, i.operand slot = some location ∧ f location s = .ok b t := by
  obtain ⟨location, u, hpart, hrest⟩ := bind_ok h
  obtain ⟨hlocation, rfl⟩ := operand_ok hpart
  exact ⟨location, hlocation, hrest⟩

theorem lift_bind_ok {x : Except ScriptError α} {f : α → Resolve β} {b : β}
    (h : (lift x >>= f) s = .ok b t) : ∃ a, x = .ok a ∧ f a s = .ok b t := by
  obtain ⟨a, u, hpart, hrest⟩ := bind_ok h
  obtain ⟨ha, rfl⟩ := lift_ok hpart
  exact ⟨a, ha, hrest⟩

theorem view_bind_ok {wanted : ValueType} {as? : Value → Option α} {value : Value}
    {f : α → Resolve β} {b : β} (h : (view wanted as? value >>= f) s = .ok b t) :
    ∃ a, as? value = some a ∧ f a s = .ok b t := by
  obtain ⟨a, u, hpart, hrest⟩ := bind_ok h
  obtain ⟨ha, rfl⟩ := view_ok hpart
  exact ⟨a, ha, hrest⟩

/-! The parts that read. -/

theorem read_ok {symbols : SymbolTable} {location : Location} {value : Value}
    (h : read symbols location s = .ok value t) :
    location.heldOn symbols s.stack.items = some value ∧
      t = { s with stack := ⟨s.stack.items.drop location.pops⟩ } := by
  cases location with
  | immediate v =>
    cases h
    exact ⟨rfl, rfl⟩
  | stack _ =>
    obtain ⟨⟨items⟩, call⟩ := s
    cases items with
    | nil => cases h
    | cons v rest =>
      cases h
      exact ⟨rfl, rfl⟩
  | named name _ =>
    obtain ⟨hload, rfl⟩ := lift_ok h
    exact ⟨SymbolTable.get?_of_load hload, rfl⟩

theorem read_eq_of_heldOn {symbols : SymbolTable} {location : Location} {value : Value}
    (h : location.heldOn symbols s.stack.items = some value) :
    read symbols location s = .ok value { s with stack := ⟨s.stack.items.drop location.pops⟩ } := by
  cases location with
  | immediate v => exact read_eq h
  | named name _ => exact read_eq h
  | stack _ =>
    obtain ⟨⟨items⟩, call⟩ := s
    cases items with
    | nil => cases h
    | cons v rest =>
      cases h
      rfl

variable {m : Machine} {first second : Location} {call : Option HostCall}

theorem reads_eq {f : Value → Value → Resolve α} {lhs rhs : Value}
    (h : m.Reads first second lhs rhs) :
    (read m.symbols first >>= fun lhs => read m.symbols second >>= f lhs) ⟨m.stack, call⟩ =
      f lhs rhs ⟨⟨m.stack.items.drop (first.pops + second.pops)⟩, call⟩ := by
  obtain ⟨hlhs, hrhs⟩ := h
  have hsecond := read_eq_of_heldOn (s := ⟨⟨m.stack.items.drop first.pops⟩, call⟩) hrhs
  rw [bind_eq (read_eq_of_heldOn hlhs), bind_eq hsecond, List.drop_drop]

theorem reads_ok {f : Value → Value → Resolve α} {a : α}
    (h : (read m.symbols first >>= fun lhs => read m.symbols second >>= f lhs) ⟨m.stack, call⟩ =
      .ok a t) :
    ∃ lhs rhs, m.Reads first second lhs rhs ∧
      f lhs rhs ⟨⟨m.stack.items.drop (first.pops + second.pops)⟩, call⟩ = .ok a t := by
  obtain ⟨lhs, u, hu, hrest⟩ := bind_ok h
  obtain ⟨hlhs, rfl⟩ := read_ok hu
  obtain ⟨rhs, v, hv, -⟩ := bind_ok hrest
  obtain ⟨hrhs, -⟩ := read_ok hv
  have hreads : m.Reads first second lhs rhs := ⟨hlhs, hrhs⟩
  rw [reads_eq hreads] at h
  exact ⟨lhs, rhs, hreads, h⟩

end Resolve

end ScriptMachine
