import ScriptMachine.Machine.Step
import ScriptMachine.Proofs.Opcodes

/-!
# What one step can do

An instruction settles on an action only after its operands were found in order: a jump stays inside
the program, and a variable is assigned a value of its own class (`resolve_allowed`). A step is then one
of three things (`step_cases`): a script that has ended rests, an action is performed, or the machine
stops with a fault. Invariants of runs are proved by these three cases and never look into an
instruction.
-/

namespace ScriptMachine

/-! ## Resolving -/

namespace Resolve

variable {α β : Type}

/-- Whenever `x` succeeds, its result satisfies `P`. -/
def Ensures (x : Resolve α) (P : α → Prop) : Prop :=
  ∀ s a s', x s = .ok a s' → P a

theorem Ensures.bind {x : Resolve α} {f : α → Resolve β} {Q : α → Prop} {P : β → Prop}
    (hx : Ensures x Q) (hf : ∀ a, Q a → Ensures (f a) P) : Ensures (x >>= f) P := by
  intro s b s' h
  change EStateM.bind x f s = .ok b s' at h
  unfold EStateM.bind at h
  split at h
  next a t ha => exact hf a (hx s a t ha) t b s' h
  next => cases h

/-- A part of which only the success matters. -/
theorem Ensures.then {x : Resolve α} {f : α → Resolve β} {P : β → Prop}
    (hf : ∀ a, Ensures (f a) P) : Ensures (x >>= f) P :=
  Ensures.bind (Q := fun _ => True) (fun _ _ _ _ => trivial) fun a _ => hf a

theorem ensures_pure {P : α → Prop} {a : α} (h : P a) : Ensures (pure a) P := by
  intro s b s' hb
  cases hb
  exact h

theorem ensures_throw {P : α → Prop} (e : ScriptError) : Ensures (throw e) P := by
  intro s a s' h
  cases h

theorem ensures_lift (x : Except ScriptError α) : Ensures (lift x) fun a => x = .ok a := by
  cases x with
  | ok a => exact ensures_pure rfl
  | error e => exact ensures_throw e

end Resolve

/-- What an instruction has made sure of when it settles on an action. -/
def Action.Allowed (m : Machine) : Action → Prop
  | .jump target => target ≤ m.code.size
  | .assign name value => m.symbols.admits name value = .ok ()
  | _ => True

namespace Resolve

theorem write_allowed (m : Machine) (value : Value) (location : Location) :
    Ensures (write m.symbols value location) (Action.Allowed m) := by
  cases location with
  | immediate _ => exact ensures_throw _
  | stack _ => exact ensures_pure trivial
  | named name _ =>
    exact Ensures.bind (ensures_lift _) fun _ h => ensures_pure h

/-- A value is written by pushing it or by assigning it to a variable. -/
theorem ensures_write {symbols : SymbolTable} {value : Value} {location : Location}
    {P : Action → Prop} (hpush : P (.push value)) (hassign : ∀ name, P (.assign name value)) :
    Ensures (write symbols value location) P := by
  cases location with
  | immediate _ => exact ensures_throw _
  | stack _ => exact ensures_pure hpush
  | named name _ => exact .then fun _ => ensures_pure (hassign name)

theorem ensures_arithmetic {symbols : SymbolTable} {op : Operator} {family : Family}
    {i : Instruction} {P : Action → Prop} (hpush : ∀ value, P (.push value))
    (hassign : ∀ name value, P (.assign name value)) :
    Ensures (arithmetic symbols op family i) P := by
  unfold arithmetic
  refine .then fun first => .then fun second => .then fun target => ?_
  refine .then fun lhs => .then fun rhs => .then fun _ => .then fun _ => .then fun result => ?_
  exact ensures_write (hpush result) fun name => hassign name result

theorem ensures_deliver {symbols : SymbolTable} {result : Value} {target : Option Location}
    {P : Action → Prop} (hadvance : P .advance) (hpush : P (.push result))
    (hassign : ∀ name, P (.assign name result)) : Ensures (deliver symbols result target) P := by
  unfold deliver
  split
  · exact ensures_pure hadvance
  · exact ensures_pure hadvance
  · exact ensures_write hpush hassign

theorem arithmetic_allowed (m : Machine) (op : Operator) (family : Family) (i : Instruction) :
    Ensures (arithmetic m.symbols op family i) (Action.Allowed m) := by
  unfold arithmetic
  refine .then fun first => .then fun second => .then fun target => ?_
  refine .then fun lhs => .then fun rhs => .then fun _ => .then fun _ => .then fun result => ?_
  exact write_allowed m result target

/-- A jump goes to a place inside the program, or on. -/
theorem ensures_jump {m : Machine} {condition : Condition} {i : Instruction} {P : Action → Prop}
    (hadvance : P .advance) (hjump : ∀ target ≤ m.code.size, P (.jump target)) :
    Ensures (jump m condition i) P := by
  unfold jump
  refine .then fun location => .then fun _ => .then fun value => .then fun index => ?_
  split
  next hrange =>
    refine ensures_pure ?_
    split
    · exact hjump _ (by omega)
    · exact hadvance
  next => exact ensures_throw _

theorem jump_allowed (m : Machine) (condition : Condition) (i : Instruction) :
    Ensures (jump m condition i) (Action.Allowed m) :=
  ensures_jump trivial fun _ htarget => htarget

theorem ensures_compare {symbols : SymbolTable} {i : Instruction} {P : Action → Prop}
    (h : ∀ result, P (.compare result)) : Ensures (compare symbols i) P := by
  unfold compare
  refine .then fun first => .then fun second => .then fun lhs => .then fun rhs => ?_
  exact .then fun result => ensures_pure (h result)

theorem compare_allowed (m : Machine) (i : Instruction) :
    Ensures (compare m.symbols i) (Action.Allowed m) :=
  ensures_compare fun _ => trivial

theorem deliver_allowed (m : Machine) (result : Value) (target : Option Location) :
    Ensures (deliver m.symbols result target) (Action.Allowed m) := by
  unfold deliver
  split
  · exact ensures_pure trivial
  · exact ensures_pure trivial
  · exact write_allowed m _ _

/-- A call goes on without host functions, and else delivers what a function answered. -/
theorem ensures_call {m : Machine} {i : Instruction} {P : Action → Prop}
    (hadvance : P .advance)
    (hdeliver : ∀ registry result, m.functions = some registry →
      Ensures (deliver m.symbols result i.target) P) :
    Ensures (call m i) P := by
  unfold call
  split
  · exact ensures_pure hadvance
  next registry hfunctions =>
    refine .then fun _ => .then fun _ => .then fun name => ?_
    refine .then fun _ => .then fun _ => .then fun arity => ?_
    dsimp only
    split
    · exact (ensures_throw (P := fun _ => False) _).bind fun _ h => h.elim
    · split
      · exact ensures_throw _
      · exact .then fun _ => .then fun result => hdeliver registry result hfunctions

theorem call_allowed (m : Machine) (i : Instruction) :
    Ensures (call m i) (Action.Allowed m) :=
  ensures_call trivial fun _ result _ => deliver_allowed m result i.target

end Resolve

namespace Machine

theorem resolve_allowed (m : Machine) (i : Instruction) :
    Resolve.Ensures (m.resolve i) (Action.Allowed m) := by
  cases hop : i.opcode using Opcode.byKind with
  | arithmetic op family =>
    rw [resolve_arithmetic hop]
    exact Resolve.arithmetic_allowed m op family i
  | jump condition =>
    rw [resolve_jump hop]
    exact Resolve.jump_allowed m condition i
  | cmp =>
    rw [resolve_cmp hop]
    exact Resolve.compare_allowed m i
  | call =>
    rw [resolve_call hop]
    exact Resolve.call_allowed m i
  | halt =>
    rw [resolve_halt hop]
    exact Resolve.ensures_pure trivial
  | skip opcode h =>
    rw [resolve_skip (hop ▸ h)]
    exact Resolve.ensures_pure trivial

/-! ## Stepping -/

theorem next?_eq_none_iff (m : Machine) : m.next? = none ↔ m.isFinished = true := by
  unfold next? isFinished
  cases m.halted with
  | true => simp
  | false => simp

theorem step_of_next?_eq_none {m : Machine} (h : m.next? = none) : m.step = m := by
  unfold step turn
  rw [h]

theorem step_of_isFinished {m : Machine} (h : m.isFinished = true) : m.step = m :=
  step_of_next?_eq_none (m.next?_eq_none_iff.2 h)

theorem step_of_ok {m : Machine} {i : Instruction} {a : Action} {s : Scratch}
    (hi : m.next? = some i) (hr : m.resolve i ⟨m.stack, none⟩ = .ok a s) :
    m.step = m.perform s.stack a := by
  simp only [step, turn, hi, EStateM.run, hr]

theorem step_of_error {m : Machine} {i : Instruction} {e : ScriptError} {s : Scratch}
    (hi : m.next? = some i) (hr : m.resolve i ⟨m.stack, none⟩ = .error e s) :
    m.step = m.stop s.stack i e := by
  simp only [step, turn, hi, EStateM.run, hr]

/-- **The three kinds of step.** -/
theorem step_cases (m : Machine) :
    (m.next? = none ∧ m.step = m) ∨
    (∃ i a s, m.next? = some i ∧ m.resolve i ⟨m.stack, none⟩ = .ok a s ∧
      m.step = m.perform s.stack a) ∨
    (∃ i e s, m.next? = some i ∧ m.resolve i ⟨m.stack, none⟩ = .error e s ∧
      m.step = m.stop s.stack i e) := by
  cases hi : m.next? with
  | none => exact .inl ⟨rfl, step_of_next?_eq_none hi⟩
  | some i =>
    right
    cases hr : m.resolve i ⟨m.stack, none⟩ with
    | ok a s => exact .inl ⟨i, a, s, rfl, hr, step_of_ok hi hr⟩
    | error e s => exact .inr ⟨i, e, s, rfl, hr, step_of_error hi hr⟩

theorem perform_fault (m : Machine) (stack : OperandStack) (a : Action) :
    (m.perform stack a).fault = m.fault := by
  cases a <;> rfl

theorem perform_functions (m : Machine) (stack : OperandStack) (a : Action) :
    (m.perform stack a).functions = m.functions := by
  cases a <;> rfl

theorem step_functions (m : Machine) : m.step.functions = m.functions := by
  rcases m.step_cases with ⟨-, hstep⟩ | ⟨i, a, s, -, -, hstep⟩ | ⟨i, e, s, -, -, hstep⟩
  · rw [hstep]
  · rw [hstep, perform_functions]
  · rw [hstep]
    rfl

/-- What every step keeps, a run keeps. -/
theorem run_keeps {P : Machine → Prop} (hstep : ∀ m, P m → P m.step) (n : Nat) {m : Machine}
    (h : P m) : P (m.run n) := by
  induction n generalizing m with
  | zero => exact h
  | succ n ih =>
    unfold run
    split
    · exact h
    · exact ih (hstep m h)

end Machine

end ScriptMachine
