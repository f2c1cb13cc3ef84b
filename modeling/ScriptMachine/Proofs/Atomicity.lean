import ScriptMachine.Proofs.Hosted
import ScriptMachine.Proofs.Operands

/-!
# Faults leave nothing half done

An instruction resolves its operands before it does anything, and resolving only ever takes values off
the top of the stack: one for every operand that it reads there, and the arguments that a call asks for
(`resolve_drops`). So when an instruction fails, early or late, the variables and the comparison are
those from before, and what is left of the stack is its bottom part (`step_fault_atomic`).
-/

namespace ScriptMachine

/-! ## What an instruction asks for -/

/-- The operands that an instruction with this opcode reads, in order. -/
def Opcode.readSlots : Opcode → List Slot
  | jmp | jeq | jne | jlt | jle | jgt | jge => [.target]
  | halt | nop | and | or | not | arrayAccess | fieldAccess | concatString | mov => []
  | _ => [.first, .second]

theorem Opcode.readSlots_arithmetic (op : Operator) (family : Family) :
    (arithmetic op family).readSlots = [.first, .second] := by
  cases op <;> cases family <;> rfl

theorem Opcode.readSlots_jump (condition : Condition) : (jump condition).readSlots = [.target] := by
  cases condition <;> rfl

namespace Instruction

/-- The number of values that reading the operand in a slot takes off the stack. -/
def pops (i : Instruction) (slot : Slot) : Nat := (i.operand slot).elim 0 Location.pops

/-- The number of these slots whose operand is on the stack. -/
def countStack (i : Instruction) (slots : List Slot) : Nat :=
  (slots.filterMap i.operand).countP fun location => location.area = .stack

/-- The number of operands that an instruction reads from the stack. -/
def stackReads (i : Instruction) : Nat := i.countStack i.opcode.readSlots

@[simp] theorem countStack_nil (i : Instruction) : i.countStack [] = 0 := rfl

@[simp] theorem countStack_cons (i : Instruction) (slot : Slot) (slots : List Slot) :
    i.countStack (slot :: slots) = i.pops slot + i.countStack slots := by
  unfold countStack pops
  rw [List.filterMap_cons]
  cases i.operand slot with
  | none => simp
  | some location => cases location <;> simp [Location.area, Location.pops, Nat.add_comm]

theorem pops_eq {i : Instruction} {slot : Slot} {location : Location}
    (h : i.operand slot = some location) : i.pops slot = location.pops := by
  simp [pops, h]

end Instruction

/-- The number of arguments that an instruction asks for: if it is a call, what its second operand says
once the first has been read. -/
def Machine.requestedArity (m : Machine) (i : Instruction) : Nat :=
  match i.opcode with
  | .call =>
    let value? := i.second.bind (·.heldOn m.symbols (m.stack.items.drop (i.pops .first)))
    (value?.bind Value.asInt?).elim 0 fun arity => arity.toInt.toNat
  | _ => 0

theorem Machine.requestedArity_eq {m : Machine} {i : Instruction} {second : Location}
    {value : Value} {arity : Int32} (hop : i.opcode = .call) (hsecond : i.second = some second)
    (hvalue : second.heldOn m.symbols (m.stack.items.drop (i.pops .first)) = some value)
    (harity : value.asInt? = some arity) : m.requestedArity i = arity.toInt.toNat := by
  simp only [requestedArity, hop, hsecond, Option.bind_some, hvalue, harity, Option.elim_some]

namespace Resolve

variable {α β : Type} {s t : Scratch}

/-! ## What resolving takes off the stack -/

/-- What a computation leaves behind, whether it succeeds or fails. -/
def leaves (x : Resolve α) (s : Scratch) : Scratch :=
  match x s with
  | .ok _ t => t
  | .error _ t => t

theorem leaves_of_ok {x : Resolve α} {a : α} (h : x s = .ok a t) : leaves x s = t := by
  rw [leaves, h]

theorem leaves_of_error {x : Resolve α} {e : ScriptError} (h : x s = .error e t) :
    leaves x s = t := by
  rw [leaves, h]

theorem leaves_bind_of_ok {x : Resolve α} {f : α → Resolve β} {a : α} (h : x s = .ok a t) :
    leaves (x >>= f) s = leaves (f a) t := by
  rw [leaves, bind_eq h, leaves]

theorem bind_error {x : Resolve α} {f : α → Resolve β} {e : ScriptError} (h : x s = .error e t) :
    (x >>= f) s = .error e t := by
  change EStateM.bind x f s = .error e t
  rw [EStateM.bind, h]

theorem leaves_bind_of_error {x : Resolve α} {f : α → Resolve β} {e : ScriptError}
    (h : x s = .error e t) : leaves (x >>= f) s = t :=
  leaves_of_error (bind_error h)

/-- Whether it succeeds or fails, the computation has taken at most `n` values off the stack, and has
put none on it. -/
def Drops (x : Resolve α) (s : Scratch) (n : Nat) : Prop :=
  ∃ k ≤ n, (leaves x s).stack.items = s.stack.items.drop k

namespace Drops

theorem mono {x : Resolve α} {a b : Nat} (h : Drops x s a) (hab : a ≤ b) : Drops x s b := by
  obtain ⟨k, hk, hitems⟩ := h
  exact ⟨k, by omega, hitems⟩

theorem of_leaves_eq {x : Resolve α} (h : (leaves x s).stack = s.stack) : Drops x s 0 :=
  ⟨0, Nat.le_refl 0, by rw [h, List.drop_zero]⟩

theorem bind {x : Resolve α} {f : α → Resolve β} {a b : Nat} (hx : Drops x s a)
    (hf : ∀ v t, x s = .ok v t → Drops (f v) t b) : Drops (x >>= f) s (a + b) := by
  obtain ⟨k, hk, hitems⟩ := hx
  unfold Drops
  cases hr : x s with
  | ok v t =>
    obtain ⟨j, hj, hrest⟩ := hf v t hr
    rw [leaves_of_ok hr] at hitems
    refine ⟨k + j, by omega, ?_⟩
    rw [leaves_bind_of_ok hr, hrest, hitems, List.drop_drop]
  | error e t =>
    rw [leaves_of_error hr] at hitems
    refine ⟨k, by omega, ?_⟩
    rw [leaves_bind_of_error hr, hitems]

/-- A part that leaves the stack alone. -/
theorem bind_zero {x : Resolve α} {f : α → Resolve β} {n : Nat} (hx : Drops x s 0)
    (hf : ∀ v t, x s = .ok v t → Drops (f v) t n) : Drops (x >>= f) s n :=
  (hx.bind hf).mono (by omega)

end Drops

theorem drops_pure (a : α) : Drops (pure a) s 0 := .of_leaves_eq rfl

theorem drops_throw (e : ScriptError) : Drops (throw e : Resolve α) s 0 := .of_leaves_eq rfl

theorem drops_lift (x : Except ScriptError α) : Drops (lift x) s 0 := by
  cases x with
  | ok a => exact drops_pure a
  | error e => exact drops_throw e

theorem drops_view (wanted : ValueType) (as? : Value → Option α) (value : Value) :
    Drops (view wanted as? value) s 0 := by
  unfold view
  split
  · exact drops_pure _
  · exact drops_throw _

theorem drops_operand (i : Instruction) (slot : Slot) : Drops (operand i slot) s 0 := by
  unfold operand
  split
  · exact drops_pure _
  · exact drops_throw _

theorem drops_pop : Drops pop s 1 := by
  obtain ⟨⟨items⟩, call⟩ := s
  cases items with
  | nil => exact ⟨0, by omega, rfl⟩
  | cons v rest => exact ⟨1, by omega, rfl⟩

theorem drops_read (symbols : SymbolTable) (location : Location) :
    Drops (read symbols location) s location.pops := by
  cases location with
  | immediate v => exact drops_pure v
  | stack _ => exact drops_pop
  | named name _ => exact drops_lift _

theorem drops_popArguments (n : Nat) (later : List Value) : Drops (popArguments n later) s n := by
  induction n generalizing s later with
  | zero => exact drops_pure later
  | succ n ih =>
    unfold popArguments
    exact (drops_pop.bind fun v t _ => ih (v :: later)).mono (by omega)

theorem drops_write (symbols : SymbolTable) (value : Value) (location : Location) :
    Drops (write symbols value location) s 0 := by
  cases location with
  | immediate _ => exact drops_throw _
  | stack _ => exact drops_pure _
  | named name _ => exact (drops_lift _).bind_zero fun _ _ _ => drops_pure _

theorem drops_invoke (signature : Signature) (f : HostFunction) (arguments : List Value) :
    Drops (invoke signature f arguments) s 0 := by
  unfold invoke
  refine .bind_zero (.of_leaves_eq rfl) fun _ t _ => ?_
  split
  · exact drops_pure _
  · exact drops_throw _

theorem drops_deliver (symbols : SymbolTable) (result : Value) (target : Option Location) :
    Drops (deliver symbols result target) s 0 := by
  unfold deliver
  split
  · exact drops_pure _
  · exact drops_pure _
  · exact drops_write _ _ _

/-- Two operands that are read one after the other. -/
theorem drops_reads {symbols : SymbolTable} {first second : Location}
    {f : Value → Value → Resolve α} (hf : ∀ lhs rhs t, Drops (f lhs rhs) t 0) :
    Drops (read symbols first >>= fun lhs => read symbols second >>= f lhs) s
      (first.pops + second.pops) := by
  refine (drops_read symbols first).bind fun lhs _ _ => ?_
  exact (drops_read symbols second).bind fun rhs t _ => hf lhs rhs t

theorem drops_arithmetic (symbols : SymbolTable) (op : Operator) (family : Family)
    (i : Instruction) : Drops (arithmetic symbols op family i) s (i.pops .first + i.pops .second) := by
  unfold arithmetic
  refine (drops_operand i .first).bind_zero fun first _ hfirst => ?_
  refine (drops_operand i .second).bind_zero fun second _ hsecond => ?_
  refine (drops_operand i .target).bind_zero fun target _ _ => ?_
  rw [Instruction.pops_eq (operand_ok hfirst).1, Instruction.pops_eq (operand_ok hsecond).1]
  refine drops_reads fun lhs rhs t => ?_
  refine (drops_lift _).bind_zero fun _ _ _ => (drops_lift _).bind_zero fun _ _ _ => ?_
  exact (drops_lift _).bind_zero fun result _ _ => drops_write symbols result target

theorem drops_compare (symbols : SymbolTable) (i : Instruction) :
    Drops (compare symbols i) s (i.pops .first + i.pops .second) := by
  unfold compare
  refine (drops_operand i .first).bind_zero fun first _ hfirst => ?_
  refine (drops_operand i .second).bind_zero fun second _ hsecond => ?_
  rw [Instruction.pops_eq (operand_ok hfirst).1, Instruction.pops_eq (operand_ok hsecond).1]
  refine drops_reads fun lhs rhs t => ?_
  exact (drops_lift _).bind_zero fun result _ _ => drops_pure _

theorem drops_jump (m : Machine) (condition : Condition) (i : Instruction) :
    Drops (jump m condition i) s (i.pops .target) := by
  unfold jump
  refine (drops_operand i .target).bind_zero fun location _ hlocation => ?_
  rw [Instruction.pops_eq (operand_ok hlocation).1]
  refine (drops_lift _).bind_zero fun _ _ _ => ?_
  refine (drops_read m.symbols location).bind (b := 0) fun value _ _ => ?_
  refine (drops_view _ _ _).bind_zero fun index _ _ => ?_
  split
  · exact drops_pure _
  · exact drops_throw _

/-- A call knows how many arguments to take when it has read its two operands. -/
theorem drops_call (m : Machine) {i : Instruction} (hop : i.opcode = .call) :
    Drops (call m i) ⟨m.stack, none⟩ (i.pops .first + i.pops .second + m.requestedArity i) := by
  unfold call
  split
  · exact (drops_pure _).mono (by omega)
  refine (drops_operand i .first).bind_zero fun first _ h => ?_
  obtain ⟨hfirst, rfl⟩ := operand_ok h
  rw [Nat.add_assoc, Instruction.pops_eq hfirst]
  refine (drops_read m.symbols first).bind fun nameValue _ h => ?_
  obtain ⟨-, rfl⟩ := read_ok h
  refine (drops_view _ _ _).bind_zero fun name _ h => ?_
  obtain ⟨-, rfl⟩ := view_ok h
  -- the second operand is read from what the first has left
  refine (drops_operand i .second).bind_zero fun second _ h => ?_
  obtain ⟨hsecond, rfl⟩ := operand_ok h
  rw [Instruction.pops_eq hsecond]
  refine (drops_read m.symbols second).bind fun arityValue _ h => ?_
  obtain ⟨hheld, rfl⟩ := read_ok h
  refine (drops_view _ _ _).bind_zero fun arity _ h => ?_
  obtain ⟨hint, rfl⟩ := view_ok h
  rw [← Instruction.pops_eq hfirst] at hheld
  have hrequested := Machine.requestedArity_eq hop hsecond hheld hint
  rw [hrequested]
  dsimp only
  split
  · exact (drops_throw _).bind_zero fun _ _ h => by cases h
  · split
    · exact (drops_throw _).mono (by omega)
    · refine (drops_popArguments _ []).bind (b := 0) fun arguments _ _ => ?_
      exact (drops_invoke _ _ _).bind_zero fun result _ _ => drops_deliver _ _ _

end Resolve

namespace Machine

/-- **Resolving an instruction only takes values off the stack:** those that its operands and its
arguments are read from. -/
theorem resolve_drops (m : Machine) (i : Instruction) :
    Resolve.Drops (m.resolve i) ⟨m.stack, none⟩ (i.stackReads + m.requestedArity i) := by
  unfold Instruction.stackReads
  cases hop : i.opcode using Opcode.byKind with
  | arithmetic op family =>
    rw [resolve_arithmetic hop, Opcode.readSlots_arithmetic]
    exact (Resolve.drops_arithmetic _ _ _ _).mono (by simp)
  | jump condition =>
    rw [resolve_jump hop, Opcode.readSlots_jump]
    exact (Resolve.drops_jump _ _ _).mono (by simp)
  | cmp =>
    rw [resolve_cmp hop]
    exact (Resolve.drops_compare _ _).mono (by simp [Opcode.readSlots])
  | call =>
    rw [resolve_call hop]
    exact (Resolve.drops_call m hop).mono (by simp [Opcode.readSlots])
  | halt =>
    rw [resolve_halt hop]
    exact (Resolve.drops_pure _).mono (Nat.zero_le _)
  | skip opcode h =>
    rw [resolve_skip (hop ▸ h)]
    exact (Resolve.drops_pure _).mono (Nat.zero_le _)

/-- What an instruction that fails leaves on the stack. -/
theorem resolve_error_stack {m : Machine} {i : Instruction} {e : ScriptError} {s : Scratch}
    (h : m.resolve i ⟨m.stack, none⟩ = .error e s) :
    s.stack.toList <+: m.stack.toList ∧
      m.stack.size ≤ s.stack.size + (i.stackReads + m.requestedArity i) := by
  obtain ⟨k, hk, hitems⟩ := m.resolve_drops i
  rw [Resolve.leaves_of_error h] at hitems
  change s.stack.items = m.stack.items.drop k at hitems
  refine ⟨?_, ?_⟩
  · unfold OperandStack.toList
    rw [hitems, List.reverse_prefix]
    exact List.drop_suffix k _
  · unfold OperandStack.size
    rw [hitems, List.length_drop]
    omega

/-- A fault after a step of a running script is the work of that step. -/
theorem step_eq_stop {m : Machine} (hrun : m.state = .running) {f : Fault}
    (hf : m.step.fault = some f) :
    ∃ i e s, m.next? = some i ∧ m.resolve i ⟨m.stack, none⟩ = .error e s ∧
      m.step = m.stop s.stack i e := by
  have hnone := no_fault_of_running hrun
  rcases m.step_cases with ⟨-, hstep⟩ | ⟨i, a, s, -, -, hstep⟩ | hstop
  · rw [hstep, hnone] at hf
    cases hf
  · rw [hstep, perform_fault, hnone] at hf
    cases hf
  · exact hstop

/-- A step of a running script goes well exactly if its instruction settles on an action. -/
theorem step_fault_eq_none_iff {m : Machine} (hrun : m.state = .running) {i : Instruction}
    (hi : m.next? = some i) :
    m.step.fault = none ↔ ∃ a s, m.resolve i ⟨m.stack, none⟩ = .ok a s := by
  cases hr : m.resolve i ⟨m.stack, none⟩ with
  | ok a s =>
    rw [step_of_ok hi hr, perform_fault, no_fault_of_running hrun]
    simp
  | error e s =>
    rw [step_of_error hi hr]
    simp [stop]

/-- **A fault leaves nothing half done.** Under every host, a step that faults keeps the variables and
the comparison. Of the stack it may have taken the values that the instruction reads there and the
arguments that it asks for; the rest is the bottom part of the stack from before. The machine counts the
step, halts at the end of its program, and has recorded where it was and what it was about to do. -/
theorem step_fault_atomic {p : Program} {functions : Option Registry} {m : Machine}
    (h : Hosted p functions m) (hrun : m.state = .running) {f : Fault}
    (hf : m.step.fault = some f) :
    ∃ i, p.instructions[m.pc]? = some i ∧
      m.step.symbols = m.symbols ∧
      m.step.comparison = m.comparison ∧
      m.step.stack.toList <+: m.stack.toList ∧
      m.stack.size ≤ m.step.stack.size + (i.stackReads + m.requestedArity i) ∧
      m.step.steps = m.steps + 1 ∧
      m.step.pc = p.size ∧
      m.step.halted = true ∧
      f.pc = m.pc ∧ f.opcode = i.opcode := by
  obtain ⟨i, e, s, hi, hr, hstep⟩ := step_eq_stop hrun hf
  obtain ⟨hbottom, hsize⟩ := resolve_error_stack hr
  obtain ⟨-, -, hget⟩ := h.inControl.next? hi
  rw [hstep] at hf ⊢
  cases hf
  exact ⟨i, hget, rfl, rfl, hbottom, hsize, rfl, h.inControl.size_code, rfl, rfl, rfl⟩

/-- A host that answered with integers gives a Boolean for an integer variable: the call had been made
when it failed, its arguments and their number are gone, and the variable is as it was. -/
theorem step_fault_atomic_of_answer :
    let push (n : Int32) : Instruction :=
      .binary (.arithmetic .add .int) (.immediate (.int n)) (.immediate (.int 0)) (.stack .int)
    let p : Program := {
      symbols := .ofList [("r", .int 5)]
      instructions := [push 7, push 8, push 9, push 2,
        ⟨.call, some (.immediate (.identifier "ask")), some (.stack .int), some (.named "r" .int)⟩] }
    let answering (v : Value) : Registry :=
      ⟨.ofList [(⟨"ask", 2⟩, ⟨"host", fun _ => { result := .ok v }⟩)]⟩
    let m : Machine := { (load p (some (answering (.int 1)))).run 4 with
      functions := some (answering (.bool true)) }
    Hosted p (some (answering (.int 1))) m ∧ m.state = .running ∧
      m.step.fault = some ⟨4, .call, .typeMismatch .int .boolean⟩ ∧
      m.step.stack.toList = [.int 7] ∧
      ∃ i, p.instructions[m.pc]? = some i ∧ i.stackReads = 1 ∧ m.requestedArity i = 2 ∧
        m.stack.size ≤ m.step.stack.size + (i.stackReads + m.requestedArity i) ∧
        m.step.symbols = m.symbols := by
  intro push p answering m
  have hfunctions : ((load p (some (answering (.int 1)))).run 4).functions =
      some (answering (.int 1)) :=
    run_keeps (fun m h => m.step_functions.trans h) 4 rfl
  have hm : Hosted p (some (answering (.int 1))) m :=
    .exchange (Reachable.hosted (.run 4 .load)) hfunctions (by decide +kernel)
  have hrun : m.state = .running := by decide +kernel
  have hf : m.step.fault = some ⟨4, .call, .typeMismatch .int .boolean⟩ := by decide +kernel
  obtain ⟨i, hi, hsymbols, -, -, hsize, -⟩ := step_fault_atomic hm hrun hf
  have hcall : p.instructions[m.pc]? = p.instructions[4]? := by decide +kernel
  refine ⟨hm, hrun, hf, by decide +kernel, i, hi, ?_, ?_, hsize, hsymbols⟩
  · rw [hcall] at hi
    cases hi
    rfl
  · rw [hcall] at hi
    cases hi
    decide +kernel

end Machine

end ScriptMachine
