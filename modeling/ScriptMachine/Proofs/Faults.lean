import ScriptMachine.Proofs.Writes

/-!
# Which faults there are

Every opcode has its own errors. An instruction fails where one of its parts fails, so the errors of an
instruction are read off its parts in order: a slot that is empty, an operand that cannot be read, a type
that does not fit, a result that cannot be computed, a target that takes no value (`Resolve.Raises`). What a
part complains about is a property of the instruction: the slot that it names is empty, the variable that it
names is written in the instruction and declared nowhere. The tables that an opcode is looked up in have it,
so that no instruction is refused as unknown (`Machine.resolve_raises`). A fault stays as the step has
recorded it, so the faults of whole runs are those of single steps (`fault_permitted`).
-/

namespace ScriptMachine

/-! ## The errors of an opcode -/

namespace ScriptError

/-- The errors of an instruction that computes. Only whole numbers have no quotient by zero. -/
def OfComputation (opcode : Opcode) : ScriptError → Prop
  | .missingOperand _ | .unknownVariable _ | .stackUnderflow | .typeMismatch .. | .invalidType _ => True
  | .invalidWriteTarget area => area = .immediate
  | .divisionByZero => opcode = .divChar ∨ opcode = .modChar ∨ opcode = .divInt ∨ opcode = .modInt
  | _ => False

/-- The errors of a jump in a program of this length. -/
def OfJump (length : Nat) : ScriptError → Prop
  | .missingOperand slot => slot = .target
  | .unknownVariable _ | .stackUnderflow | .invalidType _ => True
  | .typeMismatch expected _ => expected = .int
  | .invalidJumpTarget target bound => bound = length ∧ (target < 0 ∨ target > length)
  | _ => False

/-- The errors of a comparison. -/
def OfComparison : ScriptError → Prop
  | .missingOperand slot => slot = .first ∨ slot = .second
  | .unknownVariable _ | .stackUnderflow | .invalidType _ | .typeMismatch .. => True
  | _ => False

/-- The errors of a call to the host. -/
def OfCall : ScriptError → Prop
  | .missingOperand slot => slot = .first ∨ slot = .second
  | .unknownVariable _ | .stackUnderflow | .typeMismatch .. => True
  | .invalidArity arity => arity < 0
  | .unknownFunction .. | .hostFunction .. => True
  | .invalidWriteTarget area => area = .immediate
  | _ => False

end ScriptError

namespace Opcode

/-- The errors that an instruction with this opcode may stop with, in a program of this length, with or
without host functions. -/
def Permits (length : Nat) (hosted : Bool) (opcode : Opcode) (error : ScriptError) : Prop :=
  match opcode with
  | addChar | addInt | addDouble | subChar | subInt | subDouble | mulChar | mulInt | mulDouble
  | divChar | divInt | divDouble | modChar | modInt | modDouble => error.OfComputation opcode
  | jmp | jeq | jne | jlt | jle | jgt | jge => error.OfJump length
  | cmp => error.OfComparison
  | call => hosted = true ∧ error.OfCall
  | halt | nop | and | or | not | arrayAccess | fieldAccess | concatString | mov => False

variable {length : Nat} {hosted : Bool} {error : ScriptError}

theorem permits_arithmetic (op : Operator) (family : Family) :
    (arithmetic op family).Permits length hosted error ↔
      error.OfComputation (arithmetic op family) := by
  cases op <;> cases family <;> rfl

theorem permits_jump (condition : Condition) :
    (jump condition).Permits length hosted error ↔ error.OfJump length := by
  cases condition <;> rfl

/-- The opcodes of the divisions that fail on a zero. -/
theorem arithmetic_divides {op : Operator} {family : Family}
    (h : (family = .char ∨ family = .int) ∧ (op = .div ∨ op = .mod)) :
    ScriptError.divisionByZero.OfComputation (arithmetic op family) := by
  obtain ⟨rfl | rfl, rfl | rfl⟩ := h <;> simp [ScriptError.OfComputation, arithmetic]

/-- No opcode is refused as unknown. -/
theorem not_permits_unknown (opcode : Opcode) (length : Nat) (hosted : Bool) (text : String) :
    ¬ opcode.Permits length hosted (.unknownInstruction text) ∧
      ¬ opcode.Permits length hosted (.unknownMemoryArea text) := by
  cases opcode using byKind with
  | arithmetic op family =>
    rw [permits_arithmetic, permits_arithmetic]
    exact ⟨id, id⟩
  | jump condition =>
    rw [permits_jump, permits_jump]
    exact ⟨id, id⟩
  | cmp => exact ⟨id, id⟩
  | call => exact ⟨And.right, And.right⟩
  | halt => exact ⟨id, id⟩
  | skip opcode h =>
    rcases h with rfl | h
    · exact ⟨id, id⟩
    · cases opcode <;> cases h <;> exact ⟨id, id⟩

end Opcode

namespace Instruction

/-- What an error that names a part of an instruction says of it: the slot is empty, the variable is named
by an operand and not declared, the target is a constant. -/
def Blames (classOf : String → Option ValueType) (i : Instruction) : ScriptError → Prop
  | .missingOperand slot => i.operand slot = none
  | .unknownVariable name => classOf name = none ∧ ∃ slot type, i.operand slot = some (.named name type)
  | .invalidWriteTarget _ => ∃ value, i.target = some (.immediate value)
  | _ => True

/-- The errors that an instruction may stop with. -/
def MayRaise (classOf : String → Option ValueType) (length : Nat) (hosted : Bool) (i : Instruction)
    (error : ScriptError) : Prop :=
  i.opcode.Permits length hosted error ∧ i.Blames classOf error

end Instruction

/-! ## Failed computations -/

section Failure

variable {ε α β : Type}

theorem bind_eq_error {x : Except ε α} {f : α → Except ε β} {e : ε} (h : (x >>= f) = .error e) :
    x = .error e ∨ ∃ a, x = .ok a ∧ f a = .error e := by
  cases x with
  | error e' =>
    cases h
    exact .inl rfl
  | ok a => exact .inr ⟨a, rfl, h⟩

theorem map_eq_error {x : Except ε α} {f : α → β} {e : ε} (h : f <$> x = .error e) :
    x = .error e := by
  cases x with
  | error e' =>
    cases h
    rfl
  | ok a => cases h

end Failure

theorem ValueType.check_error {required found : ValueType} {e : ScriptError}
    (h : required.check found = .error e) :
    e = .invalidType found ∨ e = .typeMismatch required found := by
  unfold check at h
  split at h
  · cases h
  split at h
  · exact .inl (Except.error.inj h).symm
  split at h
  · cases h
  · exact .inr (Except.error.inj h).symm

theorem Value.compare_error {lhs rhs : Value} {e : ScriptError} (h : lhs.compare rhs = .error e) :
    (∃ type, e = .invalidType type) ∨ ∃ expected found, e = .typeMismatch expected found := by
  unfold compare at h
  split at h
  · exact .inl ⟨_, (Except.error.inj h).symm⟩
  split at h
  · exact .inl ⟨_, (Except.error.inj h).symm⟩
  split at h
  · cases h
  · cases h
  split at h
  · cases h
  split at h
  · split at h <;> cases h
  · exact .inr ⟨_, _, (Except.error.inj h).symm⟩

namespace SymbolTable

variable {t : SymbolTable} {name : String} {value : Value} {e : ScriptError}

theorem load_error (h : t.load name = .error e) :
    e = .unknownVariable name ∧ t.classOf name = none := by
  unfold load at h
  split at h
  next => cases h
  next hnone => exact ⟨(Except.error.inj h).symm, by simp [classOf, hnone]⟩

theorem admits_error (h : t.admits name value = .error e) :
    e = .unknownVariable name ∧ t.classOf name = none ∨
      ∃ expected found, e = .typeMismatch expected found := by
  unfold admits at h
  split at h
  next hnone => exact .inl ⟨(Except.error.inj h).symm, by simp [classOf, hnone]⟩
  next =>
    split at h
    · cases h
    · exact .inr ⟨_, _, (Except.error.inj h).symm⟩

end SymbolTable

namespace Family

variable {family : Family} {op : Operator} {lhs rhs : Value} {e : ScriptError}

theorem view_error {α : Type} {as? : Value → Option α} {v : Value}
    (h : family.view as? v = .error e) : e = .typeMismatch family.required v.type := by
  unfold view at h
  split at h
  · cases h
  · exact (Except.error.inj h).symm

theorem quotient_error {α : Type} {o : Option α} (h : quotient o = .error e) :
    o = none ∧ e = .divisionByZero := by
  cases o with
  | none => exact ⟨rfl, (Except.error.inj h).symm⟩
  | some a => cases h

/-- An operator on words fails on operands that are no words, or by having no result. -/
theorem words_error {α : Type} (as? : Value → Option α) (f : α → α → Option α) (wrap : α → Value)
    (h : (do
      let a ← family.view as? lhs
      let b ← family.view as? rhs
      wrap <$> quotient (f a b)) = .error e) :
    (∃ found, e = .typeMismatch family.required found) ∨
      e = .divisionByZero ∧ ∃ a b, f a b = none := by
  rcases bind_eq_error h with hview | ⟨a, -, h⟩
  · exact .inl ⟨_, view_error hview⟩
  rcases bind_eq_error h with hview | ⟨b, -, h⟩
  · exact .inl ⟨_, view_error hview⟩
  obtain ⟨hnone, he⟩ := quotient_error (map_eq_error h)
  exact .inr ⟨he, a, b, hnone⟩

theorem apply_error (h : family.apply op lhs rhs = .error e) :
    (∃ found, e = .typeMismatch family.required found) ∨
      e = .divisionByZero ∧ (family = .char ∨ family = .int) ∧ (op = .div ∨ op = .mod) := by
  cases family with
  | char =>
    refine (words_error Value.asChar? op.onChar .char h).imp_right ?_
    rintro ⟨he, a, b, hnone⟩
    rcases op.onChar_cases a b with ⟨c, hc⟩ | ⟨-, hop, -⟩
    · simp [hnone] at hc
    · exact ⟨he, .inl rfl, hop⟩
  | int =>
    refine (words_error Value.asInt? op.onInt .int h).imp_right ?_
    rintro ⟨he, a, b, hnone⟩
    rcases op.onInt_cases a b with ⟨c, hc⟩ | ⟨-, hop, -⟩
    · simp [hnone] at hc
    · exact ⟨he, .inr rfl, hop⟩
  | double =>
    left
    rcases bind_eq_error h with hview | ⟨a, -, h⟩
    · exact ⟨_, view_error hview⟩
    rcases bind_eq_error h with hview | ⟨b, -, h⟩
    · exact ⟨_, view_error hview⟩
    · cases h

end Family

namespace Resolve

variable {α β : Type} {P : ScriptError → Prop}

/-! ## The errors of a part -/

/-- Whenever `x` fails, its error satisfies `P`. -/
def Raises (x : Resolve α) (P : ScriptError → Prop) : Prop :=
  ∀ s e t, x s = .error e t → P e

theorem Raises.bind {x : Resolve α} {f : α → Resolve β} (hx : Raises x P)
    (hf : ∀ a, Raises (f a) P) : Raises (x >>= f) P := by
  intro s e t h
  cases hr : x s with
  | ok a u =>
    rw [bind_eq hr] at h
    exact hf a u e t h
  | error e' u =>
    rw [bind_error hr] at h
    cases h
    exact hx s e t hr

theorem raises_pure (a : α) : Raises (pure a) P := by
  intro s e t h
  cases h

theorem raises_throw {e : ScriptError} (h : P e) : Raises (throw e : Resolve α) P := by
  intro s e' t he
  cases he
  exact h

/-- Nothing follows a failure. -/
theorem raises_throw_bind {e : ScriptError} {f : α → Resolve β} (h : P e) :
    Raises (throw e >>= f) P := by
  intro s e' t he
  cases he
  exact h

theorem raises_lift {x : Except ScriptError α} (h : ∀ e, x = .error e → P e) :
    Raises (lift x) P := by
  cases x with
  | ok a => exact raises_pure a
  | error e => exact raises_throw (h e rfl)

theorem raises_view {wanted : ValueType} {as? : Value → Option α} {value : Value}
    (h : ∀ found, P (.typeMismatch wanted found)) : Raises (view wanted as? value) P := by
  unfold view
  split
  · exact raises_pure _
  · exact raises_throw (h _)

theorem raises_check {required found : ValueType} (hinvalid : ∀ type, P (.invalidType type))
    (hmismatch : ∀ type, P (.typeMismatch required type)) :
    Raises (lift (required.check found)) P := by
  refine raises_lift fun e he => ?_
  rcases ValueType.check_error he with rfl | rfl
  · exact hinvalid _
  · exact hmismatch _

theorem raises_apply {family : Family} {op : Operator} {lhs rhs : Value}
    (hmismatch : ∀ found, P (.typeMismatch family.required found))
    (hzero : (family = .char ∨ family = .int) ∧ (op = .div ∨ op = .mod) → P .divisionByZero) :
    Raises (lift (family.apply op lhs rhs)) P := by
  refine raises_lift fun e he => ?_
  rcases Family.apply_error he with ⟨found, rfl⟩ | ⟨rfl, hdivides⟩
  · exact hmismatch found
  · exact hzero hdivides

theorem raises_pop (h : P .stackUnderflow) : Raises pop P := by
  rintro ⟨⟨items⟩, call⟩ e t he
  cases items with
  | nil =>
    cases he
    exact h
  | cons v rest => cases he

theorem raises_popArguments (h : P .stackUnderflow) (n : Nat) (later : List Value) :
    Raises (popArguments n later) P := by
  induction n generalizing later with
  | zero => exact raises_pure later
  | succ n ih => exact (raises_pop h).bind fun v => ih (v :: later)

theorem raises_invoke {wanted : Signature} {f : HostFunction} {arguments : List Value}
    (h : ∀ message, P (.hostFunction wanted.name message)) :
    Raises (invoke wanted f arguments) P := by
  unfold invoke
  refine Raises.bind ?_ fun _ => ?_
  · intro s e t he
    cases he
  · split
    · exact raises_pure _
    · exact raises_throw (h _)

/-! ## The errors of an operand -/

variable {i : Instruction} {symbols : SymbolTable} {location : Location}

/-- What follows a slot knows the operand in it. -/
theorem raises_operand {slot : Slot} {f : Location → Resolve β}
    (hmissing : i.operand slot = none → P (.missingOperand slot))
    (hf : ∀ location, i.operand slot = some location → Raises (f location) P) :
    Raises (operand i slot >>= f) P := by
  intro s e t h
  cases hslot : i.operand slot with
  | none =>
    have hfails : operand i slot s = .error (.missingOperand slot) s := by
      simp only [operand, hslot]
      rfl
    rw [bind_error hfails] at h
    cases h
    exact hmissing hslot
  | some location =>
    rw [bind_eq (operand_eq i slot hslot)] at h
    exact hf location hslot s e t h

theorem raises_read {slot : Slot} (hslot : i.operand slot = some location)
    (hunderflow : P .stackUnderflow)
    (hunknown : ∀ name, i.Blames symbols.classOf (.unknownVariable name) → P (.unknownVariable name)) :
    Raises (read symbols location) P := by
  cases location with
  | immediate value => exact raises_pure value
  | stack _ => exact raises_pop hunderflow
  | named name type =>
    refine raises_lift fun e he => ?_
    obtain ⟨rfl, hnone⟩ := SymbolTable.load_error he
    exact hunknown name ⟨hnone, slot, type, hslot⟩

theorem raises_write {value : Value} (htarget : i.target = some location)
    (hconstant : i.Blames symbols.classOf (.invalidWriteTarget .immediate) →
      P (.invalidWriteTarget .immediate))
    (hunknown : ∀ name, i.Blames symbols.classOf (.unknownVariable name) → P (.unknownVariable name))
    (hmismatch : ∀ expected found, P (.typeMismatch expected found)) :
    Raises (write symbols value location) P := by
  cases location with
  | immediate constant => exact raises_throw (hconstant ⟨constant, htarget⟩)
  | stack _ => exact raises_pure _
  | named name type =>
    refine Raises.bind (raises_lift fun e he => ?_) fun _ => raises_pure _
    rcases SymbolTable.admits_error he with ⟨rfl, hnone⟩ | ⟨expected, found, rfl⟩
    · exact hunknown name ⟨hnone, .target, type, htarget⟩
    · exact hmismatch expected found

/-! ## The errors of an instruction -/

theorem arithmetic_raises (symbols : SymbolTable) (op : Operator) (family : Family) (i : Instruction) :
    Raises (arithmetic symbols op family i) fun e =>
      e.OfComputation (.arithmetic op family) ∧ i.Blames symbols.classOf e := by
  unfold arithmetic
  refine raises_operand (fun hmissing => ⟨trivial, hmissing⟩) fun first hfirst => ?_
  refine raises_operand (fun hmissing => ⟨trivial, hmissing⟩) fun second hsecond => ?_
  refine raises_operand (fun hmissing => ⟨trivial, hmissing⟩) fun target htarget => ?_
  refine (raises_read hfirst ⟨trivial, trivial⟩ fun _ h => ⟨trivial, h⟩).bind fun lhs => ?_
  refine (raises_read hsecond ⟨trivial, trivial⟩ fun _ h => ⟨trivial, h⟩).bind fun rhs => ?_
  refine (raises_check (fun _ => ⟨trivial, trivial⟩) fun _ => ⟨trivial, trivial⟩).bind fun _ => ?_
  refine (raises_check (fun _ => ⟨trivial, trivial⟩) fun _ => ⟨trivial, trivial⟩).bind fun _ => ?_
  refine (raises_apply (fun _ => ⟨trivial, trivial⟩)
    fun h => ⟨Opcode.arithmetic_divides h, trivial⟩).bind fun result => ?_
  exact raises_write htarget (fun h => ⟨rfl, h⟩) (fun _ h => ⟨trivial, h⟩)
    fun _ _ => ⟨trivial, trivial⟩

theorem jump_raises (m : Machine) (condition : Condition) (i : Instruction) :
    Raises (jump m condition i) fun e =>
      e.OfJump m.code.size ∧ i.Blames m.symbols.classOf e := by
  unfold jump
  refine raises_operand (fun hmissing => ⟨rfl, hmissing⟩) fun location hlocation => ?_
  refine (raises_check (fun _ => ⟨trivial, trivial⟩) fun _ => ⟨rfl, trivial⟩).bind fun _ => ?_
  refine (raises_read hlocation ⟨trivial, trivial⟩ fun _ h => ⟨trivial, h⟩).bind fun value => ?_
  refine (raises_view fun _ => ⟨rfl, trivial⟩).bind fun index => ?_
  split
  · exact raises_pure _
  next hrange =>
    have hoff : index.toInt < 0 ∨ index.toInt > m.code.size := by omega
    exact raises_throw ⟨⟨rfl, hoff⟩, trivial⟩

theorem compare_raises (symbols : SymbolTable) (i : Instruction) :
    Raises (compare symbols i) fun e => e.OfComparison ∧ i.Blames symbols.classOf e := by
  unfold compare
  refine raises_operand (fun hmissing => ⟨.inl rfl, hmissing⟩) fun first hfirst => ?_
  refine raises_operand (fun hmissing => ⟨.inr rfl, hmissing⟩) fun second hsecond => ?_
  refine (raises_read hfirst ⟨trivial, trivial⟩ fun _ h => ⟨trivial, h⟩).bind fun lhs => ?_
  refine (raises_read hsecond ⟨trivial, trivial⟩ fun _ h => ⟨trivial, h⟩).bind fun rhs => ?_
  refine Raises.bind (raises_lift fun e he => ?_) fun _ => raises_pure _
  rcases Value.compare_error he with ⟨type, rfl⟩ | ⟨expected, found, rfl⟩
  · exact ⟨trivial, trivial⟩
  · exact ⟨trivial, trivial⟩

theorem call_raises (m : Machine) (i : Instruction) :
    Raises (call m i) fun e =>
      (m.functions.isSome = true ∧ e.OfCall) ∧ i.Blames m.symbols.classOf e := by
  unfold call
  split
  · exact raises_pure _
  next registry hfunctions =>
    rw [hfunctions]
    refine raises_operand (fun hmissing => ⟨⟨rfl, .inl rfl⟩, hmissing⟩) fun first hfirst => ?_
    refine (raises_read hfirst ⟨⟨rfl, trivial⟩, trivial⟩ fun _ h => ⟨⟨rfl, trivial⟩, h⟩).bind
      fun nameValue => ?_
    refine (raises_view fun _ => ⟨⟨rfl, trivial⟩, trivial⟩).bind fun name => ?_
    refine raises_operand (fun hmissing => ⟨⟨rfl, .inr rfl⟩, hmissing⟩) fun second hsecond => ?_
    refine (raises_read hsecond ⟨⟨rfl, trivial⟩, trivial⟩ fun _ h => ⟨⟨rfl, trivial⟩, h⟩).bind
      fun arityValue => ?_
    refine (raises_view fun _ => ⟨⟨rfl, trivial⟩, trivial⟩).bind fun arity => ?_
    dsimp only
    split
    next hneg => exact raises_throw_bind ⟨⟨rfl, hneg⟩, trivial⟩
    next =>
      split
      · exact raises_throw ⟨⟨rfl, trivial⟩, trivial⟩
      · refine (raises_popArguments ⟨⟨rfl, trivial⟩, trivial⟩ _ _).bind fun arguments => ?_
        refine (raises_invoke fun _ => ⟨⟨rfl, trivial⟩, trivial⟩).bind fun result => ?_
        unfold deliver
        split
        · exact raises_pure _
        · exact raises_pure _
        next location _ htarget =>
          exact raises_write htarget (fun h => ⟨⟨rfl, rfl⟩, h⟩) (fun _ h => ⟨⟨rfl, trivial⟩, h⟩)
            fun _ _ => ⟨⟨rfl, trivial⟩, trivial⟩

end Resolve

namespace Machine

variable {p : Program} {functions : Option Registry} {m : Machine} {f : Fault}

/-- **An instruction fails with an error of its opcode.** Every opcode has its entry in the table of the
part that executes it, so the look-ups add no error. -/
theorem resolve_raises (m : Machine) (i : Instruction) :
    Resolve.Raises (m.resolve i)
      (i.MayRaise m.symbols.classOf m.code.size m.functions.isSome) := by
  unfold Instruction.MayRaise
  cases hop : i.opcode using Opcode.byKind with
  | arithmetic op family =>
    rw [resolve_arithmetic hop]
    simp only [Opcode.permits_arithmetic]
    exact Resolve.arithmetic_raises m.symbols op family i
  | jump condition =>
    rw [resolve_jump hop]
    simp only [Opcode.permits_jump]
    exact Resolve.jump_raises m condition i
  | cmp =>
    rw [resolve_cmp hop]
    exact Resolve.compare_raises m.symbols i
  | call =>
    rw [resolve_call hop]
    exact Resolve.call_raises m i
  | halt =>
    rw [resolve_halt hop]
    exact Resolve.raises_pure _
  | skip opcode h =>
    rw [resolve_skip (hop ▸ h)]
    exact Resolve.raises_pure _

/-! ## The faults of a run -/

theorem Hosted.functions_isSome (h : Hosted p functions m) :
    m.functions.isSome = functions.isSome := by
  refine h.invariant (P := fun m => m.functions.isSome = functions.isSome) rfl ?_ ?_
  · intro m hm
    rw [m.step_functions, hm]
  · intro m before after hbefore hm
    rw [← hm, hbefore]
    rfl

theorem fault_permitted (h : Hosted p functions m) (hf : m.fault = some f) :
    ∃ i, p.instructions[f.pc]? = some i ∧ f.opcode = i.opcode ∧
      i.MayRaise p.symbols.classOf p.size functions.isSome f.error := by
  induction h with
  | load => cases hf
  | @step m hm ih =>
    rcases m.step_cases with ⟨-, hstep⟩ | ⟨i, a, s, -, -, hstep⟩ | ⟨i, e, s, hi, hr, hstep⟩
    · rw [hstep] at hf
      exact ih hf
    · rw [hstep, perform_fault] at hf
      exact ih hf
    · -- the fault is recorded by this step, with the variables and the host that the program has
      have hraises := m.resolve_raises i _ _ _ hr
      rw [hm.declared.2, hm.inControl.size_code, hm.functions_isSome] at hraises
      rw [hstep] at hf
      cases hf
      exact ⟨i, (hm.inControl.next? hi).2.2, rfl, hraises⟩
  | exchange _ _ _ ih => exact ih hf

/-- **Every fault is one of its opcode.** Under every host and after any number of steps, the fault of a
machine has an error that its opcode permits: computations, jumps, comparisons and calls have their own errors
each, calls have none without host functions, and no other instruction has any. No script stops at an
instruction or a memory area that is not known. An error that names an operand names an empty slot of the
instruction that the fault names, one that names a variable a variable of it that the program does not
declare, and a refused write is one to a constant. -/
theorem fault_taxonomy {p : Program} {functions : Option Registry} {m : Machine} {f : Fault}
    (h : Hosted p functions m) (hf : m.fault = some f) :
    f.opcode.Permits p.size functions.isSome f.error ∧
    (∀ text, f.error ≠ .unknownInstruction text ∧ f.error ≠ .unknownMemoryArea text) ∧
    ∃ i, p.instructions[f.pc]? = some i ∧ f.opcode = i.opcode ∧
      (∀ slot, f.error = .missingOperand slot → i.operand slot = none) ∧
      (∀ name, f.error = .unknownVariable name → p.symbols.get? name = none ∧
        ∃ slot type, i.operand slot = some (.named name type)) ∧
      (∀ area, f.error = .invalidWriteTarget area → ∃ value, i.target = some (.immediate value)) := by
  obtain ⟨i, hi, hop, hpermits, hblames⟩ := fault_permitted h hf
  rw [← hop] at hpermits
  refine ⟨hpermits, ?_, i, hi, hop, ?_, ?_, ?_⟩
  · intro text
    obtain ⟨hinstruction, harea⟩ := f.opcode.not_permits_unknown p.size functions.isSome text
    exact ⟨fun he => hinstruction (he ▸ hpermits), fun he => harea (he ▸ hpermits)⟩
  · intro slot he
    rw [he] at hblames
    exact hblames
  · intro name he
    rw [he] at hblames
    exact ⟨by simpa [SymbolTable.classOf] using hblames.1, hblames.2⟩
  · intro area he
    rw [he] at hblames
    exact hblames

/-- A call that went well until its answer had nowhere to go, under a host that used to have no answer, and a
jump that was not taken but has no place in the program for its target. -/
theorem fault_taxonomy_of_lost_answer :
    let ask : Instruction :=
      ⟨.call, some (.immediate (.identifier "ask")), some (.immediate (.int 0)), some (.named "x" .int)⟩
    let p : Program := { instructions := [ask] }
    let q : Program := { instructions := [.jump .less 2] }
    let answering (v : Value) : Registry :=
      ⟨.ofList [(⟨"ask", 0⟩, ⟨"host", fun _ => { result := .ok v }⟩)]⟩
    let m := { load p (some (answering .void)) with functions := some (answering (.int 7)) }.step
    let n := (load q).run 5
    m.fault = some ⟨0, .call, .unknownVariable "x"⟩ ∧ p.symbols.get? "x" = none ∧
      n.fault = some ⟨0, .jump .less, .invalidJumpTarget 2 1⟩ ∧
      (Opcode.jump .less).Permits 1 false (.invalidJumpTarget 2 1) := by
  intro ask p q answering m n
  have hm : Hosted p (some (answering .void)) m := .step (.exchange .load rfl rfl)
  have hn : Hosted q none n := Reachable.hosted (.run 5 .load)
  have hlost : m.fault = some ⟨0, .call, .unknownVariable "x"⟩ := by decide +kernel
  have hstray : n.fault = some ⟨0, .jump .less, .invalidJumpTarget 2 1⟩ := by decide +kernel
  obtain ⟨-, -, i, -, -, -, hunknown, -⟩ := fault_taxonomy hm hlost
  exact ⟨hlost, (hunknown "x" rfl).1, hstray, (fault_taxonomy hn hstray).1⟩

end Machine

end ScriptMachine
