import ScriptMachine.Machine.Action

/-!
# The tables of opcodes

Four lists divide up the opcodes: the one by which the machine picks the part that executes an opcode, the
table of operators and families, the table of conditions, and the reserved opcodes. Each is kept on its own,
and an opcode that is sent to a part whose table lacks it would be refused as no instruction. The lists
agree, so that every opcode computes, jumps, compares, calls, halts or does nothing (`byKind`), and whatever
it does is executed without a refusal (`Machine.resolve_arithmetic` and the lemmas after it).
-/

namespace ScriptMachine

namespace Opcode

variable {opcode : Opcode} {op op' : Operator} {family family' : Family} {condition : Condition}

/-! ## The tables -/

theorem arithmetic?_arithmetic (op : Operator) (family : Family) :
    (arithmetic op family).arithmetic? = some (family, op) := by
  cases op <;> cases family <;> rfl

theorem condition?_jump (condition : Condition) : (jump condition).condition? = some condition := by
  cases condition <;> rfl

/-- The table of operators has every opcode that computes, and no other. -/
theorem arithmetic?_eq_some_iff :
    opcode.arithmetic? = some (family, op) ↔ opcode = arithmetic op family := by
  constructor
  · intro h
    cases opcode <;> cases h <;> rfl
  · rintro rfl
    exact arithmetic?_arithmetic op family

/-- The table of conditions has every opcode that jumps, and no other. -/
theorem condition?_eq_some_iff : opcode.condition? = some condition ↔ opcode = jump condition := by
  constructor
  · intro h
    cases opcode <;> cases h <;> rfl
  · rintro rfl
    exact condition?_jump condition

/-- An opcode that computes is called by its operator and its family. -/
theorem mnemonic_arithmetic (op : Operator) (family : Family) :
    (arithmetic op family).mnemonic = op.name ++ "_" ++ family.name := by
  cases op <;> cases family <;> rfl

@[simp] theorem arithmetic_inj :
    arithmetic op family = arithmetic op' family' ↔ op = op' ∧ family = family' := by
  constructor
  · intro h
    have hentry := arithmetic?_arithmetic op family
    rw [h, arithmetic?_arithmetic] at hentry
    cases hentry
    exact ⟨rfl, rfl⟩
  · rintro ⟨rfl, rfl⟩
    rfl

/-- Every opcode is one that computes, one that jumps, one of three others that do something, or one
that does nothing. -/
@[elab_as_elim]
theorem byKind {motive : Opcode → Prop}
    (arithmetic : ∀ op family, motive (arithmetic op family))
    (jump : ∀ condition, motive (jump condition)) (cmp : motive cmp) (call : motive call)
    (halt : motive halt) (skip : ∀ opcode, opcode = nop ∨ opcode.isReserved = true → motive opcode)
    (opcode : Opcode) : motive opcode := by
  cases harithmetic : opcode.arithmetic? with
  | some entry =>
    rw [arithmetic?_eq_some_iff.1 harithmetic]
    exact arithmetic entry.2 entry.1
  | none =>
    cases hcondition : opcode.condition? with
    | some condition =>
      rw [condition?_eq_some_iff.1 hcondition]
      exact jump condition
    | none =>
      -- what neither table has
      cases opcode with
      | cmp => exact cmp
      | call => exact call
      | halt => exact halt
      | nop => exact skip _ (.inl rfl)
      | and | or | not | arrayAccess | fieldAccess | concatString | mov => exact skip _ (.inr rfl)
      | _ => simp [arithmetic?, condition?] at harithmetic hcondition

end Opcode

/-! ## The parts of the machine -/

namespace Machine

variable {m : Machine} {i : Instruction}

theorem resolve_arithmetic {op : Operator} {family : Family} (hop : i.opcode = .arithmetic op family) :
    m.resolve i = Resolve.arithmetic m.symbols op family i := by
  unfold resolve
  rw [hop]
  cases op <;> cases family <;> rfl

theorem resolve_jump {condition : Condition} (hop : i.opcode = .jump condition) :
    m.resolve i = Resolve.jump m condition i := by
  unfold resolve
  rw [hop]
  cases condition <;> rfl

theorem resolve_cmp (hop : i.opcode = .cmp) : m.resolve i = Resolve.compare m.symbols i := by
  simp only [resolve, hop]

theorem resolve_call (hop : i.opcode = .call) : m.resolve i = Resolve.call m i := by
  simp only [resolve, hop]

theorem resolve_halt (hop : i.opcode = .halt) : m.resolve i = pure .halt := by
  simp only [resolve, hop]

theorem resolve_skip (h : i.opcode = .nop ∨ i.opcode.isReserved = true) :
    m.resolve i = pure .advance := by
  unfold resolve
  generalize i.opcode = opcode at h
  rcases h with rfl | h
  · rfl
  · cases opcode <;> cases h <;> rfl

end Machine

end ScriptMachine
