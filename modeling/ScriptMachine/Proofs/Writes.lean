import ScriptMachine.Proofs.Atomicity
import ScriptMachine.Proofs.Success

/-!
# What instructions write

A value reaches the stack or a variable in two ways only: as the result of a computation, which is a
number, or as the answer of a host function, which is dropped if it is void. In both cases it goes where
the target of the instruction says, and a variable takes it only if its class fits. Hence the variables
of a script and their classes are at all times those that its program declares, and the stack holds no
void value (`hosted_data`).
-/

namespace ScriptMachine

/-! ## Results -/

/-- A family computes values of its own type. -/
theorem Family.type_of_apply {family : Family} {op : Operator} {lhs rhs v : Value}
    (h : family.apply op lhs rhs = .ok v) : v.type = family.required := by
  cases family with
  | char =>
    obtain ⟨a, -, h⟩ := bind_eq_ok h
    obtain ⟨b, -, h⟩ := bind_eq_ok h
    obtain ⟨c, -, rfl⟩ := map_eq_ok h
    rfl
  | int =>
    obtain ⟨a, -, h⟩ := bind_eq_ok h
    obtain ⟨b, -, h⟩ := bind_eq_ok h
    obtain ⟨c, -, rfl⟩ := map_eq_ok h
    rfl
  | double =>
    obtain ⟨a, -, h⟩ := bind_eq_ok h
    obtain ⟨b, -, h⟩ := bind_eq_ok h
    cases h
    rfl

theorem ValueType.mem_of_isNumeric {type : ValueType} (h : type.isNumeric = true) :
    type ∈ [.char, .int, .double] := by
  cases type with
  | char | int | double => decide
  | boolean | string | identifier | void => cases h

theorem Family.required_isNumeric (family : Family) : family.required.isNumeric = true := by
  cases family <;> rfl

/-! ## Actions -/

/-- The instruction writes what it computes, or what the host answers. -/
def Opcode.Writes (opcode : Opcode) : Prop :=
  (∃ op family, opcode = .arithmetic op family) ∨ opcode = .call

/-- The values that may lie on the stack of a machine: none that is void, and numbers only if no host
functions are attached. -/
def Machine.Stackable (m : Machine) (value : Value) : Prop :=
  value ≠ .void ∧ (m.functions = none → value.type.isNumeric = true)

theorem Machine.stackable_of_isNumeric (m : Machine) {value : Value}
    (h : value.type.isNumeric = true) : m.Stackable value := by
  refine ⟨?_, fun _ => h⟩
  rintro rfl
  cases h

/-- What an action of an instruction may write. -/
def Action.WrittenBy (m : Machine) (i : Instruction) : Action → Prop
  | .push value => m.Stackable value
  | .assign name _ => i.opcode.Writes ∧ ∃ type, i.target = some (.named name type)
  | _ => True

namespace Resolve

variable {m : Machine} {i : Instruction}

theorem ensures_operand (i : Instruction) (slot : Slot) :
    Ensures (operand i slot) fun location => i.operand slot = some location :=
  fun _ _ _ h => (operand_ok h).1

theorem write_writtenBy {value : Value} {location : Location} (hop : i.opcode.Writes)
    (htarget : i.target = some location) (hvalue : m.Stackable value) :
    Ensures (write m.symbols value location) (Action.WrittenBy m i) := by
  cases location with
  | immediate _ => exact ensures_throw _
  | stack _ => exact ensures_pure hvalue
  | named name type => exact .then fun _ => ensures_pure ⟨hop, type, htarget⟩

theorem arithmetic_writtenBy {op : Operator} {family : Family}
    (hop : i.opcode = .arithmetic op family) :
    Ensures (arithmetic m.symbols op family i) (Action.WrittenBy m i) := by
  unfold arithmetic
  refine .then fun first => .then fun second => ?_
  refine (ensures_operand i .target).bind fun target htarget => ?_
  refine .then fun lhs => .then fun rhs => .then fun _ => .then fun _ => ?_
  refine (ensures_lift _).bind fun result hresult => ?_
  have hnumeric : result.type.isNumeric = true := by
    rw [Family.type_of_apply hresult, family.required_isNumeric]
  exact write_writtenBy (.inl ⟨op, family, hop⟩) htarget (m.stackable_of_isNumeric hnumeric)

theorem deliver_writtenBy (hop : i.opcode = .call) {registry : Registry}
    (hfunctions : m.functions = some registry) (result : Value) :
    Ensures (deliver m.symbols result i.target) (Action.WrittenBy m i) := by
  unfold deliver
  split
  · exact ensures_pure trivial
  · exact ensures_pure trivial
  next location hvoid htarget =>
    refine write_writtenBy (.inr hop) htarget ⟨hvoid, fun hnone => ?_⟩
    rw [hnone] at hfunctions
    cases hfunctions

end Resolve

namespace Machine

/-- **An instruction writes to its target only,** and only if it computes or calls. -/
theorem resolve_writtenBy (m : Machine) (i : Instruction) :
    Resolve.Ensures (m.resolve i) (Action.WrittenBy m i) := by
  cases hop : i.opcode using Opcode.byKind with
  | arithmetic op family =>
    rw [resolve_arithmetic hop]
    exact Resolve.arithmetic_writtenBy hop
  | jump condition =>
    rw [resolve_jump hop]
    exact Resolve.ensures_jump trivial fun _ _ => trivial
  | cmp =>
    rw [resolve_cmp hop]
    exact Resolve.ensures_compare fun _ => trivial
  | call =>
    rw [resolve_call hop]
    exact Resolve.ensures_call trivial fun _ result hfunctions =>
      Resolve.deliver_writtenBy hop hfunctions result
  | halt =>
    rw [resolve_halt hop]
    exact Resolve.ensures_pure trivial
  | skip opcode h =>
    rw [resolve_skip (hop ▸ h)]
    exact Resolve.ensures_pure trivial

/-! ## Variables -/

theorem step_symbols (m : Machine) :
    m.step.symbols = m.symbols ∨
      ∃ i name type value, m.next? = some i ∧ i.opcode.Writes ∧
        i.target = some (.named name type) ∧ m.symbols.admits name value = .ok () ∧
        m.step.symbols = m.symbols.insert name value := by
  rcases m.step_cases with ⟨-, hstep⟩ | ⟨i, a, s, hi, hr, hstep⟩ | ⟨i, e, s, -, -, hstep⟩
  · exact .inl (by rw [hstep])
  · have hwritten := m.resolve_writtenBy i _ _ _ hr
    have hallowed := m.resolve_allowed i _ _ _ hr
    rw [hstep]
    cases a with
    | assign name value =>
      obtain ⟨hop, type, htarget⟩ := hwritten
      exact .inr ⟨i, name, type, value, hi, hop, htarget, hallowed, rfl⟩
    | advance | jump | compare | push | halt => exact .inl rfl
  · exact .inl (by rw [hstep]; rfl)

theorem step_keys (m : Machine) : m.step.symbols.keys = m.symbols.keys := by
  rcases m.step_symbols with hsame | ⟨i, name, type, value, -, -, -, hadmits, hinsert⟩
  · rw [hsame]
  · obtain ⟨current, hcurrent⟩ := SymbolTable.get?_of_admits hadmits
    rw [hinsert, SortedMap.keys_insert hcurrent]

/-- The variables are those that the program declares, with their classes. -/
theorem Hosted.declared {p : Program} {functions : Option Registry} {m : Machine}
    (h : Hosted p functions m) :
    m.symbols.keys = p.symbols.keys ∧ m.symbols.classOf = p.symbols.classOf := by
  refine h.invariant (P := fun m => m.symbols.keys = p.symbols.keys ∧
    m.symbols.classOf = p.symbols.classOf) ⟨rfl, rfl⟩ ?_ fun _ _ _ _ hm => hm
  intro m hm
  exact ⟨m.step_keys.trans hm.1, m.step_classOf.trans hm.2⟩

/-! ## The stack -/

theorem mem_of_mem_perform_stack {m : Machine} {stack : OperandStack} {a : Action} {v : Value}
    (h : v ∈ (m.perform stack a).stack.items) : v ∈ stack.items ∨ a = .push v := by
  cases a with
  | push value =>
    rcases List.mem_cons.1 h with rfl | hmem
    · exact .inr rfl
    · exact .inl hmem
  | advance | jump | compare | assign | halt => exact .inl h

/-- What resolving leaves on the stack was there before. -/
theorem mem_of_mem_leaves {m : Machine} {i : Instruction} {v : Value}
    (h : v ∈ (Resolve.leaves (m.resolve i) ⟨m.stack, none⟩).stack.items) : v ∈ m.stack.items := by
  obtain ⟨k, -, hitems⟩ := m.resolve_drops i
  rw [hitems] at h
  exact List.mem_of_mem_drop h

theorem step_stackable {m : Machine} (h : ∀ v ∈ m.stack.items, m.Stackable v) :
    ∀ v ∈ m.step.stack.items, m.step.Stackable v := by
  intro v hv
  unfold Stackable
  rw [m.step_functions]
  rcases m.step_cases with ⟨-, hstep⟩ | ⟨i, a, s, -, hr, hstep⟩ | ⟨i, e, s, -, hr, hstep⟩
  · rw [hstep] at hv
    exact h v hv
  · rw [hstep] at hv
    rcases mem_of_mem_perform_stack hv with hmem | rfl
    · exact h v (mem_of_mem_leaves (by rwa [Resolve.leaves_of_ok hr]))
    · exact m.resolve_writtenBy i _ _ _ hr
  · rw [hstep] at hv
    exact h v (mem_of_mem_leaves (by rwa [Resolve.leaves_of_error hr]))

theorem Hosted.stackable {p : Program} {functions : Option Registry} {m : Machine}
    (h : Hosted p functions m) : ∀ v ∈ m.stack.items, m.Stackable v := by
  refine h.invariant (P := fun m => ∀ v ∈ m.stack.items, m.Stackable v) ?_
    (fun _ => step_stackable) ?_
  · intro v hv
    cases hv
  · intro m before after _ hm v hv
    exact ⟨(hm v hv).1, fun hnone => by cases hnone⟩

/-- **The data of every reachable machine.** Under every host and after any number of steps, the
variables and their classes are those that the program declares; the next step gives at most one variable
another value, the one that the target of its instruction names, and only if the instruction computes or
calls; no value on the stack is void, and without host functions all of them are numbers. -/
theorem hosted_data {p : Program} {functions : Option Registry} {m : Machine}
    (h : Hosted p functions m) :
    m.symbols.keys = p.symbols.keys ∧
    (∀ name, (m.symbols.get? name).map Value.type = (p.symbols.get? name).map Value.type) ∧
    (m.step.symbols = m.symbols ∨
      ∃ i name type, p.instructions[m.pc]? = some i ∧ i.target = some (.named name type) ∧
        ((∃ op family, i.opcode = .arithmetic op family) ∨ i.opcode = .call) ∧
        ∀ other, other ≠ name → m.step.symbols.get? other = m.symbols.get? other) ∧
    .void ∉ m.stack.items ∧
    (functions = none → ∀ v ∈ m.stack.items, v.type ∈ [.char, .int, .double]) := by
  obtain ⟨hkeys, hclasses⟩ := h.declared
  have hstack := h.stackable
  refine ⟨hkeys, congrFun hclasses, ?_, fun hvoid => (hstack _ hvoid).1 rfl, ?_⟩
  · refine m.step_symbols.imp_right ?_
    rintro ⟨i, name, type, value, hi, hop, htarget, -, hinsert⟩
    refine ⟨i, name, type, (h.inControl.next? hi).2.2, htarget, hop, ?_⟩
    intro other hother
    rw [hinsert, SortedMap.get?_insert, if_neg (Ne.symm hother)]
  · intro hnone v hv
    exact ValueType.mem_of_isNumeric ((hstack v hv).2 (h.functions_eq_none hnone))

/-- A script that computes into one of its own operands, with a number waiting on the stack: the step
gives `n` another value, and `k` keeps its own. -/
theorem hosted_data_of_aliased_target :
    let p : Program := {
      symbols := .ofList [("n", .int 3), ("k", .int 4)]
      instructions := [
        .binary (.arithmetic .add .char) (.immediate (.char 65)) (.immediate (.char 1)) (.stack .char),
        .binary (.arithmetic .mul .int) (.named "n" .int) (.named "n" .int) (.named "n" .int)] }
    let m := (load p).run 1
    Hosted p none m ∧ m.stack.items = [.char 66] ∧ .void ∉ m.stack.items ∧
      (∀ v ∈ m.stack.items, v.type ∈ [.char, .int, .double]) ∧
      m.step.symbols.get? "n" = some (.int 9) ∧
      m.step.symbols.get? "k" = m.symbols.get? "k" := by
  intro p m
  have hm : Hosted p none m := Reachable.hosted (.run 1 .load)
  obtain ⟨-, -, hwrite, hvoid, hnumbers⟩ := hosted_data hm
  refine ⟨hm, by decide +kernel, hvoid, hnumbers rfl, by decide +kernel, ?_⟩
  rcases hwrite with hsame | ⟨i, name, type, hi, htarget, -, hothers⟩
  · rw [hsame]
  · have hpc : m.pc = 1 := by decide +kernel
    rw [hpc] at hi
    cases hi
    cases htarget
    exact hothers "k" (by decide)

end Machine

end ScriptMachine
