import ScriptMachine.Proofs.Step

/-!
# Control

Where a machine can be between two instructions. The index of the next instruction never leaves the
program, and it is the length of the program exactly when nothing runs any more; a fault is recorded
only by a machine that has halted, and names an instruction of the program.
-/

namespace ScriptMachine.Machine

/-- The machines that a host gets from a program by stepping and running it. -/
inductive Reachable (p : Program) (functions : Option Registry) : Machine → Prop
  | load : Reachable p functions (load p functions)
  | step {m : Machine} : Reachable p functions m → Reachable p functions m.step
  | run {m : Machine} (n : Nat) : Reachable p functions m → Reachable p functions (m.run n)

/-- What the start of a program satisfies and every step keeps holds of every reachable machine. -/
theorem Reachable.invariant {p : Program} {functions : Option Registry} {P : Machine → Prop}
    (hload : P (Machine.load p functions)) (hstep : ∀ m, P m → P m.step) {m : Machine}
    (h : Reachable p functions m) : P m := by
  induction h with
  | load => exact hload
  | step _ ih => exact hstep _ ih
  | run n _ ih => exact run_keeps hstep n ih

theorem state_faulted_iff {m : Machine} (f : Fault) : m.state = .faulted f ↔ m.fault = some f := by
  unfold state
  cases m.fault with
  | none => cases m.isFinished <;> simp
  | some g => simp

theorem no_fault_of_running {m : Machine} (h : m.state = .running) : m.fault = none := by
  cases hf : m.fault with
  | none => rfl
  | some f =>
    rw [(state_faulted_iff f).2 hf] at h
    cases h

/-- A running script is about to execute the instruction at its index. -/
theorem next?_of_running {m : Machine} (h : m.state = .running) {i : Instruction}
    (hi : m.code[m.pc]? = some i) : m.next? = some i := by
  have hhalted : m.halted = false := by
    cases hh : m.halted with
    | false => rfl
    | true => simp [state, no_fault_of_running h, isFinished, hh] at h
  simp [next?, hhalted, hi]

/-! ## The invariant -/

/-- The control state of a machine that executes a program. -/
structure InControl (p : Program) (m : Machine) : Prop where
  code_eq : m.code = p.instructions.toArray
  pc_le : m.pc ≤ p.size
  pc_of_halted : m.halted = true → m.pc = p.size
  halted_of_fault : ∀ f, m.fault = some f → m.halted = true
  fault_at : ∀ f, m.fault = some f → ∃ i, p.instructions[f.pc]? = some i ∧ f.opcode = i.opcode

theorem load_inControl (p : Program) (functions : Option Registry) :
    InControl p (load p functions) where
  code_eq := rfl
  pc_le := Nat.zero_le _
  pc_of_halted h := by cases h
  halted_of_fault f h := by cases h
  fault_at f h := by cases h

namespace InControl

variable {p : Program} {m : Machine}

theorem size_code (h : InControl p m) : m.code.size = p.size := by
  rw [h.code_eq]
  rfl

/-- The next instruction is the one that the index names, and the index names one. -/
theorem next? (h : InControl p m) {i : Instruction} (hi : m.next? = some i) :
    m.halted = false ∧ m.pc < p.size ∧ p.instructions[m.pc]? = some i := by
  unfold Machine.next? at hi
  split at hi
  next => cases hi
  next hhalted =>
    rw [h.code_eq, List.getElem?_toArray] at hi
    obtain ⟨hlt, -⟩ := List.getElem?_eq_some_iff.1 hi
    exact ⟨Bool.eq_false_iff.2 hhalted, hlt, hi⟩

theorem no_fault_of_next? (h : InControl p m) {i : Instruction} (hi : m.next? = some i) :
    m.fault = none := by
  cases hf : m.fault with
  | none => rfl
  | some f => exact absurd (h.halted_of_fault f hf) (by rw [(h.next? hi).1]; simp)

theorem perform (h : InControl p m) {i : Instruction} (hi : m.next? = some i)
    {a : Action} (ha : a.Allowed m) (stack : OperandStack) : InControl p (m.perform stack a) := by
  obtain ⟨hhalted, hlt, -⟩ := h.next? hi
  have hfault := h.no_fault_of_next? hi
  have hsize := h.size_code
  -- only the index and the halt flag depend on the action
  cases a with
  | jump target =>
    change target ≤ m.code.size at ha
    refine ⟨h.code_eq, ?_, ?_, ?_, ?_⟩ <;> simp_all [Machine.perform]
  | halt =>
    refine ⟨h.code_eq, ?_, ?_, ?_, ?_⟩ <;> simp_all [Machine.perform]
  | advance | compare | push | assign =>
    refine ⟨h.code_eq, hlt, ?_, ?_, ?_⟩ <;> simp_all [Machine.perform]

theorem stop (h : InControl p m) {i : Instruction} (hi : m.next? = some i) (stack : OperandStack)
    (e : ScriptError) : InControl p (m.stop stack i e) := by
  obtain ⟨-, -, hget⟩ := h.next? hi
  refine ⟨h.code_eq, Nat.le_of_eq h.size_code, fun _ => h.size_code, fun _ _ => rfl, ?_⟩
  intro f hf
  cases hf
  exact ⟨i, hget, rfl⟩

theorem step (h : InControl p m) : InControl p m.step := by
  rcases m.step_cases with ⟨-, hstep⟩ | ⟨i, a, s, hi, hr, hstep⟩ | ⟨i, e, s, hi, -, hstep⟩
  · rw [hstep]
    exact h
  · rw [hstep]
    exact h.perform hi (m.resolve_allowed i _ _ _ hr) s.stack
  · rw [hstep]
    exact h.stop hi s.stack e

theorem isFinished_iff (h : InControl p m) : m.isFinished = true ↔ m.pc = p.size := by
  unfold isFinished
  rw [Bool.or_eq_true, decide_eq_true_iff, h.size_code]
  constructor
  · rintro (hhalted | hle)
    · exact h.pc_of_halted hhalted
    · exact Nat.le_antisymm h.pc_le hle
  · intro hpc
    exact .inr (Nat.le_of_eq hpc.symm)

theorem isFinished_eq_false_iff (h : InControl p m) : m.isFinished = false ↔ m.pc < p.size := by
  have hle := h.pc_le
  rw [Bool.eq_false_iff, Ne, h.isFinished_iff]
  omega

theorem state_running_iff (h : InControl p m) : m.state = .running ↔ m.pc < p.size := by
  rw [← h.isFinished_eq_false_iff]
  unfold state
  cases hf : m.fault with
  | none => cases m.isFinished <;> simp
  | some f =>
    -- a fault halts, so the machine is finished
    have hpc := h.pc_of_halted (h.halted_of_fault f hf)
    simp [h.isFinished_iff.2 hpc]

theorem state_finished_iff (h : InControl p m) :
    m.state = .finished ↔ m.fault = none ∧ m.pc = p.size := by
  rw [← h.isFinished_iff]
  unfold state
  cases m.fault with
  | none =>
    simp only
    split <;> simp_all
  | some f => simp

end InControl

theorem Reachable.inControl {p : Program} {functions : Option Registry} {m : Machine}
    (h : Reachable p functions m) : InControl p m :=
  h.invariant (load_inControl p functions) fun _ => InControl.step

end ScriptMachine.Machine
