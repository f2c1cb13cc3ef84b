import ScriptMachine.Proofs.Control

/-!
# Hosts that remember

The functions of a registry answer by their arguments alone, but a host may keep a memory and answer
the same call differently the next time. A step calls one function at most, so during that step a host
behaves as some registry does, whatever it remembers. A host with a memory is therefore one that
exchanges its functions for others of the same signatures between two steps, and what holds however
they are exchanged holds for every host. Control is the first example (`hosted_control`).
-/

namespace ScriptMachine.Machine

/-- The machines that a program reaches under a host that may answer differently at every step. A
program without host functions stays without them. -/
inductive Hosted (p : Program) (functions : Option Registry) : Machine → Prop
  | load : Hosted p functions (load p functions)
  | step {m : Machine} : Hosted p functions m → Hosted p functions m.step
  | exchange {m : Machine} {before after : Registry} : Hosted p functions m →
      m.functions = some before → after.signatures = before.signatures →
      Hosted p functions { m with functions := some after }

variable {p : Program} {functions : Option Registry} {m : Machine}

/-- What the start of a program satisfies, and every step and every exchange keeps, holds under every
host. -/
theorem Hosted.invariant {P : Machine → Prop} (hload : P (Machine.load p functions))
    (hstep : ∀ m, P m → P m.step)
    (hexchange : ∀ m before after, m.functions = some before → P m →
      P { m with functions := some after })
    (h : Hosted p functions m) : P m := by
  induction h with
  | load => exact hload
  | step _ ih => exact hstep _ ih
  | exchange _ hbefore _ ih => exact hexchange _ _ _ hbefore ih

/-- A host without a memory is one of them, and a run is as many steps. -/
theorem Reachable.hosted (h : Reachable p functions m) : Hosted p functions m :=
  h.invariant .load fun _ => .step

/-- Control does not depend on the host. -/
theorem InControl.withFunctions (h : InControl p m) (functions : Option Registry) :
    InControl p { m with functions } :=
  ⟨h.code_eq, h.pc_le, h.pc_of_halted, h.halted_of_fault, h.fault_at⟩

theorem Hosted.inControl (h : Hosted p functions m) : InControl p m :=
  h.invariant (load_inControl p functions) (fun _ => InControl.step)
    fun _ _ after _ hm => hm.withFunctions (some after)

theorem Hosted.functions_eq_none (h : Hosted p functions m) (hnone : functions = none) :
    m.functions = none := by
  refine h.invariant hnone (fun m hm => m.step_functions.trans hm) ?_
  intro m before after hbefore hm
  rw [hm] at hbefore
  cases hbefore

/-- **Control of every machine,** after any steps and runs and under every host. The code is the program's
and the index stays inside it; the end of the program, the halt flag, the fault record and the state that a
host sees agree; and an instruction is fetched only where there is one. -/
theorem hosted_control {p : Program} {functions : Option Registry} {m : Machine}
    (h : Hosted p functions m) :
    m.code = p.instructions.toArray ∧
    m.pc ≤ p.size ∧
    (m.isFinished = true ↔ m.pc = p.size) ∧
    (m.halted = true → m.pc = p.size) ∧
    (m.fault.isSome = true → m.halted = true) ∧
    (∀ f, m.state = .faulted f ↔ m.fault = some f) ∧
    (m.state = .running ↔ m.pc < p.size) ∧
    (m.state = .finished ↔ m.fault = none ∧ m.pc = p.size) ∧
    (∀ f, m.fault = some f →
      f.pc < p.size ∧ ∃ i, p.instructions[f.pc]? = some i ∧ f.opcode = i.opcode) ∧
    (m.isFinished = false →
      m.pc < m.code.size ∧ ∃ i, m.code[m.pc]? = some i ∧ m.next? = some i) := by
  have hc := h.inControl
  refine ⟨hc.code_eq, hc.pc_le, hc.isFinished_iff, hc.pc_of_halted, ?_, state_faulted_iff,
    hc.state_running_iff, hc.state_finished_iff, ?_, ?_⟩
  · intro hsome
    obtain ⟨f, hf⟩ := Option.isSome_iff_exists.1 hsome
    exact hc.halted_of_fault f hf
  · intro f hf
    obtain ⟨i, hget, hop⟩ := hc.fault_at f hf
    obtain ⟨hlt, -⟩ := List.getElem?_eq_some_iff.1 hget
    exact ⟨hlt, i, hget, hop⟩
  · intro hrun
    cases hi : m.next? with
    | none =>
      rw [m.next?_eq_none_iff.1 hi] at hrun
      cases hrun
    | some i =>
      obtain ⟨-, hlt, hget⟩ := hc.next? hi
      refine ⟨by rw [hc.size_code]; exact hlt, i, ?_, rfl⟩
      rw [hc.code_eq, List.getElem?_toArray]
      exact hget

/-- A jump to the end of a program ends it, and a jump past the end is a fault of the jump itself. -/
theorem hosted_control_of_jumps :
    let jumps (index : Int32) : Program := { instructions := [.jump .always index] }
    let inside := ((load (jumps 1)).run 5).step
    let outside := ((load (jumps 2)).run 5).step
    (inside.state = .finished ∧ inside.pc = 1) ∧
      outside.fault = some ⟨0, .jump .always, .invalidJumpTarget 2 1⟩ ∧
      (outside.isFinished = true ↔ outside.pc = 1) ∧ outside.halted = true := by
  intro jumps inside outside
  have hin := hosted_control (Reachable.hosted (.step (.run 5 (.load : Reachable (jumps 1) none _))))
  have hout := hosted_control (Reachable.hosted (.step (.run 5 (.load : Reachable (jumps 2) none _))))
  have hfinished : inside.state = .finished := rfl
  exact ⟨⟨hfinished, (hin.2.2.2.2.2.2.2.1.1 hfinished).2⟩, rfl, hout.2.2.1, hout.2.2.2.2.1 rfl⟩

end ScriptMachine.Machine
