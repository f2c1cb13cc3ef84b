import ScriptMachine.Proofs.Register
import ScriptMachine.Proofs.Runs

/-!
# Only backward jumps loop

Every action moves the index of the next instruction forward, and so do halts and faults, which move it to
the end of the program; the one exception is a jump that is taken to a place at or before itself
(`step_pc`). Where a program has no such jump, the instructions between the index and the end bound what is
left of every run, whatever the values, the jumps and the host do (`foldl_stepUnder_isFinished`).
-/

namespace ScriptMachine

/-! ## Programs without backward jumps -/

/-- If the instruction is a jump, its target is a constant, and not one that names a place up to this
index. The target may be missing, negative, past the end of the program or no number at all. -/
def Instruction.JumpsForward (index : Nat) (i : Instruction) : Prop :=
  i.opcode.condition?.isSome = true → ∀ location ∈ i.target, ∃ value ∈ location.constant?,
    ∀ target ∈ value.asInt?, ¬ (0 ≤ target.toInt ∧ target.toInt ≤ index)

/-- No jump of the program names a place at or before itself, or leaves its target to the data. -/
def Program.JumpsForward (p : Program) : Prop :=
  ∀ entry ∈ p.instructions.zipIdx, entry.1.JumpsForward entry.2

instance (index : Nat) (i : Instruction) : Decidable (i.JumpsForward index) :=
  -- the one integer that the value is, where a search for an instance may find one that tries them all
  haveI (value : Value) : Decidable (∀ target ∈ value.asInt?,
      ¬ (0 ≤ target.toInt ∧ target.toInt ≤ index)) := Option.decidableForallMem _
  inferInstanceAs (Decidable (_ → ∀ location ∈ i.target, ∃ value ∈ location.constant?,
    ∀ target ∈ value.asInt?, ¬ (0 ≤ target.toInt ∧ target.toInt ≤ index)))

instance (p : Program) : Decidable p.JumpsForward :=
  inferInstanceAs (Decidable (∀ entry ∈ p.instructions.zipIdx, entry.1.JumpsForward entry.2))

theorem Location.eq_immediate {location : Location} {value : Value}
    (h : location.constant? = some value) : location = .immediate value := by
  cases location <;> simp_all [constant?]

/-- The target of a forward jump, where it is a place in a program, lies behind the jump. -/
theorem Instruction.JumpsForward.lt {index : Nat} {i : Instruction} (h : i.JumpsForward index)
    {condition : Condition} (hop : i.opcode = .jump condition) {location : Location}
    (hlocation : i.target = some location) {symbols : SymbolTable} {items : List Value} {value : Value}
    (hvalue : location.heldOn symbols items = some value) {d : Nat} (hd : value.Counts d) :
    index < d := by
  obtain ⟨constant, hconstant, htarget⟩ :=
    h (by rw [hop, Opcode.condition?_jump]; rfl) location hlocation
  obtain rfl := Location.eq_immediate hconstant
  obtain rfl : constant = value := Option.some.inj hvalue
  obtain ⟨n, hn, hnd⟩ := Value.asInt?_iff_counts.2 hd
  have hoff := htarget n hn
  omega

namespace Machine

variable {p : Program} {functions : Option Registry} {m : Machine} {i : Instruction}

/-! ## One step -/

/-- The next step takes a jump to a place at or before the jump itself. -/
def JumpsBack (m : Machine) : Prop :=
  ∃ i condition location value, ∃ target : Nat, m.next? = some i ∧ i.opcode = .jump condition ∧
    condition.Relates m.comparison ∧ i.target = some location ∧
    location.heldOn m.symbols m.stack.items = some value ∧ value.Counts target ∧
    target ≤ m.pc ∧ m.step.pc = target

theorem resolve_ne_jump (hop : ∀ condition, i.opcode ≠ .jump condition) :
    Resolve.Ensures (m.resolve i) fun a => ∀ target, a ≠ .jump target := by
  cases hopcode : i.opcode using Opcode.byKind with
  | arithmetic op family =>
    rw [resolve_arithmetic hopcode]
    exact Resolve.ensures_arithmetic (fun _ => nofun) fun _ _ => nofun
  | jump condition => exact absurd hopcode (hop condition)
  | cmp =>
    rw [resolve_cmp hopcode]
    exact Resolve.ensures_compare fun _ => nofun
  | call =>
    rw [resolve_call hopcode]
    exact Resolve.ensures_call nofun fun _ _ _ => Resolve.ensures_deliver nofun nofun fun _ => nofun
  | halt =>
    rw [resolve_halt hopcode]
    exact Resolve.ensures_pure nofun
  | skip opcode h =>
    rw [resolve_skip (hopcode ▸ h)]
    exact Resolve.ensures_pure nofun

theorem perform_pc_lt (hlt : m.pc < m.code.size) {a : Action} (h : ∀ target, a ≠ .jump target)
    (stack : OperandStack) : m.pc < (m.perform stack a).pc := by
  cases a with
  | jump target => exact absurd rfl (h target)
  | halt => exact hlt
  | advance | compare | push | assign => exact Nat.lt_succ_self m.pc

/-- **A step goes forward or takes a backward jump.** -/
theorem step_pc (hm : InControl p m) (hrun : m.state = .running) :
    m.pc < m.step.pc ∨ m.JumpsBack := by
  have hlt : m.pc < m.code.size := by
    rw [hm.size_code]
    exact hm.state_running_iff.1 hrun
  rcases m.step_cases with ⟨hnone, -⟩ | ⟨i, a, s, hi, hr, hstep⟩ | ⟨i, e, s, -, -, hstep⟩
  · have hfinished := hm.isFinished_iff.1 (m.next?_eq_none_iff.1 hnone)
    rw [hm.size_code] at hlt
    omega
  · by_cases hop : ∃ condition, i.opcode = .jump condition
    · obtain ⟨condition, hop⟩ := hop
      have hok := hr
      rw [resolve_jump hop] at hok
      obtain ⟨location, value, d, hlocation, hvalue, hcounts, -, rfl, -⟩ := Resolve.jump_ok hok
      by_cases hholds : condition.holds m.comparison = true
      · rw [if_pos hholds] at hstep
        have hpc : m.step.pc = d := by rw [hstep]; rfl
        rw [hpc]
        rcases Nat.lt_or_ge m.pc d with hforward | hback
        · exact .inl hforward
        · exact .inr ⟨i, condition, location, value, d, hi, hop, (condition.holds_iff _).1 hholds,
            hlocation, hvalue, hcounts, hback, hpc⟩
      · rw [if_neg hholds] at hstep
        left
        rw [hstep]
        exact Nat.lt_succ_self m.pc
    · left
      rw [hstep]
      exact perform_pc_lt hlt (resolve_ne_jump (fun condition h => hop ⟨condition, h⟩) _ _ _ hr) _
  · left
    rw [hstep]
    exact hlt

theorem not_jumpsBack (hp : p.JumpsForward) (hm : InControl p m) : ¬ m.JumpsBack := by
  rintro ⟨i, condition, location, value, d, hi, hop, -, hlocation, hvalue, hcounts, hle, -⟩
  have hmem : (i, m.pc) ∈ p.instructions.zipIdx :=
    List.mk_mem_zipIdx_iff_getElem?.2 (hm.next? hi).2.2
  have hlt := (hp _ hmem).lt hop hlocation hvalue hcounts
  exact absurd hle (Nat.not_le.2 hlt)

theorem step_pc_lt (hp : p.JumpsForward) (hm : InControl p m) (hrun : m.state = .running) :
    m.pc < m.step.pc :=
  (step_pc hm hrun).resolve_right (not_jumpsBack hp hm)

/-! ## Runs -/

/-- A step under a host that answers as these functions do, if the script has host functions at all. -/
def stepUnder (m : Machine) (answers : Registry) : Machine :=
  { m with functions := m.functions.map fun _ => answers }.step

theorem InControl.stepUnder (h : InControl p m) (answers : Registry) :
    InControl p (m.stepUnder answers) :=
  (h.withFunctions _).step

theorem foldl_stepUnder_isFinished (hp : p.JumpsForward) (hosts : List Registry)
    (hm : InControl p m) (hlen : p.size - m.pc ≤ hosts.length) :
    (hosts.foldl stepUnder m).isFinished = true := by
  induction hosts generalizing m with
  | nil =>
    have hle := hm.pc_le
    rw [List.length_nil] at hlen
    exact hm.isFinished_iff.2 (by omega)
  | cons answers hosts ih =>
    rw [List.length_cons] at hlen
    rw [List.foldl_cons]
    apply ih (hm.stepUnder answers)
    -- the host does not move the index, so the step is one of a machine in control
    have hchanged := hm.withFunctions (m.functions.map fun _ => answers)
    by_cases hrun : m.pc < p.size
    · have hlt : m.pc < (m.stepUnder answers).pc :=
        step_pc_lt hp hchanged (hchanged.state_running_iff.2 hrun)
      omega
    · have hle := hm.pc_le
      have hrest : m.stepUnder answers = { m with functions := m.functions.map fun _ => answers } :=
        step_of_isFinished (hchanged.isFinished_iff.2 (show m.pc = p.size by omega))
      rw [hrest]
      show p.size - m.pc ≤ hosts.length
      omega

/-- A host that always answers alike is one registry all the time. -/
theorem foldl_stepUnder_replicate {answers : Registry}
    (h : m.functions = none ∨ m.functions = some answers) (n : Nat) :
    (List.replicate n answers).foldl stepUnder m = step^[n] m := by
  induction n generalizing m with
  | zero => rfl
  | succ n ih =>
    have hsame : m.functions.map (fun _ => answers) = m.functions := by
      rcases h with h | h <;> simp [h]
    have hstep : m.stepUnder answers = m.step := by
      unfold stepUnder
      rw [hsame]
    rw [List.replicate_succ, List.foldl_cons, hstep, Function.iterate_succ_apply]
    apply ih
    rw [m.step_functions]
    exact h

theorem run_isFinished (hp : p.JumpsForward) (hm : InControl p m) {n : Nat}
    (hn : p.size - m.pc ≤ n) : (m.run n).isFinished = true := by
  have hanswers : m.functions = none ∨ m.functions = some (m.functions.getD .empty) := by
    cases m.functions <;> simp
  rw [run_eq_iterate, ← foldl_stepUnder_replicate hanswers]
  exact foldl_stepUnder_isFinished hp _ hm (by simpa using hn)

theorem exists_endsAt (hp : p.JumpsForward) (hm : InControl p m) :
    ∃ k ≤ p.size - m.pc, m.EndsAt k := by
  have hfinished := run_isFinished hp hm (Nat.le_refl _)
  rw [run_eq_iterate] at hfinished
  rcases m.iterate_cases (p.size - m.pc) with ⟨k, hk, hends, -⟩ | hrun
  · exact ⟨k, hk, hends⟩
  · rw [hrun _ (Nat.le_refl _)] at hfinished
    cases hfinished

/-- **Only backward jumps can loop.** Under every host, the next step of a running script moves it forward in
its program, or takes a jump to a place at or before that jump. If every jump of the program names its target
in the instruction and none of them a place at or before itself, then from wherever it is the script ends
within as many steps as there are instructions from there to the end: with functions that always answer
alike, and also if the host answers each of these steps as it likes. -/
theorem only_backward_jumps_loop (h : Hosted p functions m) :
    (m.state = .running → m.pc < m.step.pc ∨ m.JumpsBack) ∧
    (p.JumpsForward →
      (∃ k ≤ p.size - m.pc, m.EndsAt k) ∧
      (∀ n, p.size - m.pc ≤ n → (m.run n).isFinished = true) ∧
      ∀ hosts : List Registry, p.size - m.pc ≤ hosts.length →
        (hosts.foldl stepUnder m).isFinished = true) := by
  have hm := h.inControl
  refine ⟨step_pc hm, fun hp => ⟨exists_endsAt hp hm, ?_, ?_⟩⟩
  · intro n hn
    exact run_isFinished hp hm hn
  · intro hosts hlen
    exact foldl_stepUnder_isFinished hp hosts hm hlen

/-- A script that jumps over a jump with no number for a target, asks its host, and then jumps to a place
before its beginning: it is at the second of six instructions, and ends within five steps whatever the host
answers, by the fault of the last jump if not before. A script that jumps to itself takes a backward jump. -/
theorem only_backward_jumps_loop_of_stray_targets :
    let stray (value : Value) : Instruction := ⟨.jump .always, none, none, some (.immediate value)⟩
    let p : Program := {
      symbols := .ofList [("n", .int 3)]
      instructions := [
        .compare (.named "n" .int) (.immediate (.int 5)),
        .jump .less 3,
        stray (.str "end"),
        ⟨.call, some (.immediate (.identifier "ask")), some (.immediate (.int 0)),
          some (.named "n" .int)⟩,
        stray (.int (-1)),
        { opcode := .halt }] }
    let answering (v : Value) : Registry :=
      ⟨.ofList [(⟨"ask", 0⟩, ⟨"host", fun _ => { result := .ok v }⟩)]⟩
    let m := (load p (some (answering (.int 1)))).run 1
    let spin := load { instructions := [.jump .always 0] }
    p.JumpsForward ∧ m.state = .running ∧ p.size - m.pc = 5 ∧ (∃ k ≤ 5, m.EndsAt k) ∧
      (∀ first second third fourth fifth : Value,
        ([first, second, third, fourth, fifth].map answering |>.foldl stepUnder m).isFinished =
          true) ∧
      spin.JumpsBack := by
  intro stray p answering m spin
  have hp : p.JumpsForward := by decide +kernel
  have hm : Hosted p (some (answering (.int 1))) m := Reachable.hosted (.run 1 .load)
  have hspin : Hosted { instructions := [.jump .always 0] } none spin := .load
  have hsize : p.size - m.pc = 5 := by decide +kernel
  obtain ⟨-, hforward⟩ := only_backward_jumps_loop hm
  obtain ⟨hends, -, hhosts⟩ := hforward hp
  rw [hsize] at hends hhosts
  refine ⟨hp, by decide +kernel, hsize, hends, ?_, ?_⟩
  · intro first second third fourth fifth
    exact hhosts _ (by simp)
  · apply ((only_backward_jumps_loop hspin).1 (by decide +kernel)).resolve_left
    decide +kernel

end Machine

end ScriptMachine
