import ScriptMachine.Proofs.Writes

/-!
# The comparison register

The register that conditional jumps look at is written by comparisons only, and by one that fails not
either (`step_comparison`). So at any time of a run it holds what the last comparison that went well has
found, however long ago that was, and zero if there was none (`History.comparison_eq`). A jump goes by that
result, after it has made sure that its target is a place in the program.
-/

namespace ScriptMachine

/-- What the sign of the last comparison must be for a jump to be taken. -/
def Condition.Relates : Condition → Int → Prop
  | always, _ => True
  | equal, c => c = 0
  | notEqual, c => c ≠ 0
  | less, c => c < 0
  | lessOrEqual, c => c ≤ 0
  | greater, c => c > 0
  | greaterOrEqual, c => c ≥ 0

theorem Condition.holds_iff (condition : Condition) (c : Int) :
    condition.holds c = true ↔ condition.Relates c := by
  cases condition <;> simp [holds, Relates]

/-! ## Results of comparisons -/

theorem sign_mem (o : Ordering) : sign o ∈ [-1, 0, 1] := by
  cases o <;> decide

theorem Value.compare_mem {lhs rhs : Value} {c : Int} (h : lhs.compare rhs = .ok c) :
    c ∈ [-1, 0, 1] := by
  unfold compare at h
  split at h
  · cases h
  split at h
  · cases h
  split at h
  · cases h
    exact sign_mem _
  · cases h
    exact sign_mem _
  split at h
  · cases h
    exact sign_mem _
  split at h
  · split at h
    · cases h
      exact sign_mem _
    · -- what is not a number counts as greater
      cases h
      decide
  · cases h

namespace Machine

/-- What the next step of a machine finds, if it executes a comparison that goes well. -/
def compared? (m : Machine) : Option Int := do
  let i ← m.next?
  if i.opcode = .cmp then
    let first ← i.first
    let second ← i.second
    let lhs ← first.heldOn m.symbols m.stack.items
    let rhs ← second.heldOn m.symbols (m.stack.items.drop first.pops)
    (lhs.compare rhs).toOption
  else none

/-- The result of the last comparison that went well in some steps, or zero. -/
def lastComparison (past : List Machine) : Int := (past.filterMap compared?).getLast?.getD 0

variable {m : Machine} {i : Instruction}

theorem compared?_eq_some_iff (hi : m.next? = some i) {c : Int} :
    m.compared? = some c ↔
      i.opcode = .cmp ∧ ∃ first second lhs rhs, i.first = some first ∧ i.second = some second ∧
        m.Reads first second lhs rhs ∧ lhs.compare rhs = .ok c := by
  have htoOption : ∀ x : Except ScriptError Int, x.toOption = some c ↔ x = .ok c := by
    intro x
    cases x <;> simp [Except.toOption]
  unfold compared? Reads
  rw [hi]
  by_cases hop : i.opcode = .cmp
  · simp only [hop, if_true, Option.bind_eq_bind, Option.bind_some, Option.bind_eq_some_iff,
      htoOption, true_and]
    constructor
    · rintro ⟨first, hfirst, second, hsecond, lhs, hlhs, rhs, hrhs, hc⟩
      exact ⟨first, second, lhs, rhs, hfirst, hsecond, ⟨hlhs, hrhs⟩, hc⟩
    · rintro ⟨first, second, lhs, rhs, hfirst, hsecond, ⟨hlhs, hrhs⟩, hc⟩
      exact ⟨first, hfirst, second, hsecond, lhs, hlhs, rhs, hrhs, hc⟩
  · simp [hop]

end Machine

namespace Resolve

variable {m : Machine} {i : Instruction} {a : Action} {t : Scratch}

theorem compare_eq {first second : Location} {lhs rhs : Value} {c : Int}
    (hfirst : i.first = some first) (hsecond : i.second = some second)
    (hreads : m.Reads first second lhs rhs) (hc : lhs.compare rhs = .ok c) :
    compare m.symbols i ⟨m.stack, none⟩ =
      .ok (.compare c) ⟨⟨m.stack.items.drop (first.pops + second.pops)⟩, none⟩ := by
  unfold compare
  rw [bind_eq (operand_eq i .first hfirst), bind_eq (operand_eq i .second hsecond), reads_eq hreads,
    bind_eq (lift_eq hc)]
  rfl

theorem compare_ok (h : compare m.symbols i ⟨m.stack, none⟩ = .ok a t) :
    ∃ first second lhs rhs c, i.first = some first ∧ i.second = some second ∧
      m.Reads first second lhs rhs ∧ lhs.compare rhs = .ok c ∧ a = .compare c := by
  unfold compare at h
  obtain ⟨first, hfirst, h⟩ := operand_bind_ok h
  obtain ⟨second, hsecond, h⟩ := operand_bind_ok h
  obtain ⟨lhs, rhs, hreads, h⟩ := reads_ok h
  obtain ⟨c, hc, h⟩ := lift_bind_ok h
  cases h
  exact ⟨first, second, lhs, rhs, c, hfirst, hsecond, hreads, hc, rfl⟩

/-- A jump that goes well has a target in the program, whether it is taken or not. -/
theorem jump_ok {condition : Condition} (h : jump m condition i ⟨m.stack, none⟩ = .ok a t) :
    ∃ location value, ∃ d : Nat, i.target = some location ∧
      location.heldOn m.symbols m.stack.items = some value ∧ value.Counts d ∧ d ≤ m.code.size ∧
      a = (if condition.holds m.comparison then .jump d else .advance) ∧
      t = ⟨⟨m.stack.items.drop location.pops⟩, none⟩ := by
  unfold jump at h
  obtain ⟨location, hlocation, h⟩ := operand_bind_ok h
  obtain ⟨_, -, h⟩ := lift_bind_ok h
  obtain ⟨value, u, hread, h⟩ := bind_ok h
  obtain ⟨hvalue, rfl⟩ := read_ok hread
  obtain ⟨index, hindex, h⟩ := view_bind_ok h
  split at h
  next hrange =>
    cases h
    have hcounts : value.Counts (index.toInt.toNat : Int) :=
      Value.asInt?_iff_counts.1 ⟨index, hindex, by omega⟩
    exact ⟨location, value, index.toInt.toNat, hlocation, hvalue, hcounts, by omega, rfl, rfl⟩
  next => cases h

end Resolve

namespace Machine

variable {p : Program} {functions : Option Registry} {past : List Machine} {m : Machine}
  {i : Instruction}

/-! ## Who writes the register -/

theorem resolve_ne_compare (hop : i.opcode ≠ .cmp) :
    Resolve.Ensures (m.resolve i) fun a => ∀ c, a ≠ .compare c := by
  cases hopcode : i.opcode using Opcode.byKind with
  | arithmetic op family =>
    rw [resolve_arithmetic hopcode]
    exact Resolve.ensures_arithmetic (fun _ => nofun) fun _ _ => nofun
  | jump condition =>
    rw [resolve_jump hopcode]
    exact Resolve.ensures_jump nofun fun _ _ => nofun
  | cmp => exact absurd hopcode hop
  | call =>
    rw [resolve_call hopcode]
    exact Resolve.ensures_call nofun fun _ _ _ => Resolve.ensures_deliver nofun nofun fun _ => nofun
  | halt =>
    rw [resolve_halt hopcode]
    exact Resolve.ensures_pure nofun
  | skip opcode h =>
    rw [resolve_skip (hopcode ▸ h)]
    exact Resolve.ensures_pure nofun

theorem perform_comparison {a : Action} (h : ∀ c, a ≠ .compare c) (stack : OperandStack) :
    (m.perform stack a).comparison = m.comparison := by
  cases a with
  | compare c => exact absurd rfl (h c)
  | advance | jump | push | assign | halt => rfl

theorem compared?_of_ok (hi : m.next? = some i) (hop : i.opcode = .cmp) {a : Action} {s : Scratch}
    (hr : m.resolve i ⟨m.stack, none⟩ = .ok a s) : ∃ c, m.compared? = some c ∧ a = .compare c := by
  rw [resolve_cmp hop] at hr
  obtain ⟨first, second, lhs, rhs, c, hfirst, hsecond, hreads, hc, ha⟩ := Resolve.compare_ok hr
  have hcompared : m.compared? = some c :=
    (compared?_eq_some_iff hi).2 ⟨hop, first, second, lhs, rhs, hfirst, hsecond, hreads, hc⟩
  exact ⟨c, hcompared, ha⟩

theorem resolve_of_compared? (hi : m.next? = some i) {c : Int} (hc : m.compared? = some c) :
    ∃ s, m.resolve i ⟨m.stack, none⟩ = .ok (.compare c) s := by
  obtain ⟨hop, first, second, lhs, rhs, hfirst, hsecond, hreads, hcompare⟩ :=
    (compared?_eq_some_iff hi).1 hc
  rw [resolve_cmp hop]
  exact ⟨_, Resolve.compare_eq hfirst hsecond hreads hcompare⟩

/-- **Only a comparison that goes well writes the register.** -/
theorem step_comparison (m : Machine) : m.step.comparison = m.compared?.getD m.comparison := by
  rcases m.step_cases with ⟨hnone, hstep⟩ | ⟨i, a, s, hi, hr, hstep⟩ | ⟨i, e, s, hi, hr, hstep⟩
  · have hcompared : m.compared? = none := by simp [compared?, hnone]
    rw [hstep, hcompared]
    rfl
  · rw [hstep]
    by_cases hop : i.opcode = .cmp
    · obtain ⟨c, hcompared, rfl⟩ := compared?_of_ok hi hop hr
      rw [hcompared]
      rfl
    · have hcompared : m.compared? = none := by simp [compared?, hi, hop]
      rw [perform_comparison (resolve_ne_compare hop _ _ _ hr), hcompared]
      rfl
  · have hcompared : m.compared? = none := by
      cases hc : m.compared? with
      | none => rfl
      | some c =>
        obtain ⟨t, hok⟩ := resolve_of_compared? hi hc
        rw [hr] at hok
        cases hok
    rw [hstep, hcompared]
    rfl

/-! ## Runs -/

/-- A machine that a program reaches under a host that may answer differently at every step, and the
machines before each of its steps so far. -/
inductive History (p : Program) (functions : Option Registry) : List Machine → Machine → Prop
  | load : History p functions [] (load p functions)
  | step {past : List Machine} {m : Machine} :
      History p functions past m → History p functions (past ++ [m]) m.step
  | exchange {past : List Machine} {m : Machine} {before after : Registry} :
      History p functions past m → m.functions = some before →
      after.signatures = before.signatures →
      History p functions past { m with functions := some after }

namespace History

theorem hosted (h : History p functions past m) : Hosted p functions m := by
  induction h with
  | load => exact .load
  | step _ ih => exact .step ih
  | exchange _ hbefore hsignatures ih => exact .exchange ih hbefore hsignatures

/-- Every machine of a run has the history of the steps before it. -/
theorem of_append (h : History p functions past m) {earlier later : List Machine} {b : Machine}
    (hpast : past = earlier ++ b :: later) : History p functions earlier b := by
  induction h generalizing later with
  | load => simp at hpast
  | @step past m hm ih =>
    rcases later.eq_nil_or_concat with rfl | ⟨between, last, rfl⟩
    · -- the last step of the run
      obtain ⟨rfl, hlast⟩ := List.append_inj' hpast rfl
      cases hlast
      exact hm
    · rw [List.concat_eq_append, ← List.cons_append, ← List.append_assoc] at hpast
      exact ih (List.append_inj' hpast rfl).1
  | exchange _ _ _ ih => exact ih hpast

/-- **The register remembers the last comparison that went well.** -/
theorem comparison_eq (h : History p functions past m) : m.comparison = lastComparison past := by
  induction h with
  | load => rfl
  | @step past m _ ih =>
    rw [step_comparison, ih]
    unfold lastComparison
    rw [List.filterMap_append]
    cases hc : m.compared? with
    | none => simp [hc]
    | some c => simp [hc]
  | exchange _ _ _ ih => exact ih

end History

theorem lastComparison_mem (past : List Machine) : lastComparison past ∈ [-1, 0, 1] := by
  unfold lastComparison
  cases hlast : (past.filterMap compared?).getLast? with
  | none => decide
  | some c =>
    obtain ⟨b, -, hc⟩ := List.mem_filterMap.1 (List.mem_of_getLast? hlast)
    cases hi : b.next? with
    | none => simp [compared?, hi] at hc
    | some i =>
      obtain ⟨-, _, _, _, _, -, -, -, hcompare⟩ := (compared?_eq_some_iff hi).1 hc
      exact Value.compare_mem hcompare

/-! ## Jumps -/

theorem InControl.running_of_next? (h : InControl p m) (hi : m.next? = some i) :
    m.state = .running :=
  h.state_running_iff.2 (h.next? hi).2.1

/-- A jump that goes well moves the index and nothing else, apart from the target that it pops. -/
theorem step_of_jump (hm : InControl p m) (hi : m.next? = some i) {condition : Condition}
    (hop : i.opcode = .jump condition) (hwell : m.step.fault = none) :
    ∃ location value, ∃ d : Nat, i.target = some location ∧
      location.heldOn m.symbols m.stack.items = some value ∧ value.Counts d ∧ d ≤ p.size ∧
      (condition.Relates m.comparison → m.step.pc = d) ∧
      (¬ condition.Relates m.comparison → m.step.pc = m.pc + 1) ∧
      m.step.symbols = m.symbols ∧
      m.step.stack.items = m.stack.items.drop location.pops ∧
      m.step.comparison = m.comparison := by
  obtain ⟨a, s, hr⟩ := (step_fault_eq_none_iff (hm.running_of_next? hi) hi).1 hwell
  have hok := hr
  rw [resolve_jump hop] at hok
  obtain ⟨location, value, d, hlocation, hvalue, hcounts, hle, rfl, rfl⟩ := Resolve.jump_ok hok
  rw [hm.size_code] at hle
  rw [step_of_ok hi hr]
  refine ⟨location, value, d, hlocation, hvalue, hcounts, hle, ?_⟩
  by_cases hrelates : condition.Relates m.comparison
  · rw [if_pos ((condition.holds_iff _).2 hrelates)]
    exact ⟨fun _ => rfl, fun hnot => absurd hrelates hnot, rfl, rfl, rfl⟩
  · rw [if_neg fun hholds => hrelates ((condition.holds_iff _).1 hholds)]
    exact ⟨fun hyes => absurd hyes hrelates, fun _ => rfl, rfl, rfl, rfl⟩

/-- **The comparison register and conditional jumps.** At any time of any run, under every host, the
register is -1, 0 or 1, and it is what the last comparison that went well has found in its operands, or zero
if none has gone well; a comparison goes well exactly if it does not stop the script. Every jump of the run
that goes well had a place in the program as its target, or its end, taken or not; it went there if its
relation held of the last comparison before it, and on to the next instruction if not; it changed no
variable, nothing on the stack but the target that it popped, and not the register. -/
theorem register_of_history (h : History p functions past m) :
    m.comparison = lastComparison past ∧
    m.comparison ∈ [-1, 0, 1] ∧
    ∀ earlier b later, past = earlier ++ b :: later → ∀ i, b.next? = some i →
      (∀ c, b.compared? = some c ↔
        i.opcode = .cmp ∧ ∃ first second lhs rhs, i.first = some first ∧ i.second = some second ∧
          b.Reads first second lhs rhs ∧ lhs.compare rhs = .ok c) ∧
      (i.opcode = .cmp → (b.step.fault = none ↔ ∃ c, b.compared? = some c)) ∧
      (∀ condition, i.opcode = .jump condition → b.step.fault = none →
        ∃ location value, ∃ d : Nat, i.target = some location ∧
          location.heldOn b.symbols b.stack.items = some value ∧ value.Counts d ∧ d ≤ p.size ∧
          (condition.Relates (lastComparison earlier) → b.step.pc = d) ∧
          (¬ condition.Relates (lastComparison earlier) → b.step.pc = b.pc + 1) ∧
          b.step.symbols = b.symbols ∧
          b.step.stack.items = b.stack.items.drop location.pops ∧
          b.step.comparison = b.comparison) := by
  refine ⟨h.comparison_eq, ?_, ?_⟩
  · rw [h.comparison_eq]
    exact lastComparison_mem past
  · intro earlier b later hpast i hi
    have hb := h.of_append hpast
    have hcontrol := hb.hosted.inControl
    refine ⟨fun c => compared?_eq_some_iff hi, ?_, ?_⟩
    · intro hop
      rw [step_fault_eq_none_iff (hcontrol.running_of_next? hi) hi]
      constructor
      · rintro ⟨a, s, hok⟩
        obtain ⟨c, hc, -⟩ := compared?_of_ok hi hop hok
        exact ⟨c, hc⟩
      · rintro ⟨c, hc⟩
        obtain ⟨s, hok⟩ := resolve_of_compared? hi hc
        exact ⟨_, s, hok⟩
    · intro condition hop hwell
      rw [← hb.comparison_eq]
      exact step_of_jump hcontrol hi hop hwell

/-- A jump goes by a comparison that lies two steps back, and a later comparison that stops the script does
not touch what the register holds. -/
theorem register_of_history_of_mismatch :
    let p : Program := {
      symbols := .ofList [("n", .int 3)]
      instructions := [
        .compare (.named "n" .int) (.immediate (.int 5)),
        .binary (.arithmetic .mul .int) (.named "n" .int) (.named "n" .int) (.named "n" .int),
        .jump .less 4,
        { opcode := .halt },
        .compare (.named "n" .int) (.immediate (.str "five"))] }
    let m0 := load p
    let past := [m0, m0.step, m0.step.step, m0.step.step.step]
    let m := m0.step.step.step.step
    History p none past m ∧
      m.fault = some ⟨4, .cmp, .typeMismatch .int .string⟩ ∧
      m.comparison = -1 ∧ m0.step.step.step.pc = 4 := by
  intro p m0 past m
  have hhistory : History p none past m := .step (.step (.step (.step .load)))
  obtain ⟨hregister, -, hsteps⟩ := register_of_history hhistory
  have hlast : lastComparison past = -1 := by decide +kernel
  have hnext : m0.step.step.next? = some (.jump .less 4) := by decide +kernel
  obtain ⟨-, -, hjump⟩ := hsteps [m0, m0.step] m0.step.step [m0.step.step.step] rfl _ hnext
  obtain ⟨location, value, d, hlocation, hvalue, hcounts, -, htaken, -⟩ :=
    hjump .less rfl (by decide +kernel)
  cases hlocation
  cases hvalue
  have hd : d = 4 := by
    rcases hcounts with ⟨i, hi, hd⟩ | ⟨unit, hunit, -⟩
    · cases hi
      exact Int.ofNat.inj hd.symm
    · cases hunit
  refine ⟨hhistory, by decide +kernel, by rw [hregister, hlast], ?_⟩
  rw [← hd]
  have hless : lastComparison [m0, m0.step] = -1 := by decide +kernel
  apply htaken
  rw [hless]
  show (-1 : Int) < 0
  decide

end Machine

end ScriptMachine
