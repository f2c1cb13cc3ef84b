import ScriptMachine.Proofs.Operands
import ScriptMachine.Proofs.Verdict

/-!
# Declared types only guard

The types that operands are declared as decide whether an instruction goes on, never what it does: a
value is read, computed with and written by its own type. So of two programs that differ in declared
types only, each can stop where the other goes on, but as long as neither has stopped they are in the same
state (`Concur`). Most declared types are not even checked: comparisons, calls and the targets of
computations work without them, and there nothing at all depends on the declaration
(`resolve_checkedOnly`).
-/

namespace ScriptMachine

/-! ## Programs without declared types -/

/-- A location without the type that it is declared as. A value in the instruction keeps its own. -/
def Location.untyped : Location → Location
  | immediate value => immediate value
  | stack _ => stack .void
  | named name _ => named name .void

namespace Instruction

def untyped (i : Instruction) : Instruction :=
  { i with
    first := i.first.map Location.untyped
    second := i.second.map Location.untyped
    target := i.target.map Location.untyped }

/-- An instruction without the declared types that are not checked when it is executed: those of a
comparison, of a call, and of the target of a computation. -/
def checkedOnly (i : Instruction) : Instruction :=
  match i.opcode with
  | .cmp | .call => i.untyped
  | .addChar | .addInt | .addDouble | .subChar | .subInt | .subDouble | .mulChar | .mulInt | .mulDouble
  | .divChar | .divInt | .divDouble | .modChar | .modInt | .modDouble =>
    { i with target := i.target.map Location.untyped }
  | _ => i

variable {i : Instruction}

@[simp] theorem operand_untyped (i : Instruction) (slot : Slot) :
    i.untyped.operand slot = (i.operand slot).map Location.untyped := by
  cases slot <;> rfl

theorem opcode_checkedOnly (i : Instruction) : i.checkedOnly.opcode = i.opcode := by
  unfold checkedOnly
  split <;> rfl

theorem checkedOnly_arithmetic {op : Operator} {family : Family}
    (hop : i.opcode = .arithmetic op family) :
    i.checkedOnly = { i with target := i.target.map Location.untyped } := by
  unfold checkedOnly
  rw [hop]
  cases op <;> cases family <;> rfl

theorem checkedOnly_jump {condition : Condition} (hop : i.opcode = .jump condition) :
    i.checkedOnly = i := by
  unfold checkedOnly
  rw [hop]
  cases condition <;> rfl

theorem checkedOnly_eq_untyped (h : i.opcode = .cmp ∨ i.opcode = .call) :
    i.checkedOnly = i.untyped := by
  rcases h with hop | hop <;> simp only [checkedOnly, hop]

end Instruction

/-! ## Resolving without declared types -/

namespace Resolve

variable {i j : Instruction}

theorem operand_untyped (i : Instruction) (slot : Slot) :
    operand i.untyped slot = Location.untyped <$> operand i slot := by
  unfold operand
  rw [Instruction.operand_untyped]
  cases i.operand slot <;> rfl

@[simp] theorem read_untyped (symbols : SymbolTable) (l : Location) :
    read symbols l.untyped = read symbols l := by
  cases l <;> rfl

@[simp] theorem write_untyped (symbols : SymbolTable) (value : Value) (l : Location) :
    write symbols value l.untyped = write symbols value l := by
  cases l <;> rfl

theorem read_eq_of_untyped_eq {l k : Location} (h : l.untyped = k.untyped) (symbols : SymbolTable) :
    read symbols l = read symbols k := by
  rw [← read_untyped, h, read_untyped]

theorem write_eq_of_untyped_eq {l k : Location} (h : l.untyped = k.untyped) (symbols : SymbolTable)
    (value : Value) : write symbols value l = write symbols value k := by
  rw [← write_untyped, h, write_untyped]

theorem compare_untyped (symbols : SymbolTable) (i : Instruction) :
    compare symbols i.untyped = compare symbols i := by
  simp only [compare, operand_untyped, bind_map_left, read_untyped]

theorem deliver_untyped (symbols : SymbolTable) (result : Value) (target : Option Location) :
    deliver symbols result (target.map Location.untyped) = deliver symbols result target := by
  cases target with
  | none => rfl
  | some l => cases result <;> simp [deliver]

theorem call_untyped (m : Machine) (i : Instruction) : call m i.untyped = call m i := by
  have htarget : i.untyped.target = i.target.map Location.untyped := rfl
  simp only [call, operand_untyped, bind_map_left, read_untyped, htarget, deliver_untyped]

theorem arithmetic_untyped_target (symbols : SymbolTable) (op : Operator) (family : Family)
    (i : Instruction) :
    arithmetic symbols op family { i with target := i.target.map Location.untyped } =
      arithmetic symbols op family i := by
  have hfirst : operand { i with target := i.target.map Location.untyped } .first =
      operand i .first := rfl
  have hsecond : operand { i with target := i.target.map Location.untyped } .second =
      operand i .second := rfl
  have htarget : operand { i with target := i.target.map Location.untyped } .target =
      Location.untyped <$> operand i .target :=
    operand_untyped i .target
  simp only [arithmetic, hfirst, hsecond, htarget, bind_map_left, write_untyped]

/-! ## Success on both sides -/

variable {α β γ δ : Type}

/-- Where both succeed, their results are related and nothing else tells them apart. -/
def Concur (R : α → β → Prop) (x : Resolve α) (y : Resolve β) : Prop :=
  ∀ s a t b u, x s = .ok a t → y s = .ok b u → R a b ∧ t = u

theorem Concur.bind {R : α → β → Prop} {S : γ → δ → Prop} {x : Resolve α} {y : Resolve β}
    {f : α → Resolve γ} {g : β → Resolve δ} (hx : Concur R x y)
    (hf : ∀ a b, R a b → Concur S (f a) (g b)) : Concur S (x >>= f) (y >>= g) := by
  intro s c t d u hc hd
  obtain ⟨a, v, ha, hc⟩ := bind_ok hc
  obtain ⟨b, w, hb, hd⟩ := bind_ok hd
  obtain ⟨hab, rfl⟩ := hx s a v b w ha hb
  exact hf a b hab v c t d u hc hd

theorem concur_refl (x : Resolve α) : Concur Eq x x := by
  intro s a t b u ha hb
  rw [ha] at hb
  cases hb
  exact ⟨rfl, rfl⟩

/-- The same part on both sides. -/
theorem concur_bind_self (x : Resolve α) {S : γ → δ → Prop} {f : α → Resolve γ}
    {g : α → Resolve δ} (hf : ∀ a, Concur S (f a) (g a)) : Concur S (x >>= f) (x >>= g) :=
  (concur_refl x).bind fun a _ hab => hab ▸ hf a

/-- A check tells nothing but that it was passed. -/
theorem concur_check (x y : Except ScriptError Unit) : Concur Eq (lift x) (lift y) := by
  intro s a t b u ha hb
  obtain ⟨-, rfl⟩ := lift_ok ha
  obtain ⟨-, rfl⟩ := lift_ok hb
  exact ⟨rfl, rfl⟩

theorem concur_operand (h : i.untyped = j.untyped) (slot : Slot) :
    Concur (fun l k => l.untyped = k.untyped) (operand i slot) (operand j slot) := by
  intro s l t k u hleft hright
  obtain ⟨hl, rfl⟩ := operand_ok hleft
  obtain ⟨hk, rfl⟩ := operand_ok hright
  have hslot : i.untyped.operand slot = j.untyped.operand slot := by rw [h]
  rw [Instruction.operand_untyped, Instruction.operand_untyped, hl, hk] at hslot
  exact ⟨Option.some.inj hslot, rfl⟩

theorem arithmetic_concur (h : i.untyped = j.untyped) (symbols : SymbolTable) (op : Operator)
    (family : Family) :
    Concur Eq (arithmetic symbols op family i) (arithmetic symbols op family j) := by
  unfold arithmetic
  refine (concur_operand h .first).bind fun first first' hfirst => ?_
  refine (concur_operand h .second).bind fun second second' hsecond => ?_
  refine (concur_operand h .target).bind fun target target' htarget => ?_
  rw [read_eq_of_untyped_eq hfirst, read_eq_of_untyped_eq hsecond]
  refine concur_bind_self _ fun lhs => concur_bind_self _ fun rhs => ?_
  refine (concur_check _ _).bind fun _ _ _ => (concur_check _ _).bind fun _ _ _ => ?_
  refine concur_bind_self _ fun result => ?_
  rw [write_eq_of_untyped_eq htarget]
  exact concur_refl _

theorem jump_concur (h : i.untyped = j.untyped) (m : Machine) (condition : Condition) :
    Concur Eq (jump m condition i) (jump m condition j) := by
  unfold jump
  refine (concur_operand h .target).bind fun target target' htarget => ?_
  refine (concur_check _ _).bind fun _ _ _ => ?_
  rw [read_eq_of_untyped_eq htarget]
  exact concur_refl _

end Resolve

namespace Machine

/-- **Unchecked types do not matter** to anything that an instruction does. -/
theorem resolve_checkedOnly (m : Machine) (i : Instruction) :
    m.resolve i.checkedOnly = m.resolve i := by
  have hsame := i.opcode_checkedOnly
  cases hop : i.opcode using Opcode.byKind with
  | arithmetic op family =>
    rw [resolve_arithmetic hop, resolve_arithmetic (hsame.trans hop),
      Instruction.checkedOnly_arithmetic hop]
    exact Resolve.arithmetic_untyped_target m.symbols op family i
  | jump condition => rw [Instruction.checkedOnly_jump hop]
  | cmp =>
    rw [resolve_cmp hop, resolve_cmp (hsame.trans hop), Instruction.checkedOnly_eq_untyped (.inl hop)]
    exact Resolve.compare_untyped m.symbols i
  | call =>
    rw [resolve_call hop, resolve_call (hsame.trans hop), Instruction.checkedOnly_eq_untyped (.inr hop)]
    exact Resolve.call_untyped m i
  | halt => rw [resolve_halt hop, resolve_halt (hsame.trans hop)]
  | skip opcode h =>
    subst hop
    rw [resolve_skip h, resolve_skip (hsame ▸ h)]

/-- **Checked types only stop.** Instructions that differ in declared types do the same if both go
on. -/
theorem resolve_concur {i j : Instruction} (h : i.untyped = j.untyped) (m : Machine) :
    Resolve.Concur Eq (m.resolve i) (m.resolve j) := by
  have hsame : j.opcode = i.opcode := (Instruction.mk.inj h).1.symm
  cases hop : i.opcode using Opcode.byKind with
  | arithmetic op family =>
    rw [resolve_arithmetic hop, resolve_arithmetic (hsame.trans hop)]
    exact Resolve.arithmetic_concur h m.symbols op family
  | jump condition =>
    rw [resolve_jump hop, resolve_jump (hsame.trans hop)]
    exact Resolve.jump_concur h m condition
  | cmp =>
    rw [resolve_cmp hop, resolve_cmp (hsame.trans hop), ← Resolve.compare_untyped m.symbols i, h,
      Resolve.compare_untyped]
    exact Resolve.concur_refl _
  | call =>
    rw [resolve_call hop, resolve_call (hsame.trans hop), ← Resolve.call_untyped m i, h,
      Resolve.call_untyped]
    exact Resolve.concur_refl _
  | halt =>
    rw [resolve_halt hop, resolve_halt (hsame.trans hop)]
    exact Resolve.concur_refl _
  | skip opcode hskip =>
    subst hop
    rw [resolve_skip hskip, resolve_skip (hsame ▸ hskip)]
    exact Resolve.concur_refl _

/-! ## Two runs side by side -/

/-- The same state in the middle of another program. -/
def inside (m : Machine) (q : Program) : Machine := { m with code := q.instructions.toArray }

variable {p q : Program} {m : Machine}

/-- A program of the same length ends at the same place. -/
theorem size_code_inside (hm : InControl p m) (hsize : p.size = q.size) :
    (m.inside q).code.size = m.code.size := by
  rw [hm.size_code, hsize]
  rfl

theorem resolve_inside (hm : InControl p m) (hsize : p.size = q.size) (i : Instruction) :
    (m.inside q).resolve i = m.resolve i := by
  unfold resolve Resolve.jump
  rw [size_code_inside hm hsize]
  rfl

theorem perform_inside (hm : InControl p m) (hsize : p.size = q.size) (stack : OperandStack)
    (a : Action) : (m.inside q).perform stack a = (m.perform stack a).inside q := by
  cases a with
  | halt =>
    simp only [perform, size_code_inside hm hsize]
    rfl
  | advance | jump | compare | push | assign => rfl

theorem stop_inside (hm : InControl p m) (hsize : p.size = q.size) (stack : OperandStack)
    {i j : Instruction} (hop : i.opcode = j.opcode) (e : ScriptError) :
    (m.inside q).stop stack j e = (m.stop stack i e).inside q := by
  simp only [stop, size_code_inside hm hsize, hop]
  rfl

/-- Where a program has an instruction, one with the same code up to types has one of the same form. -/
theorem getElem?_of_map_eq {form : Instruction → Instruction}
    (hcode : p.instructions.map form = q.instructions.map form) {k : Nat} {i : Instruction}
    (hi : p.instructions[k]? = some i) : ∃ j, q.instructions[k]? = some j ∧ form i = form j := by
  have hmap : (q.instructions.map form)[k]? = some (form i) := by
    rw [← hcode, List.getElem?_map, hi]
    rfl
  rw [List.getElem?_map] at hmap
  obtain ⟨j, hj, hform⟩ := Option.map_eq_some_iff.1 hmap
  exact ⟨j, hj, hform.symm⟩

theorem size_eq_of_map_eq {form : Instruction → Instruction}
    (hcode : p.instructions.map form = q.instructions.map form) : p.size = q.size := by
  have hlength := congrArg List.length hcode
  rwa [List.length_map, List.length_map] at hlength

/-- A finished machine is finished in the middle of a program of the same length, too. -/
theorem step_inside_of_next?_eq_none (hm : InControl p m) (hsize : p.size = q.size)
    (hnone : m.next? = none) : (m.inside q).step = m.step.inside q := by
  have hfinished : (m.inside q).isFinished = true := by
    have hsame : (m.inside q).isFinished = m.isFinished := by
      unfold isFinished
      rw [size_code_inside hm hsize]
      rfl
    rw [hsame, ← next?_eq_none_iff, hnone]
  rw [step_of_isFinished hfinished, step_of_next?_eq_none hnone]

/-- The instruction that comes next inside another program of the same form. -/
theorem next?_inside (hm : InControl p m) {form : Instruction → Instruction}
    (hcode : p.instructions.map form = q.instructions.map form) {i : Instruction}
    (hi : m.next? = some i) : ∃ j, (m.inside q).next? = some j ∧ form i = form j := by
  obtain ⟨hhalted, -, hget⟩ := hm.next? hi
  obtain ⟨j, hj, hform⟩ := getElem?_of_map_eq hcode hget
  refine ⟨j, ?_, hform⟩
  simp only [next?, inside, hhalted, List.getElem?_toArray, hj]
  rfl

/-- One step, where the types that differ are not checked. -/
theorem step_inside_of_checkedOnly (hm : InControl p m)
    (hcode : p.instructions.map Instruction.checkedOnly =
      q.instructions.map Instruction.checkedOnly) :
    (m.inside q).step = m.step.inside q := by
  have hsize := size_eq_of_map_eq hcode
  cases hi : m.next? with
  | none => exact step_inside_of_next?_eq_none hm hsize hi
  | some i =>
    obtain ⟨j, hj, hform⟩ := next?_inside hm hcode hi
    have hop : i.opcode = j.opcode := by
      rw [← i.opcode_checkedOnly, hform, j.opcode_checkedOnly]
    have hresolve : (m.inside q).resolve j = m.resolve i := by
      rw [resolve_inside hm hsize, ← resolve_checkedOnly, ← hform, resolve_checkedOnly]
    cases hr : m.resolve i ⟨m.stack, none⟩ with
    | ok a s =>
      rw [step_of_ok hi hr, step_of_ok hj (by rw [hresolve]; exact hr)]
      exact perform_inside hm hsize s.stack a
    | error e s =>
      rw [step_of_error hi hr, step_of_error hj (by rw [hresolve]; exact hr)]
      exact stop_inside hm hsize s.stack hop e

/-- One step that neither program stops at. -/
theorem step_inside_of_untyped (hm : InControl p m)
    (hcode : p.instructions.map Instruction.untyped = q.instructions.map Instruction.untyped)
    (hleft : m.step.fault = none) (hright : (m.inside q).step.fault = none) :
    (m.inside q).step = m.step.inside q := by
  have hsize := size_eq_of_map_eq hcode
  cases hi : m.next? with
  | none => exact step_inside_of_next?_eq_none hm hsize hi
  | some i =>
    obtain ⟨j, hj, hform⟩ := next?_inside hm hcode hi
    have hresolve := resolve_inside hm hsize j
    cases hri : m.resolve i ⟨m.stack, none⟩ with
    | error e s =>
      rw [step_of_error hi hri] at hleft
      cases hleft
    | ok a s =>
      cases hrj : m.resolve j ⟨m.stack, none⟩ with
      | error e t =>
        rw [step_of_error hj (by rw [hresolve]; exact hrj)] at hright
        cases hright
      | ok b t =>
        obtain ⟨rfl, rfl⟩ := resolve_concur hform m _ _ _ _ _ hri hrj
        rw [step_of_ok hi hri, step_of_ok hj (by rw [hresolve]; exact hrj)]
        exact perform_inside hm hsize s.stack a

/-- A fault is for good: a machine without one never had one. -/
theorem InControl.no_fault_of_step (hm : InControl p m) (h : m.step.fault = none) :
    m.fault = none := by
  cases hi : m.next? with
  | none => rwa [step_of_next?_eq_none hi] at h
  | some i => exact hm.no_fault_of_next? hi

theorem iterate_inside_of_checkedOnly (hm : InControl p m)
    (hcode : p.instructions.map Instruction.checkedOnly =
      q.instructions.map Instruction.checkedOnly) (n : Nat) :
    step^[n] (m.inside q) = (step^[n] m).inside q := by
  induction n with
  | zero => rfl
  | succ n ih =>
    rw [Function.iterate_succ_apply', Function.iterate_succ_apply', ih,
      step_inside_of_checkedOnly (hm.iterate n) hcode]

theorem iterate_inside_of_untyped (hm : InControl p m) (hm' : InControl q (m.inside q))
    (hcode : p.instructions.map Instruction.untyped = q.instructions.map Instruction.untyped)
    {n : Nat} (hleft : (step^[n] m).fault = none) (hright : (step^[n] (m.inside q)).fault = none) :
    step^[n] (m.inside q) = (step^[n] m).inside q := by
  induction n with
  | zero => rfl
  | succ n ih =>
    rw [Function.iterate_succ_apply'] at hleft hright
    -- neither program had stopped before, so the states before the step are the same
    have hbefore := ih ((hm.iterate n).no_fault_of_step hleft) ((hm'.iterate n).no_fault_of_step hright)
    rw [hbefore] at hright
    rw [Function.iterate_succ_apply', Function.iterate_succ_apply', hbefore,
      step_inside_of_untyped (hm.iterate n) hcode hleft hright]

/-- **Declared types are guards and nothing else.** Take two programs that have the same variables and
differ in the declared types of their operands only, under the same host functions. While neither has
stopped with a fault, they are in the same state. If moreover they differ only in types that are not
checked, they are in the same state at all times and stop with the same fault. -/
theorem declared_types_guard {p q : Program} (hsymbols : p.symbols = q.symbols)
    (hcode : p.instructions.map Instruction.untyped = q.instructions.map Instruction.untyped)
    (functions : Option Registry) (n : Nat) :
    let left := (load p functions).run n
    let right := (load q functions).run n
    (left.fault = none → right.fault = none →
      left.pc = right.pc ∧ left.stack = right.stack ∧ left.symbols = right.symbols ∧
        left.comparison = right.comparison ∧ left.halted = right.halted ∧
        left.steps = right.steps) ∧
    (p.instructions.map Instruction.checkedOnly = q.instructions.map Instruction.checkedOnly →
      left.pc = right.pc ∧ left.stack = right.stack ∧ left.symbols = right.symbols ∧
        left.comparison = right.comparison ∧ left.halted = right.halted ∧
        left.steps = right.steps ∧ left.fault = right.fault) := by
  intro left right
  have hload : load q functions = (load p functions).inside q := by
    simp only [load, inside, hsymbols]
  have hleft : left = step^[n] (load p functions) := run_eq_iterate n _
  have hright : right = step^[n] ((load p functions).inside q) := by
    rw [← hload]
    exact run_eq_iterate n _
  have hp := load_inControl p functions
  have hq : InControl q ((load p functions).inside q) := hload ▸ load_inControl q functions
  constructor
  · intro hl hr
    rw [hleft] at hl
    rw [hright] at hr
    rw [hleft, hright, iterate_inside_of_untyped hp hq hcode hl hr]
    exact ⟨rfl, rfl, rfl, rfl, rfl, rfl⟩
  · intro hchecked
    rw [hleft, hright, iterate_inside_of_checkedOnly hp hchecked n]
    exact ⟨rfl, rfl, rfl, rfl, rfl, rfl, rfl⟩

/-- A CHAR variable that is declared as CHAR or as INT adds up to the same number, whatever the result is
declared as; declared as BOOLEAN it stops the script. The division by zero that follows does not depend
on declarations. -/
theorem declared_types_guard_of_widening :
    let program (width result : ValueType) : Program := {
      symbols := .ofList [("c", .char 65), ("n", .int 4)]
      instructions := [
        .binary (.arithmetic .add .int) (.named "c" width) (.named "n" .int) (.stack result),
        .compare (.stack result) (.immediate (.int 70)),
        .binary (.arithmetic .div .int) (.named "n" .int) (.immediate (.int 0)) (.stack result)] }
    let after (p : Program) (n : Nat) : Machine := (load p).run n
    (after (program .boolean .int) 1).fault = some ⟨0, .arithmetic .add .int,
      .typeMismatch .int .boolean⟩ ∧
    (after (program .char .int) 2).comparison = -1 ∧
    (after (program .char .int) 2).comparison = (after (program .int .double) 2).comparison ∧
    (after (program .char .int) 3).fault = some ⟨2, .arithmetic .div .int, .divisionByZero⟩ ∧
    (after (program .char .int) 3).fault = (after (program .char .void) 3).fault := by
  intro program after
  have hwidth := declared_types_guard (p := program .char .int) (q := program .int .double) rfl
    (by decide +kernel) none 2
  have hresult := declared_types_guard (p := program .char .int) (q := program .char .void) rfl
    (by decide +kernel) none 3
  refine ⟨by decide +kernel, by decide +kernel, ?_, by decide +kernel, ?_⟩
  · exact (hwidth.1 (by decide +kernel) (by decide +kernel)).2.2.2.1
  · exact (hresult.2 (by decide +kernel)).2.2.2.2.2.2

end Machine

end ScriptMachine
