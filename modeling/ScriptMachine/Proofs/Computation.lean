import ScriptMachine.Proofs.Noninterference

/-!
# Computing instructions

A computing instruction reads its two operands in order, checks the types that they are declared as,
computes by the values that it has read, and writes to its target. Each part succeeds under a condition
that can be read off the machine before the step: the family takes both values and does not divide by zero
(`Family.apply_ok_iff`), and the target is the stack or a variable of the family's class
(`Resolve.write_ok_iff`). Together they say when the step succeeds, and then what it has changed
(`step_computes`).
-/

namespace ScriptMachine

/-! ## Writing a result -/

namespace Location

/-- The action that writes a value to a location, unless the location is a constant. -/
def writing? (value : Value) : Location → Option Action
  | immediate _ => none
  | stack _ => some (.push value)
  | named name _ => some (.assign name value)

/-- What writing a value to a location leaves on top of the stack. -/
def pushed (value : Value) : Location → List Value
  | stack _ => [value]
  | immediate _ | named .. => []

end Location

theorem SymbolTable.classOf_of_admits {t : SymbolTable} {name : String} {value : Value}
    (h : t.admits name value = .ok ()) : t.classOf name = some value.type := by
  unfold admits at h
  split at h
  next => cases h
  next current hcurrent =>
    split at h
    next htype => simp [classOf, hcurrent, htype]
    next => cases h

/-- A value can be written to the stack, and to a variable of its class. -/
theorem Resolve.write_ok_iff {symbols : SymbolTable} {value : Value} {location : Location}
    {s t : Scratch} {a : Action} :
    write symbols value location s = .ok a t ↔
      location.Receives symbols.classOf value.type ∧ location.writing? value = some a ∧ t = s := by
  constructor
  · intro h
    cases location with
    | immediate _ => cases h
    | stack _ =>
      cases h
      exact ⟨trivial, rfl, rfl⟩
    | named name _ =>
      obtain ⟨_, hadmits, hrest⟩ := lift_bind_ok h
      cases hrest
      exact ⟨SymbolTable.classOf_of_admits hadmits, rfl, rfl⟩
  · rintro ⟨hreceives, ha, rfl⟩
    cases location with
    | immediate _ => cases ha
    | stack _ =>
      cases ha
      rfl
    | named name _ =>
      cases ha
      exact bind_eq (lift_eq (SymbolTable.admits_of_classOf hreceives))

/-- What is left after a value was written: it lies on the stack or in the variable that the location
names, and everything else is as before. -/
theorem Machine.perform_writing {m : Machine} {location : Location} {value : Value} {a : Action}
    (h : location.writing? value = some a) (stack : OperandStack) :
    (m.perform stack a).stack.items = location.pushed value ++ stack.items ∧
    (∀ name, (m.perform stack a).symbols.get? name =
      if location.name? = some name then some value else m.symbols.get? name) ∧
    (m.perform stack a).comparison = m.comparison ∧
    (m.perform stack a).pc = m.pc + 1 ∧
    (m.perform stack a).steps = m.steps + 1 := by
  cases location with
  | immediate _ => cases h
  | stack _ =>
    cases h
    exact ⟨rfl, fun name => by simp [perform, Location.name?], rfl, rfl, rfl⟩
  | named written _ =>
    cases h
    refine ⟨rfl, fun name => ?_, rfl, rfl, rfl⟩
    simp [perform, Location.name?, SortedMap.get?_insert]

/-! ## Computing -/

namespace Value

variable {v : Value}

theorem mem_accepts_of_asChar? {a : UInt16} (h : v.asChar? = some a) :
    v.type ∈ ValueType.char.accepts := by
  cases v <;> simp_all [asChar?, type, ValueType.accepts]

theorem mem_accepts_of_asInt? {a : Int32} (h : v.asInt? = some a) :
    v.type ∈ ValueType.int.accepts := by
  cases v <;> simp_all [asInt?, type, ValueType.accepts]

theorem mem_accepts_of_asDouble? {a : Float} (h : v.asDouble? = some a) :
    v.type ∈ ValueType.double.accepts := by
  cases v <;> simp_all [asDouble?, type, ValueType.accepts]

end Value

/-- The second operand makes a division of integers or characters a division by zero. -/
def Opcode.DividesBy (opcode : Opcode) (rhs : Value) : Prop :=
  opcode ∈ divisions ∧ (rhs = .int 0 ∨ rhs = .char 0)

namespace Operator

variable {op : Operator}

theorem onChar_zero (h : op = .div ∨ op = .mod) (a : UInt16) : op.onChar a 0 = none := by
  rcases h with rfl | rfl <;> simp [onChar, nonzero]

theorem onInt_zero (h : op = .div ∨ op = .mod) (a : Int32) : op.onInt a 0 = none := by
  rcases h with rfl | rfl <;> simp [onInt, nonzero]

end Operator

namespace Family

variable {family : Family} {op : Operator} {lhs rhs : Value}

theorem view_ok {α : Type} {as? : Value → Option α} {v : Value} {a : α}
    (h : family.view as? v = .ok a) : as? v = some a := by
  unfold view at h
  split at h
  next b hb =>
    cases h
    exact hb
  next => cases h

theorem quotient_ok {α : Type} {o : Option α} {a : α} (h : quotient o = .ok a) : o = some a := by
  cases o with
  | none => cases h
  | some b =>
    cases h
    rfl

/-- What has been computed on words had two words to compute with. -/
theorem words_of_ok {α : Type} (as? : Value → Option α) (f : α → α → Option α) (wrap : α → Value)
    {result : Value}
    (h : (do
      let a ← family.view as? lhs
      let b ← family.view as? rhs
      wrap <$> quotient (f a b)) = .ok result) :
    ∃ a b c, as? lhs = some a ∧ as? rhs = some b ∧ f a b = some c := by
  obtain ⟨a, ha, h⟩ := bind_eq_ok h
  obtain ⟨b, hb, h⟩ := bind_eq_ok h
  obtain ⟨c, hc, -⟩ := map_eq_ok h
  exact ⟨a, b, c, view_ok ha, view_ok hb, quotient_ok hc⟩

/-- A result has been computed from operands that fit, and not by a division by zero. -/
theorem fits_of_apply {result : Value} (h : family.apply op lhs rhs = .ok result) :
    lhs.type ∈ family.required.accepts ∧ rhs.type ∈ family.required.accepts ∧
      ¬ (Opcode.arithmetic op family).DividesBy rhs := by
  cases family with
  | char =>
    obtain ⟨a, b, c, ha, hb, hc⟩ := words_of_ok Value.asChar? op.onChar .char h
    refine ⟨Value.mem_accepts_of_asChar? ha, Value.mem_accepts_of_asChar? hb, ?_⟩
    rintro ⟨hdivides, hzero⟩
    have hop : op = .div ∨ op = .mod := by simpa [Opcode.divisions] using hdivides
    have hb0 : b = 0 := by
      rcases hzero with rfl | rfl
      · cases hb
      · cases hb
        rfl
    rw [hb0, Operator.onChar_zero hop] at hc
    cases hc
  | int =>
    obtain ⟨a, b, c, ha, hb, hc⟩ := words_of_ok Value.asInt? op.onInt .int h
    refine ⟨Value.mem_accepts_of_asInt? ha, Value.mem_accepts_of_asInt? hb, ?_⟩
    rintro ⟨hdivides, hzero⟩
    have hop : op = .div ∨ op = .mod := by simpa [Opcode.divisions] using hdivides
    -- a character that is zero counts as the integer zero
    have hb0 : b = 0 := by
      rcases hzero with rfl | rfl
      · cases hb
        rfl
      · cases hb
        rfl
    rw [hb0, Operator.onInt_zero hop] at hc
    cases hc
  | double =>
    obtain ⟨a, ha, h⟩ := bind_eq_ok h
    obtain ⟨b, hb, h⟩ := bind_eq_ok h
    refine ⟨Value.mem_accepts_of_asDouble? (view_ok ha),
      Value.mem_accepts_of_asDouble? (view_ok hb), ?_⟩
    rintro ⟨hdivides, -⟩
    simp [Opcode.divisions] at hdivides

/-- **When a family gives a result:** both operands have a type that it takes, and it does not divide
integers or characters by zero. -/
theorem apply_ok_iff :
    (∃ result, family.apply op lhs rhs = .ok result) ↔
      lhs.type ∈ family.required.accepts ∧ rhs.type ∈ family.required.accepts ∧
        ¬ (Opcode.arithmetic op family).DividesBy rhs := by
  constructor
  · rintro ⟨result, hresult⟩
    exact fits_of_apply hresult
  · rintro ⟨hlhs, hrhs, hdivides⟩
    rcases family.apply_cases op hlhs hrhs with ⟨v, hv, -⟩ | ⟨-, hop, hzero⟩
    · exact ⟨v, hv⟩
    · exact absurd ⟨hop, hzero⟩ hdivides

end Family

/-! ## The instruction -/

/-- An instruction whose operands and target fit an operator of a family: it has all of them, the operands
can be read in order and fit by their declared types and by their values, no division is by zero, and there
is a place for the result. -/
structure Machine.Computes (m : Machine) (i : Instruction) (op : Operator) (family : Family)
    (first second target : Location) (lhs rhs : Value) : Prop where
  first_eq : i.first = some first
  second_eq : i.second = some second
  target_eq : i.target = some target
  reads : m.Reads first second lhs rhs
  first_check : family.required.check first.declaredType = .ok ()
  second_check : family.required.check second.declaredType = .ok ()
  lhs_fits : lhs.type ∈ family.required.accepts
  rhs_fits : rhs.type ∈ family.required.accepts
  divisor : ¬ (Opcode.arithmetic op family).DividesBy rhs
  receives : target.Receives m.symbols.classOf family.required

namespace Resolve

variable {m : Machine} {i : Instruction} {op : Operator} {family : Family}

theorem arithmetic_eq {first second target : Location} {lhs rhs : Value}
    (h : m.Computes i op family first second target lhs rhs) :
    ∃ result a, family.apply op lhs rhs = .ok result ∧ target.writing? result = some a ∧
      arithmetic m.symbols op family i ⟨m.stack, none⟩ =
        .ok a ⟨⟨m.stack.items.drop (first.pops + second.pops)⟩, none⟩ := by
  obtain ⟨result, hresult⟩ := Family.apply_ok_iff.2 ⟨h.lhs_fits, h.rhs_fits, h.divisor⟩
  have hreceives : target.Receives m.symbols.classOf result.type := by
    rw [Family.type_of_apply hresult]
    exact h.receives
  obtain ⟨a, ha⟩ := write_eq (s := ⟨⟨m.stack.items.drop (first.pops + second.pops)⟩, none⟩) hreceives
  refine ⟨result, a, hresult, (write_ok_iff.1 ha).2.1, ?_⟩
  unfold arithmetic
  rw [bind_eq (operand_eq i .first h.first_eq), bind_eq (operand_eq i .second h.second_eq),
    bind_eq (operand_eq i .target h.target_eq), reads_eq h.reads, bind_eq (lift_eq h.first_check),
    bind_eq (lift_eq h.second_check), bind_eq (lift_eq hresult)]
  exact ha

theorem arithmetic_ok {a : Action} {t : Scratch}
    (h : arithmetic m.symbols op family i ⟨m.stack, none⟩ = .ok a t) :
    ∃ first second target lhs rhs, m.Computes i op family first second target lhs rhs := by
  unfold arithmetic at h
  obtain ⟨first, hfirst, h⟩ := operand_bind_ok h
  obtain ⟨second, hsecond, h⟩ := operand_bind_ok h
  obtain ⟨target, htarget, h⟩ := operand_bind_ok h
  obtain ⟨lhs, rhs, hreads, h⟩ := reads_ok h
  obtain ⟨_, hcheck, h⟩ := lift_bind_ok h
  obtain ⟨_, hcheck', h⟩ := lift_bind_ok h
  obtain ⟨result, hresult, h⟩ := lift_bind_ok h
  obtain ⟨hreceives, -, -⟩ := write_ok_iff.1 h
  rw [Family.type_of_apply hresult] at hreceives
  obtain ⟨hl, hr, hdivides⟩ := Family.fits_of_apply hresult
  exact ⟨first, second, target, lhs, rhs, hfirst, hsecond, htarget, hreads, hcheck, hcheck', hl, hr,
    hdivides, hreceives⟩

end Resolve

namespace Machine

variable {m : Machine} {i : Instruction} {op : Operator} {family : Family}

/-- **A computing instruction from end to end.** The next step of a running script, whatever the operator
and the family, succeeds exactly if the operands and the target fit. It then has taken off the stack what
its operands lay there, and has written the result of the values from before the step to its target, be it
one of its operands; no other variable has changed, nor has the comparison, and the script is one instruction
further. -/
theorem step_computes (hrun : m.state = .running) (hi : m.code[m.pc]? = some i)
    (hop : i.opcode = .arithmetic op family) :
    (m.step.fault = none ↔
      ∃ first second target lhs rhs, m.Computes i op family first second target lhs rhs) ∧
    (∀ first second target lhs rhs, m.Computes i op family first second target lhs rhs →
      ∃ result, family.apply op lhs rhs = .ok result ∧
        m.step.stack.items =
          target.pushed result ++ m.stack.items.drop (first.pops + second.pops) ∧
        (∀ name, m.step.symbols.get? name =
          if target.name? = some name then some result else m.symbols.get? name) ∧
        m.step.comparison = m.comparison ∧
        m.step.pc = m.pc + 1 ∧
        m.step.steps = m.steps + 1) := by
  have hnext := next?_of_running hrun hi
  refine ⟨?_, ?_⟩
  · rw [step_fault_eq_none_iff hrun hnext, resolve_arithmetic hop]
    constructor
    · rintro ⟨a, s, hok⟩
      exact Resolve.arithmetic_ok hok
    · rintro ⟨first, second, target, lhs, rhs, hcomputes⟩
      obtain ⟨result, a, -, -, hok⟩ := Resolve.arithmetic_eq hcomputes
      exact ⟨a, _, hok⟩
  · intro first second target lhs rhs hcomputes
    obtain ⟨result, a, hresult, ha, hok⟩ := Resolve.arithmetic_eq hcomputes
    rw [← resolve_arithmetic hop] at hok
    rw [step_of_ok hnext hok]
    exact ⟨result, hresult, perform_writing ha _⟩

/-- Both operands on the stack: the top one is on the left, and the difference goes to `n`. -/
theorem step_computes_from_stack :
    let push (k : Int32) : Instruction :=
      .binary (.arithmetic .add .int) (.immediate (.int k)) (.immediate (.char 0)) (.stack .int)
    let subtract : Instruction :=
      .binary (.arithmetic .sub .int) (.stack .int) (.stack .char) (.named "n" .int)
    let p : Program := {
      symbols := .ofList [("n", .int 5), ("k", .int 9)]
      instructions := [push 8, push 7, push 30, subtract] }
    let m := (load p).run 3
    m.state = .running ∧ m.stack.items = [.int 30, .int 7, .int 8] ∧
      m.step.fault = none ∧ m.step.stack.items = [.int 8] ∧
      m.step.symbols.get? "n" = some (.int 23) ∧
      m.step.symbols.get? "k" = m.symbols.get? "k" := by
  intro push subtract p m
  have hrun : m.state = .running := by decide +kernel
  have hi : m.code[m.pc]? = some subtract := by decide +kernel
  have hcomputes : m.Computes subtract .sub .int (.stack .int) (.stack .char) (.named "n" .int)
      (.int 30) (.int 7) := {
    first_eq := rfl
    second_eq := rfl
    target_eq := rfl
    reads := ⟨by decide +kernel, by decide +kernel⟩
    first_check := rfl
    second_check := rfl
    lhs_fits := by decide
    rhs_fits := by decide
    divisor := by simp [Opcode.DividesBy]
    receives := by decide +kernel }
  have hop : subtract.opcode = .arithmetic .sub .int := rfl
  obtain ⟨hsucceeds, hafter⟩ := step_computes hrun hi hop
  obtain ⟨result, hresult, hstack, hsymbols, -⟩ := hafter _ _ _ _ _ hcomputes
  have h23 : Family.int.apply .sub (.int 30) (.int 7) = .ok (.int 23) := by decide +kernel
  rw [h23] at hresult
  cases hresult
  refine ⟨hrun, by decide +kernel, hsucceeds.2 ⟨_, _, _, _, _, hcomputes⟩, ?_, ?_, ?_⟩
  · rw [hstack]
    decide +kernel
  · rw [hsymbols]
    exact if_pos rfl
  · rw [hsymbols]
    exact if_neg (by decide)

end Machine

end ScriptMachine
