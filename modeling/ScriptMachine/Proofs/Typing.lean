import ScriptMachine.Proofs.Control

/-!
# Well-typed programs

A program is well typed when its operands fit together by their declared types alone: no operand comes
from the stack, every variable has the type that it is declared as, and every jump names an instruction
or the end. The classes of variables never change (`step_classOf`), so what was checked against the
variables at the start holds at every instruction; then resolving a well-typed instruction cannot fail
except by dividing by zero (`wellTyped_resolve`), and neither can the program (`wellTyped_run_fault`).
-/

namespace ScriptMachine

/-! ## The classes of variables -/

/-- The class of a variable, if it is declared. -/
def SymbolTable.classOf (t : SymbolTable) (name : String) : Option ValueType :=
  (t.get? name).map Value.type

theorem SymbolTable.classOf_insert {t : SymbolTable} {name : String} {value : Value}
    (h : t.admits name value = .ok ()) : classOf (t.insert name value) = t.classOf := by
  funext q
  unfold admits at h
  simp only [classOf, SortedMap.get?_insert]
  by_cases hq : name = q
  · subst hq
    split at h
    next => cases h
    next current hcurrent =>
      split at h
      next htype => simp [hcurrent, htype]
      next => cases h
  · simp [hq]

theorem SymbolTable.admits_of_classOf {t : SymbolTable} {name : String} {value : Value}
    (h : t.classOf name = some value.type) : t.admits name value = .ok () := by
  obtain ⟨current, hcurrent, htype⟩ := Option.map_eq_some_iff.1 h
  simp [admits, hcurrent, htype]

namespace Machine

/-- **No step changes the class of a variable,** and none declares one. -/
theorem step_classOf (m : Machine) : m.step.symbols.classOf = m.symbols.classOf := by
  rcases m.step_cases with ⟨-, hstep⟩ | ⟨i, a, s, -, hr, hstep⟩ | ⟨i, e, s, -, -, hstep⟩
  · rw [hstep]
  · rw [hstep]
    have ha := m.resolve_allowed i _ _ _ hr
    cases a with
    | assign name value => exact SymbolTable.classOf_insert ha
    | advance | jump | compare | push | halt => rfl
  · rw [hstep]
    rfl

end Machine

/-! ## Typing rules -/

/-- The instructions that divide integers or characters. -/
def Opcode.divisions : List Opcode :=
  [.arithmetic .div .int, .arithmetic .mod .int, .arithmetic .div .char, .arithmetic .mod .char]

/-- The types that a comparison orders against each other. -/
def ValueType.Comparable (s t : ValueType) : Prop :=
  s.isNumeric = true ∧ t.isNumeric = true ∨ s = .boolean ∧ t = .boolean ∨ s = .string ∧ t = .string

namespace Location

/-- An operand that needs no stack: a value in the instruction, or a variable of the type that the
operand is declared as. -/
def WellDeclared (classOf : String → Option ValueType) : Location → Prop
  | immediate _ => True
  | stack _ => False
  | named name type => classOf name = some type

/-- A location that a value of this type can be written to. -/
def Receives (classOf : String → Option ValueType) (type : ValueType) : Location → Prop
  | immediate _ => False
  | stack _ => True
  | named name _ => classOf name = some type

/-- The value in an instruction itself. -/
def constant? : Location → Option Value
  | immediate value => some value
  | _ => none

/-- The value that an operand has without the stack. -/
def held (symbols : SymbolTable) : Location → Option Value
  | immediate value => some value
  | stack _ => none
  | named name _ => symbols.get? name

/-- A well-declared operand has a value, and the value has the declared type. -/
theorem WellDeclared.held {symbols : SymbolTable} {location : Location}
    (h : location.WellDeclared symbols.classOf) :
    ∃ value, location.held symbols = some value ∧ value.type = location.declaredType := by
  cases location with
  | immediate value => exact ⟨value, rfl, rfl⟩
  | stack _ => exact h.elim
  | named name type => exact Option.map_eq_some_iff.1 h

end Location

namespace Instruction

/-- The typing rule of a computation in a family. -/
def ComputesIn (classOf : String → Option ValueType) (family : Family) (i : Instruction) : Prop :=
  ∃ first ∈ i.first, ∃ second ∈ i.second, ∃ target ∈ i.target,
    first.WellDeclared classOf ∧ second.WellDeclared classOf ∧
    family.required.check first.declaredType = .ok () ∧
    family.required.check second.declaredType = .ok () ∧
    target.Receives classOf family.required

/-- The typing rule of a jump in a program of this length. -/
def JumpsWithin (length : Nat) (i : Instruction) : Prop :=
  ∃ target ∈ i.target, ∃ value ∈ target.constant?, ∃ index ∈ value.asInt?,
    0 ≤ index.toInt ∧ index.toInt ≤ length

/-- The typing rule of an instruction, for variables of these classes and a program of this length. -/
def WellTyped (classOf : String → Option ValueType) (length : Nat) (i : Instruction) : Prop :=
  match i.opcode with
  | .addChar | .subChar | .mulChar | .divChar | .modChar => i.ComputesIn classOf .char
  | .addInt | .subInt | .mulInt | .divInt | .modInt => i.ComputesIn classOf .int
  | .addDouble | .subDouble | .mulDouble | .divDouble | .modDouble => i.ComputesIn classOf .double
  | .jmp | .jeq | .jne | .jlt | .jle | .jgt | .jge => i.JumpsWithin length
  | .cmp =>
    ∃ first ∈ i.first, ∃ second ∈ i.second,
      first.WellDeclared classOf ∧ second.WellDeclared classOf ∧
      first.declaredType.Comparable second.declaredType
  | _ => True

theorem WellTyped.computesIn {classOf : String → Option ValueType} {length : Nat} {i : Instruction}
    (h : i.WellTyped classOf length) {op : Operator} {family : Family}
    (hop : i.opcode = .arithmetic op family) : i.ComputesIn classOf family := by
  unfold WellTyped at h
  rw [hop] at h
  cases op <;> cases family <;> exact h

theorem WellTyped.jumpsWithin {classOf : String → Option ValueType} {length : Nat} {i : Instruction}
    (h : i.WellTyped classOf length) {condition : Condition} (hop : i.opcode = .jump condition) :
    i.JumpsWithin length := by
  unfold WellTyped at h
  rw [hop] at h
  cases condition <;> exact h

/-- The instruction divides integers or characters, and its second operand is zero. -/
def DividesByZero (symbols : SymbolTable) (i : Instruction) : Prop :=
  i.opcode ∈ Opcode.divisions ∧
  ∃ second, i.second = some second ∧
    (second.held symbols = some (.int 0) ∨ second.held symbols = some (.char 0))

end Instruction

/-- Every instruction is well typed for the variables that the program declares. -/
def Program.WellTyped (p : Program) : Prop :=
  ∀ i ∈ p.instructions, i.WellTyped p.symbols.classOf p.size

/-! Well-typedness can be decided. -/

section Decidable

variable (classOf : String → Option ValueType)

instance (s t : ValueType) : Decidable (s.Comparable t) :=
  inferInstanceAs (Decidable (_ ∨ _ ∨ _))

instance (x : Except ScriptError Unit) : Decidable (x = .ok ()) :=
  match x with
  | .ok () => isTrue rfl
  | .error _ => isFalse nofun

instance : (location : Location) → Decidable (location.WellDeclared classOf)
  | .immediate _ => inferInstanceAs (Decidable True)
  | .stack _ => inferInstanceAs (Decidable False)
  | .named name type => inferInstanceAs (Decidable (classOf name = some type))

instance (type : ValueType) : (location : Location) → Decidable (location.Receives classOf type)
  | .immediate _ => inferInstanceAs (Decidable False)
  | .stack _ => inferInstanceAs (Decidable True)
  | .named name _ => inferInstanceAs (Decidable (classOf name = some type))

instance (family : Family) (i : Instruction) : Decidable (i.ComputesIn classOf family) :=
  inferInstanceAs (Decidable (∃ first ∈ i.first, ∃ second ∈ i.second, ∃ target ∈ i.target, _ ∧ _))

instance (length : Nat) (i : Instruction) : Decidable (i.JumpsWithin length) :=
  inferInstanceAs (Decidable (∃ target ∈ i.target, ∃ value ∈ target.constant?,
    ∃ index ∈ value.asInt?, _ ∧ _))

instance (length : Nat) (i : Instruction) : Decidable (i.WellTyped classOf length) := by
  unfold Instruction.WellTyped
  split <;> infer_instance

instance (p : Program) : Decidable p.WellTyped :=
  inferInstanceAs (Decidable (∀ i ∈ p.instructions, i.WellTyped p.symbols.classOf p.size))

end Decidable

/-! ## Views and results

The table of accepted types and the views that widen values agree, and a family's results have the
type that it requires. -/

namespace Value

theorem asChar?_of_accepts {v : Value} (h : v.type ∈ ValueType.char.accepts) :
    ∃ a, v.asChar? = some a ∧ v = .char a := by
  cases v <;> simp_all [type, ValueType.accepts, asChar?]

theorem eq_zero_of_ofNat_toNat {unit : UInt16} (h : Int32.ofNat unit.toNat = 0) : unit = 0 := by
  have hlt := unit.toNat_lt
  have hint := congrArg Int32.toInt h
  rw [Int32.toInt_ofNat_of_lt (by omega), Int32.toInt_zero] at hint
  exact UInt16.toNat_inj.1 (by simpa using hint)

theorem asInt?_of_accepts {v : Value} (h : v.type ∈ ValueType.int.accepts) :
    ∃ a, v.asInt? = some a ∧ (a = 0 → v = .int 0 ∨ v = .char 0) := by
  cases v with
  | char unit => exact ⟨_, rfl, fun hzero => .inr (by rw [eq_zero_of_ofNat_toNat hzero])⟩
  | int i => exact ⟨i, rfl, fun hzero => .inl (by rw [hzero])⟩
  | bool | double | str | identifier | void => simp [type, ValueType.accepts] at h

theorem asDouble?_of_accepts {v : Value} (h : v.type ∈ ValueType.double.accepts) :
    ∃ a, v.asDouble? = some a := by
  cases v <;> simp_all [type, ValueType.accepts, asDouble?]

theorem compare_of_numeric {lhs rhs : Value} (hl : lhs.type.isNumeric = true)
    (hr : rhs.type.isNumeric = true) : ∃ result, lhs.compare rhs = .ok result := by
  have numeric : ∀ v : Value, v.type.isNumeric = true →
      v.type.isConcrete = true ∧ ∃ a, v.asDouble? = some a := by
    intro v hv
    cases v <;> simp_all [type, ValueType.isNumeric, ValueType.isConcrete, asDouble?]
  obtain ⟨hcl, a, ha⟩ := numeric lhs hl
  obtain ⟨hcr, b, hb⟩ := numeric rhs hr
  unfold compare
  rw [hcl, hcr, if_neg (by simp), if_neg (by simp)]
  split
  · exact ⟨_, rfl⟩
  · exact ⟨_, rfl⟩
  · split
    · exact ⟨_, rfl⟩
    · rw [ha, hb]
      dsimp only
      split
      · exact ⟨_, rfl⟩
      · exact ⟨_, rfl⟩

theorem compare_of_comparable {lhs rhs : Value} (h : lhs.type.Comparable rhs.type) :
    ∃ result, lhs.compare rhs = .ok result := by
  rcases h with ⟨hl, hr⟩ | ⟨hl, hr⟩ | ⟨hl, hr⟩
  · exact compare_of_numeric hl hr
  · cases lhs <;> cases hl
    cases rhs <;> cases hr
    exact ⟨_, rfl⟩
  · cases lhs <;> cases hl
    cases rhs <;> cases hr
    exact ⟨_, rfl⟩

end Value

namespace Operator

/-- An operator on words gives a result, or it divides and the divisor is zero. -/
theorem onChar_cases (op : Operator) (a b : UInt16) :
    (∃ c, op.onChar a b = some c) ∨
      op.onChar a b = none ∧ (op = .div ∨ op = .mod) ∧ b = 0 := by
  cases op <;> simp only [onChar, nonzero] <;> by_cases hb : b = 0 <;> simp [hb]

theorem onInt_cases (op : Operator) (a b : Int32) :
    (∃ c, op.onInt a b = some c) ∨
      op.onInt a b = none ∧ (op = .div ∨ op = .mod) ∧ b = 0 := by
  cases op <;> simp only [onInt, nonzero] <;> by_cases hb : b = 0 <;> simp [hb]

end Operator

namespace Family

theorem mem_accepts_of_check {family : Family} {type : ValueType}
    (h : family.required.check type = .ok ()) : type ∈ family.required.accepts := by
  unfold ValueType.check at h
  split at h
  next hstring => cases family <;> cases hstring
  next =>
    split at h
    next => cases h
    next =>
      split at h
      next hmem => exact hmem
      next => cases h

theorem view_eq (family : Family) {α : Type} {as? : Value → Option α} {v : Value} {a : α}
    (h : as? v = some a) : family.view as? v = .ok a := by
  simp only [view, h]

/-- A family computes a value of its own type from operands that it accepts, unless it divides words
by zero. -/
theorem apply_cases (family : Family) (op : Operator) {lhs rhs : Value}
    (hl : lhs.type ∈ family.required.accepts) (hr : rhs.type ∈ family.required.accepts) :
    (∃ v, family.apply op lhs rhs = .ok v ∧ v.type = family.required) ∨
      family.apply op lhs rhs = .error .divisionByZero ∧
        .arithmetic op family ∈ Opcode.divisions ∧
        (rhs = .int 0 ∨ rhs = .char 0) := by
  cases family with
  | char =>
    obtain ⟨a, ha, -⟩ := Value.asChar?_of_accepts hl
    obtain ⟨b, hb, hrhs⟩ := Value.asChar?_of_accepts hr
    simp only [apply, view_eq _ ha, view_eq _ hb, bind, Except.bind]
    rcases op.onChar_cases a b with ⟨c, hc⟩ | ⟨hc, hop, hzero⟩
    · rw [hc]
      exact .inl ⟨.char c, rfl, rfl⟩
    · rw [hc]
      refine .inr ⟨rfl, ?_, .inr (by rw [hrhs, hzero])⟩
      rcases hop with rfl | rfl <;> simp [Opcode.divisions]
  | int =>
    obtain ⟨a, ha, -⟩ := Value.asInt?_of_accepts hl
    obtain ⟨b, hb, hrhs⟩ := Value.asInt?_of_accepts hr
    simp only [apply, view_eq _ ha, view_eq _ hb, bind, Except.bind]
    rcases op.onInt_cases a b with ⟨c, hc⟩ | ⟨hc, hop, hzero⟩
    · rw [hc]
      exact .inl ⟨.int c, rfl, rfl⟩
    · rw [hc]
      refine .inr ⟨rfl, ?_, hrhs hzero⟩
      rcases hop with rfl | rfl <;> simp [Opcode.divisions]
  | double =>
    obtain ⟨a, ha⟩ := Value.asDouble?_of_accepts hl
    obtain ⟨b, hb⟩ := Value.asDouble?_of_accepts hr
    simp only [apply, view_eq _ ha, view_eq _ hb, bind, Except.bind]
    exact .inl ⟨_, rfl, rfl⟩

end Family

/-! ## Progress -/

namespace Resolve

variable {s : Scratch}

theorem bind_eq {α β : Type} {x : Resolve α} {f : α → Resolve β} {a : α} {t : Scratch}
    (h : x s = .ok a t) : (x >>= f) s = f a t := by
  change EStateM.bind x f s = f a t
  simp only [EStateM.bind, h]

theorem operand_eq (i : Instruction) (slot : Slot) {location : Location}
    (h : i.operand slot = some location) : operand i slot s = .ok location s := by
  simp only [operand, h]
  rfl

theorem read_eq {symbols : SymbolTable} {location : Location} {value : Value}
    (h : location.held symbols = some value) : read symbols location s = .ok value s := by
  cases location with
  | immediate v => cases h; rfl
  | stack _ => cases h
  | named name _ =>
    change symbols.get? name = some value at h
    simp only [read, SymbolTable.load, h]
    rfl

theorem lift_eq {α : Type} {x : Except ScriptError α} {a : α} (h : x = .ok a) :
    lift x s = .ok a s := by
  rw [h]
  rfl

theorem view_eq {α : Type} {wanted : ValueType} {as? : Value → Option α} {value : Value} {a : α}
    (h : as? value = some a) : view wanted as? value s = .ok a s := by
  simp only [view, h]
  rfl

theorem write_eq {symbols : SymbolTable} {value : Value} {location : Location}
    (h : location.Receives symbols.classOf value.type) :
    ∃ a, write symbols value location s = .ok a s := by
  cases location with
  | immediate _ => exact h.elim
  | stack _ => exact ⟨_, rfl⟩
  | named name _ =>
    exact ⟨_, bind_eq (lift_eq (SymbolTable.admits_of_classOf h))⟩

variable {symbols : SymbolTable} {i : Instruction} {first second target : Location}

theorem arithmetic_progress (op : Operator) (family : Family)
    (hfirst : i.first = some first) (hsecond : i.second = some second)
    (htarget : i.target = some target) (hdf : first.WellDeclared symbols.classOf)
    (hds : second.WellDeclared symbols.classOf)
    (hcf : family.required.check first.declaredType = .ok ())
    (hcs : family.required.check second.declaredType = .ok ())
    (hrec : target.Receives symbols.classOf family.required) :
    (∃ a, arithmetic symbols op family i s = .ok a s) ∨
      arithmetic symbols op family i s = .error .divisionByZero s ∧
        .arithmetic op family ∈ Opcode.divisions ∧
        (second.held symbols = some (.int 0) ∨ second.held symbols = some (.char 0)) := by
  obtain ⟨lhs, hlhs, htl⟩ := hdf.held
  obtain ⟨rhs, hrhs, htr⟩ := hds.held
  have hal : lhs.type ∈ family.required.accepts := htl ▸ Family.mem_accepts_of_check hcf
  have har : rhs.type ∈ family.required.accepts := htr ▸ Family.mem_accepts_of_check hcs
  unfold arithmetic
  rw [bind_eq (operand_eq i .first hfirst), bind_eq (operand_eq i .second hsecond),
    bind_eq (operand_eq i .target htarget), bind_eq (read_eq hlhs), bind_eq (read_eq hrhs),
    bind_eq (lift_eq hcf), bind_eq (lift_eq hcs)]
  rcases family.apply_cases op hal har with ⟨v, hv, htype⟩ | ⟨hv, hmem, hzero⟩
  · left
    rw [bind_eq (lift_eq hv)]
    rw [← htype] at hrec
    exact write_eq hrec
  · right
    rw [hv, hrhs]
    exact ⟨rfl, hmem, hzero.imp (congrArg some) (congrArg some)⟩

theorem compare_progress (hfirst : i.first = some first) (hsecond : i.second = some second)
    (hdf : first.WellDeclared symbols.classOf) (hds : second.WellDeclared symbols.classOf)
    (hcomp : first.declaredType.Comparable second.declaredType) :
    ∃ a, compare symbols i s = .ok a s := by
  obtain ⟨lhs, hlhs, htl⟩ := hdf.held
  obtain ⟨rhs, hrhs, htr⟩ := hds.held
  rw [← htl, ← htr] at hcomp
  obtain ⟨result, hresult⟩ := Value.compare_of_comparable hcomp
  unfold compare
  rw [bind_eq (operand_eq i .first hfirst), bind_eq (operand_eq i .second hsecond),
    bind_eq (read_eq hlhs), bind_eq (read_eq hrhs), bind_eq (lift_eq hresult)]
  exact ⟨_, rfl⟩

theorem jump_progress {m : Machine} (condition : Condition) {value : Value} {index : Int32}
    (htarget : i.target = some target) (hvalue : target.constant? = some value)
    (hindex : value.asInt? = some index) (hlow : 0 ≤ index.toInt)
    (hhigh : index.toInt ≤ m.code.size) : ∃ a, jump m condition i s = .ok a s := by
  obtain rfl : target = .immediate value := by
    cases target <;> cases hvalue
    rfl
  have hcheck : ValueType.int.check (Location.immediate value).declaredType = .ok () := by
    cases value with
    | char | int => rfl
    | bool | double | str | identifier | void => cases hindex
  unfold jump
  rw [bind_eq (operand_eq i .target htarget), bind_eq (lift_eq hcheck),
    bind_eq (read_eq (show (Location.immediate value).held m.symbols = some value from rfl)),
    bind_eq (view_eq hindex), if_pos ⟨hlow, hhigh⟩]
  exact ⟨_, rfl⟩

end Resolve

namespace Machine

/-- **A well-typed instruction makes progress,** unless it divides by zero. -/
theorem wellTyped_resolve {m : Machine} {i : Instruction}
    (h : i.WellTyped m.symbols.classOf m.code.size) (hfunctions : m.functions = none)
    (s : Scratch) :
    (∃ a, m.resolve i s = .ok a s) ∨
      m.resolve i s = .error .divisionByZero s ∧ i.DividesByZero m.symbols := by
  unfold Instruction.DividesByZero
  cases hop : i.opcode using Opcode.byKind with
  | arithmetic op family =>
    rw [resolve_arithmetic hop]
    obtain ⟨first, hfirst, second, hsecond, target, htarget, hdf, hds, hcf, hcs, hrec⟩ :=
      h.computesIn hop
    rcases Resolve.arithmetic_progress op family hfirst hsecond htarget hdf hds hcf hcs hrec with
      hok | ⟨herror, hmem, hzero⟩
    · exact .inl hok
    · exact .inr ⟨herror, hmem, second, hsecond, hzero⟩
  | jump condition =>
    rw [resolve_jump hop]
    obtain ⟨target, htarget, value, hvalue, index, hindex, hlow, hhigh⟩ := h.jumpsWithin hop
    exact .inl (Resolve.jump_progress condition htarget hvalue hindex hlow hhigh)
  | cmp =>
    unfold Instruction.WellTyped at h
    rw [hop] at h
    rw [resolve_cmp hop]
    obtain ⟨first, hfirst, second, hsecond, hdf, hds, hcomp⟩ := h
    exact .inl (Resolve.compare_progress hfirst hsecond hdf hds hcomp)
  | call =>
    -- no host functions are attached, so a call does nothing
    left
    rw [resolve_call hop]
    simp only [Resolve.call, hfunctions]
    exact ⟨_, rfl⟩
  | halt =>
    rw [resolve_halt hop]
    exact .inl ⟨_, rfl⟩
  | skip opcode hskip =>
    rw [resolve_skip (hop ▸ hskip)]
    exact .inl ⟨_, rfl⟩

/-! ## Soundness -/

/-- A machine on its way through a well-typed program. -/
structure Sound (p : Program) (m : Machine) : Prop where
  control : InControl p m
  functions_eq : m.functions = none
  classOf_eq : m.symbols.classOf = p.symbols.classOf
  fault_eq : ∀ f, m.fault = some f → f.error = .divisionByZero ∧
    ∃ i, p.instructions[f.pc]? = some i ∧ f.opcode = i.opcode ∧ i.DividesByZero m.symbols

theorem load_sound (p : Program) : Sound p (load p) where
  control := load_inControl p none
  functions_eq := rfl
  classOf_eq := rfl
  fault_eq f h := by cases h

theorem Sound.step {p : Program} (hp : p.WellTyped) {m : Machine} (h : Sound p m) :
    Sound p m.step := by
  refine ⟨h.control.step, m.step_functions.trans h.functions_eq,
    m.step_classOf.trans h.classOf_eq, ?_⟩
  rcases m.step_cases with ⟨-, hstep⟩ | ⟨i, a, s, hi, -, hstep⟩ | ⟨i, e, s, hi, hr, hstep⟩
  · rw [hstep]
    exact h.fault_eq
  · intro f hf
    rw [hstep, perform_fault, h.control.no_fault_of_next? hi] at hf
    cases hf
  · -- only a division by zero can fail, and it leaves the variables as they were
    obtain ⟨-, -, hget⟩ := h.control.next? hi
    have htyped := hp i (List.mem_of_getElem? hget)
    rw [← h.classOf_eq, ← h.control.size_code] at htyped
    rcases wellTyped_resolve htyped h.functions_eq ⟨m.stack, none⟩ with ⟨a, hok⟩ | ⟨herror, hzero⟩
    · rw [hok] at hr
      cases hr
    · rw [herror] at hr
      cases hr
      intro f hf
      rw [hstep] at hf ⊢
      cases hf
      exact ⟨rfl, i, hget, rfl, hzero⟩

end Machine

/-- **A well-typed program faults only by dividing by zero.** Without host functions, and however long
it runs: a fault is a division of integers or characters whose second operand is zero. -/
theorem wellTyped_run_fault {p : Program} (hp : p.WellTyped) (n : Nat) :
    let m := (Machine.load p).run n
    m.fault = none ∨
      ∃ f i second, m.fault = some f ∧ f.error = .divisionByZero ∧
        p.instructions[f.pc]? = some i ∧ f.opcode = i.opcode ∧
        f.opcode ∈ [.arithmetic .div .int, .arithmetic .mod .int, .arithmetic .div .char,
          .arithmetic .mod .char] ∧
        i.second = some second ∧
        (second.held m.symbols = some (.int 0) ∨ second.held m.symbols = some (.char 0)) := by
  intro m
  have hm : m.Sound p := Machine.run_keeps (fun _ h => h.step hp) n (Machine.load_sound p)
  cases hf : m.fault with
  | none => exact .inl rfl
  | some f =>
    obtain ⟨herror, i, hget, hop, hmem, second, hsecond, hzero⟩ := hm.fault_eq f hf
    exact .inr ⟨f, i, second, rfl, herror, hget, hop, hop ▸ hmem, hsecond, hzero⟩

/-- A loop that counts a variable down and divides by it, mixing INT with CHAR: well typed, and stopped
by its division in the third round. -/
theorem wellTyped_run_fault_countdown :
    let p : Program := {
      symbols := .ofList [("n", .int 2), ("q", .int 0)]
      instructions := [
        .binary (.arithmetic .div .int) (.immediate (.int 6)) (.named "n" .int) (.named "q" .int),
        .binary (.arithmetic .sub .int) (.named "n" .int) (.immediate (.char 1)) (.named "n" .int),
        .compare (.named "n" .int) (.immediate (.char 0)),
        .jump .greaterOrEqual 0] }
    p.WellTyped ∧ ∃ f i second, ((Machine.load p).run 100).fault = some f ∧
      f.error = .divisionByZero ∧ p.instructions[f.pc]? = some i ∧ i.second = some second ∧
      (second.held ((Machine.load p).run 100).symbols = some (.int 0) ∨
        second.held ((Machine.load p).run 100).symbols = some (.char 0)) := by
  intro p
  have hp : p.WellTyped := by decide
  refine ⟨hp, ?_⟩
  rcases wellTyped_run_fault hp 100 with hnone | ⟨f, i, second, hf, he, hi, -, -, hs, hz⟩
  · have hsome : ((Machine.load p).run 100).fault.isSome = true := by decide
    rw [hnone] at hsome
    cases hsome
  · exact ⟨f, i, second, hf, he, hi, hs, hz⟩

end ScriptMachine
