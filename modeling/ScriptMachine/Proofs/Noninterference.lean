import ScriptMachine.Proofs.Verdict
import ScriptMachine.Proofs.Writes

/-!
# Variables that nobody mentions

A script reads and writes no variables but those that its instructions mention by name: there are no
computed names. So two scripts with the same instructions, whose variables agree where they are mentioned,
resolve every instruction alike (`resolve_congr`) and stay alike step by step (`Twins.step`), down to the
host functions that they call. What is not mentioned has no influence and keeps its value.
-/

namespace ScriptMachine

/-! ## Mentioned names -/

/-- The name of the variable that a location is. -/
def Location.name? : Location → Option String
  | named name _ => some name
  | immediate _ | stack _ => none

/-- The names of the variables among the operands of an instruction. -/
def Instruction.names (i : Instruction) : List String := i.operands.filterMap Location.name?

/-- The names of all variables that some instruction has among its operands. -/
def mentioned (code : List Instruction) : List String := code.flatMap Instruction.names

theorem Instruction.mem_names {i : Instruction} {slot : Slot} {name : String} {type : ValueType}
    (h : i.operand slot = some (.named name type)) : name ∈ i.names := by
  refine List.mem_filterMap.2 ⟨.named name type, ?_, rfl⟩
  cases slot <;> simp_all [operand, operands]

/-- Two tables have the same variables and values as far as these names go. -/
def SymbolTable.AgreeOn (names : List String) (s t : SymbolTable) : Prop :=
  ∀ name ∈ names, s.get? name = t.get? name

namespace SymbolTable.AgreeOn

variable {names : List String} {s t : SymbolTable}

theorem mono {fewer : List String} (h : AgreeOn names s t) (hsub : fewer ⊆ names) :
    AgreeOn fewer s t :=
  fun name hname => h name (hsub hname)

theorem insert (h : AgreeOn names s t) (name : String) (value : Value) :
    AgreeOn names (s.insert name value) (t.insert name value) := by
  intro q hq
  rw [SortedMap.get?_insert, SortedMap.get?_insert, h q hq]

end SymbolTable.AgreeOn

/-! ## Resolving -/

namespace Resolve

open SymbolTable

variable {α : Type} {i : Instruction} {s t : SymbolTable}

/-- Only the location that an instruction has in a slot matters to what follows. -/
theorem operand_bind_congr {slot : Slot} {f g : Location → Resolve α}
    (h : ∀ location, i.operand slot = some location → f location = g location) :
    (operand i slot >>= f) = (operand i slot >>= g) := by
  unfold operand
  cases hl : i.operand slot with
  | none => rfl
  | some location => exact h location hl

theorem read_congr {slot : Slot} {location : Location} (h : AgreeOn i.names s t)
    (hl : i.operand slot = some location) : read s location = read t location := by
  cases location with
  | immediate v => rfl
  | stack _ => rfl
  | named name _ => simp only [read, load, h name (Instruction.mem_names hl)]

theorem write_congr {slot : Slot} {location : Location} (h : AgreeOn i.names s t)
    (hl : i.operand slot = some location) (value : Value) :
    write s value location = write t value location := by
  cases location with
  | immediate v => rfl
  | stack _ => rfl
  | named name _ => simp only [write, admits, h name (Instruction.mem_names hl)]

theorem arithmetic_congr (h : AgreeOn i.names s t) (op : Operator) (family : Family) :
    arithmetic s op family i = arithmetic t op family i := by
  unfold arithmetic
  refine operand_bind_congr fun first hfirst => operand_bind_congr fun second hsecond => ?_
  refine operand_bind_congr fun target htarget => ?_
  simp only [read_congr h hfirst, read_congr h hsecond, write_congr h htarget]

theorem compare_congr (h : AgreeOn i.names s t) : compare s i = compare t i := by
  unfold compare
  refine operand_bind_congr fun first hfirst => operand_bind_congr fun second hsecond => ?_
  simp only [read_congr h hfirst, read_congr h hsecond]

theorem deliver_congr (h : AgreeOn i.names s t) (result : Value) :
    deliver s result i.target = deliver t result i.target := by
  unfold deliver
  split
  · rfl
  · rfl
  next location _ htarget =>
    have hoperand : i.operand .target = some location := htarget
    exact write_congr h hoperand _

variable {m : Machine}

theorem jump_congr (h : AgreeOn i.names m.symbols t) (condition : Condition) :
    jump m condition i = jump { m with symbols := t } condition i := by
  unfold jump
  refine operand_bind_congr fun location hlocation => ?_
  simp only [read_congr h hlocation]

theorem call_congr (h : AgreeOn i.names m.symbols t) :
    call m i = call { m with symbols := t } i := by
  unfold call
  cases m.functions with
  | none => rfl
  | some registry =>
    refine operand_bind_congr fun first hfirst => ?_
    rw [read_congr h hfirst]
    refine bind_congr fun nameValue => bind_congr fun name => ?_
    refine operand_bind_congr fun second hsecond => ?_
    simp only [read_congr h hsecond, deliver_congr h]

end Resolve

namespace Machine

open SymbolTable

theorem resolve_congr {m : Machine} {i : Instruction} {t : SymbolTable}
    (h : AgreeOn i.names m.symbols t) : m.resolve i = resolve { m with symbols := t } i := by
  cases hop : i.opcode using Opcode.byKind with
  | arithmetic op family =>
    rw [resolve_arithmetic hop, resolve_arithmetic hop]
    exact Resolve.arithmetic_congr h op family
  | jump condition =>
    rw [resolve_jump hop, resolve_jump hop]
    exact Resolve.jump_congr h condition
  | cmp =>
    rw [resolve_cmp hop, resolve_cmp hop]
    exact Resolve.compare_congr h
  | call =>
    rw [resolve_call hop, resolve_call hop]
    exact Resolve.call_congr h
  | halt => rw [resolve_halt hop, resolve_halt hop]
  | skip opcode hskip => rw [resolve_skip (hop ▸ hskip), resolve_skip (hop ▸ hskip)]

/-! ## Two runs side by side -/

/-- The host calls that the next `n` steps make, in order. -/
def calls : Nat → Machine → List HostCall
  | 0, _ => []
  | n + 1, m => m.turn.call.toList ++ calls n m.step

/-- Two machines that differ in their variables at most, and there not under these names. -/
def Twins (names : List String) (m m' : Machine) : Prop :=
  ∃ t, m' = { m with symbols := t } ∧ AgreeOn names m.symbols t

variable {p : Program} {m m' : Machine}

theorem InControl.names_subset (h : InControl p m) {i : Instruction} (hi : m.next? = some i) :
    i.names ⊆ mentioned p.instructions := by
  intro name hname
  exact List.mem_flatMap.2 ⟨i, List.mem_of_getElem? (h.next? hi).2.2, hname⟩

theorem Twins.perform {names : List String} {t : SymbolTable} (h : AgreeOn names m.symbols t)
    (stack : OperandStack) (a : Action) :
    Twins names (m.perform stack a) (Machine.perform { m with symbols := t } stack a) := by
  cases a with
  | assign name value => exact ⟨t.insert name value, rfl, h.insert name value⟩
  | advance | jump | compare | push | halt => exact ⟨t, rfl, h⟩

/-- Twins take their next step alike, and make the same host call in it. -/
theorem Twins.step (hm : InControl p m) (h : Twins (mentioned p.instructions) m m') :
    m.turn.call = m'.turn.call ∧ Twins (mentioned p.instructions) m.step m'.step := by
  obtain ⟨t, rfl, hagree⟩ := h
  have hnext : next? { m with symbols := t } = m.next? := rfl
  unfold Machine.step turn
  rw [hnext]
  cases hi : m.next? with
  | none => exact ⟨rfl, t, rfl, hagree⟩
  | some i =>
    have hresolve := resolve_congr (hagree.mono (hm.names_subset hi))
    simp only [← hresolve]
    cases (m.resolve i).run ⟨m.stack, none⟩ with
    | ok a s => exact ⟨rfl, Twins.perform hagree s.stack a⟩
    | error e s => exact ⟨rfl, t, rfl, hagree⟩

theorem Twins.iterate (hm : InControl p m) (h : Twins (mentioned p.instructions) m m') (n : Nat) :
    Twins (mentioned p.instructions) (Machine.step^[n] m) (Machine.step^[n] m') ∧
      m.calls n = m'.calls n := by
  induction n generalizing m m' with
  | zero => exact ⟨h, rfl⟩
  | succ n ih =>
    obtain ⟨hcall, hstep⟩ := h.step hm
    obtain ⟨htwins, hcalls⟩ := ih hm.step hstep
    exact ⟨htwins, by rw [calls, calls, hcall, hcalls]⟩

/-- A variable that is not mentioned keeps its value. -/
theorem step_get?_of_not_mem (h : InControl p m) {name : String}
    (hname : name ∉ mentioned p.instructions) :
    m.step.symbols.get? name = m.symbols.get? name := by
  rcases m.step_symbols with hsame | ⟨i, written, type, value, hi, -, htarget, -, hinsert⟩
  · rw [hsame]
  · have hoperand : i.operand .target = some (.named written type) := htarget
    have hmentioned := h.names_subset hi (Instruction.mem_names hoperand)
    have hne : written ≠ name := by
      rintro rfl
      exact hname hmentioned
    rw [hinsert, SortedMap.get?_insert, if_neg hne]

theorem iterate_get?_of_not_mem (h : InControl p m) {name : String}
    (hname : name ∉ mentioned p.instructions) (n : Nat) :
    (step^[n] m).symbols.get? name = m.symbols.get? name := by
  induction n with
  | zero => rfl
  | succ n ih =>
    rw [Function.iterate_succ_apply', step_get?_of_not_mem (h.iterate n) hname, ih]

/-- **Unmentioned variables do not matter.** Give the same instructions two tables of variables that agree
on every name that an instruction mentions. After any number of steps the two machines agree on
everything but the other variables, and they have called the same host functions with the same arguments
in the same order. The other variables have the values that they started with. -/
theorem noninterference (code : List Instruction) (functions : Option Registry)
    {s t : SymbolTable} (h : ∀ name ∈ mentioned code, s.get? name = t.get? name) (n : Nat) :
    let left := load ⟨code, s⟩ functions
    let right := load ⟨code, t⟩ functions
    ((step^[n] left).pc = (step^[n] right).pc ∧
      (step^[n] left).stack = (step^[n] right).stack ∧
      (step^[n] left).comparison = (step^[n] right).comparison ∧
      (step^[n] left).halted = (step^[n] right).halted ∧
      (step^[n] left).fault = (step^[n] right).fault ∧
      (step^[n] left).steps = (step^[n] right).steps) ∧
    (∀ name ∈ mentioned code,
      (step^[n] left).symbols.get? name = (step^[n] right).symbols.get? name) ∧
    left.calls n = right.calls n ∧
    (∀ name, name ∉ mentioned code →
      (step^[n] left).symbols.get? name = s.get? name ∧
      (step^[n] right).symbols.get? name = t.get? name) := by
  intro left right
  have hleft := load_inControl ⟨code, s⟩ functions
  have hright := load_inControl ⟨code, t⟩ functions
  have htwins : Twins (mentioned code) left right := ⟨t, rfl, h⟩
  obtain ⟨⟨u, hu, hagree⟩, hcalls⟩ := htwins.iterate hleft n
  refine ⟨?_, ?_, hcalls, ?_⟩
  · rw [hu]
    exact ⟨rfl, rfl, rfl, rfl, rfl, rfl⟩
  · rw [hu]
    exact hagree
  · intro name hname
    exact ⟨iterate_get?_of_not_mem hleft hname n, iterate_get?_of_not_mem hright hname n⟩

/-- A script that tells its host the double of `n`, beside a secret that is a number in one run and a text
in the other. -/
theorem noninterference_of_secret :
    let code : List Instruction := [
      .binary (.arithmetic .add .int) (.named "n" .int) (.named "n" .int) (.stack .int),
      ⟨.call, some (.immediate (.identifier "tell")), some (.immediate (.int 1)), none⟩]
    let registry : Registry := ⟨.ofList [(⟨"tell", 1⟩, ⟨"host", fun _ => { result := .ok .void }⟩)]⟩
    let s : SymbolTable := .ofList [("n", .int 4), ("secret", .int 7)]
    let t : SymbolTable := .ofList [("n", .int 4), ("secret", .str "no")]
    let left := load ⟨code, s⟩ (some registry)
    let right := load ⟨code, t⟩ (some registry)
    (∀ name ∈ mentioned code, s.get? name = t.get? name) ∧
      (left.calls 2).map HostCall.arguments = [[.int 8]] ∧
      left.calls 2 = right.calls 2 ∧
      (step^[2] right).symbols.get? "secret" = some (.str "no") := by
  intro code registry s t left right
  have h : ∀ name ∈ mentioned code, s.get? name = t.get? name := by decide +kernel
  obtain ⟨-, -, hcalls, hkept⟩ := noninterference code (some registry) h 2
  refine ⟨h, by decide +kernel, hcalls, ?_⟩
  rw [(hkept "secret" (by decide +kernel)).2]
  decide +kernel

end Machine

end ScriptMachine
