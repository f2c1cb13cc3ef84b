import ScriptMachine.Proofs.Computation

/-!
# Calls of host functions

A call reads the name of a function and the number of its arguments, in this order, and both may come off
the stack that the arguments lie on. It asks for a function (`Machine.Asks`) when both could be read and are
what they should be. Only then anything else happens: an unknown function stops the script before it touches
its arguments, a stack that is too short stops it before the host sees them, and otherwise the host is asked
once, with the values from the top of the stack in the order in which they were pushed (`step_calls`).

That no other part of resolving speaks to the host is the judgement `Quiet`. It turns a call that was made
into the success of everything before it (`Quiet.ok_of_call`).
-/

namespace ScriptMachine

/-- An instruction asks for a function and has left these values on the stack, the top one first: its first
operand is a name and its second the number of arguments. -/
def Machine.Asks (m : Machine) (i : Instruction) (wanted : Signature) (rest : List Value) : Prop :=
  ∃ first second nameValue arityValue, i.first = some first ∧ i.second = some second ∧
    m.Reads first second nameValue arityValue ∧
    (nameValue = .str wanted.name ∨ nameValue = .identifier wanted.name) ∧
    arityValue.Counts wanted.arity ∧
    rest = m.stack.items.drop (first.pops + second.pops)

theorem Value.asName?_eq_some_iff {value : Value} {name : String} :
    value.asName? = some name ↔ value = .str name ∨ value = .identifier name := by
  cases value <;> simp [asName?]

namespace Resolve

variable {α β : Type} {s t : Scratch}

/-! ## Silence -/

/-- Whether it succeeds or fails, the computation does not call the host. -/
def Quiet (x : Resolve α) : Prop := ∀ s, (leaves x s).call = s.call

theorem Quiet.bind {x : Resolve α} {f : α → Resolve β} (hx : Quiet x) (hf : ∀ a, Quiet (f a)) :
    Quiet (x >>= f) := by
  intro s
  have hs := hx s
  cases hr : x s with
  | ok a t =>
    rw [leaves_of_ok hr] at hs
    rw [leaves_bind_of_ok hr, hf a t, hs]
  | error e t =>
    rw [leaves_of_error hr] at hs
    rw [leaves_bind_of_error hr, hs]

theorem quiet_pure (a : α) : Quiet (pure a) := fun _ => rfl

theorem quiet_throw (e : ScriptError) : Quiet (throw e : Resolve α) := fun _ => rfl

theorem quiet_lift (x : Except ScriptError α) : Quiet (lift x) := by
  cases x with
  | ok a => exact quiet_pure a
  | error e => exact quiet_throw e

theorem quiet_view (wanted : ValueType) (as? : Value → Option α) (value : Value) :
    Quiet (view wanted as? value) := by
  unfold view
  split
  · exact quiet_pure _
  · exact quiet_throw _

theorem quiet_operand (i : Instruction) (slot : Slot) : Quiet (operand i slot) := by
  unfold operand
  split
  · exact quiet_pure _
  · exact quiet_throw _

theorem quiet_pop : Quiet pop := by
  rintro ⟨⟨items⟩, call⟩
  cases items <;> rfl

theorem quiet_read (symbols : SymbolTable) (location : Location) : Quiet (read symbols location) := by
  cases location with
  | immediate v => exact quiet_pure v
  | stack _ => exact quiet_pop
  | named name _ => exact quiet_lift _

theorem quiet_write (symbols : SymbolTable) (value : Value) (location : Location) :
    Quiet (write symbols value location) := by
  cases location with
  | immediate _ => exact quiet_throw _
  | stack _ => exact quiet_pure _
  | named name _ => exact (quiet_lift _).bind fun _ => quiet_pure _

theorem quiet_deliver (symbols : SymbolTable) (result : Value) (target : Option Location) :
    Quiet (deliver symbols result target) := by
  unfold deliver
  split
  · exact quiet_pure _
  · exact quiet_pure _
  · exact quiet_write _ _ _

theorem quiet_arithmetic (symbols : SymbolTable) (op : Operator) (family : Family)
    (i : Instruction) : Quiet (arithmetic symbols op family i) := by
  unfold arithmetic
  refine (quiet_operand i .first).bind fun first => (quiet_operand i .second).bind fun second => ?_
  refine (quiet_operand i .target).bind fun target => ?_
  refine (quiet_read symbols first).bind fun lhs => (quiet_read symbols second).bind fun rhs => ?_
  refine (quiet_lift _).bind fun _ => (quiet_lift _).bind fun _ => ?_
  exact (quiet_lift _).bind fun result => quiet_write symbols result target

theorem quiet_compare (symbols : SymbolTable) (i : Instruction) : Quiet (compare symbols i) := by
  unfold compare
  refine (quiet_operand i .first).bind fun first => (quiet_operand i .second).bind fun second => ?_
  refine (quiet_read symbols first).bind fun lhs => (quiet_read symbols second).bind fun rhs => ?_
  exact (quiet_lift _).bind fun result => quiet_pure _

theorem quiet_jump (m : Machine) (condition : Condition) (i : Instruction) :
    Quiet (jump m condition i) := by
  unfold jump
  refine (quiet_operand i .target).bind fun location => (quiet_lift _).bind fun _ => ?_
  refine (quiet_read m.symbols location).bind fun value => (quiet_view _ _ _).bind fun index => ?_
  split
  · exact quiet_pure _
  · exact quiet_throw _

/-- If the host was called, what came before the call went well. -/
theorem Quiet.ok_of_call {x : Resolve α} {f : α → Resolve β} {c : HostCall} (hx : Quiet x)
    (hs : s.call = none) (h : (leaves (x >>= f) s).call = some c) :
    ∃ a t, x s = .ok a t ∧ t.call = none ∧ (leaves (f a) t).call = some c := by
  have hquiet := hx s
  rw [hs] at hquiet
  cases hr : x s with
  | ok a t =>
    rw [leaves_of_ok hr] at hquiet
    rw [leaves_bind_of_ok hr] at h
    exact ⟨a, t, rfl, hquiet, h⟩
  | error e t =>
    rw [leaves_of_error hr] at hquiet
    rw [leaves_bind_of_error hr, hquiet] at h
    cases h

/-! ## Arguments -/

/-- The arguments are the top values of the stack, the last one on top. -/
theorem popArguments_eq (n : Nat) (later : List Value) (h : n ≤ s.stack.items.length) :
    popArguments n later s =
      .ok ((s.stack.items.take n).reverse ++ later)
        { s with stack := ⟨s.stack.items.drop n⟩ } := by
  induction n generalizing s later with
  | zero => rfl
  | succ n ih =>
    obtain ⟨⟨items⟩, call⟩ := s
    cases items with
    | nil => simp at h
    | cons v rest =>
      have hpop : pop ⟨⟨v :: rest⟩, call⟩ = .ok v ⟨⟨rest⟩, call⟩ := rfl
      have hle : n ≤ rest.length := by
        simpa using h
      unfold popArguments
      rw [bind_eq hpop, ih (s := ⟨⟨rest⟩, call⟩) (v :: later) hle]
      simp

/-- Where there are too few, all of them are gone. -/
theorem popArguments_underflow (n : Nat) (later : List Value) (h : s.stack.items.length < n) :
    popArguments n later s = .error .stackUnderflow { s with stack := ⟨[]⟩ } := by
  induction n generalizing s later with
  | zero => omega
  | succ n ih =>
    obtain ⟨⟨items⟩, call⟩ := s
    cases items with
    | nil => rfl
    | cons v rest =>
      have hpop : pop ⟨⟨v :: rest⟩, call⟩ = .ok v ⟨⟨rest⟩, call⟩ := rfl
      have hlt : rest.length < n := by
        simpa using h
      unfold popArguments
      rw [bind_eq hpop, ih (s := ⟨⟨rest⟩, call⟩) (v :: later) hlt]

/-! ## The call -/

variable {m : Machine} {i : Instruction} {registry : Registry}

/-- The call is kept, and the answer is a value or the failure of the function that was called. -/
theorem invoke_eq (wanted : Signature) (f : HostFunction) (arguments : List Value) :
    invoke wanted f arguments s =
      match (f arguments).result with
      | .ok value => .ok value { s with call := some ⟨wanted, arguments, f arguments⟩ }
      | .error failure =>
        .error (.hostFunction wanted.name failure.message)
          { s with call := some ⟨wanted, arguments, f arguments⟩ } := by
  have hmodify : (modify fun scratch : Scratch =>
      { scratch with call := some ⟨wanted, arguments, f arguments⟩ } : Resolve PUnit) s =
        .ok ⟨⟩ { s with call := some ⟨wanted, arguments, f arguments⟩ } := rfl
  unfold invoke
  rw [bind_eq hmodify]
  cases (f arguments).result <;> rfl

theorem leaves_invoke (wanted : Signature) (f : HostFunction) (arguments : List Value)
    {g : Value → Resolve β} (hg : ∀ value, Quiet (g value)) :
    (leaves (invoke wanted f arguments >>= g) s).call = some ⟨wanted, arguments, f arguments⟩ := by
  have hinvoke := invoke_eq (s := s) wanted f arguments
  cases hresult : (f arguments).result with
  | ok value =>
    rw [hresult] at hinvoke
    rw [leaves_bind_of_ok hinvoke, hg value]
  | error failure =>
    rw [hresult] at hinvoke
    rw [leaves_bind_of_error hinvoke]

/-- What a call does when it has read its two operands. -/
def proceed (m : Machine) (registry : Registry) (wanted : Signature) (target : Option Location) :
    Resolve Action :=
  match registry.lookup wanted with
  | none => throw (.unknownFunction wanted.name wanted.arity)
  | some f => do
    let arguments ← popArguments wanted.arity []
    let result ← invoke wanted f arguments
    deliver m.symbols result target

theorem call_eq_proceed (hfunctions : m.functions = some registry) {wanted : Signature}
    {rest : List Value} (h : m.Asks i wanted rest) :
    call m i ⟨m.stack, none⟩ = proceed m registry wanted i.target ⟨⟨rest⟩, none⟩ := by
  obtain ⟨first, second, nameValue, arityValue, hfirst, hsecond, ⟨hname, harity⟩, hnamed, hcounts,
    rfl⟩ := h
  have hsecondRead :=
    read_eq_of_heldOn (s := ⟨⟨m.stack.items.drop first.pops⟩, none⟩) harity
  have hasName := Value.asName?_eq_some_iff.2 hnamed
  obtain ⟨index, hindex, htoInt⟩ := Value.asInt?_iff_counts.2 hcounts
  have hnonneg : ¬ index.toInt < 0 := by omega
  have harityNat : index.toInt.toNat = wanted.arity := by omega
  unfold call
  rw [hfunctions]
  dsimp only
  rw [bind_eq (operand_eq i .first hfirst), bind_eq (read_eq_of_heldOn hname),
    bind_eq (view_eq hasName), bind_eq (operand_eq i .second hsecond), bind_eq hsecondRead,
    bind_eq (view_eq hindex), if_neg hnonneg, harityNat, List.drop_drop]
  rfl

theorem asks_of_call (hfunctions : m.functions = some registry) {c : HostCall}
    (h : (leaves (call m i) ⟨m.stack, none⟩).call = some c) :
    ∃ wanted rest, m.Asks i wanted rest := by
  unfold call at h
  rw [hfunctions] at h
  dsimp only at h
  obtain ⟨first, _, hpart, hcall, h⟩ := (quiet_operand i .first).ok_of_call rfl h
  obtain ⟨hfirst, rfl⟩ := operand_ok hpart
  obtain ⟨nameValue, _, hpart, hcall, h⟩ := (quiet_read m.symbols first).ok_of_call hcall h
  obtain ⟨hname, rfl⟩ := read_ok hpart
  obtain ⟨name, _, hpart, hcall, h⟩ := (quiet_view _ _ _).ok_of_call hcall h
  obtain ⟨hasName, rfl⟩ := view_ok hpart
  obtain ⟨second, _, hpart, hcall, h⟩ := (quiet_operand i .second).ok_of_call hcall h
  obtain ⟨hsecond, rfl⟩ := operand_ok hpart
  obtain ⟨arityValue, _, hpart, hcall, h⟩ := (quiet_read m.symbols second).ok_of_call hcall h
  obtain ⟨harity, rfl⟩ := read_ok hpart
  obtain ⟨index, _, hpart, hcall, h⟩ := (quiet_view _ _ _).ok_of_call hcall h
  obtain ⟨hindex, rfl⟩ := view_ok hpart
  by_cases hneg : index.toInt < 0
  · rw [if_pos hneg] at h
    obtain ⟨_, _, hthrow, -⟩ := (quiet_throw _).ok_of_call hcall h
    cases hthrow
  · have hcounts : arityValue.Counts (index.toInt.toNat : Int) :=
      Value.asInt?_iff_counts.1 ⟨index, hindex, by omega⟩
    exact ⟨⟨name, index.toInt.toNat⟩, _, first, second, nameValue, arityValue, hfirst, hsecond,
      ⟨hname, harity⟩, Value.asName?_eq_some_iff.1 hasName, hcounts, rfl⟩

/-- With its arguments at hand, the function is asked and its answer delivered. -/
theorem proceed_eq_invoke {wanted : Signature} {rest : List Value} {target : Option Location}
    {f : HostFunction} (hlookup : registry.lookup wanted = some f)
    (hle : wanted.arity ≤ rest.length) :
    proceed m registry wanted target ⟨⟨rest⟩, none⟩ =
      (invoke wanted f (rest.take wanted.arity).reverse >>= fun value =>
        deliver m.symbols value target) ⟨⟨rest.drop wanted.arity⟩, none⟩ := by
  have harguments := popArguments_eq (s := ⟨⟨rest⟩, none⟩) wanted.arity [] hle
  rw [List.append_nil] at harguments
  simp only [proceed, hlookup]
  rw [bind_eq harguments]

theorem proceed_underflow {wanted : Signature} {rest : List Value} {target : Option Location}
    {f : HostFunction} (hlookup : registry.lookup wanted = some f)
    (hlt : rest.length < wanted.arity) :
    proceed m registry wanted target ⟨⟨rest⟩, none⟩ = .error .stackUnderflow ⟨⟨[]⟩, none⟩ := by
  have hunderflow := popArguments_underflow (s := ⟨⟨rest⟩, none⟩) wanted.arity [] hlt
  simp only [proceed, hlookup]
  exact bind_error hunderflow

/-- **The host is called exactly if the function is known and has its arguments,** and it is called with the
top values of the stack. -/
theorem proceed_call_iff {wanted : Signature} {rest : List Value} {target : Option Location}
    {c : HostCall} :
    (leaves (proceed m registry wanted target) ⟨⟨rest⟩, none⟩).call = some c ↔
      ∃ f, registry.lookup wanted = some f ∧ wanted.arity ≤ rest.length ∧
        c = ⟨wanted, (rest.take wanted.arity).reverse, f (rest.take wanted.arity).reverse⟩ := by
  cases hlookup : registry.lookup wanted with
  | none =>
    have hthrow : (leaves (proceed m registry wanted target) ⟨⟨rest⟩, none⟩).call = none := by
      simp only [proceed, hlookup]
      exact quiet_throw _ _
    rw [hthrow]
    simp
  | some f =>
    by_cases hle : wanted.arity ≤ rest.length
    · have hinvoke := leaves_invoke (s := ⟨⟨rest.drop wanted.arity⟩, none⟩) wanted f
        (rest.take wanted.arity).reverse fun value => quiet_deliver m.symbols value target
      rw [leaves, proceed_eq_invoke hlookup hle]
      rw [leaves] at hinvoke
      rw [hinvoke]
      simp [hle, eq_comm]
    · rw [leaves_of_error (proceed_underflow hlookup (by omega))]
      simp [hle]

theorem leaves_call_iff (hfunctions : m.functions = some registry) {c : HostCall} :
    (leaves (call m i) ⟨m.stack, none⟩).call = some c ↔
      ∃ wanted rest f, m.Asks i wanted rest ∧ registry.lookup wanted = some f ∧
        wanted.arity ≤ rest.length ∧
        c = ⟨wanted, (rest.take wanted.arity).reverse, f (rest.take wanted.arity).reverse⟩ := by
  constructor
  · intro h
    obtain ⟨wanted, rest, hasks⟩ := asks_of_call hfunctions h
    rw [leaves, call_eq_proceed hfunctions hasks, ← leaves] at h
    obtain ⟨f, hlookup, hle, hc⟩ := proceed_call_iff.1 h
    exact ⟨wanted, rest, f, hasks, hlookup, hle, hc⟩
  · rintro ⟨wanted, rest, f, hasks, hlookup, hle, hc⟩
    rw [leaves, call_eq_proceed hfunctions hasks]
    exact proceed_call_iff.2 ⟨f, hlookup, hle, hc⟩

/-! ## The answer -/

theorem deliver_nowhere {symbols : SymbolTable} {value : Value} {target : Option Location}
    (h : value = .void ∨ target = none) : deliver symbols value target s = .ok .advance s := by
  rcases h with rfl | rfl
  · rfl
  · cases value <;> rfl

theorem deliver_some {symbols : SymbolTable} {value : Value} (h : value ≠ .void)
    (location : Location) :
    deliver symbols value (some location) = write symbols value location := by
  cases value with
  | void => exact absurd rfl h
  | bool | char | int | double | str | identifier => rfl

theorem write_unknown {symbols : SymbolTable} {value : Value} {name : String}
    (h : symbols.get? name = none) (type : ValueType) :
    write symbols value (.named name type) s = .error (.unknownVariable name) s := by
  have hadmits : symbols.admits name value = .error (.unknownVariable name) := by
    simp [SymbolTable.admits, h]
  have hlift : lift (symbols.admits name value) s = .error (.unknownVariable name) s := by
    rw [hadmits]
    rfl
  exact bind_error hlift

theorem write_mismatch {symbols : SymbolTable} {value current : Value} {name : String}
    (h : symbols.get? name = some current) (hne : current.type ≠ value.type) (type : ValueType) :
    write symbols value (.named name type) s =
      .error (.typeMismatch current.type value.type) s := by
  have hadmits : symbols.admits name value = .error (.typeMismatch current.type value.type) := by
    simp [SymbolTable.admits, h, hne]
  have hlift : lift (symbols.admits name value) s =
      .error (.typeMismatch current.type value.type) s := by
    rw [hadmits]
    rfl
  exact bind_error hlift

end Resolve

namespace Machine

variable {m : Machine} {i : Instruction} {registry : Registry} {wanted : Signature}
  {rest : List Value} {f : HostFunction} {value : Value}

theorem turn_call (hi : m.next? = some i) :
    m.turn.call = (Resolve.leaves (m.resolve i) ⟨m.stack, none⟩).call := by
  simp only [turn, hi, EStateM.run, Resolve.leaves]
  cases m.resolve i ⟨m.stack, none⟩ <;> rfl

/-- **Only calls call the host,** and they call functions that it has, with as many arguments as they take. -/
theorem called_of_turn (hfunctions : m.functions = some registry) {c : HostCall}
    (h : m.turn.call = some c) :
    ∃ f, registry.lookup c.signature = some f ∧ c.arguments.length = c.signature.arity ∧
      c.reply = f c.arguments := by
  cases hi : m.next? with
  | none => simp [turn, hi] at h
  | some i =>
    rw [turn_call hi] at h
    have hsilent : ¬ Resolve.Quiet (m.resolve i) := by
      intro hquiet
      rw [hquiet] at h
      cases h
    cases hop : i.opcode using Opcode.byKind with
    | arithmetic op family =>
      rw [resolve_arithmetic hop] at hsilent
      exact absurd (Resolve.quiet_arithmetic m.symbols op family i) hsilent
    | jump condition =>
      rw [resolve_jump hop] at hsilent
      exact absurd (Resolve.quiet_jump m condition i) hsilent
    | cmp =>
      rw [resolve_cmp hop] at hsilent
      exact absurd (Resolve.quiet_compare m.symbols i) hsilent
    | halt =>
      rw [resolve_halt hop] at hsilent
      exact absurd (Resolve.quiet_pure _) hsilent
    | skip opcode hskip =>
      rw [resolve_skip (hop ▸ hskip)] at hsilent
      exact absurd (Resolve.quiet_pure _) hsilent
    | call =>
      rw [resolve_call hop] at h
      obtain ⟨wanted, rest, f, -, hlookup, hle, rfl⟩ := (Resolve.leaves_call_iff hfunctions).1 h
      exact ⟨f, hlookup, by simp [hle], rfl⟩

/-- What a machine does with the answer of a function, the arguments of which lay on top of these values. An
answer that is void, or that nobody asks for, is dropped. Another one goes to the target, if the target can
take it, and stops the script if not. -/
structure Delivers (m : Machine) (i : Instruction) (below : List Value) (value : Value) : Prop where
  dropped : value = .void ∨ i.target = none →
    m.step = { m with stack := ⟨below⟩, pc := m.pc + 1, steps := m.steps + 1 }
  pushed : value ≠ .void → ∀ type, i.target = some (.stack type) →
    m.step = { m with stack := ⟨value :: below⟩, pc := m.pc + 1, steps := m.steps + 1 }
  assigned : value ≠ .void → ∀ name type, i.target = some (.named name type) →
    m.symbols.classOf name = some value.type →
    m.step = { m with
      stack := ⟨below⟩, symbols := m.symbols.insert name value
      pc := m.pc + 1, steps := m.steps + 1 }
  unknown : value ≠ .void → ∀ name type, i.target = some (.named name type) →
    m.symbols.get? name = none → m.step = m.stop ⟨below⟩ i (.unknownVariable name)
  mismatched : value ≠ .void → ∀ name type current, i.target = some (.named name type) →
    m.symbols.get? name = some current → current.type ≠ value.type →
    m.step = m.stop ⟨below⟩ i (.typeMismatch current.type value.type)
  constant : value ≠ .void → ∀ constant, i.target = some (.immediate constant) →
    m.step = m.stop ⟨below⟩ i (.invalidWriteTarget .immediate)

theorem delivers_of_deliver {below : List Value} {call : Option HostCall} (hi : m.next? = some i)
    (hr : m.resolve i ⟨m.stack, none⟩ =
      Resolve.deliver m.symbols value i.target ⟨⟨below⟩, call⟩) :
    m.Delivers i below value where
  dropped h := by
    rw [Resolve.deliver_nowhere h] at hr
    exact step_of_ok hi hr
  pushed hvoid type htarget := by
    rw [htarget, Resolve.deliver_some hvoid] at hr
    exact step_of_ok hi hr
  assigned hvoid name type htarget hclass := by
    have hreceives : (Location.named name type).Receives m.symbols.classOf value.type := hclass
    have hwrite : Resolve.write m.symbols value (.named name type) ⟨⟨below⟩, call⟩ =
        .ok (.assign name value) ⟨⟨below⟩, call⟩ :=
      Resolve.write_ok_iff.2 ⟨hreceives, rfl, rfl⟩
    rw [htarget, Resolve.deliver_some hvoid, hwrite] at hr
    exact step_of_ok hi hr
  unknown hvoid name type htarget hget := by
    rw [htarget, Resolve.deliver_some hvoid, Resolve.write_unknown hget] at hr
    exact step_of_error hi hr
  mismatched hvoid name type current htarget hget hne := by
    rw [htarget, Resolve.deliver_some hvoid, Resolve.write_mismatch hget hne] at hr
    exact step_of_error hi hr
  constant hvoid constant htarget := by
    rw [htarget, Resolve.deliver_some hvoid] at hr
    exact step_of_error hi hr

/-- **A call from end to end.** The next step of a running script with host functions is a call.

* The host is called exactly if the operands ask for a function, the function is known and there are enough
  values on the stack; it is then called once, with as many values as it takes from the top of the stack, the
  one that was pushed last as its last argument.
* A function that is not known stops the script and leaves all arguments where they are, even too few of them.
* Too few arguments stop the script, and all of them are gone.
* A failure of the function, be it an error or a crash, stops the script in the name of the function.
* What becomes of an answer, `Delivers` says. -/
theorem step_calls (hrun : m.state = .running) (hi : m.code[m.pc]? = some i)
    (hop : i.opcode = .call) (hfunctions : m.functions = some registry) :
    (∀ c, m.turn.call = some c ↔
      ∃ wanted rest f, m.Asks i wanted rest ∧ registry.lookup wanted = some f ∧
        wanted.arity ≤ rest.length ∧
        c = ⟨wanted, (rest.take wanted.arity).reverse, f (rest.take wanted.arity).reverse⟩) ∧
    ∀ wanted rest, m.Asks i wanted rest →
      (registry.lookup wanted = none →
        m.step = m.stop ⟨rest⟩ i (.unknownFunction wanted.name wanted.arity)) ∧
      ∀ f, registry.lookup wanted = some f →
        (rest.length < wanted.arity → m.step = m.stop ⟨[]⟩ i .stackUnderflow) ∧
        (wanted.arity ≤ rest.length →
          (∀ failure, (f (rest.take wanted.arity).reverse).result = .error failure →
            m.step = m.stop ⟨rest.drop wanted.arity⟩ i
              (.hostFunction wanted.name failure.message)) ∧
          ∀ value, (f (rest.take wanted.arity).reverse).result = .ok value →
            m.Delivers i (rest.drop wanted.arity) value) := by
  have hnext := next?_of_running hrun hi
  refine ⟨?_, ?_⟩
  · intro c
    rw [turn_call hnext, resolve_call hop]
    exact Resolve.leaves_call_iff hfunctions
  · intro wanted rest hasks
    have hr := Resolve.call_eq_proceed hfunctions hasks
    rw [← resolve_call hop] at hr
    refine ⟨?_, ?_⟩
    · intro hlookup
      simp only [Resolve.proceed, hlookup] at hr
      exact step_of_error hnext hr
    · intro f hlookup
      refine ⟨?_, ?_⟩
      · intro hlt
        rw [Resolve.proceed_underflow hlookup hlt] at hr
        exact step_of_error hnext hr
      · intro hle
        rw [Resolve.proceed_eq_invoke hlookup hle] at hr
        have hinvoke := Resolve.invoke_eq (s := ⟨⟨rest.drop wanted.arity⟩, none⟩) wanted f
          (rest.take wanted.arity).reverse
        refine ⟨?_, ?_⟩
        · intro failure hfailure
          rw [hfailure] at hinvoke
          rw [Resolve.bind_error hinvoke] at hr
          exact step_of_error hnext hr
        · intro value hvalue
          rw [hvalue] at hinvoke
          rw [Resolve.bind_eq hinvoke] at hr
          exact delivers_of_deliver hnext hr

/-- The name of the function, the number of its arguments and the arguments lie on one stack, and the answer
goes to `n`. -/
theorem step_calls_from_one_stack :
    let minus : HostFunction := fun arguments =>
      match arguments with
      | [.int a, .int b] => { result := .ok (.int (a - b)) }
      | _ => { result := .error (.refused "two numbers, please") }
    let registry : Registry := ⟨.ofList [(⟨"minus", 2⟩, ⟨"host", minus⟩)]⟩
    let subtract : Instruction :=
      ⟨.call, some (.stack .string), some (.stack .int), some (.named "n" .int)⟩
    let m : Machine := {
      code := #[subtract]
      symbols := .ofList [("n", .int 0)]
      stack := ⟨[.str "minus", .int 2, .int 3, .int 10, .bool true]⟩
      functions := some registry }
    m.state = .running ∧
      m.turn.call = some ⟨⟨"minus", 2⟩, [.int 10, .int 3], { result := .ok (.int 7) }⟩ ∧
      m.step.symbols.get? "n" = some (.int 7) ∧ m.step.stack.items = [.bool true] := by
  intro minus registry subtract m
  have hrun : m.state = .running := by decide +kernel
  have hi : m.code[m.pc]? = some subtract := rfl
  have hlookup : registry.lookup ⟨"minus", 2⟩ = some minus := rfl
  have hasks : m.Asks subtract ⟨"minus", 2⟩ [.int 3, .int 10, .bool true] :=
    ⟨.stack .string, .stack .int, .str "minus", .int 2, rfl, rfl, ⟨rfl, rfl⟩, .inl rfl,
      .inl ⟨2, rfl, rfl⟩, rfl⟩
  have hle : 2 ≤ [Value.int 3, .int 10, .bool true].length := by decide
  obtain ⟨hcalled, hrest⟩ := step_calls hrun hi rfl rfl
  obtain ⟨-, hknown⟩ := hrest _ _ hasks
  obtain ⟨-, hanswered⟩ := (hknown minus hlookup).2 hle
  have hstep := (hanswered (.int 7) rfl).assigned (by simp) "n" .int rfl (by decide +kernel)
  refine ⟨hrun, (hcalled _).2 ⟨_, _, minus, hasks, hlookup, hle, rfl⟩, ?_, ?_⟩
  · rw [hstep]
    decide +kernel
  · rw [hstep]
    rfl

end Machine

end ScriptMachine
