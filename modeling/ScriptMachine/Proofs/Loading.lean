import ScriptMachine.Proofs.Complaints

/-!
# Documents part by part

A program is built from a document part by part: every symbol and every instruction from its own text
and, of an instruction, from its index, and nothing else (`build_eq_ok_iff`). The first part that cannot
be built decides the error (`build_part_by_part`).
-/

namespace ScriptMachine

/-! ## Success -/

/-- The operand that a document has in a slot. -/
def RawInstruction.operand (raw : RawInstruction) : Slot → Option RawLocation
  | .first => raw.first
  | .second => raw.second
  | .target => raw.target

theorem RawSymbol.build_eq_ok {name : String} {raw : RawSymbol} {value : Value}
    (h : raw.build name = .ok value) :
    ∃ type, ValueType.parse raw.type = .ok type ∧ Literal.value? type raw.value = some value := by
  obtain ⟨type, htype, h⟩ := bind_eq_ok h
  exact ⟨type, parse_of_type htype, value?_of_value h⟩

/-- Each slot is built on its own. -/
theorem RawInstruction.mapM_operand {index : Nat} {raw : RawInstruction} {i : Instruction}
    (h : raw.build index = .ok i) (slot : Slot) :
    (raw.operand slot).mapM (RawLocation.build index) = .ok (i.operand slot) := by
  obtain ⟨opcode, -, h⟩ := bind_eq_ok h
  obtain ⟨first, hfirst, h⟩ := bind_eq_ok h
  obtain ⟨second, hsecond, h⟩ := bind_eq_ok h
  obtain ⟨target, htarget, h⟩ := bind_eq_ok h
  cases h
  cases slot with
  | first => exact hfirst
  | second => exact hsecond
  | target => exact htarget

theorem RawInstruction.isSome_operand {index : Nat} {raw : RawInstruction} {i : Instruction}
    (h : raw.build index = .ok i) (slot : Slot) :
    (i.operand slot).isSome = (raw.operand slot).isSome := by
  rcases optionMapM_eq_ok (mapM_operand h slot) with ⟨hraw, hi⟩ | ⟨_, _, hraw, hi, -⟩
  · rw [hraw, hi]
    rfl
  · rw [hraw, hi]
    rfl

namespace Document

/-- A document describes a program: part by part, in the same order. -/
structure Describes (d : Document) (p : Program) : Prop where
  symbols : List.Forall₂ (fun e v => v.1 = e.1 ∧ e.2.build e.1 = .ok v.2)
    d.symbols.entries p.symbols.entries
  instructions : List.Forall₂ (fun e i => e.1.build e.2 = .ok i) d.instructions.zipIdx p.instructions

theorem buildSymbols_eq_ok_iff {l : List (String × RawSymbol)} {values : List (String × Value)} :
    buildSymbols l = .ok values ↔
      List.Forall₂ (fun e v => v.1 = e.1 ∧ e.2.build e.1 = .ok v.2) l values := by
  rw [buildSymbols_eq_mapM, mapM_eq_ok_iff]
  refine iff_of_eq (congrArg (fun R => List.Forall₂ R l values) ?_)
  funext e v
  obtain ⟨name, value⟩ := v
  cases e.2.build e.1 with
  | error err => simp
  | ok built => simp [eq_comm]

theorem map_fst_eq {l : List (String × RawSymbol)} {values : List (String × Value)}
    (h : List.Forall₂ (fun e v => v.1 = e.1 ∧ e.2.build e.1 = .ok v.2) l values) :
    values.map Prod.fst = l.map Prod.fst := by
  induction h with
  | nil => rfl
  | cons hev _ ih => rw [List.map_cons, List.map_cons, hev.1, ih]

/-- **A program is built part by part.** -/
theorem build_eq_ok_iff {d : Document} {p : Program} : d.build = .ok p ↔ d.Describes p := by
  constructor
  · intro h
    obtain ⟨values, hvalues, h⟩ := bind_eq_ok h
    obtain ⟨instructions, hinstructions, h⟩ := bind_eq_ok h
    cases h
    have hsymbols := buildSymbols_eq_ok_iff.1 hvalues
    -- the values are in the order of their names, as the symbols were
    have hsorted : values.Pairwise fun a b => a.1 < b.1 := by
      have hkeys := d.symbols.keys_ascending
      rw [SortedMap.keys, ← map_fst_eq hsymbols] at hkeys
      exact List.pairwise_map.1 hkeys
    rw [buildInstructions_eq_mapM, mapM_eq_ok_iff] at hinstructions
    refine ⟨?_, hinstructions⟩
    rw [SortedMap.entries_ofList hsorted]
    exact hsymbols
  · rintro ⟨hsymbols, hinstructions⟩
    have hofList : SortedMap.ofList p.symbols.entries = p.symbols :=
      SortedMap.ext (SortedMap.entries_ofList p.symbols.sorted)
    unfold build
    rw [buildSymbols_eq_ok_iff.2 hsymbols, buildInstructions_eq_mapM,
      mapM_eq_ok_iff.2 hinstructions]
    change Except.ok (Program.mk p.instructions (SortedMap.ofList p.symbols.entries)) = _
    rw [hofList]

/-! ## The parts of a success -/

namespace Describes

variable {d : Document} {p : Program}

theorem keys_eq (h : d.Describes p) : p.symbols.keys = d.symbols.keys := map_fst_eq h.symbols

theorem get? (h : d.Describes p) {name : String} {raw : RawSymbol}
    (hraw : d.symbols.get? name = some raw) :
    ∃ value, raw.build name = .ok value ∧ p.symbols.get? name = some value := by
  obtain ⟨i, hi⟩ := List.mem_iff_getElem?.1 (SortedMap.mem_entries.2 hraw)
  obtain ⟨⟨name', value⟩, hvalue, hname, hbuild⟩ := getElem?_of_forall₂ h.symbols hi
  cases hname
  exact ⟨value, hbuild, SortedMap.mem_entries.1 (List.mem_of_getElem? hvalue)⟩

theorem length_eq (h : d.Describes p) : p.instructions.length = d.instructions.length := by
  rw [← h.instructions.length_eq, List.length_zipIdx]

theorem getElem? (h : d.Describes p) {i : Nat} {raw : RawInstruction}
    (hraw : d.instructions[i]? = some raw) :
    ∃ instruction, raw.build i = .ok instruction ∧ p.instructions[i]? = some instruction := by
  have hzip : d.instructions.zipIdx[i]? = some (raw, i) := by
    rw [List.getElem?_zipIdx, hraw, Option.map_some, Nat.zero_add]
  obtain ⟨instruction, hinstruction, hbuild⟩ := getElem?_of_forall₂ h.instructions hzip
  exact ⟨instruction, hbuild, hinstruction⟩

end Describes

/-! ## The parts of a failure -/

variable {d : Document}

theorem symbol_builds_iff {name : String} {raw : RawSymbol} :
    (∃ value, raw.build name = .ok value) ↔ raw.complaints name = [] :=
  (raw.firstOf_build name).ok_iff

theorem instruction_builds_iff {index : Nat} {raw : RawInstruction} :
    (∃ instruction, raw.build index = .ok instruction) ↔ raw.complaints index = [] :=
  (raw.firstOf_build index).ok_iff

theorem symbols_complaints_eq_nil_iff :
    (d.symbols.entries.flatMap fun e => e.2.complaints e.1) = [] ↔
      ∀ name raw, d.symbols.get? name = some raw → ∃ value, raw.build name = .ok value := by
  simp only [List.flatMap_eq_nil_iff, Prod.forall, SortedMap.mem_entries, symbol_builds_iff]

theorem instructions_complaints_eq_nil_iff :
    (d.instructions.zipIdx.flatMap fun e => e.1.complaints e.2) = [] ↔
      ∀ (index : Nat) raw, d.instructions[index]? = some raw →
        ∃ instruction, raw.build index = .ok instruction := by
  simp only [List.flatMap_eq_nil_iff, Prod.forall, List.mem_zipIdx_iff_getElem?,
    instruction_builds_iff]
  exact forall_comm

/-- The first of the symbols that cannot be built, by name. -/
theorem exists_symbol_of_head? {e : LoadError}
    (h : (d.symbols.entries.flatMap fun e => e.2.complaints e.1).head? = some e) :
    ∃ name raw, d.symbols.get? name = some raw ∧ raw.build name = .error e ∧
      e.component? = some (.symbol name) ∧
      ∀ other earlier, d.symbols.get? other = some earlier → other < name →
        ∃ value, earlier.build other = .ok value := by
  rw [List.head?_flatMap, List.findSome?_eq_some_iff] at h
  obtain ⟨before, ⟨name, raw⟩, later, hentries, hhead, hbefore⟩ := h
  have hsorted := d.symbols.sorted
  rw [hentries] at hsorted
  have hmem : (name, raw) ∈ d.symbols.entries := by simp [hentries]
  refine ⟨name, raw, SortedMap.mem_entries.1 hmem, (raw.firstOf_build name).error_iff.2 hhead,
    RawSymbol.component?_of_mem_complaints (List.mem_of_head? hhead), ?_⟩
  intro other earlier hother hlt
  -- what is below this name stands before it
  have hplace := SortedMap.mem_entries.2 hother
  rw [hentries, List.mem_append, List.mem_cons] at hplace
  rcases hplace with hplace | heq | hplace
  · have hnone : (earlier.complaints other).head? = none := hbefore (other, earlier) hplace
    exact symbol_builds_iff.2 (List.head?_eq_none_iff.1 hnone)
  · cases heq
    exact absurd hlt (KeyOrder.irrefl _)
  · have hgt := (List.pairwise_cons.1 (List.pairwise_append.1 hsorted).2.1).1 _ hplace
    exact absurd (KeyOrder.trans hlt hgt) (KeyOrder.irrefl _)

/-- The first of the instructions that cannot be built, by index. -/
theorem exists_instruction_of_head? {e : LoadError}
    (h : (d.instructions.zipIdx.flatMap fun e => e.1.complaints e.2).head? = some e) :
    ∃ (index : Nat) (raw : RawInstruction), d.instructions[index]? = some raw ∧
      raw.build index = .error e ∧ e.component? = some (.instruction index) ∧
      ∀ (other : Nat) (earlier : RawInstruction), d.instructions[other]? = some earlier →
        other < index → ∃ instruction, earlier.build other = .ok instruction := by
  rw [List.head?_flatMap, List.findSome?_eq_some_iff] at h
  obtain ⟨before, ⟨raw, index⟩, later, hzip, hhead, hbefore⟩ := h
  have hmem : (raw, index) ∈ d.instructions.zipIdx := by simp [hzip]
  have hindex : index = before.length := by
    have hplace : d.instructions.zipIdx[before.length]? = some (raw, index) := by simp [hzip]
    rw [List.getElem?_zipIdx, Nat.zero_add] at hplace
    obtain ⟨_, -, heq⟩ := Option.map_eq_some_iff.1 hplace
    exact (Prod.mk.inj heq).2.symm
  refine ⟨index, raw, List.mem_zipIdx_iff_getElem?.1 hmem,
    (raw.firstOf_build index).error_iff.2 hhead,
    RawInstruction.component?_of_mem_complaints (List.mem_of_head? hhead), ?_⟩
  intro other earlier hother hlt
  have hplace : d.instructions.zipIdx[other]? = some (earlier, other) := by
    rw [List.getElem?_zipIdx, hother, Option.map_some, Nat.zero_add]
  rw [hzip, List.getElem?_append_left (hindex ▸ hlt)] at hplace
  have hnone : (earlier.complaints other).head? = none :=
    hbefore (earlier, other) (List.mem_of_getElem? hplace)
  exact instruction_builds_iff.2 (List.head?_eq_none_iff.1 hnone)

/-- **Documents are built part by part, and the first error is reported.** A document can be built if
every symbol and every instruction can, each on its own. The program then has the names of the document,
each with the value of its own literal, and its instructions in order, each with the operands that are
there. Otherwise the error is the first complaint: that of the first symbol by name, or else of the first
instruction by index, that cannot be built; it names that part, and so does its message. -/
theorem build_part_by_part (d : Document) :
    ((∃ p, d.build = .ok p) ↔
      (∀ name raw, d.symbols.get? name = some raw → ∃ value, raw.build name = .ok value) ∧
      ∀ (index : Nat) raw, d.instructions[index]? = some raw →
        ∃ instruction, raw.build index = .ok instruction) ∧
    (∀ p, d.build = .ok p →
      p.symbols.keys = d.symbols.keys ∧
      (∀ name raw, d.symbols.get? name = some raw →
        ∃ type value, ValueType.parse raw.type = .ok type ∧
          Literal.value? type raw.value = some value ∧ p.symbols.get? name = some value) ∧
      p.instructions.length = d.instructions.length ∧
      ∀ (index : Nat) raw, d.instructions[index]? = some raw →
        ∃ instruction, raw.build index = .ok instruction ∧
          p.instructions[index]? = some instruction ∧
          ∀ slot, (instruction.operand slot).isSome = (raw.operand slot).isSome) ∧
    (∀ e, d.build = .error e ↔ d.complaints.head? = some e) ∧
    (∀ e, d.build = .error e →
      (∃ name raw, d.symbols.get? name = some raw ∧ raw.build name = .error e ∧
        e.component? = some (.symbol name) ∧
        (∃ complaint, e.message = "symbol " ++ name ++ ": " ++ complaint) ∧
        ∀ other earlier, d.symbols.get? other = some earlier → other < name →
          ∃ value, earlier.build other = .ok value) ∨
      (∀ name raw, d.symbols.get? name = some raw → ∃ value, raw.build name = .ok value) ∧
      ∃ (index : Nat) (raw : RawInstruction), d.instructions[index]? = some raw ∧
        raw.build index = .error e ∧ e.component? = some (.instruction index) ∧
        (∃ complaint, e.message = "instruction " ++ toString index ++ ": " ++ complaint) ∧
        ∀ (other : Nat) (earlier : RawInstruction), d.instructions[other]? = some earlier →
          other < index → ∃ instruction, earlier.build other = .ok instruction) := by
  have hfirst := d.firstOf_build
  refine ⟨?_, ?_, fun e => hfirst.error_iff, ?_⟩
  · rw [hfirst.ok_iff, complaints, List.append_eq_nil_iff, symbols_complaints_eq_nil_iff,
      instructions_complaints_eq_nil_iff]
  · intro p hp
    have h := build_eq_ok_iff.1 hp
    refine ⟨h.keys_eq, ?_, h.length_eq, ?_⟩
    · intro name raw hraw
      obtain ⟨value, hbuild, hvalue⟩ := h.get? hraw
      obtain ⟨type, htype, hliteral⟩ := RawSymbol.build_eq_ok hbuild
      exact ⟨type, value, htype, hliteral, hvalue⟩
    · intro index raw hraw
      obtain ⟨instruction, hbuild, hinstruction⟩ := h.getElem? hraw
      exact ⟨instruction, hbuild, hinstruction, RawInstruction.isSome_operand hbuild⟩
  · intro e he
    have hhead := hfirst.error_iff.1 he
    rw [complaints, List.head?_append, Option.or_eq_some_iff] at hhead
    rcases hhead with hsymbol | ⟨hnone, hinstruction⟩
    · obtain ⟨name, raw, hraw, hbuild, hcomponent, hbefore⟩ := exists_symbol_of_head? hsymbol
      exact .inl ⟨name, raw, hraw, hbuild, hcomponent, e.exists_message hcomponent, hbefore⟩
    · obtain ⟨index, raw, hraw, hbuild, hcomponent, hbefore⟩ :=
        exists_instruction_of_head? hinstruction
      exact .inr ⟨symbols_complaints_eq_nil_iff.1 (List.head?_eq_none_iff.1 hnone),
        index, raw, hraw, hbuild, hcomponent, e.exists_message hcomponent, hbefore⟩

end Document

end ScriptMachine
