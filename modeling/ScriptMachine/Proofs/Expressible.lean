import ScriptMachine.Proofs.Loading
import ScriptMachine.Proofs.Typing

/-!
# Programs that documents describe

Every program can be spelled as a document (`Program.document`), and the document is read back as the
program, with one exception: a CHAR is one code unit, but the texts of documents are made of whole
characters, so half of a surrogate pair cannot be written. Nor can it be read from any other document
(`exists_document_iff`).
-/

namespace ScriptMachine

/-! ## The constants of a program -/

/-- A code unit that is half of a character. -/
def Value.isSurrogate : Value → Bool
  | char unit => 0xD800 ≤ unit.toNat && unit.toNat ≤ 0xDFFF
  | _ => false

def Instruction.constants (i : Instruction) : List Value := i.operands.filterMap Location.constant?

/-- The values that a program has from the start: those of its variables, and those in its
instructions. -/
def Program.constants (p : Program) : List Value :=
  p.symbols.entries.map Prod.snd ++ p.instructions.flatMap Instruction.constants

/-! ## Spelling -/

namespace Value

/-- The literal of a value; VOID has none. -/
def literal? : Value → Option Literal
  | bool b => some (.bool b)
  | char unit => some (.str (String.singleton (Char.ofNat unit.toNat)))
  | int i => some (.int i.toInt64)
  | double d => some (.double d)
  | str text => some (.str text)
  | identifier name => some (.str name)
  | void => none

def spelled (v : Value) : RawSymbol := ⟨v.type.name, v.literal?⟩

end Value

def Location.spelled (l : Location) : RawLocation :=
  match l with
  | immediate v => { area := l.area.name, type := some v.type.name, value := v.literal? }
  | stack type => { area := l.area.name, type := some type.name }
  | named name type => { area := l.area.name, type := some type.name, name := some name }

def Instruction.spelled (i : Instruction) : RawInstruction where
  op := i.opcode.mnemonic
  first := i.first.map Location.spelled
  second := i.second.map Location.spelled
  target := i.target.map Location.spelled

/-- A document for a program. -/
def Program.document (p : Program) : Document where
  symbols := ⟨p.symbols.entries.map fun e => (e.1, e.2.spelled), List.pairwise_map.2 p.symbols.sorted⟩
  instructions := p.instructions.map Instruction.spelled

/-! ## Reading what was spelled -/

theorem ValueType.parse_name (type : ValueType) : parse type.name = .ok type := by
  cases type <;> rfl

theorem MemoryArea.parse_name (area : MemoryArea) : parse area.name = .ok area := by
  cases area <;> rfl

theorem Opcode.mem_all (opcode : Opcode) : opcode ∈ all := by
  cases opcode <;> decide

theorem Opcode.parse_mnemonic (opcode : Opcode) : parse opcode.mnemonic = .ok opcode := by
  have hfind : ∀ opcode ∈ all, (all.find? fun op => op.mnemonic.toList =
      Text.uppercase (Text.trimBlanks opcode.mnemonic.toList)) = some opcode := by
    decide +kernel
  simp only [parse, hfind opcode opcode.mem_all]

/-- Every value but half of a character is read back from its literal. -/
theorem Value.value?_literal? {v : Value} (h : v.isSurrogate = false) :
    Literal.value? v.type v.literal? = some v := by
  cases v with
  | bool | double | str | identifier | void => rfl
  | int i =>
    have hlow := i.le_toInt
    have hhigh := i.toInt_lt
    simp only [Value.type, literal?, Literal.value?, Int32.toInt_toInt64, Int32.ofInt_toInt]
    rw [if_pos (by omega)]
  | char unit =>
    have hlt := unit.toNat_lt
    have hvalid : unit.toNat.isValidChar := by
      simp only [isSurrogate, Bool.and_eq_false_iff, decide_eq_false_iff_not] at h
      unfold Nat.isValidChar
      omega
    have hunit : (Char.ofNat unit.toNat).toNat = unit.toNat := by
      rw [Char.ofNat, dif_pos hvalid]
      rfl
    have hchar : charOf? (String.singleton (Char.ofNat unit.toNat)) =
        ofChar? (Char.ofNat unit.toNat) := by
      simp [charOf?]
    simp only [Value.type, literal?, Literal.value?, hchar, ofChar?, hunit, UInt16.ofNat_toNat]
    rw [if_pos hlt]

theorem Component.type_name (component : Component) (type : ValueType) :
    component.type type.name = .ok type := by
  simp only [Component.type, ValueType.parse_name]

theorem Component.value_literal? (component : Component) {v : Value} (h : v.isSurrogate = false) :
    component.value v.type v.literal? = .ok v := by
  simp only [Component.value, Value.value?_literal? h]

theorem RawSymbol.build_spelled {v : Value} (h : v.isSurrogate = false) (name : String) :
    v.spelled.build name = .ok v := by
  unfold Value.spelled build
  rw [Component.type_name]
  exact Component.value_literal? _ h

theorem RawLocation.build_spelled {l : Location} (h : ∀ v ∈ l.constant?, v.isSurrogate = false)
    (index : Nat) : l.spelled.build index = .ok l := by
  cases l with
  | immediate v =>
    simp only [Location.spelled, build, Location.area, MemoryArea.parse_name, decoded,
      Option.mapM_some, Component.type_name]
    change Location.immediate <$> (Component.instruction index).value v.type v.literal? = _
    rw [Component.value_literal? _ (h v rfl)]
    rfl
  | stack type =>
    simp only [Location.spelled, build, Location.area, MemoryArea.parse_name, decoded,
      Option.mapM_some, Component.type_name]
    rfl
  | named name type =>
    simp only [Location.spelled, build, Location.area, MemoryArea.parse_name, decoded,
      Option.mapM_some, Component.type_name]
    rfl

theorem optionMapM_spelled {o : Option Location} {index : Nat}
    (h : ∀ l ∈ o, ∀ v ∈ l.constant?, v.isSurrogate = false) :
    (o.map Location.spelled).mapM (RawLocation.build index) = .ok o := by
  cases o with
  | none => rfl
  | some l =>
    have hl : l.spelled.build index = .ok l := RawLocation.build_spelled (h l rfl) index
    simp only [Option.map_some, Option.mapM_some, hl]
    rfl

theorem Instruction.mem_constants {i : Instruction} {v : Value} :
    v ∈ i.constants ↔ ∃ slot, ∃ l ∈ i.operand slot, v ∈ l.constant? := by
  unfold constants
  rw [List.mem_filterMap]
  constructor
  · rintro ⟨l, hl, hv⟩
    simp only [operands, List.mem_filterMap, List.mem_cons, List.not_mem_nil, or_false, id] at hl
    obtain ⟨o, rfl | rfl | rfl, hl⟩ := hl
    · exact ⟨.first, l, hl, hv⟩
    · exact ⟨.second, l, hl, hv⟩
    · exact ⟨.target, l, hl, hv⟩
  · rintro ⟨slot, l, hl, hv⟩
    refine ⟨l, ?_, hv⟩
    cases slot <;> simp_all [operand, operands]

theorem RawInstruction.build_spelled {i : Instruction} (h : ∀ v ∈ i.constants, v.isSurrogate = false)
    (index : Nat) : i.spelled.build index = .ok i := by
  have hslot : ∀ slot, ∀ l ∈ i.operand slot, ∀ v ∈ l.constant?, v.isSurrogate = false :=
    fun slot l hl v hv => h v (Instruction.mem_constants.2 ⟨slot, l, hl, hv⟩)
  have hfirst : (i.first.map Location.spelled).mapM (RawLocation.build index) = .ok i.first :=
    optionMapM_spelled (hslot .first)
  have hsecond : (i.second.map Location.spelled).mapM (RawLocation.build index) = .ok i.second :=
    optionMapM_spelled (hslot .second)
  have htarget : (i.target.map Location.spelled).mapM (RawLocation.build index) = .ok i.target :=
    optionMapM_spelled (hslot .target)
  simp only [Instruction.spelled, build, Opcode.parse_mnemonic, decoded, hfirst, hsecond, htarget]
  rfl

/-- **A program without halves of characters is described by its own document.** -/
theorem Program.document_describes {p : Program} (h : ∀ v ∈ p.constants, v.isSurrogate = false) :
    p.document.Describes p where
  symbols := by
    refine List.forall₂_map_left_iff.2 (List.forall₂_same.2 fun e he => ⟨rfl, ?_⟩)
    exact RawSymbol.build_spelled (h e.2 (List.mem_append_left _ (List.mem_map_of_mem he))) e.1
  instructions := by
    have hzip : p.document.instructions.zipIdx =
        p.instructions.zipIdx.map (Prod.map Instruction.spelled id) :=
      List.zipIdx_map
    rw [hzip, List.forall₂_map_left_iff]
    nth_rewrite 2 [← List.zipIdx_map_fst 0 p.instructions]
    refine List.forall₂_map_right_iff.2 (List.forall₂_same.2 fun e he => ?_)
    refine RawInstruction.build_spelled (fun v hv => h v (List.mem_append_right _ ?_)) e.2
    exact List.mem_flatMap.2 ⟨e.1, List.mem_of_getElem? (List.mem_zipIdx_iff_getElem?.1 he), hv⟩

/-! ## Nothing else can be read -/

theorem isSurrogate_of_ofChar? {c : Char} {v : Value} (h : Value.ofChar? c = some v) :
    v.isSurrogate = false := by
  unfold Value.ofChar? at h
  split at h
  next hlt =>
    cases h
    have hvalid : c.toNat.isValidChar := c.valid
    have hunit : (UInt16.ofNat c.toNat).toNat = c.toNat := UInt16.toNat_ofNat_of_lt hlt
    unfold Nat.isValidChar at hvalid
    simp only [Value.isSurrogate, hunit, Bool.and_eq_false_iff, decide_eq_false_iff_not]
    omega
  next => cases h

theorem isSurrogate_of_charOf? {text : String} {v : Value} (h : charOf? text = some v) :
    v.isSurrogate = false := by
  unfold charOf? at h
  split at h
  · exact isSurrogate_of_ofChar? h
  · cases h

/-- No literal gives half of a character. -/
theorem isSurrogate_of_value? {type : ValueType} {literal : Option Literal} {v : Value}
    (h : Literal.value? type literal = some v) : v.isSurrogate = false := by
  unfold Literal.value? at h
  -- only the literals of INT and CHAR can be refused, and what matches no row is
  split at h
  case h_3 =>
    split at h
    · cases h
      rfl
    · cases h
  case h_6 => exact isSurrogate_of_charOf? h
  case h_9 => cases h
  all_goals
    cases h
    rfl

theorem isSurrogate_of_build {index : Nat} {raw : RawLocation} {l : Location}
    (h : raw.build index = .ok l) {v : Value} (hv : v ∈ l.constant?) : v.isSurrogate = false := by
  obtain ⟨area, -, h⟩ := bind_eq_ok h
  obtain ⟨type, -, h⟩ := bind_eq_ok h
  cases area with
  | immediate =>
    obtain ⟨t, -, h⟩ := bind_eq_ok h
    obtain ⟨w, hw, rfl⟩ := map_eq_ok h
    cases hv
    exact isSurrogate_of_value? (value?_of_value hw)
  | stack =>
    obtain ⟨t, -, rfl⟩ := map_eq_ok h
    cases hv
  | named =>
    obtain ⟨t, -, h⟩ := bind_eq_ok h
    obtain ⟨name, -, h⟩ := bind_eq_ok h
    cases h
    cases hv

theorem isSurrogate_of_instruction {index : Nat} {raw : RawInstruction} {i : Instruction}
    (h : raw.build index = .ok i) {v : Value} (hv : v ∈ i.constants) : v.isSurrogate = false := by
  obtain ⟨slot, l, hl, hv⟩ := Instruction.mem_constants.1 hv
  rcases optionMapM_eq_ok (RawInstruction.mapM_operand h slot) with ⟨-, hnone⟩ | ⟨a, b, -, hb, hbuild⟩
  · rw [hnone] at hl
    cases hl
  · rw [hb] at hl
    cases hl
    exact isSurrogate_of_build hbuild hv

theorem Document.Describes.isSurrogate {d : Document} {p : Program} (h : d.Describes p) {v : Value}
    (hv : v ∈ p.constants) : v.isSurrogate = false := by
  rcases List.mem_append.1 hv with hv | hv
  · obtain ⟨⟨name, _⟩, he, rfl⟩ := List.mem_map.1 hv
    obtain ⟨i, hi⟩ := List.mem_iff_getElem?.1 he
    obtain ⟨e, -, -, hbuild⟩ := getElem?_of_forall₂ h.symbols.flip hi
    obtain ⟨type, -, hvalue⟩ := RawSymbol.build_eq_ok hbuild
    exact isSurrogate_of_value? hvalue
  · obtain ⟨instruction, hmem, hv⟩ := List.mem_flatMap.1 hv
    obtain ⟨i, hi⟩ := List.mem_iff_getElem?.1 hmem
    obtain ⟨e, -, hbuild⟩ := getElem?_of_forall₂ h.instructions.flip hi
    exact isSurrogate_of_instruction hbuild hv

/-- **Documents describe every program without halves of characters, and no other.** -/
theorem exists_document_iff (p : Program) :
    (∃ d : Document, d.build = .ok p) ↔ ∀ v ∈ p.constants, v.isSurrogate = false := by
  constructor
  · rintro ⟨d, hd⟩ v hv
    exact (Document.build_eq_ok_iff.1 hd).isSurrogate hv
  · intro h
    exact ⟨p.document, Document.build_eq_ok_iff.2 (Program.document_describes h)⟩

/-- The last code unit below the surrogates can be written and the first of them cannot, neither for a
variable nor in an instruction. Void values and empty slots make no difference. -/
theorem exists_document_iff_of_first_surrogate :
    let program (start operand : UInt16) : Program := {
      symbols := .ofList [("c", .char start), ("unset", .void), ("name", .identifier "c")]
      instructions := [
        .compare (.named "c" .void) (.immediate (.char operand)),
        .binary .call (.immediate (.str "print")) (.immediate (.int 1)) (.stack .double),
        { opcode := .halt }] }
    (∃ d : Document, d.build = .ok (program 0xD7FF 0xE000)) ∧
      (¬ ∃ d : Document, d.build = .ok (program 0xD800 0xE000)) ∧
      ¬ ∃ d : Document, d.build = .ok (program 0xD7FF 0xDFFF) := by
  intro program
  refine ⟨(exists_document_iff _).2 (by decide +kernel), fun h => ?_, fun h => ?_⟩
  · exact absurd ((exists_document_iff _).1 h) (by decide +kernel)
  · exact absurd ((exists_document_iff _).1 h) (by decide +kernel)

end ScriptMachine
