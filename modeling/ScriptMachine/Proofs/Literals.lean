import ScriptMachine.Proofs.Expressible

/-!
# Literals as values

A literal becomes a value of the type that was declared for it. `Literal.Reads` says which value that is:
the same truth value, number, character or text, never one that was cut to fit. Whatever is not read so is
refused. But for DOUBLE, which takes integers too, a value shows the literal that it was read from
(`Reads.literal?_eq`); so no two literals become one value, and the only values without a literal are the
halves of characters (`literals_lossless`).
-/

namespace ScriptMachine

namespace Literal

/-- A literal, or the lack of one, is read as a value of a type. -/
inductive Reads : ValueType → Option Literal → Value → Prop
  | void : Reads .void none .void
  | boolean (b : Bool) : Reads .boolean (some (.bool b)) (.bool b)
  | int (i : Int64) (n : Int32) (h : n.toInt = i.toInt) : Reads .int (some (.int i)) (.int n)
  | integral (i : Int64) : Reads .double (some (.int i)) (.double (Float.ofInt i.toInt))
  | double (d : Float) : Reads .double (some (.double d)) (.double d)
  | char (c : Char) (unit : UInt16) (h : unit.toNat = c.toNat) :
    Reads .char (some (.str (String.singleton c))) (.char unit)
  | string (text : String) : Reads .string (some (.str text)) (.str text)
  | identifier (name : String) : Reads .identifier (some (.str name)) (.identifier name)

variable {type : ValueType} {literal : Option Literal} {v : Value}

/-! ## The types that look at the literal -/

theorem int_reads_iff {i : Int64} {n : Int32} :
    (-0x80000000 ≤ i.toInt ∧ i.toInt < 0x80000000) ∧ n = Int32.ofInt i.toInt ↔
      n.toInt = i.toInt := by
  constructor
  · rintro ⟨⟨hlow, hhigh⟩, rfl⟩
    exact Int32.toInt_ofInt_of_le hlow hhigh
  · intro h
    have hlow := n.le_toInt
    have hhigh := n.toInt_lt
    refine ⟨by omega, ?_⟩
    rw [← h, Int32.ofInt_toInt]

theorem eq_singleton_of_toList {text : String} {c : Char} (h : text.toList = [c]) :
    text = String.singleton c := by
  rw [← String.toList_inj, h, String.toList_singleton]

theorem charOf?_singleton (c : Char) : charOf? (String.singleton c) = Value.ofChar? c := by
  simp [charOf?]

theorem ofChar?_eq_some_iff {c : Char} :
    Value.ofChar? c = some v ↔ ∃ unit : UInt16, unit.toNat = c.toNat ∧ v = .char unit := by
  unfold Value.ofChar?
  constructor
  · intro h
    split at h
    next hlt =>
      cases h
      exact ⟨_, UInt16.toNat_ofNat_of_lt hlt, rfl⟩
    next => cases h
  · rintro ⟨unit, hunit, rfl⟩
    have hlt := unit.toNat_lt
    rw [if_pos (by omega), ← hunit, UInt16.ofNat_toNat]

theorem charOf?_eq_some_iff {text : String} :
    charOf? text = some v ↔
      ∃ c : Char, text = String.singleton c ∧ Value.ofChar? c = some v := by
  constructor
  · intro h
    unfold charOf? at h
    split at h
    next c htext =>
      exact ⟨c, eq_singleton_of_toList htext, h⟩
    next => cases h
  · rintro ⟨c, rfl, h⟩
    rw [charOf?_singleton, h]

/-! ## Reading -/

theorem Reads.of_value? (h : value? type literal = some v) : Reads type literal v := by
  unfold value? at h
  split at h
  case h_3 i =>
    split at h
    next hrange =>
      cases h
      exact .int i _ (int_reads_iff.1 ⟨hrange, rfl⟩)
    next => cases h
  case h_6 text =>
    obtain ⟨c, rfl, hc⟩ := charOf?_eq_some_iff.1 h
    obtain ⟨unit, hunit, rfl⟩ := ofChar?_eq_some_iff.1 hc
    exact .char c unit hunit
  case h_9 => cases h
  all_goals
    cases h
    constructor

theorem Reads.value? (h : Reads type literal v) : value? type literal = some v := by
  cases h with
  | int i n h =>
    obtain ⟨hrange, rfl⟩ := int_reads_iff.2 h
    exact if_pos hrange
  | char c unit h =>
    exact charOf?_eq_some_iff.2 ⟨c, rfl, ofChar?_eq_some_iff.2 ⟨unit, h, rfl⟩⟩
  | void | boolean | integral | double | string | identifier => rfl

theorem value?_eq_some_iff : value? type literal = some v ↔ Reads type literal v :=
  ⟨Reads.of_value?, Reads.value?⟩

theorem Reads.type_eq (h : Reads type literal v) : v.type = type := by
  cases h <;> rfl

/-- But for DOUBLE, a value shows its literal. -/
theorem Reads.literal?_eq (h : Reads type literal v) (hne : type ≠ .double) : v.literal? = literal := by
  cases h with
  | void | boolean | string | identifier => rfl
  | integral | double => exact absurd rfl hne
  | int i n h =>
    have hi : n.toInt64 = i := Int64.toInt_inj.1 (by rw [Int32.toInt_toInt64, h])
    simp only [Value.literal?, hi]
  | char c unit h => simp only [Value.literal?, h, Char.ofNat_toNat]

/-- But for DOUBLE, the values of a type that can be read are those that are not half of a
character. -/
theorem exists_reads_iff (hne : type ≠ .double) :
    (∃ literal, Reads type literal v) ↔ v.type = type ∧ v.isSurrogate = false := by
  constructor
  · rintro ⟨literal, h⟩
    exact ⟨h.type_eq, isSurrogate_of_value? h.value?⟩
  · rintro ⟨rfl, h⟩
    exact ⟨v.literal?, .of_value? (Value.value?_literal? h)⟩

/-! ## What a type accepts -/

theorem reads_int_iff : Reads .int literal v ↔
    ∃ (i : Int64) (n : Int32), literal = some (.int i) ∧ -0x80000000 ≤ i.toInt ∧
      i.toInt < 0x80000000 ∧ n.toInt = i.toInt ∧ v = .int n := by
  constructor
  · intro h
    cases h with
    | int i n h =>
      obtain ⟨hlow, hhigh⟩ := (int_reads_iff.2 h).1
      exact ⟨i, n, rfl, hlow, hhigh, h, rfl⟩
  · rintro ⟨i, n, rfl, -, -, h, rfl⟩
    exact .int i n h

theorem reads_char_iff : Reads .char literal v ↔
    ∃ (text : String) (c : Char) (unit : UInt16), literal = some (.str text) ∧ text.toList = [c] ∧
      c.toNat < 0x10000 ∧ unit.toNat = c.toNat ∧ v = .char unit := by
  constructor
  · intro h
    cases h with
    | char c unit h =>
      have hlt := unit.toNat_lt
      exact ⟨_, c, unit, rfl, String.toList_singleton c, by omega, h, rfl⟩
  · rintro ⟨text, c, unit, rfl, htext, -, h, rfl⟩
    rw [eq_singleton_of_toList htext]
    exact .char c unit h

theorem reads_void_iff : Reads .void literal v ↔ literal = none ∧ v = .void := by
  constructor
  · intro h
    cases h
    exact ⟨rfl, rfl⟩
  · rintro ⟨rfl, rfl⟩
    exact .void

theorem reads_double_iff : Reads .double literal v ↔
    (∃ i : Int64, literal = some (.int i) ∧ v = .double (Float.ofInt i.toInt)) ∨
      ∃ d : Float, literal = some (.double d) ∧ v = .double d := by
  constructor
  · intro h
    cases h with
    | integral i => exact .inl ⟨i, rfl, rfl⟩
    | double d => exact .inr ⟨d, rfl, rfl⟩
  · rintro (⟨i, rfl, rfl⟩ | ⟨d, rfl, rfl⟩)
    · exact .integral i
    · exact .double d

end Literal

open Literal

theorem Component.value_eq_ok_iff {component : Component} {type : ValueType}
    {literal : Option Literal} {v : Value} :
    component.value type literal = .ok v ↔ Reads type literal v := by
  rw [← value?_eq_some_iff]
  unfold Component.value
  cases Literal.value? type literal <;> simp

theorem Component.value_eq_error_iff {component : Component} {type : ValueType}
    {literal : Option Literal} {e : LoadError} :
    component.value type literal = .error e ↔
      e = .invalidLiteral component (.mismatch literal type) ∧ ∀ v, ¬ Reads type literal v := by
  simp only [← value?_eq_some_iff]
  unfold Component.value
  cases Literal.value? type literal with
  | none => simp [eq_comm]
  | some v => simp

/-- **A literal becomes its own value or is refused.** Of every type, what can be converted is what
`Reads` says, and all else is reported as no literal of the type. The value has the declared type. But for
DOUBLE, different literals become different values, and every value of the type comes from a literal unless
it is half of a character. INT takes the integers that fit in thirty-two bits, CHAR the texts of one
character below `U+10000`, VOID no literal at all, and DOUBLE every integer and every double. -/
theorem literals_lossless (component : Component) :
    (∀ type literal v, component.value type literal = .ok v ↔ Reads type literal v) ∧
    (∀ type literal e, component.value type literal = .error e ↔
      e = .invalidLiteral component (.mismatch literal type) ∧ ∀ v, ¬ Reads type literal v) ∧
    (∀ type literal v, component.value type literal = .ok v → v.type = type) ∧
    (∀ type, type ≠ .double → ∀ literal other v,
      component.value type literal = .ok v → component.value type other = .ok v →
        literal = other) ∧
    (∀ type, type ≠ .double → ∀ v,
      (∃ literal, component.value type literal = .ok v) ↔ v.type = type ∧ v.isSurrogate = false) ∧
    (∀ literal v, component.value .int literal = .ok v ↔
      ∃ (i : Int64) (n : Int32), literal = some (.int i) ∧ -0x80000000 ≤ i.toInt ∧
        i.toInt < 0x80000000 ∧ n.toInt = i.toInt ∧ v = .int n) ∧
    (∀ literal v, component.value .char literal = .ok v ↔
      ∃ (text : String) (c : Char) (unit : UInt16), literal = some (.str text) ∧ text.toList = [c] ∧
        c.toNat < 0x10000 ∧ unit.toNat = c.toNat ∧ v = .char unit) ∧
    (∀ literal v, component.value .void literal = .ok v ↔ literal = none ∧ v = .void) ∧
    (∀ literal v, component.value .double literal = .ok v ↔
      (∃ i : Int64, literal = some (.int i) ∧ v = .double (Float.ofInt i.toInt)) ∨
        ∃ d : Float, literal = some (.double d) ∧ v = .double d) := by
  have hok : ∀ {type literal v}, component.value type literal = .ok v ↔ Reads type literal v :=
    Component.value_eq_ok_iff
  refine ⟨fun _ _ _ => hok, fun _ _ _ => Component.value_eq_error_iff, fun _ _ _ h => ?_, ?_, ?_,
    fun _ _ => hok.trans reads_int_iff, fun _ _ => hok.trans reads_char_iff,
    fun _ _ => hok.trans reads_void_iff, fun _ _ => hok.trans reads_double_iff⟩
  · exact (hok.1 h).type_eq
  · intro type hne literal other v h hother
    exact ((hok.1 h).literal?_eq hne).symm.trans ((hok.1 hother).literal?_eq hne)
  · intro type hne v
    simp only [hok, exists_reads_iff hne]

/-- The ends of the range of INT are kept and the integers beyond them refused; the last character below
`U+10000` is one code unit and the first above it is none; a text that only begins with a character is no
CHAR. -/
theorem literals_lossless_at_limits :
    let component := Component.symbol "x"
    component.value .int (some (.int 2147483647)) = .ok (.int 2147483647) ∧
      component.value .int (some (.int (-2147483648))) = .ok (.int (-2147483648)) ∧
      component.value .int (some (.int 2147483648)) =
        .error (.invalidLiteral component (.mismatch (some (.int 2147483648)) .int)) ∧
      component.value .char (some (.str "\uFFFF")) = .ok (.char 0xFFFF) ∧
      (∀ v, component.value .char (some (.str "😀")) ≠ .ok v) ∧
      (∀ v, component.value .char (some (.str "ab")) ≠ .ok v) ∧
      ∀ literal, component.value .char literal = .ok (.char 0x41) → literal = some (.str "A") := by
  intro component
  obtain ⟨hok, herror, -, hunique, -, hint, hchar, -⟩ := literals_lossless component
  refine ⟨?_, ?_, ?_, ?_, ?_, ?_, ?_⟩
  · exact (hok ..).2 (.int 2147483647 2147483647 (by decide))
  · exact (hok ..).2 (.int (-2147483648) (-2147483648) (by decide))
  · refine (herror ..).2 ⟨rfl, fun v h => ?_⟩
    obtain ⟨i, n, hi, -, hlt, -⟩ := (hint _ v).1 ((hok ..).2 h)
    cases hi
    exact absurd hlt (by decide)
  · exact (hok ..).2 (.char '\uFFFF' 0xFFFF (by decide))
  · intro v h
    obtain ⟨text, c, -, htext, hc, hlt, -⟩ := (hchar _ v).1 h
    cases htext
    cases hc
    exact absurd hlt (by decide)
  · intro v h
    obtain ⟨text, c, -, htext, hc, -⟩ := (hchar _ v).1 h
    cases htext
    exact absurd (congrArg List.length hc) (by simp)
  · intro literal h
    exact hunique .char (by decide) _ _ _ h ((hok ..).2 (.char 'A' 0x41 (by decide)))

end ScriptMachine
