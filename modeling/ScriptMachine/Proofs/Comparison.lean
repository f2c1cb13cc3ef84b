import ScriptMachine.Proofs.Doubles
import ScriptMachine.Proofs.Typing

/-!
# Comparison is an order

A comparison takes one of several paths: two integers are compared as integers, an integer and a
double as doubles, truth values and texts each in their own way, and everything else is rejected. On
every path what is compared is what the values stand for (`Value.Ordered`): numbers of all three
classes as one line of numbers, texts by their code points. So the laws of an order hold across the
paths, and only what is not a number stands outside.
-/

namespace ScriptMachine

/-! ## Signs -/

theorem sign_swap (o : Ordering) : sign o.swap = -sign o := by cases o <;> rfl

theorem sign_eq_zero_iff {o : Ordering} : sign o = 0 ↔ o = .eq := by cases o <;> simp [sign]

theorem sign_eq_neg_one_iff {o : Ordering} : sign o = -1 ↔ o = .lt := by cases o <;> simp [sign]

theorem sign_nonpos_iff {o : Ordering} : sign o ≤ 0 ↔ o ≠ .gt := by cases o <;> simp [sign]

/-! ## Texts -/

/-- The Unicode scalar values of a text. -/
def codePoints (text : String) : List Nat := text.toList.map Char.toNat

theorem map_toNat_lt_iff {l l' : List Char} :
    List.Lex (· < ·) (l.map Char.toNat) (l'.map Char.toNat) ↔ l < l' := by
  show l.map Char.toNat < l'.map Char.toNat ↔ l < l'
  induction l generalizing l' with
  | nil => cases l' <;> simp
  | cons c l ih =>
    cases l' with
    | nil => simp
    | cons d l' =>
      rw [List.map_cons, List.map_cons, List.cons_lt_cons_iff, List.cons_lt_cons_iff, ih,
        Char.toNat_inj]
      exact Iff.rfl

theorem lex_codePoints_iff {s t : String} :
    List.Lex (· < ·) (codePoints s) (codePoints t) ↔ s < t :=
  map_toNat_lt_iff.trans String.lt_iff_toList_lt.symm

namespace Value

/-- The number that a value stands for, if it stands for one. -/
def number? : Value → Option Number.Extended
  | char unit => some (.ofRat unit.toNat)
  | int i => some (.ofRat i.toInt)
  | double d => Number.number? d
  | bool _ | str _ | identifier _ | void => none

def isNaN : Value → Bool
  | double d => Number.isNaN d
  | _ => false

/-- How two values are ordered: as numbers whatever their classes are, as truth values, or as texts. -/
inductive Ordered : Value → Value → Ordering → Prop
  | numbers {a b : Value} {x y : Number.Extended} (ha : a.number? = some x) (hb : b.number? = some y) :
    Ordered a b (cmp x y)
  | booleans (p q : Bool) : Ordered (.bool p) (.bool q) (cmp p q)
  | texts (s t : String) : Ordered (.str s) (.str t) (cmp s t)

variable {a b c : Value}

/-! ## The paths of a comparison -/

theorem number?_of_asInt? {i : Int32} (h : a.asInt? = some i) : a.number? = some (.ofRat i.toInt) := by
  cases a with
  | char unit =>
    have hlt := unit.toNat_lt
    cases h
    rw [Int32.toInt_ofNat_of_lt (by omega)]
    rfl
  | int => cases h; rfl
  | bool | double | str | identifier | void => cases h

/-- Widening to a double does not change the number. -/
theorem exists_asDouble? {x : Number.Extended} (h : a.number? = some x) :
    ∃ d, a.asDouble? = some d ∧ Number.number? d = some x := by
  cases a with
  | char unit =>
    have hlt := unit.toNat_lt
    cases h
    exact ⟨_, rfl, Number.number?_ofSmallInt (by omega)⟩
  | int i =>
    have hle := i.le_toInt
    have hlt := i.toInt_lt
    cases h
    exact ⟨_, rfl, Number.number?_ofSmallInt (by omega)⟩
  | double d => exact ⟨d, rfl, h⟩
  | bool | str | identifier | void => cases h

theorem compare_of_asInt? {i j : Int32} (ha : a.asInt? = some i) (hb : b.asInt? = some j) :
    a.compare b = .ok (sign (cmp i.toInt j.toInt)) := by
  rw [cmp_eq_compare]
  cases a with
  | char | int =>
    cases ha
    cases b with
    | char | int => cases hb; rfl
    | bool | double | str | identifier | void => cases hb
  | bool | double | str | identifier | void => cases ha

/-- With a double on either side both are compared as doubles; what has no order gives 1. -/
theorem compare_of_asDouble? {x y : Float} (h : a.asInt? = none ∨ b.asInt? = none)
    (ha : a.asDouble? = some x) (hb : b.asDouble? = some y) :
    a.compare b = .ok (((Number.order x y).map sign).getD 1) := by
  have hcompare : a.compare b = (double x).compare (double y) := by
    cases a with
    | char | int =>
      cases ha
      cases b with
      | char | int => rcases h with h | h <;> cases h
      | double => cases hb; rfl
      | bool | str | identifier | void => cases hb
    | double =>
      cases ha
      cases b with
      | char | int | double => cases hb; rfl
      | bool | str | identifier | void => cases hb
    | bool | str | identifier | void => cases ha
  rw [hcompare]
  cases horder : Number.order x y <;>
    simp [Value.compare, Value.type, ValueType.isConcrete, asInt?, asDouble?, horder]

/-- Integers and doubles lie on one line: both paths compare the numbers. -/
theorem compare_of_numbers {x y : Number.Extended} (ha : a.number? = some x)
    (hb : b.number? = some y) : a.compare b = .ok (sign (cmp x y)) := by
  by_cases hints : (∃ i, a.asInt? = some i) ∧ ∃ j, b.asInt? = some j
  · obtain ⟨⟨i, hi⟩, j, hj⟩ := hints
    rw [number?_of_asInt? hi] at ha
    rw [number?_of_asInt? hj] at hb
    cases ha
    cases hb
    rw [compare_of_asInt? hi hj, Number.Extended.ofRat_strictMono.cmp_map_eq,
      (Int.cast_strictMono : StrictMono fun z : Int => (z : ℚ)).cmp_map_eq]
  · obtain ⟨d, hd, hx⟩ := exists_asDouble? ha
    obtain ⟨e, he, hy⟩ := exists_asDouble? hb
    have hnone : a.asInt? = none ∨ b.asInt? = none := by
      rw [Option.eq_none_iff_forall_ne_some, Option.eq_none_iff_forall_ne_some]
      by_contra hcon
      push Not at hcon
      exact hints hcon
    rw [compare_of_asDouble? hnone hd he, Number.order_eq_cmp hx hy]
    rfl

/-- **A comparison tells how the values are ordered.** -/
theorem compare_of_ordered {o : Ordering} (h : Ordered a b o) : a.compare b = .ok (sign o) := by
  cases h with
  | numbers ha hb => exact compare_of_numbers ha hb
  | booleans p q =>
    rw [cmp_eq_compare]
    rfl
  | texts s t =>
    rw [cmp_eq_compare]
    rfl

/-! ## What can be compared -/

theorem exists_number? (ha : a.type.isNumeric = true) (hnan : a.isNaN = false) :
    ∃ x, a.number? = some x := by
  cases a with
  | char | int => exact ⟨_, rfl⟩
  | double d =>
    rw [← Option.ne_none_iff_exists']
    show Number.number? d ≠ none
    rw [Ne, Number.number?_eq_none_iff]
    exact Bool.eq_false_iff.1 hnan
  | bool | str | identifier | void => cases ha

theorem exists_ordered (h : a.type.Comparable b.type) (ha : a.isNaN = false) (hb : b.isNaN = false) :
    ∃ o, Ordered a b o := by
  rcases h with ⟨hl, hr⟩ | ⟨hl, hr⟩ | ⟨hl, hr⟩
  · obtain ⟨x, hx⟩ := exists_number? hl ha
    obtain ⟨y, hy⟩ := exists_number? hr hb
    exact ⟨_, .numbers hx hy⟩
  · cases a <;> cases hl
    cases b <;> cases hr
    exact ⟨_, .booleans _ _⟩
  · cases a <;> cases hl
    cases b <;> cases hr
    exact ⟨_, .texts _ _⟩

theorem isNumeric_of_asInt? {i : Int32} (h : a.asInt? = some i) : a.type.isNumeric = true := by
  cases a with
  | char | int => rfl
  | bool | double | str | identifier | void => cases h

theorem isNumeric_of_asDouble? {d : Float} (h : a.asDouble? = some d) : a.type.isNumeric = true := by
  cases a with
  | char | int | double => rfl
  | bool | str | identifier | void => cases h

theorem comparable_of_compare {r : Int} (h : a.compare b = .ok r) : a.type.Comparable b.type := by
  unfold compare at h
  split at h
  · cases h
  · split at h
    · cases h
    · split at h
      next => exact .inr (.inl ⟨rfl, rfl⟩)
      next => exact .inr (.inr ⟨rfl, rfl⟩)
      next =>
        split at h
        next hi hj => exact .inl ⟨isNumeric_of_asInt? hi, isNumeric_of_asInt? hj⟩
        next =>
          split at h
          next hx hy => exact .inl ⟨isNumeric_of_asDouble? hx, isNumeric_of_asDouble? hy⟩
          next => cases h

theorem compare_ok_iff : (∃ r, a.compare b = .ok r) ↔ a.type.Comparable b.type :=
  ⟨fun ⟨_, h⟩ => comparable_of_compare h, compare_of_comparable⟩

end Value

theorem ValueType.Comparable.symm {s t : ValueType} (h : s.Comparable t) : t.Comparable s := by
  unfold Comparable at h ⊢
  tauto

namespace Value

variable {a b c : Value}

/-! ## The laws of an order -/

theorem Ordered.swap {o : Ordering} (h : Ordered a b o) : Ordered b a o.swap := by
  cases h with
  | numbers ha hb =>
    rw [cmp_swap]
    exact .numbers hb ha
  | booleans p q =>
    rw [cmp_swap]
    exact .booleans q p
  | texts s t =>
    rw [cmp_swap]
    exact .texts t s

theorem Ordered.self {o : Ordering} (h : Ordered a a o) : o = .eq := by
  cases h with
  | numbers ha hb =>
    rw [ha] at hb
    cases hb
    exact cmp_self_eq_eq _
  | booleans p => exact cmp_self_eq_eq p
  | texts s => exact cmp_self_eq_eq s

theorem cmp_ne_gt_iff {α : Type} [LinearOrder α] {x y : α} : cmp x y ≠ .gt ↔ x ≤ y := by
  rw [Ne, cmp_eq_gt_iff, not_lt]

theorem Ordered.trans {o o' : Ordering} (h : Ordered a b o) (h' : Ordered b c o') (hle : o ≠ .gt)
    (hle' : o' ≠ .gt) : ∃ o'', Ordered a c o'' ∧ o'' ≠ .gt := by
  cases h with
  | numbers ha hb =>
    cases h' with
    | numbers hb' hc =>
      rw [hb] at hb'
      cases hb'
      refine ⟨_, .numbers ha hc, ?_⟩
      rw [cmp_ne_gt_iff] at hle hle' ⊢
      exact hle.trans hle'
    | booleans | texts => cases hb
  | booleans p q =>
    cases h' with
    | numbers hb' => cases hb'
    | booleans _ r =>
      refine ⟨_, .booleans p r, ?_⟩
      rw [cmp_ne_gt_iff] at hle hle' ⊢
      exact hle.trans hle'
  | texts s t =>
    cases h' with
    | numbers hb' => cases hb'
    | texts _ u =>
      refine ⟨_, .texts s u, ?_⟩
      rw [cmp_ne_gt_iff] at hle hle' ⊢
      exact hle.trans hle'

/-! ## What is not a number -/

theorem asDouble?_isNaN (h : a.type.isNumeric = true) :
    ∃ d, a.asDouble? = some d ∧ Number.isNaN d = a.isNaN := by
  cases hnan : a.isNaN with
  | false =>
    obtain ⟨x, hx⟩ := exists_number? h hnan
    obtain ⟨d, hd, hnumber⟩ := exists_asDouble? hx
    exact ⟨d, hd, Number.isNaN_of_number? hnumber⟩
  | true =>
    cases a with
    | double d => exact ⟨d, rfl, hnan⟩
    | bool | char | int | str | identifier | void => cases hnan

theorem asInt?_of_isNaN (h : a.isNaN = true) : a.asInt? = none := by
  cases a with
  | double => rfl
  | bool | char | int | str | identifier | void => cases h

theorem compare_of_isNaN (ha : a.type.isNumeric = true) (hb : b.type.isNumeric = true)
    (h : a.isNaN = true ∨ b.isNaN = true) : a.compare b = .ok 1 := by
  obtain ⟨x, hx, hxnan⟩ := asDouble?_isNaN ha
  obtain ⟨y, hy, hynan⟩ := asDouble?_isNaN hb
  have horder : Number.order x y = none := by
    rw [← hxnan, ← hynan] at h
    unfold Number.order
    rw [if_pos (by simpa using h)]
  rw [compare_of_asDouble? (h.imp asInt?_of_isNaN asInt?_of_isNaN) hx hy, horder]
  rfl

/-- **Comparison is a consistent order.**

* What can be compared can be compared in both directions: numbers of any classes, truth values, and
  texts.
* On what can be compared and is a number if it is numeric: exchanging the values negates the result,
  a value equals itself, and being at most another is transitive, whichever classes the numbers have.
* The result is 0 exactly for equal numbers, truth values and texts, and texts are ordered by the
  first code point in which they differ, or by their length.
* What is not a number gives 1 against every number, in both directions. -/
theorem compare_consistent (a b c : Value) :
    ((∃ r, a.compare b = .ok r) ↔ a.type.Comparable b.type) ∧
    ((∃ r, a.compare b = .ok r) ↔ ∃ r, b.compare a = .ok r) ∧
    (a.type.Comparable b.type → a.isNaN = false → b.isNaN = false →
      ∃ r, a.compare b = .ok r ∧ b.compare a = .ok (-r)) ∧
    (a.type.Comparable a.type → a.isNaN = false → a.compare a = .ok 0) ∧
    (∀ r r', a.isNaN = false → b.isNaN = false → c.isNaN = false → a.compare b = .ok r →
      b.compare c = .ok r' → r ≤ 0 → r' ≤ 0 → ∃ r'', a.compare c = .ok r'' ∧ r'' ≤ 0) ∧
    (a.type.isNumeric = true → b.type.isNumeric = true → a.isNaN = false → b.isNaN = false →
      ∃ x y, a.number? = some x ∧ b.number? = some y ∧ (a.compare b = .ok 0 ↔ x = y)) ∧
    (∀ p q, a = .bool p → b = .bool q → (a.compare b = .ok 0 ↔ p = q)) ∧
    (∀ s t, a = .str s → b = .str t → (a.compare b = .ok 0 ↔ s = t) ∧
      (a.compare b = .ok (-1) ↔ List.Lex (· < ·) (codePoints s) (codePoints t))) ∧
    (a.type.isNumeric = true → b.type.isNumeric = true → a.isNaN = true ∨ b.isNaN = true →
      a.compare b = .ok 1 ∧ b.compare a = .ok 1) := by
  refine ⟨compare_ok_iff, ?_, ?_, ?_, ?_, ?_, ?_, ?_, ?_⟩
  · rw [compare_ok_iff, compare_ok_iff]
    exact ⟨.symm, .symm⟩
  · intro h ha hb
    obtain ⟨o, ho⟩ := exists_ordered h ha hb
    exact ⟨sign o, compare_of_ordered ho, sign_swap o ▸ compare_of_ordered ho.swap⟩
  · intro h ha
    obtain ⟨o, ho⟩ := exists_ordered h ha ha
    rw [compare_of_ordered ho, ho.self]
    rfl
  · intro r r' ha hb hc hab hbc hle hle'
    obtain ⟨o, ho⟩ := exists_ordered (comparable_of_compare hab) ha hb
    obtain ⟨o', ho'⟩ := exists_ordered (comparable_of_compare hbc) hb hc
    rw [compare_of_ordered ho] at hab
    rw [compare_of_ordered ho'] at hbc
    cases hab
    cases hbc
    obtain ⟨o'', ho'', hle''⟩ := ho.trans ho' (sign_nonpos_iff.1 hle) (sign_nonpos_iff.1 hle')
    exact ⟨_, compare_of_ordered ho'', sign_nonpos_iff.2 hle''⟩
  · intro ha hb hnan hnan'
    obtain ⟨x, hx⟩ := exists_number? ha hnan
    obtain ⟨y, hy⟩ := exists_number? hb hnan'
    refine ⟨x, y, hx, hy, ?_⟩
    rw [compare_of_numbers hx hy, Except.ok.injEq, sign_eq_zero_iff, cmp_eq_eq_iff]
  · rintro p q rfl rfl
    rw [compare_of_ordered (.booleans p q), Except.ok.injEq, sign_eq_zero_iff, cmp_eq_eq_iff]
  · rintro s t rfl rfl
    rw [compare_of_ordered (.texts s t), Except.ok.injEq, Except.ok.injEq, sign_eq_zero_iff,
      sign_eq_neg_one_iff, cmp_eq_eq_iff, cmp_eq_lt_iff, lex_codePoints_iff]
    exact ⟨Iff.rfl, Iff.rfl⟩
  · intro ha hb h
    exact ⟨compare_of_isNaN ha hb h, compare_of_isNaN hb ha h.symm⟩

/-- Over two paths: a code unit below the greatest integer, and that below the double half way to the
next one. -/
theorem compare_consistent_across_paths :
    let unit : Value := .char 65535
    let greatest : Value := .int 2147483647
    let above : Value := .double (Float.ofBits 0x41DFFFFFFFE00000)
    unit.compare greatest = .ok (-1) ∧ greatest.compare above = .ok (-1) ∧
      ∃ r, unit.compare above = .ok r ∧ r ≤ 0 := by
  intro unit greatest above
  have hbelow : unit.compare greatest = .ok (-1) := by decide +kernel
  have hbelow' : greatest.compare above = .ok (-1) := by decide +kernel
  have htrans := (compare_consistent unit greatest above).2.2.2.2.1
  exact ⟨hbelow, hbelow', htrans _ _ rfl rfl (by decide +kernel) hbelow hbelow' (by decide) (by decide)⟩

end Value

end ScriptMachine
