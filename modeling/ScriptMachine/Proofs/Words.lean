import Mathlib.Data.Int.ModEq
import ScriptMachine.Proofs.Typing

/-!
# Arithmetic on words

The families INT and CHAR compute with words: thirty-two bits with a sign, sixteen without. Each
operator is an operation on all integers, followed by wrapping the result around into the word
(`Family.Implements`). What scripts can rely on follows from that for both families at once: which
operand is rejected, sums, differences and products modulo the size of the word, and division with
remainder toward zero, which only the quotient of the least integer by minus one leaves
(`Implements.governs`). And since the two families wrap the same exact result, that of CHAR is the low
half of that of INT.
-/

namespace ScriptMachine

/-- The integers that a word of some size can hold: they start at zero, or half of them lie below it. -/
structure Word where
  bits : Nat
  least : Int
  balanced : least = 0 ∨ 2 * least + 2 ^ bits = 0

namespace Word

def int : Word := ⟨32, -2 ^ 31, .inr (by decide)⟩

def char : Word := ⟨16, 0, .inl rfl⟩

def Holds (word : Word) (z : Int) : Prop := word.least ≤ z ∧ z < word.least + 2 ^ word.bits

/-- `c` is what is left of `z` in the word: the one integer of the word that is congruent to it. -/
structure Wraps (word : Word) (z c : Int) : Prop where
  holds : word.Holds c
  modEq : c ≡ z [ZMOD 2 ^ word.bits]
  unique : ∀ c', word.Holds c' → c' ≡ z [ZMOD 2 ^ word.bits] → c' = c

/-- Quotient and remainder of a division toward zero. One quotient does not fit in a word with a sign. -/
structure Divides (word : Word) (a b q r : Int) : Prop where
  remainder_lt : |r| < |b|
  remainder_sign : r = 0 ∨ r.sign = a.sign
  exact : (a, b) ≠ (word.least, -1) → a = q * b + r
  overflow : (a, b) = (word.least, -1) → q = word.least ∧ r = 0
  modEq : q * b + r ≡ a [ZMOD 2 ^ word.bits]

variable {word : Word} {a b z c : Int}

theorem two_pow_pos (word : Word) : (0 : Int) < 2 ^ word.bits :=
  Int.pow_pos (by decide)

theorem eq_of_modEq {c c' : Int} (hc : word.Holds c) (hc' : word.Holds c')
    (h : c' ≡ c [ZMOD 2 ^ word.bits]) : c' = c := by
  unfold Holds at hc hc'
  have hdvd : (2 : Int) ^ word.bits ∣ c - c' := h.dvd
  have hsub : c - c' = 0 := Int.eq_zero_of_abs_lt_dvd hdvd (by rw [abs_lt]; omega)
  omega

theorem wraps_of_modEq (hc : word.Holds c) (h : c ≡ z [ZMOD 2 ^ word.bits]) : word.Wraps z c :=
  ⟨hc, h, fun _ hc' h' => eq_of_modEq hc hc' (h'.trans h.symm)⟩

theorem holds_int (c : Int32) : Word.int.Holds c.toInt := by
  have hle := c.le_toInt
  have hlt := c.toInt_lt
  exact ⟨hle, by simp only [Word.int]; omega⟩

theorem holds_char (c : UInt16) : Word.char.Holds c.toNat := by
  have hlt := c.toNat_lt
  exact ⟨by simp [Word.char], by simp [Word.char]; omega⟩

/-- What fits is not changed. -/
theorem Wraps.eq_of_holds (h : word.Wraps z c) (hz : word.Holds z) : c = z :=
  (h.unique z hz rfl).symm

theorem holds_tmod (ha : word.Holds a) (b : Int) : word.Holds (a.tmod b) := by
  have hpos := word.two_pow_pos
  have hbalanced := word.balanced
  have habs : (a.tmod b).natAbs ≤ a.natAbs := by
    rw [Int.natAbs_tmod]
    exact Nat.mod_le _ _
  have hnonneg : 0 ≤ a → 0 ≤ a.tmod b := Int.tmod_nonneg b
  have hnonpos : 0 ≤ -a → 0 ≤ -a.tmod b := by
    rw [← Int.neg_tmod]
    exact Int.tmod_nonneg b
  unfold Holds at ha ⊢
  omega

theorem holds_tdiv (ha : word.Holds a) (hb : word.Holds b) (hne : (a, b) ≠ (word.least, -1)) :
    word.Holds (a.tdiv b) := by
  have hpos := word.two_pow_pos
  have hbalanced := word.balanced
  have hab : ¬ (a = word.least ∧ b = -1) := by simpa using hne
  have habs : (a.tdiv b).natAbs ≤ a.natAbs := Int.natAbs_tdiv_le_natAbs a b
  unfold Holds at ha hb ⊢
  rcases lt_or_ge b 0 with hneg | hnonneg
  · by_cases hone : b = -1
    · rw [hone, show a.tdiv (-1) = -a by simp]
      omega
    · have hhalf : (a.tdiv b).natAbs ≤ a.natAbs / 2 := by
        rw [Int.natAbs_tdiv]
        exact Nat.div_le_div_left (by omega) (by decide)
      omega
  · -- the quotient lies between zero and `a`
    have hup : 0 ≤ a → 0 ≤ a.tdiv b := fun h => Int.tdiv_nonneg h hnonneg
    have hdown : 0 ≤ -a → 0 ≤ -a.tdiv b := by
      rw [← Int.neg_tdiv]
      exact fun h => Int.tdiv_nonneg h hnonneg
    omega

/-- A wrapped quotient and the remainder. -/
theorem divides_of_wraps (ha : word.Holds a) (hb : word.Holds b) (hzero : b ≠ 0) {q r : Int}
    (hq : word.Wraps (a.tdiv b) q) (hr : word.Wraps (a.tmod b) r) : word.Divides a b q r := by
  obtain rfl : r = a.tmod b := hr.eq_of_holds (holds_tmod ha b)
  refine ⟨?_, ?_, ?_, ?_, ?_⟩
  · have hlt : a.natAbs % b.natAbs < b.natAbs := Nat.mod_lt _ (by omega)
    rw [← Int.natAbs_tmod] at hlt
    rw [Int.abs_eq_natAbs, Int.abs_eq_natAbs]
    exact_mod_cast hlt
  · by_cases hdvd : b ∣ a
    · exact .inl (Int.tmod_eq_zero_of_dvd hdvd)
    · exact .inr (by rw [Int.sign_tmod, if_neg hdvd])
  · intro hne
    rw [hq.eq_of_holds (holds_tdiv ha hb hne), Int.tdiv_mul_add_tmod]
  · intro heq
    obtain ⟨rfl, rfl⟩ := Prod.mk.inj heq
    have hbalanced := word.balanced
    have hpos := word.two_pow_pos
    unfold Holds at hb
    refine ⟨?_, by simp⟩
    -- half of the integers lie below zero, so minus the least one is the least one again
    refine (hq.unique _ ⟨le_refl _, by omega⟩ ?_).symm
    rw [Int.modEq_iff_dvd, show word.least.tdiv (-1) - word.least = 2 ^ word.bits by simp; omega]
  · have h := (hq.modEq.mul_right b).add_right (a.tmod b)
    rwa [Int.tdiv_mul_add_tmod] at h

end Word

/-! ## Operators -/

namespace Operator

/-- What an operator computes on integers without a bound. -/
def exact : Operator → Int → Int → Int
  | add, a, b => a + b
  | sub, a, b => a - b
  | mul, a, b => a * b
  | div, a, b => a.tdiv b
  | mod, a, b => a.tmod b

def isDivision : Operator → Bool
  | div | mod => true
  | add | sub | mul => false

theorem isDivision_iff (op : Operator) : op.isDivision = true ↔ op = .div ∨ op = .mod := by
  cases op <;> simp [isDivision]

/-- On words with a sign every operator wraps its exact result. -/
theorem onInt_wraps (op : Operator) {a b : Int32} (h : op.isDivision = true → b.toInt ≠ 0) :
    ∃ c, op.onInt a b = some c ∧ Word.int.Wraps (op.exact a.toInt b.toInt) c.toInt := by
  have hwraps : ∀ (c : Int32) (z : Int), c.toInt = z.bmod (2 ^ 32) → Word.int.Wraps z c.toInt := by
    intro c z hc
    refine Word.wraps_of_modEq (Word.holds_int c) ?_
    rw [hc]
    exact Int.bmod_emod
  have hb : op.isDivision = true → b ≠ 0 := by
    rintro hop rfl
    exact h hop rfl
  cases op with
  | add => exact ⟨a + b, rfl, hwraps _ _ (Int32.toInt_add a b)⟩
  | sub => exact ⟨a - b, rfl, hwraps _ _ (Int32.toInt_sub a b)⟩
  | mul => exact ⟨a * b, rfl, hwraps _ _ (Int32.toInt_mul a b)⟩
  | div => exact ⟨a / b, if_neg (hb rfl), hwraps _ _ (Int32.toInt_div a b)⟩
  | mod =>
    refine ⟨a % b, if_neg (hb rfl), Word.wraps_of_modEq (Word.holds_int _) ?_⟩
    rw [Int32.toInt_mod]
    rfl

/-- On words without a sign every operator wraps its exact result. -/
theorem onChar_wraps (op : Operator) {a b : UInt16} (h : op.isDivision = true → (b.toNat : Int) ≠ 0) :
    ∃ c, op.onChar a b = some c ∧ Word.char.Wraps (op.exact a.toNat b.toNat) c.toNat := by
  have hwraps : ∀ (c : UInt16) (z : Int), (c.toNat : Int) ≡ z [ZMOD 2 ^ 16] →
      Word.char.Wraps z c.toNat := by
    intro c z hc
    exact Word.wraps_of_modEq (Word.holds_char c) hc
  have hb : op.isDivision = true → b ≠ 0 := by
    rintro hop rfl
    exact h hop rfl
  cases op with
  | add =>
    refine ⟨a + b, rfl, hwraps _ _ ?_⟩
    simp only [exact, Int.ModEq, UInt16.toNat_add]
    omega
  | sub =>
    refine ⟨a - b, rfl, hwraps _ _ ?_⟩
    have hlt := b.toNat_lt
    simp only [exact, Int.ModEq, UInt16.toNat_sub]
    omega
  | mul =>
    refine ⟨a * b, rfl, hwraps _ _ ?_⟩
    simp only [exact, Int.ModEq, UInt16.toNat_mul]
    push_cast
    exact Int.emod_emod_of_dvd _ (dvd_refl _)
  | div =>
    refine ⟨a / b, if_neg (hb rfl), hwraps _ _ ?_⟩
    rw [UInt16.toNat_div, Int.ofNat_tdiv]
    rfl
  | mod =>
    refine ⟨a % b, if_neg (hb rfl), hwraps _ _ ?_⟩
    rw [UInt16.toNat_mod, Int.ofNat_tmod]
    rfl

end Operator

/-! ## Families -/

namespace Family

/-- The integer that an operand is to a family on words, if the family takes it. -/
def integer? : Family → Value → Option Int
  | char, .char unit => some unit.toNat
  | int, .char unit => some unit.toNat
  | int, .int i => some i.toInt
  | _, _ => none

/-- The family computes the integer `c` from two operands, as a value of its own type. -/
def Gives (family : Family) (op : Operator) (lhs rhs : Value) (c : Int) : Prop :=
  ∃ v, family.apply op lhs rhs = .ok v ∧ v.type = family.required ∧ family.integer? v = some c

/-- A family computes with a type of words: it views its operands as such words, and on them every
operator wraps its exact result, unless it divides by zero. -/
structure Implements {α : Type} (family : Family) (word : Word) (as? : Value → Option α)
    (box : α → Value) (toInt : α → Int) (on : Operator → α → α → Option α) : Prop where
  apply_eq : ∀ op lhs rhs, family.apply op lhs rhs = (do
    let a ← family.view as? lhs
    let b ← family.view as? rhs
    box <$> quotient (on op a b))
  integer?_eq : ∀ v, family.integer? v = (as? v).map toInt
  as?_box : ∀ c, as? (box c) = some c
  type_box : ∀ c, (box c).type = family.required
  holds : ∀ a, word.Holds (toInt a)
  on_zero : ∀ op a b, op.isDivision = true → toInt b = 0 → on op a b = none
  on_wraps : ∀ op a b, (op.isDivision = true → toInt b ≠ 0) →
    ∃ c, on op a b = some c ∧ word.Wraps (op.exact (toInt a) (toInt b)) (toInt c)

theorem int_implements :
    Implements .int .int Value.asInt? .int Int32.toInt Operator.onInt where
  apply_eq _ _ _ := rfl
  integer?_eq v := by
    cases v with
    | char unit =>
      have hlt := unit.toNat_lt
      simp only [integer?, Value.asInt?, Option.map_some]
      rw [Int32.toInt_ofNat_of_lt (by omega)]
    | int i => rfl
    | bool | double | str | identifier | void => rfl
  as?_box _ := rfl
  type_box _ := rfl
  holds := Word.holds_int
  on_zero op a b hop hb := by
    obtain rfl : b = 0 := Int32.toInt_inj.1 hb
    cases op with
    | add | sub | mul => cases hop
    | div | mod => rfl
  on_wraps op _ _ h := op.onInt_wraps h

theorem char_implements :
    Implements .char .char Value.asChar? .char (fun unit => unit.toNat) Operator.onChar where
  apply_eq _ _ _ := rfl
  integer?_eq v := by cases v <;> rfl
  as?_box _ := rfl
  type_box _ := rfl
  holds := Word.holds_char
  on_zero op a b hop hb := by
    obtain rfl : b = 0 := UInt16.toNat_inj.1 (by simpa using hb)
    cases op with
    | add | sub | mul => cases hop
    | div | mod => rfl
  on_wraps op _ _ h := op.onChar_wraps h

end Family

/-- What scripts can rely on in a family that computes with words. -/
structure Word.Governs (word : Word) (family : Family) : Prop where
  /-- An operand that does not fit is rejected before anything is computed, the left one first. -/
  left : ∀ op lhs rhs, family.integer? lhs = none →
    family.apply op lhs rhs = .error (.typeMismatch family.required lhs.type)
  right : ∀ op lhs rhs a, family.integer? lhs = some a → family.integer? rhs = none →
    family.apply op lhs rhs = .error (.typeMismatch family.required rhs.type)
  sum : ∀ lhs rhs a b, family.integer? lhs = some a → family.integer? rhs = some b →
    ∃ c, family.Gives .add lhs rhs c ∧ word.Wraps (a + b) c
  difference : ∀ lhs rhs a b, family.integer? lhs = some a → family.integer? rhs = some b →
    ∃ c, family.Gives .sub lhs rhs c ∧ word.Wraps (a - b) c
  product : ∀ lhs rhs a b, family.integer? lhs = some a → family.integer? rhs = some b →
    ∃ c, family.Gives .mul lhs rhs c ∧ word.Wraps (a * b) c
  zero : ∀ op lhs rhs a b, op = .div ∨ op = .mod →
    family.integer? lhs = some a → family.integer? rhs = some b →
    (family.apply op lhs rhs = .error .divisionByZero ↔ b = 0)
  division : ∀ lhs rhs a b, family.integer? lhs = some a → family.integer? rhs = some b → b ≠ 0 →
    ∃ q r, family.Gives .div lhs rhs q ∧ family.Gives .mod lhs rhs r ∧ word.Divides a b q r
  /-- Whatever the operands are, there is an answer: a result or one of the two errors. -/
  answers : ∀ op lhs rhs, (∃ c, family.Gives op lhs rhs c) ∨
    (∃ found, family.apply op lhs rhs = .error (.typeMismatch family.required found)) ∨
    (op = .div ∨ op = .mod) ∧ family.apply op lhs rhs = .error .divisionByZero

namespace Family

namespace Implements

variable {α : Type} {family : Family} {word : Word} {as? : Value → Option α} {box : α → Value}
  {toInt : α → Int} {on : Operator → α → α → Option α} {op : Operator} {lhs rhs : Value} {a b : Int}

theorem view_none (h : Implements family word as? box toInt on) {v : Value}
    (hv : family.integer? v = none) :
    family.view as? v = .error (.typeMismatch family.required v.type) := by
  rw [h.integer?_eq, Option.map_eq_none_iff] at hv
  simp only [view, hv]

theorem view_some (h : Implements family word as? box toInt on) {v : Value}
    (hv : family.integer? v = some a) : ∃ x, family.view as? v = .ok x ∧ toInt x = a := by
  rw [h.integer?_eq, Option.map_eq_some_iff] at hv
  obtain ⟨x, hx, rfl⟩ := hv
  exact ⟨x, view_eq family hx, rfl⟩

theorem integer?_box (h : Implements family word as? box toInt on) (c : α) :
    family.integer? (box c) = some (toInt c) := by
  rw [h.integer?_eq, h.as?_box, Option.map_some]

theorem holds_integer? (h : Implements family word as? box toInt on) {v : Value}
    (hv : family.integer? v = some a) : word.Holds a := by
  obtain ⟨x, -, rfl⟩ := h.view_some hv
  exact h.holds x

theorem wraps (h : Implements family word as? box toInt on) (op : Operator)
    (hl : family.integer? lhs = some a) (hr : family.integer? rhs = some b)
    (hb : op.isDivision = true → b ≠ 0) :
    ∃ c, family.Gives op lhs rhs c ∧ word.Wraps (op.exact a b) c := by
  obtain ⟨x, hx, rfl⟩ := h.view_some hl
  obtain ⟨y, hy, rfl⟩ := h.view_some hr
  obtain ⟨c, hc, hwraps⟩ := h.on_wraps op x y hb
  refine ⟨toInt c, ⟨box c, ?_, h.type_box c, h.integer?_box c⟩, hwraps⟩
  rw [h.apply_eq, hx, hy]
  simp only [bind, Except.bind, hc]
  rfl

theorem zero (h : Implements family word as? box toInt on) (hl : family.integer? lhs = some a)
    (hr : family.integer? rhs = some 0) (hop : op.isDivision = true) :
    family.apply op lhs rhs = .error .divisionByZero := by
  obtain ⟨x, hx, -⟩ := h.view_some hl
  obtain ⟨y, hy, hzero⟩ := h.view_some hr
  rw [h.apply_eq, hx, hy]
  simp only [bind, Except.bind, h.on_zero op x y hop hzero]
  rfl

theorem mismatch_left (h : Implements family word as? box toInt on)
    (hl : family.integer? lhs = none) :
    family.apply op lhs rhs = .error (.typeMismatch family.required lhs.type) := by
  rw [h.apply_eq, h.view_none hl]
  rfl

theorem mismatch_right (h : Implements family word as? box toInt on)
    (hl : family.integer? lhs = some a) (hr : family.integer? rhs = none) :
    family.apply op lhs rhs = .error (.typeMismatch family.required rhs.type) := by
  obtain ⟨x, hx, -⟩ := h.view_some hl
  rw [h.apply_eq, hx, h.view_none hr]
  rfl

theorem answers (h : Implements family word as? box toInt on) (op : Operator) (lhs rhs : Value) :
    (∃ c, family.Gives op lhs rhs c) ∨
    (∃ found, family.apply op lhs rhs = .error (.typeMismatch family.required found)) ∨
    op.isDivision = true ∧ family.apply op lhs rhs = .error .divisionByZero := by
  cases hl : family.integer? lhs with
  | none => exact .inr (.inl ⟨_, h.mismatch_left hl⟩)
  | some a =>
    cases hr : family.integer? rhs with
    | none => exact .inr (.inl ⟨_, h.mismatch_right hl hr⟩)
    | some b =>
      by_cases hzero : op.isDivision = true ∧ b = 0
      · obtain ⟨hop, rfl⟩ := hzero
        exact .inr (.inr ⟨hop, h.zero hl hr hop⟩)
      · obtain ⟨c, hc, -⟩ := h.wraps op hl hr fun hop hb => hzero ⟨hop, hb⟩
        exact .inl ⟨c, hc⟩

/-- **A family that implements words is governed by them.** -/
theorem governs (h : Implements family word as? box toInt on) : word.Governs family where
  left _ _ _ hl := h.mismatch_left hl
  right _ _ _ _ hl hr := h.mismatch_right hl hr
  sum lhs rhs a b hl hr := h.wraps .add hl hr nofun
  difference lhs rhs a b hl hr := h.wraps .sub hl hr nofun
  product lhs rhs a b hl hr := h.wraps .mul hl hr nofun
  zero op lhs rhs a b hop hl hr := by
    constructor
    · intro herror
      by_contra hb
      obtain ⟨c, ⟨v, hv, -⟩, -⟩ := h.wraps op hl hr fun _ => hb
      rw [hv] at herror
      cases herror
    · rintro rfl
      exact h.zero hl hr (op.isDivision_iff.2 hop)
  division lhs rhs a b hl hr hb := by
    obtain ⟨q, hq, hwraps⟩ := h.wraps .div hl hr fun _ => hb
    obtain ⟨r, hr', hwraps'⟩ := h.wraps .mod hl hr fun _ => hb
    exact ⟨q, r, hq, hr',
      Word.divides_of_wraps (h.holds_integer? hl) (h.holds_integer? hr) hb hwraps hwraps'⟩
  answers op lhs rhs := by
    rw [← op.isDivision_iff]
    exact h.answers op lhs rhs

end Implements

/-- A code unit is divided by another as a natural number is. -/
theorem char_floor {lhs rhs : Value} {a b : Int} (hl : Family.char.integer? lhs = some a)
    (hr : Family.char.integer? rhs = some b) (hb : b ≠ 0) :
    Family.char.Gives .div lhs rhs (a.fdiv b) ∧ Family.char.Gives .mod lhs rhs (a.fmod b) := by
  have ha := char_implements.holds_integer? hl
  have hb' := char_implements.holds_integer? hr
  have hdiv : a.fdiv b = a.tdiv b := by
    rw [Int.fdiv_eq_ediv_of_nonneg a hb'.1, Int.tdiv_eq_ediv_of_nonneg ha.1]
  have hmod : a.fmod b = a.tmod b := by
    rw [Int.fmod_eq_emod_of_nonneg a hb'.1, Int.tmod_eq_emod_of_nonneg ha.1]
  have hne : (a, b) ≠ (Word.char.least, -1) := by
    intro heq
    rw [(Prod.mk.inj heq).2] at hb'
    exact absurd hb'.1 (by decide)
  obtain ⟨q, hgives, hwraps⟩ := char_implements.wraps .div hl hr fun _ => hb
  obtain ⟨r, hgives', hwraps'⟩ := char_implements.wraps .mod hl hr fun _ => hb
  obtain rfl : q = a.tdiv b := hwraps.eq_of_holds (Word.holds_tdiv ha hb' hne)
  obtain rfl : r = a.tmod b := hwraps'.eq_of_holds (Word.holds_tmod ha b)
  rw [hdiv, hmod]
  exact ⟨hgives, hgives'⟩

/-- **Arithmetic on words is exact up to wrapping around.** INT takes what is INT or CHAR and CHAR
only what is CHAR, and both follow the same laws, each in its own word. On code units, division is the
floor of the quotient. -/
theorem words_exact :
    Word.int.Governs .int ∧ Word.char.Governs .char ∧
    ∀ lhs rhs a b, Family.char.integer? lhs = some a → Family.char.integer? rhs = some b → b ≠ 0 →
      Family.char.Gives .div lhs rhs (a.fdiv b) ∧ Family.char.Gives .mod lhs rhs (a.fmod b) :=
  ⟨int_implements.governs, char_implements.governs, fun _ _ _ _ => char_floor⟩

/-- The one quotient that wraps around, and the remainder that goes with it. -/
theorem words_exact_of_least_quotient :
    ∃ q r, Family.int.Gives .div (.int (-2147483648)) (.int (-1)) q ∧
      Family.int.Gives .mod (.int (-2147483648)) (.int (-1)) r ∧ q = -2 ^ 31 ∧ r = 0 := by
  obtain ⟨q, r, hq, hr, hdivides⟩ :=
    words_exact.1.division (.int (-2147483648)) (.int (-1)) (-2147483648) (-1) rfl rfl (by decide)
  exact ⟨q, r, hq, hr, hdivides.overflow rfl⟩

/-! ## One family in the other -/

theorem eq_int_of_gives {op : Operator} {lhs rhs : Value} {z : Int}
    (h : Family.int.Gives op lhs rhs z) :
    ∃ i : Int32, Family.int.apply op lhs rhs = .ok (.int i) ∧ i.toInt = z := by
  obtain ⟨v, hv, htype, hz⟩ := h
  cases v with
  | int i => exact ⟨i, hv, Option.some.inj hz⟩
  | bool | char | double | str | identifier | void => cases htype

theorem eq_char_of_gives {op : Operator} {lhs rhs : Value} {z : Int}
    (h : Family.char.Gives op lhs rhs z) :
    ∃ unit : UInt16, Family.char.apply op lhs rhs = .ok (.char unit) ∧ (unit.toNat : Int) = z := by
  obtain ⟨v, hv, htype, hz⟩ := h
  cases v with
  | char unit => exact ⟨unit, hv, Option.some.inj hz⟩
  | bool | int | double | str | identifier | void => cases htype

/-- A code unit is the low half of a word that it is congruent to. -/
theorem eq_low_half {unit : UInt16} {i : Int32} (h : (unit.toNat : Int) ≡ i.toInt [ZMOD 2 ^ 16]) :
    unit = i.toUInt32.toUInt16 := by
  have hlt := unit.toNat_lt
  have hbits : i.toInt = (i.toUInt32.toNat : Int).bmod (2 ^ 32) := BitVec.toInt_eq_toNat_bmod _
  have hword : i.toInt ≡ i.toUInt32.toNat [ZMOD 2 ^ 32] := by
    rw [hbits]
    exact Int.bmod_emod
  have hunit := h.trans (hword.of_dvd (by decide))
  rw [← UInt16.toNat_inj, UInt32.toNat_toUInt16]
  unfold Int.ModEq at hunit
  omega

/-- **CHAR computes the low half of what INT computes.** On two code units, whatever the operator, both
families give a result or both divide by zero. -/
theorem char_low_half (op : Operator) (a b : UInt16) :
    ((∃ v, Family.char.apply op (.char a) (.char b) = .ok v) ↔
      ∃ v, Family.int.apply op (.char a) (.char b) = .ok v) ∧
    (∀ e, Family.char.apply op (.char a) (.char b) = .error e ∨
      Family.int.apply op (.char a) (.char b) = .error e → e = .divisionByZero) ∧
    ∀ v w, Family.char.apply op (.char a) (.char b) = .ok v →
      Family.int.apply op (.char a) (.char b) = .ok w →
      ∃ (unit : UInt16) (i : Int32), v = .char unit ∧ w = .int i ∧ unit = i.toUInt32.toUInt16 := by
  have ha : ∀ x : UInt16, Family.char.integer? (.char x) = some (x.toNat : Int) := fun _ => rfl
  have hi : ∀ x : UInt16, Family.int.integer? (.char x) = some (x.toNat : Int) := fun _ => rfl
  by_cases hzero : op.isDivision = true ∧ (b.toNat : Int) = 0
  · obtain ⟨hop, hb⟩ := hzero
    have hchar := char_implements.zero (ha a) (by rw [ha b, hb]) hop
    have hint := int_implements.zero (hi a) (by rw [hi b, hb]) hop
    rw [hchar, hint]
    simp
  · have hb : op.isDivision = true → (b.toNat : Int) ≠ 0 := fun hop h => hzero ⟨hop, h⟩
    obtain ⟨c, hgives, hwraps⟩ := char_implements.wraps op (ha a) (ha b) hb
    obtain ⟨d, hgives', hwraps'⟩ := int_implements.wraps op (hi a) (hi b) hb
    obtain ⟨unit, hunit, rfl⟩ := eq_char_of_gives hgives
    obtain ⟨i, hint, rfl⟩ := eq_int_of_gives hgives'
    -- both are what one exact result leaves, and the smaller word divides the larger one
    have hlow : unit = i.toUInt32.toUInt16 :=
      eq_low_half (hwraps.modEq.trans (hwraps'.modEq.symm.of_dvd (by decide)))
    rw [hunit, hint]
    refine ⟨by simp, by simp, ?_⟩
    rintro v w hv hw
    cases hv
    cases hw
    exact ⟨unit, i, rfl, rfl, hlow⟩

/-- The greatest code unit squared, which is negative as an integer. -/
theorem char_low_half_of_square :
    Family.char.apply .mul (.char 65535) (.char 65535) = .ok (.char 1) ∧
      Family.int.apply .mul (.char 65535) (.char 65535) = .ok (.int (-131071)) ∧
      (1 : UInt16) = (-131071 : Int32).toUInt32.toUInt16 := by
  have hchar : Family.char.apply .mul (.char 65535) (.char 65535) = .ok (.char 1) := by decide
  have hint : Family.int.apply .mul (.char 65535) (.char 65535) = .ok (.int (-131071)) := by decide
  obtain ⟨unit, i, hunit, hi, hlow⟩ := (char_low_half .mul 65535 65535).2.2 _ _ hchar hint
  cases hunit
  cases hi
  exact ⟨hchar, hint, hlow⟩

end Family

end ScriptMachine
