import Mathlib
import ScriptMachine.Number.Binary64

/-!
# Doubles as numbers

A double that is a number stands for a rational number or for an infinity (`number?`). Finite ones are
whole multiples of the least positive double, and the integer by which doubles are ordered grows with
that multiple (`units_strictMono`), so the order of doubles is that of the numbers they stand for
(`order_eq_cmp`). An integer that is made a double stands for itself (`number?_ofSmallInt`).
-/

namespace ScriptMachine.Number

/-- Rational numbers with the two infinities. -/
abbrev Extended := WithBot (WithTop ℚ)

/-- A rational number among the extended ones. -/
def Extended.ofRat (q : ℚ) : Extended := ((q : WithTop ℚ) : WithBot (WithTop ℚ))

/-- The number that a double stands for, by its parts. -/
def Parts.number? : Parts → Option Extended
  | notANumber => none
  | infinite true => some ⊥
  | infinite false => some ⊤
  | finite negative significand exponent =>
    some (.ofRat ((if negative then -1 else 1) * significand * 2 ^ exponent))

def number? (x : Float) : Option Extended := (parts x).number?

theorem Extended.ofRat_strictMono : StrictMono Extended.ofRat := by
  intro p q h
  exact WithBot.coe_lt_coe.2 (WithTop.coe_lt_coe.2 h)

theorem Extended.bot_lt_ofRat (q : ℚ) : (⊥ : Extended) < .ofRat q := WithBot.bot_lt_coe _

theorem Extended.ofRat_lt_top (q : ℚ) : Extended.ofRat q < ⊤ :=
  WithBot.coe_lt_coe.2 (WithTop.coe_lt_top q)

/-! ## Multiples of the least double -/

/-- A magnitude by its bits, as a multiple of the least positive double. -/
def units (magnitude : Nat) : Nat :=
  if magnitude / hiddenBit = 0 then magnitude % hiddenBit
  else (hiddenBit + magnitude % hiddenBit) * 2 ^ (magnitude / hiddenBit - 1)

/-- The exponent and the fraction that a magnitude is made of. -/
theorem fields_of_lt {fraction : Nat} (biased : Nat) (h : fraction < hiddenBit) :
    (biased * hiddenBit + fraction) / hiddenBit = biased ∧
      (biased * hiddenBit + fraction) % hiddenBit = fraction := by
  refine ⟨?_, ?_⟩
  · rw [Nat.add_comm, Nat.add_mul_div_right _ _ (by decide), Nat.div_eq_of_lt h, Nat.zero_add]
  · rw [Nat.add_comm, Nat.add_mul_mod_self_right, Nat.mod_eq_of_lt h]

theorem units_of_lt {fraction : Nat} (h : fraction < hiddenBit) : units fraction = fraction := by
  unfold units
  rw [Nat.div_eq_of_lt h, if_pos rfl, Nat.mod_eq_of_lt h]

theorem units_normal {fraction : Nat} (biased : Nat) (h : fraction < hiddenBit) :
    units ((biased + 1) * hiddenBit + fraction) = (hiddenBit + fraction) * 2 ^ biased := by
  obtain ⟨hdiv, hmod⟩ := fields_of_lt (biased + 1) h
  unfold units
  rw [hdiv, hmod, if_neg (by omega), Nat.add_sub_cancel]

/-- The next magnitude is larger, also where the exponent changes. -/
theorem units_lt_succ (magnitude : Nat) : units magnitude < units (magnitude + 1) := by
  have hpos : 0 < hiddenBit := by decide
  have hfraction := Nat.mod_lt magnitude hpos
  have hsplit : magnitude / hiddenBit * hiddenBit + magnitude % hiddenBit = magnitude :=
    Nat.div_add_mod' magnitude hiddenBit
  generalize magnitude / hiddenBit = biased at hsplit
  generalize magnitude % hiddenBit = fraction at hsplit hfraction
  subst hsplit
  cases biased with
  | zero =>
    rw [Nat.zero_mul, Nat.zero_add, units_of_lt hfraction]
    by_cases hnext : fraction + 1 < hiddenBit
    · rw [units_of_lt hnext]
      omega
    · have heq : fraction + 1 = (0 + 1) * hiddenBit + 0 := by omega
      rw [heq, units_normal 0 hpos]
      omega
  | succ biased =>
    have hpow : 0 < 2 ^ biased := Nat.two_pow_pos biased
    rw [units_normal biased hfraction]
    by_cases hnext : fraction + 1 < hiddenBit
    · rw [Nat.add_assoc, units_normal biased hnext]
      exact Nat.mul_lt_mul_of_pos_right (by omega) hpow
    · have heq : (biased + 1) * hiddenBit + fraction + 1 = (biased + 1 + 1) * hiddenBit + 0 := by
        rw [Nat.succ_mul (biased + 1)]
        omega
      rw [heq, units_normal (biased + 1) hpos, Nat.pow_succ']
      calc (hiddenBit + fraction) * 2 ^ biased < (hiddenBit * 2) * 2 ^ biased :=
            Nat.mul_lt_mul_of_pos_right (by omega) hpow
        _ = (hiddenBit + 0) * (2 * 2 ^ biased) := by ring

theorem units_strictMono : StrictMono units := strictMono_nat_of_lt_succ units_lt_succ

/-- The multiple of the least positive double, with its sign, that a key stands for. -/
def signedUnits (key : Int) : Int :=
  if key < 0 then -(units key.natAbs : Int) else units key.natAbs

theorem signedUnits_strictMono : StrictMono signedUnits := by
  intro k l hkl
  have hzero : units 0 = 0 := rfl
  have hk := units_strictMono.monotone (Nat.zero_le k.natAbs)
  have hneg : 0 < k.natAbs → units 0 < units k.natAbs := fun h => units_strictMono h
  have hup : k.natAbs < l.natAbs → units k.natAbs < units l.natAbs := fun h => units_strictMono h
  have hdown : l.natAbs < k.natAbs → units l.natAbs < units k.natAbs := fun h => units_strictMono h
  unfold signedUnits
  split <;> split <;> omega

theorem signedUnits_orderKey (x : Float) :
    signedUnits (orderKey x) = (if isNegative x then -1 else 1) * (units (magnitudeBits x) : Int) := by
  unfold signedUnits orderKey
  by_cases hneg : isNegative x = true
  · rw [if_pos hneg, if_pos hneg, Int.natAbs_neg, Int.natAbs_natCast]
    by_cases hzero : magnitudeBits x = 0
    · rw [hzero]
      rfl
    · rw [if_pos (by omega)]
      ring
  · rw [if_neg hneg, if_neg hneg, if_neg (by omega), Int.natAbs_natCast]
    ring

/-! ## The number of a double -/

theorem magnitudeBits_lt (x : Float) : magnitudeBits x < signBit := Nat.mod_lt _ (by decide)

theorem parts_eq {x : Float} {biased fraction : Nat}
    (hbits : magnitudeBits x = biased * hiddenBit + fraction) (h : fraction < hiddenBit) :
    parts x =
      if biased = 2047 then if fraction = 0 then .infinite (isNegative x) else .notANumber
      else if biased = 0 then .finite (isNegative x) fraction leastExponent
      else .finite (isNegative x) (hiddenBit + fraction) ((biased : Int) - 1075) := by
  obtain ⟨hdiv, hmod⟩ := fields_of_lt biased h
  unfold parts
  rw [hbits, hdiv, hmod]

theorem exists_fields (x : Float) : ∃ biased fraction : Nat,
    fraction < hiddenBit ∧ magnitudeBits x = biased * hiddenBit + fraction :=
  ⟨_, _, Nat.mod_lt _ (by decide), (Nat.div_add_mod' _ _).symm⟩

theorem number?_of_finite {x : Float} (h : magnitudeBits x < infinityBits) :
    number? x = some (.ofRat (signedUnits (orderKey x) * 2 ^ leastExponent)) := by
  obtain ⟨biased, fraction, hfraction, hbits⟩ := exists_fields x
  rw [signedUnits_orderKey, number?, parts_eq hbits hfraction, hbits]
  rw [hbits, infinityBits] at h
  unfold hiddenBit at hfraction
  rw [if_neg (by unfold hiddenBit at h; omega)]
  cases biased with
  | zero =>
    rw [if_pos rfl, Nat.zero_mul, Nat.zero_add, units_of_lt hfraction]
    simp only [Parts.number?]
    push_cast
    rfl
  | succ biased =>
    have hscale : (2 : ℚ) ^ (((biased + 1 : Nat) : Int) - 1075) =
        2 ^ biased * 2 ^ leastExponent := by
      rw [← zpow_natCast, ← zpow_add₀ (by decide), leastExponent]
      congr 1
      push_cast
      ring
    rw [if_neg (by omega), units_normal biased hfraction]
    simp only [Parts.number?, hscale]
    push_cast
    ring_nf

theorem number?_of_infinite {x : Float} (h : magnitudeBits x = infinityBits) :
    number? x = some (if isNegative x then ⊥ else ⊤) := by
  have hbits : magnitudeBits x = 2047 * hiddenBit + 0 := h
  rw [number?, parts_eq hbits (by decide), if_pos rfl, if_pos rfl]
  cases isNegative x <;> rfl

theorem number?_of_isNaN {x : Float} (h : isNaN x = true) : number? x = none := by
  obtain ⟨biased, fraction, hfraction, hbits⟩ := exists_fields x
  have hlt := magnitudeBits_lt x
  have hnan : infinityBits < magnitudeBits x := by simpa [isNaN] using h
  rw [number?, parts_eq hbits hfraction]
  unfold infinityBits signBit hiddenBit at *
  rw [if_pos (by omega), if_neg (by omega)]
  rfl

/-! ## The order -/

/-- The number that a key stands for. -/
def Extended.ofKey (key : Int) : Extended :=
  if key ≤ -infinityBits then ⊥
  else if infinityBits ≤ key then ⊤
  else .ofRat (signedUnits key * 2 ^ leastExponent)

theorem number?_eq_ofKey {x : Float} (h : isNaN x = false) :
    number? x = some (.ofKey (orderKey x)) := by
  have hle : magnitudeBits x ≤ infinityBits := by simpa [isNaN] using h
  have hpos : 0 < infinityBits := by decide
  unfold Extended.ofKey
  rcases Nat.lt_or_eq_of_le hle with hlt | heq
  · have hlower : ¬ orderKey x ≤ -infinityBits := by
      unfold orderKey
      split <;> omega
    have hupper : ¬ infinityBits ≤ orderKey x := by
      unfold orderKey
      split <;> omega
    rw [number?_of_finite hlt, if_neg hlower, if_neg hupper]
  · rw [number?_of_infinite heq]
    unfold orderKey
    by_cases hneg : isNegative x = true
    · rw [if_pos hneg, if_pos hneg, if_pos (by omega)]
    · rw [if_neg hneg, if_neg hneg, if_neg (by omega), if_pos (by omega)]

theorem Extended.ofKey_strictMonoOn :
    StrictMonoOn Extended.ofKey (Set.Icc (-infinityBits) infinityBits) := by
  intro k hk l hl hkl
  have hscale : (0 : ℚ) < 2 ^ leastExponent := zpow_pos (by decide) _
  obtain ⟨hk, -⟩ := hk
  obtain ⟨-, hl⟩ := hl
  unfold Extended.ofKey
  rw [if_neg (show ¬ l ≤ -infinityBits by omega), if_neg (show ¬ infinityBits ≤ k by omega)]
  by_cases hbot : k ≤ -infinityBits
  · rw [if_pos hbot]
    split
    · exact bot_lt_top
    · exact bot_lt_ofRat _
  · rw [if_neg hbot]
    split
    · exact ofRat_lt_top _
    · have hunits : (signedUnits k : ℚ) < signedUnits l := by
        exact_mod_cast signedUnits_strictMono hkl
      exact ofRat_strictMono (mul_lt_mul_of_pos_right hunits hscale)

theorem orderKey_mem {x : Float} (h : isNaN x = false) :
    orderKey x ∈ Set.Icc (-infinityBits : Int) infinityBits := by
  have hle : magnitudeBits x ≤ infinityBits := by simpa [isNaN] using h
  unfold orderKey
  split <;> constructor <;> omega

theorem number?_eq_none_iff {x : Float} : number? x = none ↔ isNaN x = true := by
  cases h : isNaN x with
  | true => simp [number?_of_isNaN h]
  | false => simp [number?_eq_ofKey h]

theorem isNaN_of_number? {x : Float} {p : Extended} (h : number? x = some p) : isNaN x = false := by
  rw [Bool.eq_false_iff, Ne, ← number?_eq_none_iff, h]
  simp

/-- **Doubles are ordered as the numbers they stand for.** -/
theorem order_eq_cmp {x y : Float} {p q : Extended} (hp : number? x = some p)
    (hq : number? y = some q) : order x y = some (cmp p q) := by
  have hx := isNaN_of_number? hp
  have hy := isNaN_of_number? hq
  rw [number?_eq_ofKey hx] at hp
  rw [number?_eq_ofKey hy] at hq
  cases hp
  cases hq
  rw [Extended.ofKey_strictMonoOn.cmp_map_eq (orderKey_mem hx) (orderKey_mem hy), cmp_eq_compare]
  simp [order, hx, hy]

/-! ## Exact doubles -/

section

open Float.Model

theorem toNat_unpackExponent (bits : BitVec 64) :
    (@UnpackedFloat.unpackExponent Format.binary64 bits).toNat = bits.toNat / 2 ^ 52 % 2 ^ 11 := by
  simp [UnpackedFloat.unpackExponent, BitVec.extractLsb, Nat.shiftRight_eq_div_pow]

theorem toNat_unpackMantissa (bits : BitVec 64) :
    (@UnpackedFloat.unpackMantissa Format.binary64 bits).toNat = bits.toNat % 2 ^ 52 := by
  simp [UnpackedFloat.unpackMantissa, BitVec.extractLsb]

/-- Bits whose magnitude is not beyond infinity are those of a double. -/
theorem toBits_ofBits {bits : UInt64} (h : bits.toNat % signBit ≤ infinityBits) :
    (Float.ofBits bits).toBits = bits := by
  have hvalid : Format.binary64.Valid bits.toBitVec := by
    refine ⟨fun hexponent hmantissa => absurd ?_ hmantissa⟩
    have hgreatest : bits.toNat / 2 ^ 52 % 2 ^ 11 = 2047 := by
      have htoNat := congrArg BitVec.toNat hexponent
      rwa [toNat_unpackExponent] at htoNat
    apply BitVec.eq_of_toNat_eq
    rw [toNat_unpackMantissa]
    unfold signBit infinityBits at h
    show bits.toNat % 2 ^ 52 = 0
    omega
  exact congrArg Float.toBits (Float.ofBits_toBits ⟨⟨bits, hvalid⟩⟩)

end

/-- A magnitude is put together from a significand at its place: the place is the lowest, or the
significand reaches the bit that is not stored. -/
theorem units_place {place significand : Nat} (hlt : significand < 2 * hiddenBit)
    (hplace : place = 0 ∨ hiddenBit ≤ significand) :
    units (place * hiddenBit + significand) = significand * 2 ^ place := by
  by_cases hnormal : hiddenBit ≤ significand
  · have heq : place * hiddenBit + significand =
        (place + 1) * hiddenBit + (significand - hiddenBit) := by
      rw [Nat.succ_mul]
      omega
    rw [heq, units_normal place (by omega), Nat.add_sub_cancel' hnormal]
  · have hzero : place = 0 := by omega
    rw [hzero, Nat.zero_mul, Nat.zero_add, units_of_lt (by omega), Nat.pow_zero, Nat.mul_one]

/-- The double of a sign and a magnitude. -/
theorem number?_ofBits (negative : Bool) {magnitude : Nat} (h : magnitude < infinityBits) :
    number? (Float.ofBits (UInt64.ofNat ((if negative then signBit else 0) + magnitude))) =
      some (.ofRat ((if negative then -1 else 1) * units magnitude * 2 ^ leastExponent)) := by
  have hinfinity : infinityBits < signBit := by decide
  have hmod : ((if negative then signBit else 0) + magnitude) % signBit = magnitude := by
    split
    · rw [Nat.add_mod_left, Nat.mod_eq_of_lt (by omega)]
    · rw [Nat.zero_add, Nat.mod_eq_of_lt (by omega)]
  have hnegative : decide (signBit ≤ (if negative then signBit else 0) + magnitude) = negative := by
    cases negative with
    | true => simp
    | false => simp; omega
  have htoNat : (UInt64.ofNat ((if negative then signBit else 0) + magnitude)).toNat =
      (if negative then signBit else 0) + magnitude := by
    apply UInt64.toNat_ofNat_of_lt'
    unfold signBit infinityBits at *
    split <;> simp only [UInt64.size] <;> omega
  generalize (if negative then signBit else 0) + magnitude = bits at *
  have hbits : (Float.ofBits (UInt64.ofNat bits)).toBits.toNat = bits := by
    rw [toBits_ofBits (by rw [htoNat, hmod]; omega), htoNat]
  have hmagnitude : magnitudeBits (Float.ofBits (UInt64.ofNat bits)) = magnitude := by
    rw [magnitudeBits, hbits, hmod]
  have hsign : isNegative (Float.ofBits (UInt64.ofNat bits)) = negative := by
    rw [isNegative, hbits, hnegative]
  rw [number?_of_finite (by rw [hmagnitude]; exact h), signedUnits_orderKey, hmagnitude, hsign]
  push_cast
  rfl

/-- Moved up as far as there is room above the least exponent, a significand still fits, and it is in
its normal place unless all of that room was needed. -/
theorem shift_fits {significand : Nat} (hzero : significand ≠ 0) (h : significand < 2 ^ 53)
    (above : Nat) :
    let shift := min (52 - significand.log2) above
    significand * 2 ^ shift < 2 * hiddenBit ∧
      (above - shift = 0 ∨ hiddenBit ≤ significand * 2 ^ shift) := by
  intro shift
  have hlog : significand.log2 < 53 := (Nat.log2_lt hzero).2 h
  have hhidden : 2 ^ significand.log2 * 2 ^ (52 - significand.log2) = hiddenBit := by
    rw [← Nat.pow_add, show significand.log2 + (52 - significand.log2) = 52 by omega]
    rfl
  refine ⟨?_, ?_⟩
  · calc significand * 2 ^ shift < 2 ^ (significand.log2 + 1) * 2 ^ shift :=
          Nat.mul_lt_mul_of_pos_right Nat.lt_log2_self (Nat.two_pow_pos _)
      _ ≤ 2 ^ (significand.log2 + 1) * 2 ^ (52 - significand.log2) :=
          Nat.mul_le_mul_left _ (Nat.pow_le_pow_right (by decide) (Nat.min_le_left _ _))
      _ = 2 * hiddenBit := by rw [Nat.pow_succ', Nat.mul_assoc, hhidden]
  · by_cases hroom : above ≤ 52 - significand.log2
    · exact .inl (by omega)
    · refine .inr ?_
      rw [show shift = 52 - significand.log2 by omega, ← hhidden]
      exact Nat.mul_le_mul_right _ (Nat.log2_self_le hzero)

/-- A significand and an exponent that a double can have make the double of that number. -/
theorem number?_exact (negative : Bool) {significand : Nat} {exponent : Int}
    (hsignificand : significand < 2 ^ 53) (hleast : leastExponent ≤ exponent)
    (hgreatest : exponent ≤ 971) :
    number? (exact negative significand exponent) =
      some (.ofRat ((if negative then -1 else 1) * significand * 2 ^ exponent)) := by
  obtain ⟨above, rfl⟩ : ∃ above : Nat, exponent = leastExponent + above :=
    ⟨(exponent - leastExponent).toNat, by omega⟩
  have habove : above ≤ 2045 := by
    unfold leastExponent at hgreatest
    omega
  unfold exact
  by_cases hzero : significand = 0
  · have hbits := number?_ofBits negative (show 0 < infinityBits by decide)
    rw [if_pos hzero]
    rw [Nat.add_zero] at hbits
    rw [hbits, hzero, units_of_lt (by decide)]
    simp
  · obtain ⟨hlt, hplace⟩ := shift_fits hzero hsignificand above
    rw [if_neg hzero, show (leastExponent + above - leastExponent).toNat = above by omega]
    have hshift : min (52 - significand.log2) above ≤ above := Nat.min_le_right _ _
    generalize min (52 - significand.log2) above = shift at *
    have hmagnitude : (above - shift) * hiddenBit + significand * 2 ^ shift < infinityBits := by
      have hle := Nat.mul_le_mul_right hiddenBit (show above - shift ≤ 2045 by omega)
      unfold hiddenBit infinityBits at *
      omega
    have hunits : (significand * 2 ^ shift * 2 ^ (above - shift) : ℚ) =
        significand * 2 ^ above := by
      rw [mul_assoc, ← pow_add, Nat.add_sub_cancel' hshift]
    dsimp only
    rw [Nat.add_assoc, Nat.pow_eq, number?_ofBits negative hmagnitude, units_place hlt hplace,
      zpow_add₀ (by decide), zpow_natCast]
    push_cast
    rw [hunits]
    ring_nf

theorem number?_ofSmallInt {i : Int} (h : i.natAbs < 2 ^ 53) :
    number? (ofSmallInt i) = some (.ofRat i) := by
  have hsign : ((if decide (i < 0) then -1 else 1) * (i.natAbs : ℚ)) = i := by
    rw [Nat.cast_natAbs]
    by_cases hneg : i < 0
    · simp [hneg, abs_of_neg hneg]
    · simp [hneg, abs_of_nonneg (Int.not_lt.1 hneg)]
  unfold ofSmallInt
  rw [number?_exact _ h (by decide) (by decide), hsign, zpow_zero, mul_one]

end ScriptMachine.Number
