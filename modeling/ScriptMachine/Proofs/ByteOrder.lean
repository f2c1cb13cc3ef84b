import Mathlib.Algebra.Order.Ring.Nat
import ScriptMachine.SortedMap

/-!
# The order of texts as bytes

Names are in the order of their characters, code point by code point. That is also the order of their
UTF-8 bytes: the first byte of a character grows with the number of bytes, and after it the bytes are the
digits of the code point in base 64 (`continuation`), so that a greater code point is greater at the first
byte that differs (`utf8EncodeChar_append_lt`).
-/

namespace ScriptMachine.Text

/-- The UTF-8 bytes of a text. -/
def bytes (text : String) : List UInt8 := text.toUTF8.data.toList

theorem bytes_eq_flatMap (text : String) : bytes text = text.toList.flatMap String.utf8EncodeChar := by
  have hbytes : text.toByteArray = text.toList.utf8Encode := by
    rw [← String.toByteArray_ofList, String.ofList_toList]
  simp [bytes, hbytes, List.utf8Encode]

/-! ## One character -/

/-- The last digits of a number in base 64, each marked as a byte that continues a character. -/
def continuation (v : Nat) : Nat → List UInt8
  | 0 => []
  | n + 1 => UInt8.ofNat (v / 64 ^ n % 64 + 0x80) :: continuation v n

theorem cons_ofNat_lt_iff {a b : Nat} (ha : a < 256) (hb : b < 256) {xs ys : List UInt8} :
    UInt8.ofNat a :: xs < UInt8.ofNat b :: ys ↔ a < b ∨ a = b ∧ xs < ys := by
  rw [List.cons_lt_cons_iff, UInt8.lt_iff_toNat_lt, ← UInt8.toNat_inj,
    UInt8.toNat_ofNat_of_lt' ha, UInt8.toNat_ofNat_of_lt' hb]

theorem continuation_append_lt {v w : Nat} (n : Nat) (h : v % 64 ^ n < w % 64 ^ n)
    (xs ys : List UInt8) : continuation v n ++ xs < continuation w n ++ ys := by
  induction n with
  | zero => simp [Nat.mod_one] at h
  | succ n ih =>
    have hv := Nat.mod_lt v (Nat.pow_pos (n := n) (by decide : 0 < 64))
    have hw := Nat.mod_lt w (Nat.pow_pos (n := n) (by decide : 0 < 64))
    rw [Nat.mod_pow_succ, Nat.mod_pow_succ] at h
    refine (cons_ofNat_lt_iff (by omega) (by omega)).2 ?_
    rcases Nat.lt_trichotomy (v / 64 ^ n % 64) (w / 64 ^ n % 64) with hlt | heq | hgt
    · exact .inl (by omega)
    · rw [heq] at h
      exact .inr ⟨by omega, ih (by omega)⟩
    · -- a greater digit outweighs all that follow it
      have hmul := Nat.mul_le_mul_left (64 ^ n) (Nat.succ_le_of_lt hgt)
      rw [Nat.succ_eq_add_one, Nat.mul_add_one] at hmul
      omega

/-- The ways to begin a character, by the number of bytes that continue it. -/
inductive Lead (v : Nat) : Nat → Nat → Prop
  | one (h : v < 0x80) : Lead v 0 v
  | two (h : 0x80 ≤ v) (h' : v < 0x800) : Lead v 1 (v / 64 % 0x20 + 0xC0)
  | three (h : 0x800 ≤ v) (h' : v < 0x10000) : Lead v 2 (v / 4096 % 0x10 + 0xE0)
  | four (h : 0x10000 ≤ v) (h' : v < 0x110000) : Lead v 3 (v / 262144 % 0x08 + 0xF0)

theorem exists_lead (c : Char) : ∃ n lead, Lead c.toNat n lead ∧
    String.utf8EncodeChar c = UInt8.ofNat lead :: continuation c.toNat n := by
  have hvalid : c.toNat.isValidChar := c.valid
  unfold Nat.isValidChar at hvalid
  unfold String.utf8EncodeChar
  rw [Char.toNat_val]
  by_cases h1 : c.toNat ≤ 0x7F
  · exact ⟨0, _, .one (by omega), if_pos h1⟩
  by_cases h2 : c.toNat ≤ 0x7FF
  · exact ⟨1, _, .two (by omega) (by omega), by simp [h1, h2, continuation]⟩
  by_cases h3 : c.toNat ≤ 0xFFFF
  · exact ⟨2, _, .three (by omega) (by omega), by simp [h1, h2, h3, continuation]⟩
  · exact ⟨3, _, .four (by omega) (by omega), by simp [h1, h2, h3, continuation]⟩

theorem Lead.lt_256 {v n lead : Nat} (h : Lead v n lead) : lead < 256 := by
  cases h <;> omega

/-- Of two code points, the greater one has more bytes and a greater first byte, or as many bytes and is
greater by its digits. -/
theorem Lead.lt_or_eq {v w n m lead lead' : Nat} (hv : Lead v n lead) (hw : Lead w m lead')
    (h : v < w) : lead < lead' ∨ lead = lead' ∧ n = m ∧ v % 64 ^ n < w % 64 ^ n := by
  cases hv <;> cases hw <;> omega

theorem utf8EncodeChar_append_lt {c d : Char} (h : c < d) (xs ys : List UInt8) :
    String.utf8EncodeChar c ++ xs < String.utf8EncodeChar d ++ ys := by
  obtain ⟨n, lead, hlead, hc⟩ := exists_lead c
  obtain ⟨m, lead', hlead', hd⟩ := exists_lead d
  rw [hc, hd, List.cons_append, List.cons_append, cons_ofNat_lt_iff hlead.lt_256 hlead'.lt_256]
  rcases hlead.lt_or_eq hlead' h with hlt | ⟨heq, rfl, hdigits⟩
  · exact .inl hlt
  · exact .inr ⟨heq, continuation_append_lt n hdigits xs ys⟩

/-! ## Texts -/

theorem flatMap_utf8EncodeChar_lt {cs ds : List Char} (h : cs < ds) :
    cs.flatMap String.utf8EncodeChar < ds.flatMap String.utf8EncodeChar := by
  induction h with
  | nil =>
    obtain ⟨n, lead, -, hlead⟩ := exists_lead _
    rw [List.flatMap_nil, List.flatMap_cons, hlead]
    exact List.nil_lt_cons _ _
  | rel h => exact utf8EncodeChar_append_lt h _ _
  | cons _ ih => exact List.append_left_lt ih

/-- **A text that comes before another does so by its bytes.** -/
theorem bytes_lt_of_lt {a b : String} (h : a < b) : bytes a < bytes b := by
  rw [bytes_eq_flatMap, bytes_eq_flatMap]
  exact flatMap_utf8EncodeChar_lt h

end ScriptMachine.Text
