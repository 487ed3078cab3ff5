import ChipEight.Instruction.Basic
import Mathlib.Data.Nat.Bitwise
import Mathlib.Tactic.Common

/-!
# The parts of a word as numbers

The digits, the address and the low byte of a word are quotients and remainders of its value, and
a word of two bytes has the high one's value 256 times.
-/

namespace ChipEight.Word

/-! ### Parts -/

theorem toNat_address (w : UInt16) : (address w).toNat = w.toNat % 0x1000 := by
  rw [address, UInt16.toNat_and]
  exact Nat.and_two_pow_sub_one_eq_mod w.toNat 12

theorem toNat_lowByte (w : UInt16) : (lowByte w).toNat = w.toNat % 0x100 := by
  simp [lowByte]

/-- Only the low byte of a word is cut off by the mask of the high one. -/
theorem toNat_and_high (w : UInt16) : (w &&& 0xFF00).toNat = w.toNat / 0x100 * 0x100 := by
  have hw : w.toNat < 2 ^ 16 := w.toNat_lt
  have hmask : (0xFF00 : UInt16).toNat = (2 ^ 8 - 1) <<< 8 := rfl
  have hdiv : w.toNat / 0x100 * 0x100 = w.toNat >>> 8 <<< 8 := by
    simp [Nat.shiftRight_eq_div_pow, Nat.shiftLeft_eq]
  rw [UInt16.toNat_and, hmask, hdiv]
  apply Nat.eq_of_testBit_eq
  intro i
  simp only [Nat.testBit_and, Nat.testBit_shiftLeft, Nat.testBit_shiftRight,
    Nat.testBit_two_pow_sub_one]
  rcases Nat.lt_or_ge i 8 with h | h
  · have : ¬ 8 ≤ i := by omega
    simp [this]
  · rcases Nat.lt_or_ge i 16 with h' | h'
    · have : i - 8 < 8 := by omega
      simp [h, this]
    · have : w.toNat.testBit i = false :=
        Nat.testBit_lt_two_pow (hw.trans_le (Nat.pow_le_pow_right (by decide) h'))
      simp [h, this]

/-! ### Words of given parts -/

theorem toNat_ofBytes (high low : UInt8) :
    (ofBytes high low).toNat = 0x100 * high.toNat + low.toNat := by
  have hhigh := high.toNat_lt
  have hlow : low.toNat < 2 ^ 8 := low.toNat_lt
  have hmod : high.toNat <<< 8 % 2 ^ 16 = high.toNat <<< 8 := by
    rw [Nat.shiftLeft_eq]
    omega
  simp only [ofBytes, UInt16.toNat_or, UInt16.toNat_shiftLeft, UInt8.toNat_toUInt16]
  rw [show (8 : UInt16).toNat % 16 = 8 from rfl, hmod, ← Nat.shiftLeft_add_eq_or_of_lt hlow,
    Nat.shiftLeft_eq, Nat.mul_comm]

theorem ofBytes_eq_ofNat (high low : UInt8) :
    ofBytes high low = UInt16.ofNat (0x100 * high.toNat + low.toNat) := by
  rw [← toNat_ofBytes, UInt16.ofNat_toNat]

theorem ofBytes_and_high (high low : UInt8) : ofBytes high low &&& 0xFF00 = ofBytes high 0 := by
  have hlow := low.toNat_lt
  apply UInt16.toNat_inj.1
  rw [toNat_and_high, toNat_ofBytes, toNat_ofBytes, UInt8.toNat_zero]
  omega

theorem register_eq {w : UInt16} {k : Nat} {x : Fin 16} (h : digit w k = x) :
    register w k = .general x := by
  rw [register, Register.ofNumber, h]
  exact congrArg Register.general (Fin.ext (Nat.mod_eq_of_lt x.isLt))

theorem address_eq {w nnn : UInt16} (h : w.toNat % 0x1000 = nnn.toNat) : address w = nnn :=
  UInt16.toNat_inj.1 ((toNat_address w).trans h)

theorem lowByte_eq {w : UInt16} {kk : UInt8} (h : w.toNat % 0x100 = kk.toNat) : lowByte w = kk :=
  UInt8.toNat_inj.1 ((toNat_lowByte w).trans h)

end ChipEight.Word
