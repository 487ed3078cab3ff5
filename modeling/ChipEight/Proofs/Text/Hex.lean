import ChipEight.Text.Hex
import Mathlib.Data.List.Basic

/-!
# Hexadecimal digits

There are sixteen digits, six of them in either case, and the value of a digit is its place among
them. No other character is one, whatever script it belongs to.
-/

namespace ChipEight.Hex

/-- The digits in the order of their values. -/
def digits : List Char :=
  ['0', '1', '2', '3', '4', '5', '6', '7', '8', '9', 'a', 'b', 'c', 'd', 'e', 'f']

/-- One of the digits, in either case. -/
def IsDigit (c : Char) : Prop := c.toLower ∈ digits

instance : DecidablePred IsDigit := fun c => inferInstanceAs (Decidable (c.toLower ∈ digits))

/-- The value of a digit. -/
def digit (c : Char) : Nat := digits.idxOf c.toLower

variable {c : Char}

theorem digit_lt (h : IsDigit c) : digit c < 16 := List.idxOf_lt_length_iff.2 h

/-- Only the letters of the smallest characters have a lower case. -/
theorem toLower_of_le (h : 128 ≤ c.toNat) : c.toLower = c := by
  refine dif_neg fun hletter => ?_
  have hlast : c.toNat ≤ 'Z'.toNat := hletter.2
  exact absurd (Nat.le_trans h hlast) (by decide)

theorem IsDigit.toNat_lt (h : IsDigit c) : c.toNat < 128 := by
  have hdigits : (digits.all fun d => d.toNat < 128) = true := by decide
  by_contra hlarge
  rw [IsDigit, toLower_of_le (Nat.not_lt.1 hlarge)] at h
  exact hlarge (of_decide_eq_true (List.all_eq_true.1 hdigits c h))

theorem value?_of_lt (h : c.toNat < 128) :
    value? c = if IsDigit c then some (digit c) else none := by
  have hsmall : ∀ n < 128, value? (Char.ofNat n) =
      if IsDigit (Char.ofNat n) then some (digit (Char.ofNat n)) else none := by decide
  simpa using hsmall c.toNat h

theorem value?_of_le (h : 128 ≤ c.toNat) : value? c = none := by
  have hbeyond : ∀ d : Char, d.toNat < 128 → ¬ c ≤ d := fun d hd hle =>
    absurd (Nat.le_trans h hle) (Nat.not_le.2 hd)
  rw [value?, if_neg fun hrange => hbeyond '9' (by decide) hrange.2,
    if_neg fun hrange => hbeyond 'f' (by decide) hrange.2,
    if_neg fun hrange => hbeyond 'F' (by decide) hrange.2]

/-- Reading a digit by its range yields its place, and anything else is refused. -/
theorem value?_eq (c : Char) : value? c = if IsDigit c then some (digit c) else none := by
  rcases Nat.lt_or_ge c.toNat 128 with hsmall | hlarge
  · exact value?_of_lt hsmall
  · rw [value?_of_le hlarge, if_neg fun h => absurd h.toNat_lt (Nat.not_lt.2 hlarge)]

theorem value?_of_isDigit (h : IsDigit c) : value? c = some (digit c) := by
  rw [value?_eq, if_pos h]

/-- A digit takes one byte of text. -/
theorem IsDigit.utf8Size_eq (h : IsDigit c) : c.utf8Size = 1 :=
  Char.utf8Size_eq_one_iff.2 (Nat.le_of_lt_succ h.toNat_lt)

/-! ### Bytes of two digits -/

/-- The byte that two digits spell. -/
def byte (high low : Char) : UInt8 := UInt8.ofNat (16 * digit high + digit low)

variable {high low : Char}

theorem toNat_byte (hhigh : IsDigit high) (hlow : IsDigit low) :
    (byte high low).toNat = 16 * digit high + digit low := by
  have hhigh' := digit_lt hhigh
  have hlow' := digit_lt hlow
  exact UInt8.toNat_ofNat_of_lt' (show _ < 256 by omega)

theorem byte?_of_isDigit (hhigh : IsDigit high) (hlow : IsDigit low) :
    byte? high low = some (byte high low) := by
  rw [byte?, value?_of_isDigit hhigh, value?_of_isDigit hlow]
  rfl

/-- A byte is read from two digits and from nothing else. -/
theorem byte?_isSome_iff : (byte? high low).isSome ↔ IsDigit high ∧ IsDigit low := by
  by_cases hhigh : IsDigit high <;> by_cases hlow : IsDigit low <;>
    simp [byte?, value?_eq, hhigh, hlow]

end ChipEight.Hex
