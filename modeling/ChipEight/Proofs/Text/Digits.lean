import ChipEight.Proofs.Text.Hex
import Mathlib

/-!
# Written numbers

A number is written with digits of either case and with zeros in front, and reading the digits from
left to right gives the number back, whatever the case and however many the zeros. The least width
is also the width of every number that fits into it.
-/

namespace ChipEight.Hex

/-- The number that digits spell. -/
def number (digits : List Char) : Nat := digits.foldl (fun n c => 16 * n + digit c) 0

/-! ### Reading digits -/

theorem number_concat (cs : List Char) (c : Char) :
    number (cs ++ [c]) = 16 * number cs + digit c := by
  rw [number, List.foldl_append]
  rfl

theorem digit_digitChar {d : Nat} (h : d < 16) : digit d.digitChar = d := by
  have hall : ∀ d < 16, digit d.digitChar = d := by decide
  exact hall d h

theorem isDigit_digitChar {d : Nat} (h : d < 16) : IsDigit d.digitChar := by
  have hall : ∀ d < 16, IsDigit d.digitChar := by decide
  exact hall d h

theorem digit_toUpper (c : Char) : digit c.toUpper = digit c := by
  rw [digit, Char.toLower_toUpper_eq_toLower, digit]

theorem isDigit_toUpper {c : Char} : IsDigit c.toUpper ↔ IsDigit c := by
  rw [IsDigit, Char.toLower_toUpper_eq_toLower, IsDigit]

theorem number_map_toUpper (cs : List Char) : number (cs.map Char.toUpper) = number cs := by
  rw [number, List.foldl_map]
  simp only [digit_toUpper]
  rfl

/-! ### Writing digits -/

/-- The last digit is the remainder, and those before it are the digits of the quotient. -/
theorem number_toDigits (n : Nat) : number (Nat.toDigits 16 n) = n := by
  induction n using Nat.strong_induction_on with
  | h n ih =>
    rw [Nat.toDigits_eq_if (by decide)]
    split
    case isTrue hlt =>
      rw [← List.nil_append [n.digitChar], number_concat, digit_digitChar hlt]
      exact Nat.zero_add n
    case isFalse hle =>
      have hquotient : n / 16 < n := Nat.div_lt_self (by omega) (by decide)
      rw [number_concat, ih _ hquotient, digit_digitChar (Nat.mod_lt n (by decide))]
      exact Nat.div_add_mod n 16

theorem isDigit_of_mem_toDigits {n : Nat} {c : Char} (h : c ∈ Nat.toDigits 16 n) : IsDigit c := by
  induction n using Nat.strong_induction_on with
  | h n ih =>
    rw [Nat.toDigits_eq_if (by decide)] at h
    split at h
    case isTrue hlt =>
      rw [List.mem_singleton.1 h]
      exact isDigit_digitChar hlt
    case isFalse hle =>
      rcases List.mem_append.1 h with hfront | hlast
      · exact ih _ (Nat.div_lt_self (by omega) (by decide)) hfront
      · rw [List.mem_singleton.1 hlast]
        exact isDigit_digitChar (Nat.mod_lt n (by decide))

/-! ### Text of a least width -/

section

variable (width : Nat) {cs : List Char}

/-- Zeros in front do not count. -/
theorem number_leftpad (cs : List Char) : number (cs.leftpad width '0') = number cs := by
  rw [List.leftpad]
  induction width - cs.length with
  | zero => rw [List.replicate_zero, List.nil_append]
  | succ k ih => exact ih

theorem isDigit_of_mem_leftpad (hcs : ∀ c ∈ cs, IsDigit c) {c : Char}
    (hc : c ∈ cs.leftpad width '0') : IsDigit c := by
  rcases List.mem_append.1 hc with hzero | hdigit
  · rw [List.eq_of_mem_replicate hzero]
    decide
  · exact hcs c hdigit

theorem length_leftpad (cs : List Char) :
    (cs.leftpad width '0').length = max width cs.length := by
  rw [List.leftpad, List.length_append, List.length_replicate]
  omega

end

variable (width n : Nat)

/-- A written number is read back. -/
theorem number_lower : number (lower width n).toList = n := by
  rw [lower, String.toList_ofList, number_leftpad, number_toDigits]

theorem number_upper : number (upper width n).toList = n := by
  rw [upper, String.toList_ofList, number_leftpad, number_map_toUpper, number_toDigits]

theorem le_length_lower : width ≤ (lower width n).length := by
  rw [lower, String.length_ofList, length_leftpad]
  exact Nat.le_max_left _ _

variable {width n}

theorem isDigit_of_mem_lower {c : Char} (h : c ∈ (lower width n).toList) : IsDigit c := by
  rw [lower, String.toList_ofList] at h
  exact isDigit_of_mem_leftpad width (fun _ => isDigit_of_mem_toDigits) h

theorem isDigit_of_mem_upper {c : Char} (h : c ∈ (upper width n).toList) : IsDigit c := by
  rw [upper, String.toList_ofList] at h
  refine isDigit_of_mem_leftpad width (fun c hc => ?_) h
  obtain ⟨d, hd, rfl⟩ := List.mem_map.1 hc
  exact isDigit_toUpper.2 (isDigit_of_mem_toDigits hd)

/-- A number that fits into the least width is written with that width. -/
theorem length_lower (hwidth : 0 < width) (h : n < 16 ^ width) :
    (lower width n).length = width := by
  rw [lower, String.length_ofList, length_leftpad]
  exact Nat.max_eq_left ((Nat.length_toDigits_le_iff (by decide) hwidth).2 h)

theorem length_upper (hwidth : 0 < width) (h : n < 16 ^ width) :
    (upper width n).length = width := by
  rw [upper, String.length_ofList, length_leftpad, List.length_map]
  exact Nat.max_eq_left ((Nat.length_toDigits_le_iff (by decide) hwidth).2 h)

end ChipEight.Hex
