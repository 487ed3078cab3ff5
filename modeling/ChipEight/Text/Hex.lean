/-!
# Hexadecimal text

Numbers are written with zeros in front up to a least width, in lower case in assembly text and
in upper case in messages. Reading takes either case.
-/

namespace ChipEight.Hex

/-! ### Writing -/

/-- The digits of `n`, behind as many zeros as fill `width` places. -/
def lower (width n : Nat) : String :=
  String.ofList ((Nat.toDigits 16 n).leftpad width '0')

/-- The same in capitals. -/
def upper (width n : Nat) : String :=
  String.ofList (((Nat.toDigits 16 n).map Char.toUpper).leftpad width '0')

/-! ### Reading -/

/-- The value of a hexadecimal digit. -/
def value? (c : Char) : Option Nat :=
  if '0' ≤ c ∧ c ≤ '9' then some (c.toNat - '0'.toNat)
  else if 'a' ≤ c ∧ c ≤ 'f' then some (c.toNat - 'a'.toNat + 10)
  else if 'A' ≤ c ∧ c ≤ 'F' then some (c.toNat - 'A'.toNat + 10)
  else none

/-- The byte that two digits spell. -/
def byte? (high low : Char) : Option UInt8 := do
  return UInt8.ofNat (16 * (← value? high) + (← value? low))

end ChipEight.Hex
