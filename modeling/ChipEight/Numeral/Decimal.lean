/-!
# Decimal numerals

Whole numbers are read from plain digits, with a sign where one is allowed, and written without
one.
-/

namespace ChipEight.Decimal

/-- The digits of `n`. -/
def text (n : Nat) : String := String.ofList (Nat.toDigits 10 n)

/-! ### Reading -/

/-- The number that a run of digits spells; no digits spell 0. -/
def value (digits : List Char) : Nat :=
  digits.foldl (fun n c => 10 * n + (c.toNat - '0'.toNat)) 0

/-- A number of at least one digit and nothing else. -/
def natural? (text : List Char) : Option Nat :=
  if !text.isEmpty && text.all Char.isDigit then some (value text) else none

/-- A number that a plus sign may precede. -/
def unsigned? : List Char → Option Nat
  | '+' :: digits => natural? digits
  | digits        => natural? digits

/-- A number that a plus or a minus sign may precede. -/
def integer? : List Char → Option Int
  | '-' :: digits => (natural? digits).map fun n => -(n : Int)
  | digits        => (unsigned? digits).map Int.ofNat

end ChipEight.Decimal
