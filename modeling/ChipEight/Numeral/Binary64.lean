import ChipEight.Numeral.Decimal

/-!
# Binary floating point numbers of 64 bits

A number is kept by its bits: a sign, eleven bits of exponent, and fifty-two of fraction. A
quotient of whole numbers is rounded to the nearest of them, a tie to the one with an even
fraction, and what is beyond the largest becomes infinite.

Decimal text is read as the exact quotient that it spells. A whole number is written with the
fewest digits that read back.
-/

namespace ChipEight

structure Binary64 where
  bits : UInt64
deriving DecidableEq

namespace Binary64

/-! ### Rounding -/

/-- The bits of infinity. -/
def infinityBits : Nat := 0x7FF <<< 52

/-- The bits of the usual NaN. -/
def nanBits : Nat := 0xFFF <<< 51

/-- The whole number nearest to `num / den`, an even one on a tie. -/
def roundQuotient (num den : Nat) : Nat :=
  let q := num / den
  let twice := 2 * (num % den)
  if twice < den then q else if den < twice then q + 1 else q + q % 2

/-- The quotient `num / den` in units of `2 ^ e`, rounded to a whole number. -/
def scaled (num den : Nat) (e : Int) : Nat :=
  roundQuotient (num <<< (-e).toNat) (den <<< e.toNat)

/-- The exponent of the last fraction bit of `num / den`: fifty-three bits are kept, but none
below the least that a number can have. -/
def lastPlace (num den : Nat) : Int :=
  let e : Int := (num.log2 : Int) - den.log2 - 52
  let e := if num <<< (-e).toNat < den <<< e.toNat <<< 52 then e - 1 else e
  max e (-1074)

/-- The bits of the number nearest to `num / den`. The fraction's carry runs into the exponent,
and the leading bit of the fraction counts as one unit of it. -/
def magnitude (num den : Nat) : Nat :=
  if num = 0 then 0
  else
    let e := lastPlace num den
    min infinityBits ((e + 1074).toNat <<< 52 + scaled num den e)

/-- The number of a sign and the bits behind it. -/
def ofMagnitude (negative : Bool) (bits : Nat) : Binary64 :=
  ⟨UInt64.ofNat ((if negative then 1 <<< 63 else 0) + bits)⟩

/-! ### Reading -/

/-- The bits nearest to `digits * 10 ^ exponent`. Powers of ten that put every such number out of
range are not computed. -/
def ofDecimal (digits : List Char) (exponent : Int) : Nat :=
  let n := Decimal.value digits
  let places := exponent + digits.length
  if n = 0 ∨ places < -400 then 0
  else if exponent > 400 then infinityBits
  else magnitude (n * Nat.pow 10 exponent.toNat) (Nat.pow 10 (-exponent).toNat)

/-- The exponent at the end of a numeral, 0 if there is none. -/
def exponent? : List Char → Option Int
  | [] => some 0
  | c :: rest => if c = 'e' ∨ c = 'E' then Decimal.integer? rest else none

/-- A numeral without its sign: digits, at most one point among them or at an end, and an
exponent. -/
def numeral? (text : List Char) : Option Nat :=
  let whole := text.takeWhile Char.isDigit
  let rest := text.dropWhile Char.isDigit
  let (fraction, rest) := match rest with
    | '.' :: rest => (rest.takeWhile Char.isDigit, rest.dropWhile Char.isDigit)
    | rest => ([], rest)
  if whole.isEmpty && fraction.isEmpty then none
  else (exponent? rest).map fun e => ofDecimal (whole ++ fraction) (e - fraction.length)

/-- The names of what no numeral spells, in any case. -/
def named? (text : List Char) : Option Nat :=
  match String.ofList (text.map Char.toLower) with
  | "inf"      => some infinityBits
  | "infinity" => some infinityBits
  | "nan"      => some nanBits
  | _          => none

def unsigned? (text : List Char) : Option Nat := numeral? text <|> named? text

def ofText? (text : String) : Option Binary64 :=
  match text.toList with
  | '-' :: rest => (unsigned? rest).map (ofMagnitude true)
  | '+' :: rest => (unsigned? rest).map (ofMagnitude false)
  | rest        => (unsigned? rest).map (ofMagnitude false)

/-! ### Writing whole numbers -/

/-- A whole number kept to fifty-three bits. -/
def roundWhole (n : Nat) : Nat :=
  let e := (lastPlace n 1).toNat
  roundQuotient n (1 <<< e) <<< e

/-- The nearest number to `n` with at most `count` digits of its own, zeros following them. -/
def withDigits (count n : Nat) : Nat :=
  let unit := Nat.pow 10 ((Decimal.text n).length - count)
  roundQuotient n unit * unit

/-- The fewest digits, zeros following them, that are kept as `n` is. -/
def shortest (n : Nat) : Nat :=
  ((List.range 17).map fun k => withDigits (k + 1) n).find? (fun d => roundWhole d = roundWhole n)
    |>.getD n

/-- One digit before the point, the others after it unless they are all zeros, and the power of
ten. -/
def scientific (digits : List Char) : String :=
  let tail := (digits.tail.reverse.dropWhile (· = '0')).reverse
  String.ofList (digits.take 1) ++ (if tail.isEmpty then "" else "." ++ String.ofList tail) ++
    "e" ++ Decimal.text (digits.length - 1)

/-- A whole number has a fraction of one zero below ten to the sixteenth and a power of ten from
there on. -/
def wholeText (n : Nat) : String :=
  let d := shortest (roundWhole n)
  if d < Nat.pow 10 16 then Decimal.text d ++ ".0" else scientific (Decimal.text d).toList

end Binary64

end ChipEight
