import ChipEight.Numeral.Decimal
import ChipEight.Terminal.Input

/-!
# Control sequences

A sequence opens with the escape byte and a bracket. Behind them stands a letter for a key, or
numbers between semicolons and a last byte that says what they are: a key, an action of the mouse,
or the cursor's row and column. If that byte is the letter of a key, what stands before it is of no
matter. The mouse has two more forms of its own.
-/

namespace ChipEight.Sequence

/-! ### Numbers -/

/-- The parts between semicolons. -/
def parts? (bytes : List UInt8) : Option (List (List Char)) :=
  (String.fromUTF8? ⟨bytes.toArray⟩).map fun text => text.toList.splitOnP (· = ';')

/-- A number below a bound. -/
def number? (bound : Nat) (part : List Char) : Option Nat :=
  (Decimal.unsigned? part).filter (· < bound)

def byte? : List Char → Option Nat := number? 0x100

def word? : List Char → Option Nat := number? 0x10000

/-! ### Keys -/

/-- The letters of keys that need no number. -/
def letters : List UInt8 := [0x41, 0x42, 0x43, 0x44, 0x46, 0x48, 0x5A]

/-- The letters of keys that a number may come before. It stands for modifiers and goes unread. -/
def modifiedLetters : List UInt8 := [0x41, 0x42, 0x43, 0x44, 0x46, 0x48, 0x50, 0x51, 0x53]

/-- The numbers of keys. -/
def numbers : List Nat :=
  [1, 2, 3, 4, 5, 6, 7, 8, 11, 12, 13, 14, 15, 17, 18, 19, 20, 21, 23, 24, 25, 26, 28, 29,
   31, 32, 33, 34]

/-- A key by its number. -/
def numberedKey? (parts : List (List Char)) : Option Input := do
  let n ← byte? (← parts.head?)
  if numbers.contains n then some .other else none

/-! ### The mouse and the cursor -/

/-- Does the code of an action name one of six buttons? Its lowest and its highest two bits number
the button. -/
def isAction (code : Nat) : Bool := code % 4 + 4 * (code / 64) < 6

/-- An action of the mouse: its code, raised by some amount, and a column and a row. -/
def mouse? (raised : Nat) : List (List Char) → Option Input
  | code :: column :: row :: _ => do
    let code ← byte? code
    let _ ← word? column
    let _ ← word? row
    if raised ≤ code && isAction (code - raised) then some .other else none
  | _ => none

/-- The cursor's row and column. -/
def cursor? : List (List Char) → Option Input
  | row :: column :: _ => do
    let _ ← word? row
    let _ ← word? column
    some .cursor
  | _ => none

/-! ### Readings -/

/-- A sequence that starts with a number. -/
def readNumbers (bytes : List UInt8) : Reading :=
  match bytes.getLast? with
  | none      => .unfinished
  | some last =>
    let parts := parts? bytes.dropLast
    if last < 0x40 || 0x7E < last then .unfinished
    else .ofComplete (match last with
      | 0x4D => parts.bind (mouse? 32)
      | 0x52 => parts.bind cursor?
      | 0x7E => parts.bind numberedKey?
      | last => if modifiedLetters.contains last then some .other else none)

/-- What follows the escape byte and the bracket. -/
def read : List UInt8 → Reading
  | [] => .unfinished
  | 0x5B :: rest => match rest with
    | []     => .unfinished
    | n :: _ => .ofComplete (if 0x41 ≤ n && n ≤ 0x45 then some .other else none)
  | 0x4D :: rest => match rest with
    | code :: _ :: _ :: _ =>
      .ofComplete (if 32 ≤ code && isAction (code.toNat - 32) then some .other else none)
    | _ => .unfinished
  | 0x3C :: rest =>
    if rest.getLast? = some 0x4D || rest.getLast? = some 0x6D then
      .ofComplete ((parts? rest.dropLast).bind (mouse? 0))
    else .unfinished
  | byte :: rest =>
    if letters.contains byte then .input .other
    else if 0x30 ≤ byte && byte ≤ 0x39 then readNumbers (byte :: rest)
    else .garbled

end ChipEight.Sequence
