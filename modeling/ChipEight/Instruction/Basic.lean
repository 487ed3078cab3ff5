import ChipEight.Register.Basic

/-!
# Instructions

An instruction is a word of four hexadecimal digits. The first digit chooses the operation, and
the digits after it name registers `x` and `y`, a byte `kk` or an address `nnn`.

The extended set has all that the reference set has, and the loads and the sprite draw besides.
A word that is in neither is kept whole.
-/

namespace ChipEight

/-- The second argument of a skip or a load. -/
inductive Operand where
  | byte (value : UInt8)
  | register (r : Register)
deriving DecidableEq

inductive Instruction where
  | clear
  | ret
  | jump (target : UInt16)
  | call (target : UInt16)
  | skipIfEqual (left : Register) (right : Operand)
  | skipIfNotEqual (left : Register) (right : Operand)
  | load (target : Register) (source : Operand)
  | loadIndex (address : UInt16)
  | draw (x y : Register) (rows : UInt8)
  | unknown (word : UInt16)
deriving DecidableEq

/-- Which words are instructions. -/
inductive InstructionSet where
  | reference
  | extended
deriving DecidableEq

/-! ### The parts of a word -/

namespace Word

/-- The hexadecimal digit at place `k`, the last place being 0. -/
def digit (word : UInt16) (k : Nat) : Nat := word.toNat >>> (4 * k) % 16

/-- The general register that the digit at place `k` numbers. -/
def register (word : UInt16) (k : Nat) : Register := .ofNumber (digit word k)

/-- The last three digits. -/
def address (word : UInt16) : UInt16 := word &&& 0x0FFF

/-- The last two digits. -/
def lowByte (word : UInt16) : UInt8 := word.toUInt8

def ofBytes (high low : UInt8) : UInt16 := high.toUInt16 <<< 8 ||| low.toUInt16

end Word

/-! ### Decoding -/

open Word in
/-- The instruction that a word spells. The last digit of `5xy_` and `9xy_` is free, that of
`8xy0` is not. -/
def Instruction.decode (set : InstructionSet) (word : UInt16) : Instruction :=
  match set, digit word 3 with
  | _, 0x0 => if word = 0x00E0 then .clear else if word = 0x00EE then .ret else .unknown word
  | _, 0x1 => .jump (address word)
  | _, 0x2 => .call (address word)
  | _, 0x3 => .skipIfEqual (register word 2) (.byte (lowByte word))
  | _, 0x4 => .skipIfNotEqual (register word 2) (.byte (lowByte word))
  | _, 0x5 => .skipIfEqual (register word 2) (.register (register word 1))
  | _, 0x9 => .skipIfNotEqual (register word 2) (.register (register word 1))
  | .extended, 0x6 => .load (register word 2) (.byte (lowByte word))
  | .extended, 0x8 =>
    if digit word 0 = 0 then .load (register word 2) (.register (register word 1))
    else .unknown word
  | .extended, 0xA => .loadIndex (address word)
  | .extended, 0xD => .draw (register word 2) (register word 1) (UInt8.ofNat (digit word 0))
  | _, _ => .unknown word

end ChipEight
