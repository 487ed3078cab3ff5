import ChipEight.Text.Hex

/-!
# Refused memory accesses

A write is refused below the program's start, if the policy says so, and beyond the last cell.
-/

namespace ChipEight

inductive Memory.Fault where
  | reserved (address : UInt16)
  | outOfBounds (address : UInt16)
deriving DecidableEq

def Memory.Fault.message : Memory.Fault → String
  | .reserved a    => "write to reserved interpreter memory at 0x" ++ Hex.upper 3 a.toNat
  | .outOfBounds a => "memory access out of bounds at 0x" ++ Hex.upper 4 a.toNat

end ChipEight
