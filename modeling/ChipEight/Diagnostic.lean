import ChipEight.Instruction.Assembly
import ChipEight.Memory.Fault
import ChipEight.Numeral.Decimal

/-!
# Diagnostics

What the machine reports about its work besides the results. A report changes nothing: the work
goes on.
-/

namespace ChipEight

inductive Diagnostic where
  | reservedWrite (address : UInt16)
  | deepStack (sp : UInt8)
  | unsetSlot (sp : UInt8)
  | unknownInstruction (word : UInt16)
  | executing (pc : UInt16) (instruction : Instruction)
  | loaded (size : Nat) (address : UInt16)
deriving DecidableEq

inductive Diagnostic.Level where
  | warning
  | debug
  | trace
deriving DecidableEq

/-- The depth of calls that programs are written for. -/
def nominalDepth : Nat := 16

namespace Diagnostic

def level : Diagnostic → Level
  | .executing .. => .trace
  | .loaded ..    => .debug
  | _             => .warning

def message : Diagnostic → String
  | .reservedWrite a => (Memory.Fault.reserved a).message
  | .deepStack sp =>
    "stack pointer " ++ Decimal.text sp.toNat ++ " is past the nominal depth of " ++
      Decimal.text nominalDepth
  | .unsetSlot sp =>
    "return through unset stack slot " ++ Decimal.text sp.toNat ++ "; using address 0"
  | .unknownInstruction w => "instruction " ++ Hex.upper 4 w.toNat ++ " hasn't been implemented"
  | .executing pc i => Hex.address pc ++ ": " ++ i.text
  | .loaded size a => "loaded " ++ Decimal.text size ++ " bytes at " ++ Hex.address a

end Diagnostic

end ChipEight
