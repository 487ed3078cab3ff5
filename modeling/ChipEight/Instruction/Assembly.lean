import ChipEight.Instruction.Basic

/-!
# Assembly text

Addresses are written with at least three hexadecimal digits and bytes with two, both in lower
case; the row count of a sprite is decimal. An unknown word is its four digits in capitals.
-/

namespace ChipEight

/-- An address of the twelve-bit space. -/
def Hex.address (a : UInt16) : String := "0x" ++ Hex.lower 3 a.toNat

def Operand.text : Operand → String
  | .byte value => "0x" ++ Hex.lower 2 value.toNat
  | .register r => r.name

def Instruction.text : Instruction → String
  | .clear => "CLS"
  | .ret => "RET"
  | .jump target => "JP " ++ Hex.address target
  | .call target => "CALL " ++ Hex.address target
  | .skipIfEqual left right => "SE " ++ left.name ++ ", " ++ right.text
  | .skipIfNotEqual left right => "SNE " ++ left.name ++ ", " ++ right.text
  | .load target source => "LD " ++ target.name ++ ", " ++ source.text
  | .loadIndex address => "LD I, " ++ Hex.address address
  | .draw x y rows =>
    "DRW " ++ x.name ++ ", " ++ y.name ++ ", " ++ String.ofList (Nat.toDigits 10 rows.toNat)
  | .unknown word => Hex.upper 4 word.toNat

end ChipEight
