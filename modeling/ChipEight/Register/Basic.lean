import ChipEight.Text.Hex

/-!
# Registers

The machine has sixteen general registers, the index register, two timers, and the program
counter and stack pointer, which have accessors of their own and are refused to everyone else.

A register is found by its name, whatever the case of the letters.
-/

namespace ChipEight

inductive Register where
  | general (number : Fin 16)
  | index
  | pc
  | sp
  | delay
  | sound
deriving DecidableEq

/-- Why a register was not reached. -/
inductive Register.Fault where
  | unknown (name : String)
  | restricted (register : Register)
deriving DecidableEq

namespace Register

def name : Register → String
  | .general x => #v["V0", "V1", "V2", "V3", "V4", "V5", "V6", "V7",
      "V8", "V9", "VA", "VB", "VC", "VD", "VE", "VF"].get x
  | .index => "I"
  | .pc    => "PC"
  | .sp    => "SP"
  | .delay => "DT"
  | .sound => "ST"

/-- All registers, the general ones first and in order. -/
def all : List Register :=
  (List.finRange 16).map .general ++ [.index, .pc, .sp, .delay, .sound]

/-- The general register that the low four bits of `x` number. -/
def ofNumber (x : Nat) : Register := .general (Fin.ofNat 16 x)

def ofDigit (x : UInt8) : Register := ofNumber x.toNat

/-- The number of the general register that takes the outcome of a drawing. -/
def flag : Fin 16 := 15

/-- The register of a name. Only the case of ASCII letters is ignored. -/
def ofName? (name : String) : Except Fault Register :=
  match all.find? fun r => r.name.toList = name.toList.map Char.toUpper with
  | some r => .ok r
  | none   => .error (.unknown name)

def Fault.message : Fault → String
  | .unknown name => "register " ++ name ++ " does not exist"
  | .restricted r =>
    "access to register " ++ r.name ++ " is not permitted; use its dedicated accessor"

end Register

end ChipEight
