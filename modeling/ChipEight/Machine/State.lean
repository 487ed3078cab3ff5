import ChipEight.CallStack
import ChipEight.Memory.Basic
import ChipEight.Program.Rom
import ChipEight.Register.File
import ChipEight.Screen.Sprite

/-!
# The machine

A machine is a memory, a register file and a call stack, with a drawing surface for its screen and
the set of instructions that it knows.
-/

namespace ChipEight

/-- What can be chosen about a machine. -/
structure Config where
  instructions : InstructionSet
  policy : WritePolicy
deriving DecidableEq

/-- Every known instruction, and writes below the program's start only reported. -/
def Config.default : Config := ⟨.extended, .permissive⟩

/-- As the default, with the smaller set of instructions. -/
def Config.reference : Config := ⟨.reference, .permissive⟩

structure Machine (S : Type) where
  memory : Memory
  registers : RegisterFile
  stack : CallStack
  screen : S
  instructions : InstructionSet

namespace Machine

variable {S : Type}

/-! ### Why a machine stops -/

inductive Fault where
  | memory (fault : Memory.Fault)
  | register (fault : Register.Fault)
  | rom (fault : Rom.Fault)
  | exhausted (pc : UInt16)
  | display (fault : DeviceFault)
deriving DecidableEq

def Fault.message : Fault → String
  | .memory fault   => fault.message
  | .register fault => fault.message
  | .rom fault      => fault.message
  | .exhausted pc   => "no more instructions at 0x" ++ Hex.upper 4 pc.toNat
  | .display fault  => "display error: " ++ fault.message

/-- Did the program just run out? -/
def Fault.isExhausted : Fault → Bool
  | .exhausted _ => true
  | _            => false

/-! ### States -/

/-- A machine before any program, about to execute at the program's start. -/
def fresh (config : Config) (screen : S) : Machine S where
  memory := .fresh config.policy
  registers := { RegisterFile.zero with pc := Memory.defaultStart }
  stack := .empty
  screen := screen
  instructions := config.instructions

def config (m : Machine S) : Config := ⟨m.instructions, m.memory.policy⟩

/-- The program counter one instruction on. -/
def advance (m : Machine S) : Machine S :=
  { m with registers := m.registers.setPc (m.registers.pc.toUInt32 + 2) }

end Machine

end ChipEight
