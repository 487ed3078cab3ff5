import ChipEight.Register.Basic

/-!
# The register file

Every register keeps the low bits of what is written to it: sixteen in the index register and the
program counter, eight elsewhere. The stack pointer wraps at both ends.

Access by register is refused for the program counter and the stack pointer, and a refusal leaves
the file as it was.
-/

namespace ChipEight

structure RegisterFile where
  general : Vector UInt8 16
  index : UInt16
  pc : UInt16
  sp : UInt8
  delay : UInt8
  sound : UInt8
deriving DecidableEq

namespace RegisterFile

/-- All registers at zero. -/
def zero : RegisterFile := ⟨.replicate 16 0, 0, 0, 0, 0, 0⟩

/-! ### General registers -/

def get (f : RegisterFile) (x : Fin 16) : UInt8 := f.general.get x

def set (f : RegisterFile) (x : Fin 16) (value : UInt8) : RegisterFile :=
  { f with general := f.general.set x value }

/-! ### Access by register -/

def read (f : RegisterFile) : Register → Except Register.Fault UInt16
  | .general x => .ok (f.get x).toUInt16
  | .index     => .ok f.index
  | .delay     => .ok f.delay.toUInt16
  | .sound     => .ok f.sound.toUInt16
  | .pc        => .error (.restricted .pc)
  | .sp        => .error (.restricted .sp)

def write (f : RegisterFile) (r : Register) (value : UInt32) :
    Except Register.Fault RegisterFile :=
  match r with
  | .general x => .ok (f.set x value.toUInt8)
  | .index     => .ok { f with index := value.toUInt16 }
  | .delay     => .ok { f with delay := value.toUInt8 }
  | .sound     => .ok { f with sound := value.toUInt8 }
  | .pc        => .error (.restricted .pc)
  | .sp        => .error (.restricted .sp)

/-! ### Access by name -/

def readNamed (f : RegisterFile) (name : String) : Except Register.Fault UInt16 := do
  f.read (← Register.ofName? name)

def writeNamed (f : RegisterFile) (name : String) (value : UInt32) :
    Except Register.Fault RegisterFile := do
  f.write (← Register.ofName? name) value

/-! ### Program counter and stack pointer -/

def setPc (f : RegisterFile) (value : UInt32) : RegisterFile := { f with pc := value.toUInt16 }

def setSp (f : RegisterFile) (value : UInt32) : RegisterFile := { f with sp := value.toUInt8 }

def incrementSp (f : RegisterFile) : RegisterFile := { f with sp := f.sp + 1 }

def decrementSp (f : RegisterFile) : RegisterFile := { f with sp := f.sp - 1 }

end RegisterFile

end ChipEight
