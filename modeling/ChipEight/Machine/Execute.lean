import ChipEight.Machine.State

/-!
# Executing an instruction

An instruction changes the machine as its operation says. The program counter moves only where a
transfer or a skip moves it.

A fault comes from a register that has accessors of its own. Operands are read from left to right,
but a load reads its source before it writes.
-/

namespace ChipEight

def RegisterFile.value (f : RegisterFile) : Operand → Except Register.Fault UInt16
  | .byte b     => .ok b.toUInt16
  | .register r => f.read r

/-- Do a register and an operand hold the same? -/
def RegisterFile.agree (f : RegisterFile) (left : Register) (right : Operand) :
    Except Register.Fault Bool := do
  let a ← f.read left
  let b ← f.value right
  return a = b

/-- The file after a load. -/
def RegisterFile.load (f : RegisterFile) (target : Register) (source : Operand) :
    Except Register.Fault RegisterFile := do
  let a ← f.value source
  f.write target a.toUInt32

namespace Machine

variable {S : Type}

/-- Goes on with what the registers yield. -/
def given (m : Machine S) {α : Type} (value : Except Register.Fault α)
    (next : α → Outcome (Machine S) Fault Unit) : Outcome (Machine S) Fault Unit :=
  match value with
  | .ok a    => next a
  | .error e => .fail (.register e) m

/-! ### Transfers -/

/-- Only twelve bits of a target count. -/
def jump (m : Machine S) (target : UInt16) : Machine S :=
  { m with registers := m.registers.setPc (target &&& 0x0FFF).toUInt32 }

/-- Keep the address of the call itself in the next slot. -/
def call (m : Machine S) (target : UInt16) : Outcome (Machine S) Fault Unit :=
  let registers := m.registers.incrementSp
  ((m.stack.store registers.sp registers.pc).lift
    (fun stack => { m with stack := stack, registers := registers }) id).andThen
      fun _ m => .ok () (m.jump target)

/-- Take the address from the slot at hand. -/
def ret (m : Machine S) : Outcome (Machine S) Fault Unit :=
  ((m.stack.load m.registers.sp).lift (fun stack => { m with stack := stack }) id).andThen
    fun address m =>
      .ok () { m with registers := (m.registers.setPc address.toUInt32).decrementSp }

/-- Pass over an instruction if the flag is up. -/
def skip (m : Machine S) (flag : Bool) : Machine S := if flag then m.advance else m

/-! ### Drawing -/

variable [Surface S]

/-- Draw rows from the index register's address on, which is cut to twelve bits. The last general
register tells whether the sprite collided. -/
def draw (m : Machine S) (rx ry : Register) (rows : UInt8) : Outcome (Machine S) Fault Unit :=
  m.given (m.registers.read rx) fun x =>
  m.given (m.registers.read ry) fun y =>
  m.given (m.registers.read .index) fun index =>
    let sprite := m.memory.read (index &&& 0x0FFF) (rows &&& 0x0F).toNat
    let (collision, screen) := Surface.draw m.screen sprite x.toNat y.toNat
    let m := { m with screen := screen }
    let flag : UInt32 := if collision then 1 else 0
    m.given (m.registers.write (.general Register.flag) flag) fun registers =>
      .ok () { m with registers := registers }

/-! ### Instructions -/

def execute (m : Machine S) : Instruction → Outcome (Machine S) Fault Unit
  | .clear => .ok () { m with screen := Surface.clear m.screen }
  | .ret => m.ret
  | .jump target => .ok () (m.jump target)
  | .call target => m.call target
  | .skipIfEqual left right =>
    m.given (m.registers.agree left right) fun same => .ok () (m.skip same)
  | .skipIfNotEqual left right =>
    m.given (m.registers.agree left right) fun same => .ok () (m.skip !same)
  | .load target source =>
    m.given (m.registers.load target source) fun registers =>
      .ok () { m with registers := registers }
  | .loadIndex address =>
    m.given (m.registers.write .index address.toUInt32) fun registers =>
      .ok () { m with registers := registers }
  | .draw x y rows => m.draw x y rows
  | .unknown word => .note (.unknownInstruction word) m

end Machine

end ChipEight
