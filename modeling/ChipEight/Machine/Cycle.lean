import ChipEight.Machine.Execute

/-!
# The cycle

A step fetches the word at the program counter, decodes and executes it, and moves the program
counter on by one instruction, after a transfer too. So a jump goes on behind its target, and a
return behind the call.

The program is exhausted where neither byte of the word was ever written. One that was not
written counts as zero.
-/

namespace ChipEight.Machine

variable {S : Type}

/-- The word at the program counter. -/
def fetch? (m : Machine S) : Option UInt16 :=
  let pc := m.registers.pc
  if m.memory.isWritten (pc + 1) then some (AddressSpace.word m.memory pc)
  else if m.memory.isWritten pc then some (AddressSpace.word m.memory pc &&& 0xFF00)
  else none

variable [Surface S]

def step (m : Machine S) : Outcome (Machine S) Fault Instruction :=
  match m.fetch? with
  | none => .fail (.exhausted m.registers.pc) m
  | some word =>
    let instruction := Instruction.decode m.instructions word
    (Outcome.note (.executing m.registers.pc instruction) m).andThen fun _ m =>
      (m.execute instruction).andThen fun _ m => .ok instruction m.advance

/-- The state after a number of steps. A step that fails does not change it. -/
def after : Nat → Machine S → Machine S
  | 0, m     => m
  | n + 1, m => after n m.step.state

/-- Up to a number of steps, up to the first that fails. The value says whether the program was
exhausted. -/
def run : Nat → Machine S → Except Fault Bool × Machine S
  | 0, m     => (.ok false, m)
  | n + 1, m =>
    let o := m.step
    match o.result with
    | .ok _ => run n o.state
    | .error fault => (if fault.isExhausted then .ok true else .error fault, o.state)

/-- Show the screen as it is. -/
def refresh (m : Machine S) : Outcome (Machine S) Fault Unit :=
  let (shown, screen) := Surface.refresh m.screen
  ⟨shown.mapError .display, { m with screen := screen }, []⟩

end ChipEight.Machine
