import ChipEight.Machine.Cycle
import ChipEight.Machine.Load
import ChipEight.Proofs.Outcome

/-!
# Requests

All that whoever owns a machine can ask of it: to load programs, to step and to execute
instructions, to show the screen, and to look at its registers, its memory and its stack or change
them from outside. Every request has an answer, and one that fails does not keep the next ones from
being made.
-/

namespace ChipEight

namespace RegisterFile

inductive Request where
  | read (r : Register)
  | write (r : Register) (value : UInt32)
  | readNamed (name : String)
  | writeNamed (name : String) (value : UInt32)
  | pc
  | sp
  | setPc (value : UInt32)
  | setSp (value : UInt32)
  | incrementSp
  | decrementSp

/-- What is read, if that was asked for, and the file behind the request. -/
def serve (f : RegisterFile) : Request → Except Register.Fault (Option UInt16 × RegisterFile)
  | .read r                => do return (some (← f.read r), f)
  | .write r value         => do return (none, ← f.write r value)
  | .readNamed name        => do return (some (← f.readNamed name), f)
  | .writeNamed name value => do return (none, ← f.writeNamed name value)
  | .pc                    => .ok (some f.pc, f)
  | .sp                    => .ok (some f.sp.toUInt16, f)
  | .setPc value           => .ok (none, f.setPc value)
  | .setSp value           => .ok (none, f.setSp value)
  | .incrementSp           => .ok (none, f.incrementSp)
  | .decrementSp           => .ok (none, f.decrementSp)

end RegisterFile

namespace Machine

inductive Request where
  | loadRom (rom : Rom)
  | loadDelivery (delivery : List Delivery)
  | step
  | execute (i : Instruction)
  | refresh
  | registers (r : RegisterFile.Request)
  | write (address : UInt16) (byte : UInt8)
  | load (bytes : List UInt8) (address : UInt16)
  | loadProgram (bytes : List UInt8)
  | setStart (address : UInt16)
  | read (address : UInt16) (count : Nat)
  | word (address : UInt16)
  | isWritten (address : UInt16)
  | isReserved (address : UInt16)
  | slot (sp : UInt8)
  | query (region : Region)

namespace Request

/-- The first cell that is written from outside. -/
def target? : Request → Option UInt16
  | .write a _       => some a
  | .load (_ :: _) a => some a
  | _                => none

/-- Where programs start behind a request, if it says so. -/
def start? : Request → Option UInt16
  | .setStart a => some a
  | _           => none

end Request

inductive Reply where
  | done
  | executed (i : Instruction)
  | value (value : UInt16)
  | bytes (bytes : List UInt8)
  | flag (flag : Bool)
  | slot (address : Option UInt16)
deriving DecidableEq

variable {S : Type}

/-- The answer of the memory, which is the machine's. -/
def onMemory {α : Type} (m : Machine S) (o : Outcome Memory Memory.Fault α) (reply : α → Reply) :
    Outcome (Machine S) Fault Reply :=
  (o.lift (fun memory => { m with memory := memory }) Fault.memory).map reply

/-- The answer of the registers, which is the machine's. -/
def onRegisters (m : Machine S)
    (answer : Except Register.Fault (Option UInt16 × RegisterFile)) :
    Outcome (Machine S) Fault Reply :=
  match answer with
  | .ok (value, registers) => .ok (value.elim .done .value) { m with registers := registers }
  | .error fault           => .fail (.register fault) m

def serve [Surface S] (m : Machine S) : Request → Outcome (Machine S) Fault Reply
  | .loadRom rom           => (m.loadRom rom).map fun _ => .done
  | .loadDelivery delivery => (m.loadDelivery delivery).map fun _ => .done
  | .step                  => m.step.map .executed
  | .execute i             => (m.execute i).map fun _ => .done
  | .refresh               => m.refresh.map fun _ => .done
  | .registers r           => m.onRegisters (m.registers.serve r)
  | .write a b             => m.onMemory (m.memory.write a b) fun b => .bytes [b]
  | .load bytes a          => m.onMemory (AddressSpace.load m.memory bytes a) fun _ => .done
  | .loadProgram bytes     => m.onMemory (m.memory.loadProgram bytes) fun _ => .done
  | .setStart a            => .ok .done { m with memory.programStart := a }
  | .read a count          => .ok (.bytes (m.memory.read a count)) m
  | .word a                => .ok (.value (AddressSpace.word m.memory a)) m
  | .isWritten a           => .ok (.flag (m.memory.isWritten a)) m
  | .isReserved a          => .ok (.flag (m.memory.isReserved a)) m
  | .slot sp               => .ok (.slot (m.stack.get? sp)) m
  | .query region          =>
    let (isOff, screen) := Surface.query m.screen region
    .ok (.flag isOff) { m with screen := screen }

variable [Surface S]

/-- The outcomes of requests that are made one after the other. -/
def outcomes (m : Machine S) : List Request → List (Outcome (Machine S) Fault Reply)
  | []            => []
  | r :: requests => m.serve r :: outcomes (m.serve r).state requests

end Machine

end ChipEight
