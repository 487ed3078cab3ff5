import ChipEight.Machine.State
import ChipEight.Program.Delivery

/-!
# Loading a program

A program is stored from the program's start on. One that is read from a delivery is stored only
after all of it was read and found to fit.
-/

namespace ChipEight.Machine

variable {S : Type}

def loadRom (m : Machine S) (rom : Rom) : Outcome (Machine S) Fault Unit :=
  let stored := (m.memory.loadProgram rom.bytes).lift
    (fun memory => { m with memory := memory }) Fault.memory
  stored.andThen fun _ m => .note (.loaded rom.size m.memory.programStart) m

def loadDelivery (m : Machine S) (delivery : List Delivery) : Outcome (Machine S) Fault Unit :=
  match Rom.ofDelivery delivery with
  | .ok rom      => m.loadRom rom
  | .error fault => .fail (.rom fault) m

end ChipEight.Machine
