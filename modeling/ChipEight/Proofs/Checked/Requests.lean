import ChipEight.Proofs.Checked.Machine

/-!
# Requests never go out of range

Whatever is asked of a machine, or of its grid directly, every index into an array is in range and
every sum fits. What keeps it so is that each array keeps its size: one entry for each cell of the
memory in both of its arrays, for each general register, and for each cell of the screen. All that
is asked of the requests is that their data is not longer than a list of bytes can be.
-/

namespace ChipEight

namespace Machine

/-- A request to a machine, or to the grid that is its screen. -/
inductive HostRequest where
  | machine (r : Request)
  | light (x y : Nat)
  | draw (sprite : List UInt8) (x y : Nat)
  | clear
  | toBytes

def HostRequest.dataLength : HostRequest → Nat
  | .machine (.load bytes _)      => bytes.length
  | .machine (.loadProgram bytes) => bytes.length
  | .draw sprite _ _              => sprite.length
  | _                             => 0

def serveHost (m : Machine Grid) : HostRequest → Outcome (Machine Grid) Fault Reply
  | .machine r       => m.serve r
  | .light x y       => .ok .done { m with screen := Surface.light m.screen x y }
  | .draw sprite x y =>
    let (collision, screen) := Surface.draw m.screen sprite x y
    .ok (.flag collision) { m with screen := screen }
  | .clear           => .ok .done { m with screen := Surface.clear m.screen }
  | .toBytes         => .ok (.bytes m.screen.toBytes.toList) m

def hostOutcomes (m : Machine Grid) : List HostRequest → List (Outcome (Machine Grid) Fault Reply)
  | []            => []
  | r :: requests => m.serveHost r :: hostOutcomes (m.serveHost r).state requests

end Machine

namespace Checked.Machine

open ChipEight.Machine (Fault Request Reply HostRequest)

/-! ### What is done to the arrays -/

/-- What the memory does is done by the machine. -/
def liftMemory? {α : Type} (c : Machine) (o? : Option (Outcome Cells Memory.Fault α)) :
    Option (Outcome Machine Fault α) :=
  o?.map fun o => o.lift (fun memory => { c with memory := memory }) Fault.memory

def loadRom? (c : Machine) (rom : Rom) : Option (Outcome Machine Fault Unit) :=
  andThen? (c.liftMemory? (c.memory.load? rom.bytes c.memory.programStart)) fun _ c =>
    some (.note (.loaded rom.size c.memory.programStart) c)

def loadDelivery? (c : Machine) (delivery : List Delivery) : Option (Outcome Machine Fault Unit) :=
  match Rom.ofDelivery delivery with
  | .ok rom      => c.loadRom? rom
  | .error fault => some (.fail (.rom fault) c)

def onRegisters? (c : Machine)
    (answer? : Option (Except Register.Fault (Option UInt16 × Registers))) :
    Option (Outcome Machine Fault Reply) :=
  answer?.map fun
    | .ok (value, registers) => .ok (value.elim .done .value) { c with registers := registers }
    | .error fault           => .fail (.register fault) c

def serve? (c : Machine) : Request → Option (Outcome Machine Fault Reply)
  | .loadRom rom           => (c.loadRom? rom).map (·.map fun _ => .done)
  | .loadDelivery delivery => (c.loadDelivery? delivery).map (·.map fun _ => .done)
  | .step                  => c.step?.map (·.map .executed)
  | .execute i             => (c.execute? i).map (·.map fun _ => .done)
  | .refresh               => some (.ok .done c)
  | .registers r           => c.onRegisters? (c.registers.serve? r)
  | .write a b             => (c.liftMemory? (c.memory.write? a b)).map (·.map fun b => .bytes [b])
  | .load bytes a          => (c.liftMemory? (c.memory.load? bytes a)).map (·.map fun _ => .done)
  | .loadProgram bytes     =>
    (c.liftMemory? (c.memory.load? bytes c.memory.programStart)).map (·.map fun _ => .done)
  | .setStart a            => some (.ok .done { c with memory.programStart := a })
  | .read a count          => (c.memory.read? a count).map fun bytes => .ok (.bytes bytes) c
  | .word a                => (c.memory.word? a).map fun word => .ok (.value word) c
  | .isWritten a           => some (.ok (.flag (c.memory.isWritten a)) c)
  | .isReserved a          => some (.ok (.flag (c.memory.isReserved a)) c)
  | .slot sp               => some (.ok (.slot (c.stack.get? sp)) c)
  | .query region          => (c.screen.isClear? region).map fun isOff => .ok (.flag isOff) c

def serveHost? (c : Machine) : HostRequest → Option (Outcome Machine Fault Reply)
  | .machine r       => c.serve? r
  | .light x y       => some (.ok .done { c with screen := c.screen.light x y })
  | .draw sprite x y => (c.screen.draw? sprite x y).map fun (collision, screen) =>
    .ok (.flag collision) { c with screen := screen }
  | .clear           => some (.ok .done { c with screen := c.screen.clear })
  | .toBytes         => c.screen.toBytes?.map fun data => .ok (.bytes data.toList) c

def hostOutcomes? (c : Machine) : List HostRequest → Option (List (Outcome Machine Fault Reply))
  | []            => some []
  | r :: requests => do
    let o ← c.serveHost? r
    return o :: (← hostOutcomes? o.state requests)

/-! ### One request -/

section

variable {m : ChipEight.Machine Grid} {stack : Slots} (h : Slots.Hold m.stack stack)
include h

theorem yields_reply (reply : Reply) : Yields Hold (.ok reply m : Outcome _ Fault Reply)
    (some (.ok reply (ofMachine m stack))) :=
  yields_some (Outcome.related_ok reply ⟨stack, h, rfl⟩)

theorem liftMemory?_yields {α : Type} {o : Outcome Memory Memory.Fault α}
    {o? : Option (Outcome Cells Memory.Fault α)} (hmemory : Yields Cells.Hold o o?) :
    Yields Hold (o.lift (fun memory => { m with memory := memory }) Fault.memory)
      ((ofMachine m stack).liftMemory? o?) := by
  apply hmemory.lift
  rintro memory _ rfl
  exact ⟨stack, h, rfl⟩

theorem loadRom?_yields (rom : Rom) :
    Yields Hold (m.loadRom rom) ((ofMachine m stack).loadRom? rom) := by
  have hlength : rom.bytes.length < 0x8000000000000000 := rom.fits.trans_lt (by decide)
  have hload := liftMemory?_yields h (Cells.load?_yields hlength m.memory m.memory.programStart)
  unfold ChipEight.Machine.loadRom
  apply hload.andThen
  rintro _ m _ ⟨stack, h, rfl⟩
  exact yields_some ⟨rfl, rfl, stack, h, rfl⟩

theorem loadDelivery?_yields (delivery : List Delivery) :
    Yields Hold (m.loadDelivery delivery) ((ofMachine m stack).loadDelivery? delivery) := by
  rw [ChipEight.Machine.loadDelivery, loadDelivery?]
  cases Rom.ofDelivery delivery with
  | error fault => exact yields_some ⟨rfl, rfl, stack, h, rfl⟩
  | ok rom => exact loadRom?_yields h rom

theorem onRegisters?_yields (r : RegisterFile.Request) :
    Yields Hold (m.onRegisters (m.registers.serve r))
      ((ofMachine m stack).onRegisters? ((ofMachine m stack).registers.serve? r)) := by
  rw [registers_ofMachine, Registers.serve?_ofFile]
  cases m.registers.serve r with
  | error fault => exact yields_some ⟨rfl, rfl, stack, h, rfl⟩
  | ok answer => exact yields_reply (m := { m with registers := answer.2 }) h _

/-- Whatever a machine is asked for, its arrays answer as it does. -/
theorem serve?_yields {r : Request} (hr : (HostRequest.machine r).dataLength < 0x8000000000000000) :
    Yields Hold (m.serve r) ((ofMachine m stack).serve? r) := by
  cases r with
  | loadRom rom => exact (loadRom?_yields h rom).map _
  | loadDelivery delivery => exact (loadDelivery?_yields h delivery).map _
  | step => exact (step?_yields h).map _
  | execute i => exact (execute?_yields h i).map _
  | refresh | isReserved => exact yields_reply h _
  | registers r => exact onRegisters?_yields h r
  | write a b => exact (liftMemory?_yields h (Cells.write?_yields m.memory a b)).map _
  | load bytes a => exact (liftMemory?_yields h (Cells.load?_yields hr m.memory a)).map _
  | loadProgram bytes => exact (liftMemory?_yields h (Cells.load?_yields hr m.memory _)).map _
  | setStart a => exact yields_reply (m := { m with memory.programStart := a }) h _
  | read a count =>
    rw [serve?, memory_ofMachine, Cells.read?_ofMemory]
    exact yields_reply h _
  | word a =>
    rw [serve?, memory_ofMachine, Cells.word?_ofMemory]
    exact yields_reply h _
  | isWritten a =>
    rw [serve?, memory_ofMachine, Cells.isWritten_ofMemory]
    exact yields_reply h _
  | slot sp =>
    rw [serve?, stack_ofMachine, h.get?_eq]
    exact yields_reply h _
  | query region =>
    rw [serve?, screen_ofMachine, Rows.isClear?_ofGrid]
    exact yields_reply h _

/-- This holds of what a host can ask for as well. -/
theorem serveHost?_yields {r : HostRequest} (hr : r.dataLength < 0x8000000000000000) :
    Yields Hold (m.serveHost r) ((ofMachine m stack).serveHost? r) := by
  cases r with
  | machine r => exact serve?_yields h hr
  | light x y =>
    rw [serveHost?, screen_ofMachine, Rows.light_ofGrid]
    exact yields_reply (m := { m with screen := m.screen.light x y }) h _
  | draw sprite x y =>
    rw [serveHost?, screen_ofMachine, Rows.draw?_ofGrid hr]
    exact yields_reply (m := { m with screen := (Surface.draw m.screen sprite x y).2 }) h _
  | clear =>
    rw [serveHost?, screen_ofMachine, Rows.clear_ofGrid]
    exact yields_reply (m := { m with screen := .dark }) h _
  | toBytes =>
    rw [serveHost?, screen_ofMachine, Rows.toBytes?_ofGrid]
    exact yields_reply h _

end

/-! ### Many requests -/

/-- All arrays of a machine are as long as they are at first, but that of the stack. It grows with
the slots that are stored to, of which there are no more than the stack pointer can tell apart. -/
structure Sized (c : Machine) : Prop where
  bytes : c.memory.bytes.size = 4096
  written : c.memory.written.size = 4096
  general : c.registers.general.size = 16
  slots : c.stack.slots.size ≤ 256
  rows : c.screen.rows.size = 32
  cells : ∀ row ∈ c.screen.rows, row.size = 64

/-- Arrays that hold a machine have an entry for each of its cells and registers. -/
theorem Hold.sized {m : ChipEight.Machine Grid} {c : Machine} (h : Hold m c) : c.Sized := by
  obtain ⟨stack, h, rfl⟩ := h
  exact {
    bytes := Cells.size_bytes_ofMemory m.memory
    written := Cells.size_written_ofMemory m.memory
    general := Registers.size_general_ofFile m.registers
    slots := h.size_le
    rows := by simp [ofMachine, Rows.ofGrid]
    cells := by simp [ofMachine, Rows.ofGrid] }

/-- Requests one after the other are answered without an index out of range. -/
theorem hostOutcomes?_eq_some {m : ChipEight.Machine Grid} {c : Machine} (h : Hold m c)
    {requests : List HostRequest} (hrequests : ∀ r ∈ requests, r.dataLength < 0x8000000000000000) :
    ∃ outcomes, c.hostOutcomes? requests = some outcomes ∧
      List.Forall₂ (Outcome.Related Hold) (m.hostOutcomes requests) outcomes ∧
      ∀ o ∈ outcomes, o.state.Sized := by
  induction requests generalizing m c with
  | nil => exact ⟨[], rfl, .nil, List.forall_mem_nil _⟩
  | cons r requests ih =>
    obtain ⟨stack, h, rfl⟩ := h
    obtain ⟨hr, hrequests⟩ := List.forall_mem_cons.1 hrequests
    obtain ⟨o, ho, hrelated⟩ := serveHost?_yields h hr
    obtain ⟨outcomes, houtcomes, hall, hsized⟩ := ih hrelated.state hrequests
    refine ⟨o :: outcomes, ?_, .cons hrelated hall,
      List.forall_mem_cons.2 ⟨hrelated.state.sized, hsized⟩⟩
    rw [hostOutcomes?, ho, Option.bind_eq_bind, Option.bind_some, houtcomes]
    rfl

end Checked.Machine

/-- Nothing that can be asked of a machine goes out of range. A fresh machine that keeps its memory,
its general registers, its stack and its grid in arrays, and takes every index to be in range and
every sum to fit, never stops: it answers all requests in turn, with the results, faults and reports
of the machine that has no need of such care, and its arrays go on to hold the same. This is for any
requests whose data is shorter than any list of bytes may be. Throughout, memory has 4096 entries in
both of its arrays, and the sixteen entries of the general registers are asked for by these alone:
no other register has a position among them, and access to it is the same with whatever array. -/
theorem Machine.hostOutcomes_in_range (config : Config) (screen : Grid)
    {requests : List HostRequest}
    (hrequests : ∀ r ∈ requests, r.dataLength < 0x8000000000000000) :
    (∃ c outcomes, Checked.Machine.fresh? config (.ofGrid screen) = some c ∧
      c.hostOutcomes? requests = some outcomes ∧
      List.Forall₂ (Outcome.Related Checked.Machine.Hold)
        ((fresh config screen).hostOutcomes requests) outcomes ∧
      c.Sized ∧ ∀ o ∈ outcomes, o.state.Sized) ∧
    (∀ r : Register, Register.all[r.position]? = some r ∧
      (r.position < 16 ↔ ∃ x, r = .general x)) ∧
    ∀ r : Register, (∀ x, r ≠ .general x) → ∀ (c : Checked.Registers) (general : Array UInt8) value,
      { c with general := general }.read? r = c.read? r ∧
        { c with general := general }.write? r value =
          (c.write? r value).map (Except.map fun c => { c with general := general }) := by
  refine ⟨?_, fun r => ⟨r.getElem?_all, Register.position_lt_iff⟩, ?_⟩
  · have hfresh := Checked.Machine.hold_fresh config screen
    obtain ⟨outcomes, houtcomes, hall, hsized⟩ :=
      Checked.Machine.hostOutcomes?_eq_some hfresh hrequests
    exact ⟨_, outcomes, Checked.Machine.fresh?_eq_some config screen, houtcomes, hall,
      hfresh.sized, hsized⟩
  · intro r hr c general value
    exact Checked.Registers.access_of_not_general hr c general value

/-- Arguments at the ends of their ranges, in each of the arrays. -/
theorem Machine.hostOutcomes_in_range_ends :
    let last := 0xFFFFFFFFFFFFFFFF
    let requests : List HostRequest := [
      .machine (.write 0x0FFF 0x42), .machine (.write 0x1000 0x42),
      .machine (.load [1, 2, 3] 0xFFFE), .machine (.read 0x0FFF last), .machine (.read 0xFFFF last),
      .machine (.registers (.write (.general 15) 0x1FF)), .machine (.registers (.read .sp)),
      .machine (.registers (.setSp 254)), .machine (.execute (.call 0x300)), .machine (.slot 255),
      .draw [0xFF, 0xFF] last last, .machine (.query ⟨63, 31, last, last⟩), .light last last]
    let refused (address : UInt16) := Except.error (Fault.memory (.outOfBounds address))
    ∃ c outcomes, Checked.Machine.fresh? .default (.ofGrid .dark) = some c ∧
      c.hostOutcomes? requests = some outcomes ∧
      outcomes.map Outcome.result = [.ok (.bytes [0x42]), refused 0x1000, refused 0xFFFE,
        .ok (.bytes [0x42]), .ok (.bytes []), .ok .done, .error (.register (.restricted .sp)),
        .ok .done, .ok .done, .ok (.slot (some 0x200)), .ok (.flag false), .ok (.flag false),
        .ok .done] := by
  intro last requests refused
  have hrequests : ∀ r ∈ requests, r.dataLength < 0x8000000000000000 := by
    simp [requests, HostRequest.dataLength]
  obtain ⟨⟨c, outcomes, hfresh, houtcomes, hall, -⟩, -⟩ :=
    hostOutcomes_in_range .default .dark hrequests
  refine ⟨c, outcomes, hfresh, houtcomes, ?_⟩
  rw [Outcome.map_result_eq hall]
  decide +kernel

end ChipEight
