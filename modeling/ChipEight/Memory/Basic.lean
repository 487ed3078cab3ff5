import ChipEight.Memory.Space

/-!
# The machine's memory

There are 4096 cells. Those below the program's start belong to the interpreter: whether a write
there is refused or only reported is a matter of policy. The font stands there from the beginning
and counts as never written.
-/

namespace ChipEight

/-- What becomes of a write below the program's start. -/
inductive WritePolicy where
  | permissive
  | strict
deriving DecidableEq

structure Cell where
  byte : UInt8
  written : Bool
deriving DecidableEq

structure Memory where
  cells : Vector Cell 4096
  policy : WritePolicy
  programStart : UInt16
deriving DecidableEq

namespace Memory

/-! ### Fresh memory -/

/-- The sixteen hexadecimal digits, five rows each, high bits first. -/
def font : List UInt8 :=
  [0xF0, 0x90, 0x90, 0x90, 0xF0,
   0x20, 0x60, 0x20, 0x20, 0x70,
   0xF0, 0x10, 0xF0, 0x80, 0xF0,
   0xF0, 0x10, 0xF0, 0x10, 0xF0,
   0x90, 0x90, 0xF0, 0x10, 0x10,
   0xF0, 0x80, 0xF0, 0x10, 0xF0,
   0xF0, 0x80, 0xF0, 0x90, 0xF0,
   0xF0, 0x10, 0x20, 0x40, 0x40,
   0xF0, 0x90, 0xF0, 0x90, 0xF0,
   0xF0, 0x90, 0xF0, 0x10, 0xF0,
   0xF0, 0x90, 0xF0, 0x90, 0x90,
   0xE0, 0x90, 0xE0, 0x90, 0xE0,
   0xF0, 0x80, 0x80, 0x80, 0xF0,
   0xE0, 0x90, 0x90, 0x90, 0xE0,
   0xF0, 0x80, 0xF0, 0x80, 0xF0,
   0xF0, 0x80, 0xF0, 0x80, 0x80]

def fontStart : Nat := 0x050

/-- Where programs start unless told otherwise. -/
def defaultStart : UInt16 := 0x200

/-- The bytes before anything is written: zeros around the font. -/
def initialBytes : List UInt8 :=
  List.replicate fontStart 0 ++ font ++ List.replicate (4096 - (fontStart + font.length)) 0

theorem length_initialBytes : initialBytes.length = 4096 := by
  simp only [initialBytes, List.length_append, List.length_replicate]
  rfl

def fresh (policy : WritePolicy) : Memory where
  cells := ⟨(initialBytes.map fun b => ⟨b, false⟩).toArray, by simp [length_initialBytes]⟩
  policy := policy
  programStart := defaultStart

/-! ### Access -/

/-- Does the address lie below the program's start? -/
def isReserved (m : Memory) (a : UInt16) : Bool := a < m.programStart

/-- Store a byte in a cell and mark it written. -/
def put (m : Memory) (a : Fin 4096) (b : UInt8) : Memory :=
  { m with cells := m.cells.set a ⟨b, true⟩ }

def write (m : Memory) (a : UInt16) (b : UInt8) : Outcome Memory Fault UInt8 :=
  if h : a.toNat < 4096 then
    if m.isReserved a then
      match m.policy with
      | .strict     => .fail (.reserved a) m
      | .permissive =>
        (Outcome.note (.reservedWrite a) m).andThen fun _ m => .ok b (m.put ⟨a.toNat, h⟩ b)
    else .ok b (m.put ⟨a.toNat, h⟩ b)
  else .fail (.outOfBounds a) m

def read (m : Memory) (a : UInt16) (n : Nat) : List UInt8 :=
  (List.range' a.toNat (min (a.toNat + n) 4096 - a.toNat)).filterMap fun i =>
    m.cells[i]?.map Cell.byte

def isWritten (m : Memory) (a : UInt16) : Bool :=
  if h : a.toNat < 4096 then m.cells[a.toNat].written else false

instance : AddressSpace Memory := ⟨write, read, isWritten⟩

/-- Store a program at its start. -/
def loadProgram (m : Memory) (bytes : List UInt8) : Outcome Memory Fault Unit :=
  AddressSpace.load m bytes m.programStart

end Memory

end ChipEight
