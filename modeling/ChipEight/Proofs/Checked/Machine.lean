import ChipEight.Proofs.Checked.Memory
import ChipEight.Proofs.Checked.Registers
import ChipEight.Proofs.Checked.Screen
import ChipEight.Proofs.Machine.Execution

/-!
# The machine on arrays

A machine that keeps all that it has in arrays, and executes instructions by checked access to them.
It goes on like the machine on a grid, step by step and also when a step fails, and its arrays go on
to hold the same.
-/

namespace ChipEight.Checked

open ChipEight.Machine (Fault)

structure Machine where
  memory : Cells
  registers : Registers
  stack : Slots
  screen : Rows
  instructions : InstructionSet

namespace Machine

/-! ### What is done to the arrays -/

def fresh? (config : Config) (screen : Rows) : Option Machine := do
  let memory ← Cells.fresh? config.policy
  return {
    memory := memory
    registers := (Registers.ofFile .zero).setPc memory.programStart.toUInt32
    stack := ⟨#[]⟩
    screen := screen
    instructions := config.instructions }

/-- Goes on with what the registers yield. -/
def given? {α : Type} (c : Machine) (value? : Option (Except Register.Fault α))
    (next? : α → Option (Outcome Machine Fault Unit)) : Option (Outcome Machine Fault Unit) :=
  value?.bind fun
    | .ok a    => next? a
    | .error e => some (.fail (.register e) c)

def advance? (c : Machine) : Option Machine := do
  return { c with registers := ← c.registers.advance? }

def skip? (c : Machine) (flag : Bool) : Option (Outcome Machine Fault Unit) := do
  if flag then return .ok () (← c.advance?) else return .ok () c

def jump (c : Machine) (target : UInt16) : Machine :=
  { c with registers := c.registers.setPc (target &&& 0x0FFF).toUInt32 }

def call? (c : Machine) (target : UInt16) : Option (Outcome Machine Fault Unit) := do
  let sp := c.registers.sp + 1
  let stack ← c.stack.store? sp c.registers.pc
  return {
    result := .ok ()
    state := jump { c with stack := stack, registers.sp := sp } target
    log := if nominalDepth < sp.toNat then [.deepStack sp] else [] }

def ret (c : Machine) : Outcome Machine Fault Unit :=
  let sp := c.registers.sp
  let address := c.stack.get? sp
  { result := .ok ()
    state := { c with
      registers := { c.registers.setPc (address.getD 0).toUInt32 with sp := sp - 1 } }
    log := if address = none then [.unsetSlot sp] else [] }

def draw? (c : Machine) (rx ry : Register) (rows : UInt8) : Option (Outcome Machine Fault Unit) :=
  c.given? (c.registers.read? rx) fun x =>
  c.given? (c.registers.read? ry) fun y =>
  c.given? (c.registers.read? .index) fun index => do
    let sprite ← c.memory.read? (index &&& 0x0FFF) (rows &&& 0x0F).toNat
    let (collision, screen) ← c.screen.draw? sprite x.toNat y.toNat
    let c := { c with screen := screen }
    c.given? (c.registers.write? (.general Register.flag) (if collision then 1 else 0))
      fun registers => some (.ok () { c with registers := registers })

def execute? (c : Machine) : Instruction → Option (Outcome Machine Fault Unit)
  | .clear => some (.ok () { c with screen := c.screen.clear })
  | .ret => some c.ret
  | .jump target => some (.ok () (c.jump target))
  | .call target => c.call? target
  | .skipIfEqual left right => c.given? (c.registers.agree? left right) fun same => c.skip? same
  | .skipIfNotEqual left right => c.given? (c.registers.agree? left right) fun same => c.skip? !same
  | .load target source => c.given? (c.registers.load? target source) fun registers =>
    some (.ok () { c with registers := registers })
  | .loadIndex address => c.given? (c.registers.write? .index address.toUInt32) fun registers =>
    some (.ok () { c with registers := registers })
  | .draw x y rows => c.draw? x y rows
  | .unknown word => some (.note (.unknownInstruction word) c)

/-! ### Decoding -/

/-- All general registers by number. -/
def generalRegisters : Array Register := .ofFn Register.general

open Word in
/-- The registers that the second and the third digit number are looked up for every word. -/
def decode? (set : InstructionSet) (word : UInt16) : Option Instruction := do
  let x ← generalRegisters[digit word 2]?
  let y ← generalRegisters[digit word 1]?
  return match set, digit word 3 with
  | _, 0x0 => if word = 0x00E0 then .clear else if word = 0x00EE then .ret else .unknown word
  | _, 0x1 => .jump (address word)
  | _, 0x2 => .call (address word)
  | _, 0x3 => .skipIfEqual x (.byte (lowByte word))
  | _, 0x4 => .skipIfNotEqual x (.byte (lowByte word))
  | _, 0x5 => .skipIfEqual x (.register y)
  | _, 0x9 => .skipIfNotEqual x (.register y)
  | .extended, 0x6 => .load x (.byte (lowByte word))
  | .extended, 0x8 => if digit word 0 = 0 then .load x (.register y) else .unknown word
  | .extended, 0xA => .loadIndex (address word)
  | .extended, 0xD => .draw x y (UInt8.ofNat (digit word 0))
  | _, _ => .unknown word

theorem generalRegisters_digit (word : UInt16) (k : Nat) :
    generalRegisters[Word.digit word k]? = some (Word.register word k) := by
  have hdigit : Word.digit word k < 16 := Nat.mod_lt _ (by decide)
  simp [generalRegisters, hdigit, Word.register, Register.ofNumber, Fin.ofNat, Nat.mod_eq_of_lt]

/-- A digit of a word is always the number of a register. -/
theorem decode?_eq_some (set : InstructionSet) (word : UInt16) :
    decode? set word = some (.decode set word) := by
  rw [decode?, generalRegisters_digit, generalRegisters_digit]
  rfl

/-! ### The cycle -/

/-- The word at the program counter, unless the program is exhausted. -/
def fetch? (c : Machine) : Option (Option UInt16) := do
  let pc := c.registers.pc
  if !c.memory.isWritten pc && !c.memory.isWritten (pc + 1) then return none
  let word ← c.memory.word? pc
  return some (if c.memory.isWritten (pc + 1) then word else word &&& 0xFF00)

def step? (c : Machine) : Option (Outcome Machine Fault Instruction) := do
  match ← c.fetch? with
  | none => return .fail (.exhausted c.registers.pc) c
  | some word =>
    let i ← decode? c.instructions word
    andThen? (some (.note (.executing c.registers.pc i) c)) fun _ c =>
      andThen? (c.execute? i) fun _ c => return .ok i (← c.advance?)

/-! ### The arrays of a machine -/

/-- The arrays of all but the stack, which does not say how long its own is. -/
def ofMachine (m : ChipEight.Machine Grid) (stack : Slots) : Machine where
  memory := .ofMemory m.memory
  registers := .ofFile m.registers
  stack := stack
  screen := .ofGrid m.screen
  instructions := m.instructions

/-- The arrays hold just what the machine does. -/
def Hold (m : ChipEight.Machine Grid) (c : Machine) : Prop :=
  ∃ stack, Slots.Hold m.stack stack ∧ c = ofMachine m stack

variable {m : ChipEight.Machine Grid} {stack : Slots}

@[simp] theorem memory_ofMachine : (ofMachine m stack).memory = .ofMemory m.memory := rfl

@[simp] theorem registers_ofMachine : (ofMachine m stack).registers = .ofFile m.registers := rfl

@[simp] theorem stack_ofMachine : (ofMachine m stack).stack = stack := rfl

@[simp] theorem screen_ofMachine : (ofMachine m stack).screen = .ofGrid m.screen := rfl

@[simp] theorem instructions_ofMachine : (ofMachine m stack).instructions = m.instructions := rfl

theorem fresh?_eq_some (config : Config) (screen : Grid) : fresh? config (.ofGrid screen) =
    some (ofMachine (.fresh config screen) ⟨#[]⟩) := by
  rw [fresh?, Cells.fresh?_eq]
  rfl

theorem hold_fresh (config : Config) (screen : Grid) :
    Hold (.fresh config screen) (ofMachine (.fresh config screen) ⟨#[]⟩) :=
  ⟨_, Slots.hold_empty, rfl⟩

/-! ### Executing -/

theorem advance?_ofMachine (m : ChipEight.Machine Grid) (stack : Slots) :
    (ofMachine m stack).advance? = some (ofMachine m.advance stack) := by
  rw [advance?, registers_ofMachine, Registers.advance?_ofFile]
  rfl

theorem fetch?_ofMachine (m : ChipEight.Machine Grid) (stack : Slots) :
    (ofMachine m stack).fetch? = some m.fetch? := by
  simp only [fetch?, ChipEight.Machine.fetch?, memory_ofMachine, registers_ofMachine,
    Registers.pc_ofFile, Cells.isWritten_ofMemory, Cells.word?_ofMemory]
  cases m.memory.isWritten m.registers.pc <;>
    cases m.memory.isWritten (m.registers.pc + 1) <;> rfl

theorem given?_map {α β : Type} (c : Machine) (value : Except Register.Fault α) (view : α → β)
    (next? : β → Option (Outcome Machine Fault Unit)) :
    c.given? (some (value.map view)) next? = c.given? (some value) fun a => next? (view a) := by
  cases value <;> rfl

section

variable (h : Slots.Hold m.stack stack)
include h

theorem yields_done : Yields Hold (.ok () m : Outcome _ Fault Unit)
    (some (.ok () (ofMachine m stack))) :=
  yields_some (Outcome.related_ok () ⟨stack, h, rfl⟩)

theorem skip?_yields (flag : Bool) :
    Yields Hold (.ok () (m.skip flag)) ((ofMachine m stack).skip? flag) := by
  cases flag with
  | false => exact yields_done h
  | true =>
    rw [skip?, if_pos rfl, advance?_ofMachine]
    exact yields_done (m := m.advance) h

theorem given?_yields {α : Type} (value : Except Register.Fault α)
    {next : α → Outcome (ChipEight.Machine Grid) Fault Unit}
    {next? : α → Option (Outcome Machine Fault Unit)}
    (hnext : ∀ a, value = .ok a → Yields Hold (next a) (next? a)) :
    Yields Hold (m.given value next) ((ofMachine m stack).given? (some value) next?) := by
  cases value with
  | error fault => exact yields_some ⟨rfl, rfl, stack, h, rfl⟩
  | ok a => exact hnext a rfl

theorem call?_yields (target : UInt16) :
    Yields Hold (m.call target) ((ofMachine m stack).call? target) := by
  obtain ⟨stack', hstore, h'⟩ := h.store? (m.registers.sp + 1) m.registers.pc
  simp only [call?, registers_ofMachine, stack_ofMachine, Registers.sp_ofFile, Registers.pc_ofFile,
    hstore]
  rw [m.call_eq]
  refine yields_some ⟨rfl, rfl, stack', h', ?_⟩
  simp [jump, ofMachine, Registers.setPc, Registers.ofFile]

theorem ret_yields : Yields Hold m.ret (some (ofMachine m stack).ret) := by
  simp only [ret, registers_ofMachine, stack_ofMachine, Registers.sp_ofFile, h.get?_eq]
  rw [m.ret_eq]
  refine yields_some ⟨rfl, rfl, stack, h, ?_⟩
  simp [ofMachine, Registers.setPc, Registers.ofFile]

/-- Some registers are changed, and that is all. -/
theorem given?_registers_yields (file : Except Register.Fault RegisterFile) :
    Yields Hold (m.given file fun registers => .ok () { m with registers := registers })
      ((ofMachine m stack).given? (some (file.map .ofFile)) fun registers =>
        some (.ok () { ofMachine m stack with registers := registers })) := by
  rw [given?_map]
  apply given?_yields h
  intro registers _
  exact yields_done (m := { m with registers := registers }) h

/-- A sprite is drawn from within the arrays, whatever the registers hold. -/
theorem draw?_yields (rx ry : Register) (rows : UInt8) :
    Yields Hold (m.draw rx ry rows) ((ofMachine m stack).draw? rx ry rows) := by
  rw [ChipEight.Machine.draw, draw?, registers_ofMachine, Registers.read?_ofFile]
  apply given?_yields h
  intro x _
  rw [Registers.read?_ofFile]
  apply given?_yields h
  intro y _
  rw [Registers.read?_ofFile]
  apply given?_yields h
  intro index _
  have hlength := m.memory.length_read_le (index &&& 0x0FFF) (rows &&& 0x0F).toNat
  rw [memory_ofMachine, Cells.read?_ofMemory, Option.bind_eq_bind, Option.bind_some,
    screen_ofMachine, Rows.draw?_ofGrid (hlength.trans_lt (by decide)), Option.bind_eq_bind,
    Option.bind_some]
  dsimp only
  generalize Surface.draw m.screen _ _ _ = drawing
  obtain ⟨collision, screen⟩ := drawing
  have hwrite := Registers.write?_ofFile m.registers (.general Register.flag)
    (if collision then 1 else 0)
  have hdone := given?_registers_yields (m := { m with screen := screen }) h
    (m.registers.write (.general Register.flag) (if collision then 1 else 0))
  rw [← hwrite] at hdone
  exact hdone

/-- Instructions are executed on the arrays as on the machine that they hold. -/
theorem execute?_yields (i : Instruction) :
    Yields Hold (m.execute i) ((ofMachine m stack).execute? i) := by
  cases i with
  | clear =>
    rw [execute?, screen_ofMachine, Rows.clear_ofGrid]
    exact yields_done (m := { m with screen := .dark }) h
  | ret => exact ret_yields h
  | jump target => exact yields_done (m := m.jump target) h
  | call target => exact call?_yields h target
  | skipIfEqual left right | skipIfNotEqual left right =>
    rw [execute?, registers_ofMachine, Registers.agree?_ofFile]
    apply given?_yields h
    intro same _
    exact skip?_yields h _
  | load target source =>
    rw [execute?, registers_ofMachine, Registers.load?_ofFile]
    exact given?_registers_yields h _
  | loadIndex address =>
    rw [execute?, registers_ofMachine, Registers.write?_ofFile]
    exact given?_registers_yields h _
  | draw rx ry rows => exact draw?_yields h rx ry rows
  | unknown word => exact yields_some ⟨rfl, rfl, stack, h, rfl⟩

/-- A step takes no index out of range, and leads to arrays that hold the machine behind it. -/
theorem step?_yields : Yields Hold m.step (ofMachine m stack).step? := by
  rw [ChipEight.Machine.step, step?, fetch?_ofMachine, Option.bind_eq_bind, Option.bind_some]
  cases m.fetch? with
  | none => exact yields_some ⟨rfl, rfl, stack, h, rfl⟩
  | some word =>
    dsimp only
    rw [instructions_ofMachine, decode?_eq_some, Option.bind_eq_bind, Option.bind_some]
    have hnote : Yields Hold (.note (.executing m.registers.pc (.decode m.instructions word)) m)
        (some (.note (ε := Fault) (.executing m.registers.pc (.decode m.instructions word))
          (ofMachine m stack))) :=
      yields_some ⟨rfl, rfl, stack, h, rfl⟩
    apply hnote.andThen
    rintro _ m _ ⟨stack, h, rfl⟩
    apply (execute?_yields h _).andThen
    rintro _ m _ ⟨stack, h, rfl⟩
    rw [advance?_ofMachine]
    exact yields_some ⟨rfl, rfl, stack, h, rfl⟩

end

end Machine

end ChipEight.Checked
