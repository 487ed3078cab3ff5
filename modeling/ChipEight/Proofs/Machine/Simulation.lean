import ChipEight.Proofs.Machine.Commands
import ChipEight.Proofs.Outcome
import ChipEight.Proofs.Screen.Simulation
import ChipEight.Screen.Grid
import Mathlib.Data.List.Forall2

/-!
# Machines with screens that look alike

A machine looks at its screen through the cells under a sprite only. So two machines that agree in
all but their screens, and these are related by a simulation, cannot be told apart by what they
answer to commands: every drawing collides alike, the flag register holds the same, and the same
instructions are passed over. After each command they agree again.
-/

namespace ChipEight

namespace Machine

variable {S T : Type} {R : S → T → Prop}

/-- Machines that agree in all but their screens, which are related, and their instructions. -/
structure Alike (R : S → T → Prop) (m : Machine S) (m' : Machine T) : Prop where
  memory_eq : m'.memory = m.memory
  registers_eq : m'.registers = m.registers
  stack_eq : m'.stack = m.stack
  screen : R m.screen m'.screen

variable {m : Machine S} {m' : Machine T}

theorem Alike.advance (h : m.Alike R m') : m.advance.Alike R m'.advance where
  memory_eq := h.memory_eq
  registers_eq := by
    rw [Machine.advance, Machine.advance, h.registers_eq]
  stack_eq := h.stack_eq
  screen := h.screen

theorem Alike.fetch?_eq (h : m.Alike R m') : m'.fetch? = m.fetch? := by
  rw [fetch?, fetch?, h.memory_eq, h.registers_eq]

variable [Surface S] [Surface T]

/-! ### Executing -/

theorem Alike.drawn (h : m.Alike R m') (hR : Surface.Simulation R) (x y : UInt16)
    (rows : UInt8) : (m.drawn x y rows).Alike R (m'.drawn x y rows) := by
  have hdraw := hR.draw h.screen
    (m.memory.read (m.registers.index &&& 0x0FFF) (rows &&& 0x0F).toNat) x.toNat y.toNat
  constructor
  case memory_eq => exact h.memory_eq
  case registers_eq =>
    simp only [Machine.drawn, h.memory_eq, h.registers_eq, hdraw.1]
  case stack_eq => exact h.stack_eq
  case screen =>
    simp only [Machine.drawn, h.memory_eq, h.registers_eq]
    exact hdraw.2

/-- A sprite is drawn cell by cell, so it keeps surfaces alike and collides on both or neither. -/
theorem Alike.draw (h : m.Alike R m') (hR : Surface.Simulation R) (rx ry : Register)
    (rows : UInt8) : (m.draw rx ry rows).Related (Alike R) (m'.draw rx ry rows) := by
  have hread (r : Register) : m'.registers.read r = m.registers.read r := by rw [h.registers_eq]
  cases hx : m.registers.read rx with
  | error fault =>
    rw [Machine.draw, Machine.draw, hread, hx]
    exact ⟨rfl, rfl, h⟩
  | ok x =>
    cases hy : m.registers.read ry with
    | error fault =>
      rw [Machine.draw, Machine.draw, hread, hread, hx, hy]
      exact ⟨rfl, rfl, h⟩
    | ok y =>
      rw [draw_eq rows hx hy, draw_eq rows ((hread rx).trans hx) ((hread ry).trans hy)]
      exact Outcome.related_ok () (h.drawn hR x y rows)

/-- Executing an instruction asks a screen for no more than a simulation keeps, and never asks for
the set of instructions. -/
theorem Alike.execute (h : m.Alike R m') (hR : Surface.Simulation R) (i : Instruction) :
    (m.execute i).Related (Alike R) (m'.execute i) := by
  have halike := h
  obtain ⟨memory, registers, stack, screen, set⟩ := m
  obtain ⟨memory', registers', stack', screen', set'⟩ := m'
  obtain ⟨rfl, rfl, rfl, h⟩ := h
  cases i with
  | clear => exact ⟨rfl, rfl, rfl, rfl, rfl, hR.clear h⟩
  | jump | loadIndex | unknown => exact ⟨rfl, rfl, rfl, rfl, rfl, h⟩
  | ret =>
    rw [Machine.execute, Machine.execute, ret_eq, ret_eq]
    exact ⟨rfl, rfl, rfl, rfl, rfl, h⟩
  | call target =>
    rw [Machine.execute, Machine.execute, call_eq, call_eq]
    exact ⟨rfl, rfl, rfl, rfl, rfl, h⟩
  | skipIfEqual left right | skipIfNotEqual left right =>
    rw [Machine.execute, Machine.execute]
    dsimp only
    cases registers'.agree left right with
    | error fault => exact ⟨rfl, rfl, rfl, rfl, rfl, h⟩
    | ok same => cases same <;> exact ⟨rfl, rfl, rfl, rfl, rfl, h⟩
  | load target source =>
    rw [Machine.execute, Machine.execute]
    dsimp only
    cases registers'.load target source <;> exact ⟨rfl, rfl, rfl, rfl, rfl, h⟩
  | draw rx ry rows => exact halike.draw hR rx ry rows

/-! ### Stepping -/

/-- A step has the same result on both machines and keeps them alike. -/
theorem Alike.step (h : m.Alike R m') (hR : Surface.Simulation R)
    (hset : m'.instructions = m.instructions) : m.step.Related (Alike R) m'.step := by
  rw [Machine.step, Machine.step, h.fetch?_eq, h.registers_eq, hset]
  cases m.fetch? with
  | none => exact ⟨rfl, rfl, h⟩
  | some w =>
    refine Outcome.Related.andThen ⟨rfl, rfl, h⟩ fun _ _ _ h => ?_
    exact (h.execute hR _).andThen fun _ _ _ h => Outcome.related_ok _ h.advance

end Machine

/-! ### Commands -/

/-- The same command to machines with different screens. A new screen comes with a related one. -/
inductive Command.Alike {S T : Type} (R : S → T → Prop) : Command S → Command T → Prop where
  | step : Alike R .step .step
  | execute (i : Instruction) : Alike R (.execute i) (.execute i)
  | replace (memory : Memory) (registers : RegisterFile) {s : S} {t : T} (h : R s t) :
      Alike R (.replace memory registers s) (.replace memory registers t)

namespace Machine

variable {S T : Type} [Surface S] [Surface T] {R : S → T → Prop}

/-- What comes of a command, and what is reported. Only a step tells an instruction. -/
def answer (m : Machine S) : Command S → Except Fault (Option Instruction) × List Diagnostic
  | .step      => (m.step.result.map some, m.step.log)
  | .execute i => ((m.execute i).result.map fun _ => none, (m.execute i).log)
  | .replace .. => (.ok none, [])

def answers (m : Machine S) :
    List (Command S) → List (Except Fault (Option Instruction) × List Diagnostic)
  | []            => []
  | c :: commands => m.answer c :: answers (m.obey c) commands

variable {m : Machine S} {m' : Machine T} {c : Command S} {c' : Command T}

theorem obey_instructions (m : Machine S) (c : Command S) :
    (m.obey c).instructions = m.instructions := by
  cases c with
  | step => exact m.step_instructions
  | execute i => exact (m.executes i).instructions
  | replace memory registers screen => rfl

theorem Alike.obey (h : m.Alike R m') (hR : Surface.Simulation R)
    (hset : m'.instructions = m.instructions) (hc : c.Alike R c') :
    m'.answer c' = m.answer c ∧ (m.obey c).Alike R (m'.obey c') := by
  cases hc with
  | step =>
    obtain ⟨hresult, hlog, hstate⟩ := h.step hR hset
    exact ⟨by rw [answer, answer, hresult, hlog], hstate⟩
  | execute i =>
    obtain ⟨hresult, hlog, hstate⟩ := h.execute hR i
    exact ⟨by rw [answer, answer, hresult, hlog], hstate⟩
  | replace memory registers hscreen =>
    refine ⟨rfl, rfl, ?_, h.stack_eq, hscreen⟩
    exact congrArg (fun f : RegisterFile => { registers with sp := f.sp }) h.registers_eq

/-- Commands that are alike are answered alike, however many there are. -/
theorem Alike.follow (h : m.Alike R m') (hR : Surface.Simulation R)
    (hset : m'.instructions = m.instructions) {commands : List (Command S)}
    {commands' : List (Command T)} (hc : List.Forall₂ (Command.Alike R) commands commands') :
    m'.answers commands' = m.answers commands ∧
      (m.follow commands).Alike R (m'.follow commands') := by
  induction hc generalizing m m' with
  | nil => exact ⟨rfl, h⟩
  | cons hc _ ih =>
    obtain ⟨hanswer, hobey⟩ := h.obey hR hset hc
    obtain ⟨hanswers, hfollow⟩ := ih hobey (by rw [obey_instructions, obey_instructions, hset])
    exact ⟨by rw [answers, answers, hanswer, hanswers], hfollow⟩

/-- A machine depends on its screen through single cells only. Take any screen that is related to a
grid, whatever it does when it lights a cell or is cleared, so long as this keeps it related and it
tells of each cell whether it is off as the grid does. Two machines that are equal but for these
screens then answer alike to any steps and instructions in any order, and to new screens that are
related again. They end with equal memory, registers and stacks, and with related screens. -/
theorem alike_screens_answer_alike {R : S → Grid → Prop} (hR : Surface.Simulation R)
    {m : Machine S} {m' : Machine Grid} (h : m.Alike R m')
    (hset : m'.instructions = m.instructions) {commands : List (Command S)}
    {commands' : List (Command Grid)}
    (hc : List.Forall₂ (Command.Alike R) commands commands') :
    let one := m.follow commands
    let other := m'.follow commands'
    m'.answers commands' = m.answers commands ∧ other.memory = one.memory ∧
      other.registers = one.registers ∧ other.stack = one.stack ∧ R one.screen other.screen := by
  intro one other
  obtain ⟨hanswers, hfollow⟩ := h.follow hR hset hc
  exact ⟨hanswers, hfollow.memory_eq, hfollow.registers_eq, hfollow.stack_eq, hfollow.screen⟩

/-- A recorder and the grid that it leaves the work to, while a digit is drawn twice. -/
theorem alike_screens_answer_alike_recorded :
    let m := fresh Config.default (Recorder.on Grid.dark none)
    let m' := fresh Config.default Grid.dark
    let digit : Instruction := .draw (.general 0) (.general 0) 5
    let instructions := [.loadIndex 0x050, digit, digit]
    let one := m.follow (instructions.map .execute ++ [.step])
    let other := m'.follow (instructions.map .execute ++ [.step])
    other.registers.get Register.flag = 1 ∧ one.registers = other.registers ∧
      one.screen.surface = other.screen ∧ one.screen.calls.size = 56 := by
  intro m m' digit instructions one other
  have hflag : other.registers.get Register.flag = 1 := by decide +kernel
  have hcalls : one.screen.calls.size = 56 := by decide +kernel
  have hlike : m.Alike (fun r g => r.surface = g) m' := ⟨rfl, rfl, rfl, rfl⟩
  have hset : m'.instructions = m.instructions := rfl
  have hcommands : List.Forall₂ (Command.Alike fun (r : Recorder Grid) g => r.surface = g)
      (instructions.map .execute ++ [.step]) (instructions.map .execute ++ [.step]) :=
    .cons (.execute _) (.cons (.execute _) (.cons (.execute _) (.cons .step .nil)))
  have hone : m.follow (instructions.map .execute ++ [.step]) = one := rfl
  have hother : m'.follow (instructions.map .execute ++ [.step]) = other := rfl
  clear_value one other m m'
  obtain ⟨-, -, hregisters, -, hscreen⟩ :=
    alike_screens_answer_alike Recorder.simulation hlike hset hcommands
  rw [hone, hother] at hregisters hscreen
  exact ⟨hflag, hregisters.symm, hscreen, hcalls⟩

end Machine

end ChipEight
