import ChipEight.Machine.Cycle
import Mathlib.Tactic.Common

/-!
# What executing an instruction leaves behind

One rule for each kind of effect says what becomes of the machine, for instructions with any
registers. The invariants of execution follow by cases on the rules: memory and the set of
instructions always stay, the stack but for calls, the stack pointer but for calls and returns.
-/

namespace ChipEight

/-! ### The call stack -/

namespace CallStack

variable {ε : Type}

theorem load_eq (s : CallStack) (sp : UInt8) : (s.load sp : Outcome CallStack ε UInt16) =
    ⟨.ok ((s.get? sp).getD 0), s, if s.get? sp = none then [.unsetSlot sp] else []⟩ := by
  unfold load
  cases s.get? sp <;> rfl

end CallStack

/-! ### The register file -/

namespace RegisterFile

variable {f g : RegisterFile}

@[simp] theorem set_sp (f : RegisterFile) (x : Fin 16) (b : UInt8) : (f.set x b).sp = f.sp := rfl

/-- A write by register reaches neither the program counter nor the stack pointer. -/
theorem write_frame {r : Register} {value : UInt32} (h : f.write r value = .ok g) :
    g.pc = f.pc ∧ g.sp = f.sp := by
  cases r <;> cases h <;> exact ⟨rfl, rfl⟩

theorem load_frame {target : Register} {source : Operand} (h : f.load target source = .ok g) :
    g.pc = f.pc ∧ g.sp = f.sp := by
  rw [load] at h
  cases hv : f.value source with
  | error fault =>
    rw [hv] at h
    cases h
  | ok a =>
    rw [hv] at h
    exact write_frame h

end RegisterFile

namespace Machine

variable {S : Type}

/-! ### Transfers -/

theorem advance_eq (m : Machine S) :
    m.advance = { m with registers.pc := m.registers.pc + 2 } := by
  simp [advance, RegisterFile.setPc]

theorem jump_eq (m : Machine S) (target : UInt16) :
    m.jump target = { m with registers.pc := target &&& 0x0FFF } := by
  simp [jump, RegisterFile.setPc]

theorem skip_eq (m : Machine S) (flag : Bool) : m.skip flag =
    { m with registers.pc := if flag then m.registers.pc + 2 else m.registers.pc } := by
  cases flag
  · rfl
  · exact m.advance_eq

theorem call_eq (m : Machine S) (target : UInt16) : m.call target =
    ⟨.ok (), { m with
      stack := m.stack.set (m.registers.sp + 1) m.registers.pc
      registers.pc := target &&& 0x0FFF
      registers.sp := m.registers.sp + 1 },
    if nominalDepth < (m.registers.sp + 1).toNat then [.deepStack (m.registers.sp + 1)]
    else []⟩ := by
  rw [call, Outcome.andThen]
  simp [CallStack.store, Outcome.lift, Except.mapError, Outcome.ok, jump_eq,
    RegisterFile.incrementSp]

theorem ret_eq (m : Machine S) : m.ret =
    ⟨.ok (), { m with
      registers.pc := (m.stack.get? m.registers.sp).getD 0
      registers.sp := m.registers.sp - 1 },
    if m.stack.get? m.registers.sp = none then [.unsetSlot m.registers.sp] else []⟩ := by
  rw [ret, CallStack.load_eq, Outcome.andThen]
  simp [Outcome.lift, Except.mapError, Outcome.ok, RegisterFile.setPc, RegisterFile.decrementSp]

@[simp] theorem given_ok (m : Machine S) {α : Type} (a : α)
    (next : α → Outcome (Machine S) Fault Unit) : m.given (.ok a) next = next a := rfl

variable [Surface S]

/-! ### Rules -/

/-- The machine after a drawing at given coordinates. -/
def drawn (m : Machine S) (x y : UInt16) (rows : UInt8) : Machine S :=
  let sprite := m.memory.read (m.registers.index &&& 0x0FFF) (rows &&& 0x0F).toNat
  let drawing := Surface.draw m.screen sprite x.toNat y.toNat
  { m with
    screen := drawing.2
    registers := m.registers.set Register.flag (if drawing.1 then 1 else 0) }

theorem draw_eq {m : Machine S} {rx ry : Register} {x y : UInt16} (rows : UInt8)
    (hx : m.registers.read rx = .ok x) (hy : m.registers.read ry = .ok y) :
    m.draw rx ry rows = .ok () (m.drawn x y rows) := by
  have hindex : m.registers.read .index = .ok m.registers.index := rfl
  simp only [draw, drawn, hx, hy, hindex, given_ok]
  generalize Surface.draw m.screen _ _ _ = drawing
  obtain ⟨collision, screen⟩ := drawing
  cases collision <;> rfl

theorem execute_loadIndex (m : Machine S) (address : UInt16) :
    m.execute (.loadIndex address) = .ok () { m with registers.index := address } := by
  simp [execute, RegisterFile.write]

/-- Executing the instruction leaves the second machine behind. An instruction that is refused or
unknown leaves the machine as it was. -/
inductive Executes (m : Machine S) : Instruction → Machine S → Prop where
  | clear : Executes m .clear { m with screen := Surface.clear m.screen }
  | ret : Executes m .ret
      { m with
        registers.pc := (m.stack.get? m.registers.sp).getD 0
        registers.sp := m.registers.sp - 1 }
  | jump (target : UInt16) : Executes m (.jump target) { m with registers.pc := target &&& 0x0FFF }
  | call (target : UInt16) : Executes m (.call target)
      { m with
        stack := m.stack.set (m.registers.sp + 1) m.registers.pc
        registers.pc := target &&& 0x0FFF
        registers.sp := m.registers.sp + 1 }
  | skipIfEqual {left : Register} {right : Operand} {same : Bool}
      (h : m.registers.agree left right = .ok same) :
      Executes m (.skipIfEqual left right) (m.skip same)
  | skipIfNotEqual {left : Register} {right : Operand} {same : Bool}
      (h : m.registers.agree left right = .ok same) :
      Executes m (.skipIfNotEqual left right) (m.skip !same)
  | load {target : Register} {source : Operand} {f : RegisterFile}
      (h : m.registers.load target source = .ok f) :
      Executes m (.load target source) { m with registers := f }
  | loadIndex (address : UInt16) :
      Executes m (.loadIndex address) { m with registers.index := address }
  | draw {rx ry : Register} {x y : UInt16} (rows : UInt8) (hx : m.registers.read rx = .ok x)
      (hy : m.registers.read ry = .ok y) :
      Executes m (.draw rx ry rows) (m.drawn x y rows)
  | unchanged (i : Instruction) : Executes m i m

/-- Executing follows the rules. -/
theorem executes (m : Machine S) (i : Instruction) : m.Executes i (m.execute i).state := by
  cases i with
  | clear => exact .clear
  | ret =>
    rw [execute, ret_eq]
    exact .ret
  | jump target =>
    rw [execute, jump_eq]
    exact .jump target
  | call target =>
    rw [execute, call_eq]
    exact .call target
  | skipIfEqual left right =>
    rw [execute]
    cases h : m.registers.agree left right with
    | ok same => exact .skipIfEqual h
    | error fault => exact .unchanged _
  | skipIfNotEqual left right =>
    rw [execute]
    cases h : m.registers.agree left right with
    | ok same => exact .skipIfNotEqual h
    | error fault => exact .unchanged _
  | load target source =>
    rw [execute]
    cases h : m.registers.load target source with
    | ok f => exact .load h
    | error fault => exact .unchanged _
  | loadIndex address =>
    rw [execute_loadIndex]
    exact .loadIndex address
  | draw rx ry rows =>
    rw [execute]
    cases hx : m.registers.read rx with
    | error fault =>
      rw [draw, hx]
      exact .unchanged _
    | ok x =>
      cases hy : m.registers.read ry with
      | error fault =>
        rw [draw, hx, hy]
        exact .unchanged _
      | ok y =>
        rw [draw_eq rows hx hy]
        exact .draw rows hx hy
  | unknown word => exact .unchanged _

/-! ### What stays -/

variable {m m' : Machine S} {i : Instruction}

theorem Executes.memory (h : m.Executes i m') : m'.memory = m.memory := by
  cases h <;> simp only [skip_eq, drawn]

theorem Executes.instructions (h : m.Executes i m') : m'.instructions = m.instructions := by
  cases h <;> simp only [skip_eq, drawn]

theorem Executes.stack (h : m.Executes i m') (hcall : ∀ target, i ≠ .call target) :
    m'.stack = m.stack := by
  cases h with
  | call target => exact absurd rfl (hcall target)
  | _ => simp only [skip_eq, drawn]

theorem Executes.sp (h : m.Executes i m') (hcall : ∀ target, i ≠ .call target) (hret : i ≠ .ret) :
    m'.registers.sp = m.registers.sp := by
  cases h with
  | call target => exact absurd rfl (hcall target)
  | ret => exact absurd rfl hret
  | load h => exact (RegisterFile.load_frame h).2
  | _ => simp only [skip_eq, drawn, RegisterFile.set_sp]

end Machine

end ChipEight
