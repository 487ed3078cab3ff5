import ChipEight.Proofs.Instruction.Spelling
import ChipEight.Proofs.Machine.Execution

/-!
# Steps

Words spell instructions with general registers only, and none of these is ever refused. So a step
fails where nothing is fetched, and there it does nothing; anywhere else it executes what the word
spells and moves on. What a step keeps, any number of steps keeps.
-/

namespace ChipEight

open Word

/-! ### General registers are open to everyone -/

namespace RegisterFile

theorem agree_byte (f : RegisterFile) (x : Fin 16) (b : UInt8) :
    f.agree (.general x) (.byte b) = .ok (decide (f.get x = b)) := by
  have h : f.agree (.general x) (.byte b) =
    .ok (decide ((f.get x).toUInt16 = b.toUInt16)) := rfl
  simp only [h, UInt8.toUInt16_inj]

theorem agree_register (f : RegisterFile) (x y : Fin 16) :
    f.agree (.general x) (.register (.general y)) =
      .ok (decide (f.get x = f.get y)) := by
  have h : f.agree (.general x) (.register (.general y)) =
    .ok (decide ((f.get x).toUInt16 = (f.get y).toUInt16)) := rfl
  simp only [h, UInt8.toUInt16_inj]

theorem load_byte (f : RegisterFile) (x : Fin 16) (b : UInt8) :
    f.load (.general x) (.byte b) = .ok (f.set x b) := by
  have h : f.load (.general x) (.byte b) =
    .ok (f.set x b.toUInt16.toUInt32.toUInt8) := rfl
  simp [h]

theorem load_register (f : RegisterFile) (x y : Fin 16) :
    f.load (.general x) (.register (.general y)) =
      .ok (f.set x (f.get y)) := by
  have h : f.load (.general x) (.register (.general y)) =
    .ok (f.set x (f.get y).toUInt16.toUInt32.toUInt8) := rfl
  simp [h]

end RegisterFile

namespace Machine

variable {S : Type}

/-! ### Fetching -/

theorem fetch?_eq_none_iff {m : Machine S} : m.fetch? = none ↔
    m.memory.isWritten m.registers.pc = false ∧
      m.memory.isWritten (m.registers.pc + 1) = false := by
  cases h : m.memory.isWritten m.registers.pc <;>
    cases h' : m.memory.isWritten (m.registers.pc + 1) <;> simp [fetch?, h, h']

variable [Surface S] {m : Machine S} {w : UInt16} {i : Instruction}

/-! ### One step -/

/-- What a word spells is never refused. -/
theorem execute_result (h : Spells m.instructions w i) : (m.execute i).result = .ok () := by
  cases h with
  | clear | jump | loadIndex | unknown => rfl
  | ret => rw [execute, ret_eq]
  | call nnn => rw [execute, call_eq]
  | skipIfByte x kk | skipUnlessByte x kk => rw [execute, RegisterFile.agree_byte]; rfl
  | skipIf x y | skipUnless x y => rw [execute, RegisterFile.agree_register]; rfl
  | loadByte x kk => rw [execute, RegisterFile.load_byte]; rfl
  | load x y => rw [execute, RegisterFile.load_register]; rfl
  | draw x y n => rw [execute, draw_eq _ rfl rfl]; rfl

/-- Without a word there is nothing to do. -/
theorem step_of_fetch?_eq_none (h : m.fetch? = none) :
    m.step = .fail (.exhausted m.registers.pc) m := by
  rw [step, h]

/-- Where there is a word, its instruction is executed and the step succeeds. -/
theorem step_of_fetch?_eq_some (h : m.fetch? = some w) :
    m.step.result = .ok (Instruction.decode m.instructions w) ∧
      m.step.state = (m.execute (Instruction.decode m.instructions w)).state.advance := by
  have hok := execute_result (m := m) (spells_iff.2 (rfl : Instruction.decode m.instructions w = _))
  rw [step, h]
  simp only [Outcome.note, Outcome.andThen, hok, Outcome.ok, and_self]

/-- A step does nothing, or it executes an instruction and moves on. -/
theorem step_cases (m : Machine S) : m.step = .fail (.exhausted m.registers.pc) m ∨
    ∃ i, m.step.result = .ok i ∧ m.step.state = (m.execute i).state.advance := by
  cases h : m.fetch? with
  | none =>
    left
    exact step_of_fetch?_eq_none h
  | some w =>
    right
    exact ⟨_, step_of_fetch?_eq_some h⟩

theorem step_memory (m : Machine S) : m.step.state.memory = m.memory := by
  rcases m.step_cases with h | ⟨i, -, h⟩
  · rw [h]
    rfl
  · rw [h]
    exact (m.executes i).memory

theorem step_instructions (m : Machine S) : m.step.state.instructions = m.instructions := by
  rcases m.step_cases with h | ⟨i, -, h⟩
  · rw [h]
    rfl
  · rw [h]
    exact (m.executes i).instructions

/-! ### Many steps -/

/-- The last step can be told apart as well as the first. -/
theorem after_succ (m : Machine S) (n : Nat) : m.after (n + 1) = (m.after n).step.state := by
  induction n generalizing m with
  | zero => rfl
  | succ n ih => exact ih m.step.state

theorem after_add (m : Machine S) (j k : Nat) : m.after (j + k) = (m.after j).after k := by
  induction j generalizing m with
  | zero => rw [Nat.zero_add, after]
  | succ j ih =>
    rw [Nat.succ_add]
    exact ih m.step.state

/-- What a step preserves holds in all of a run. -/
theorem after_of_step {P : Machine S → Prop} (hstep : ∀ m, P m → P m.step.state) (n : Nat)
    (h : P m) : P (m.after n) := by
  induction n generalizing m with
  | zero => exact h
  | succ n ih => exact ih (hstep m h)

theorem after_memory (m : Machine S) (n : Nat) : (m.after n).memory = m.memory :=
  after_of_step (P := (·.memory = m.memory)) (fun m' h => (step_memory m').trans h) n rfl

theorem after_instructions (m : Machine S) (n : Nat) :
    (m.after n).instructions = m.instructions :=
  after_of_step (P := (·.instructions = m.instructions))
    (fun m' h => (step_instructions m').trans h) n rfl

end Machine

end ChipEight
