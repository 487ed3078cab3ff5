import ChipEight.Proofs.Machine.Step

/-!
# Commands

Whoever owns a machine makes it step or execute single instructions, in any order, and may replace
its memory, registers and screen in between. The stack is out of reach, and the stack pointer is
left alone here.

Seen from the stack, what the machine does then is a sequence of calls and returns.
-/

namespace ChipEight

inductive Command (S : Type) where
  | step
  | execute (i : Instruction)
  | replace (memory : Memory) (registers : RegisterFile) (screen : S)

/-! ### Calls and returns -/

/-- A call keeps the program counter that it finds. -/
inductive Transfer where
  | call (pc : UInt16)
  | ret
deriving DecidableEq

namespace Transfer

/-- What an instruction does to the stack, if it is executed at `pc`. -/
def of? (pc : UInt16) : Instruction → Option Transfer
  | .call _ => some (.call pc)
  | .ret    => some .ret
  | _       => none

def isCall : Transfer → Bool
  | .call _ => true
  | .ret    => false

/-- Calls minus returns. -/
def outstanding (transfers : List Transfer) : Int :=
  (transfers.countP isCall : Int) - (transfers.count .ret : Int)

/-- A return takes back the last call that was not taken back yet. -/
def apply (addresses : List UInt16) : Transfer → List UInt16
  | .call pc => pc :: addresses
  | .ret     => addresses.tail

/-- What the calls kept that no return matches, the last one first. -/
def pending (transfers : List Transfer) : List UInt16 := transfers.foldl apply []

theorem outstanding_call (transfers : List Transfer) (pc : UInt16) :
    outstanding (transfers ++ [.call pc]) = outstanding transfers + 1 := by
  simp [outstanding, isCall]
  omega

theorem outstanding_ret (transfers : List Transfer) :
    outstanding (transfers ++ [.ret]) = outstanding transfers - 1 := by
  simp [outstanding, isCall]
  omega

theorem pending_concat (transfers : List Transfer) (t : Transfer) :
    pending (transfers ++ [t]) = apply (pending transfers) t := by
  rw [pending, List.foldl_append]
  rfl

end Transfer

namespace Machine

variable {S : Type} [Surface S]

/-! ### Following commands -/

def obey (m : Machine S) : Command S → Machine S
  | .step      => m.step.state
  | .execute i => (m.execute i).state
  | .replace memory registers screen =>
    { m with
      memory := memory
      registers := { registers with sp := m.registers.sp }
      screen := screen }

/-- The instruction that a command has executed, if any. -/
def executed? (m : Machine S) : Command S → Option Instruction
  | .step      => m.step.result.toOption
  | .execute i => some i
  | .replace .. => none

def follow (m : Machine S) (commands : List (Command S)) : Machine S := commands.foldl obey m

theorem follow_concat (m : Machine S) (commands : List (Command S)) (c : Command S) :
    m.follow (commands ++ [c]) = (m.follow commands).obey c := by
  rw [follow, List.foldl_append]
  rfl

/-! ### The transfers of a run -/

def transfer? (m : Machine S) (c : Command S) : Option Transfer :=
  (m.executed? c).bind (Transfer.of? m.registers.pc)

def transfers (m : Machine S) : List (Command S) → List Transfer
  | []            => []
  | c :: commands => (m.transfer? c).toList ++ transfers (m.obey c) commands

theorem transfers_concat (m : Machine S) (commands : List (Command S)) (c : Command S) :
    m.transfers (commands ++ [c]) =
      m.transfers commands ++ ((m.follow commands).transfer? c).toList := by
  induction commands generalizing m with
  | nil => simp [transfers, follow]
  | cons c' commands ih =>
    rw [List.cons_append, transfers, ih, transfers, List.append_assoc]
    rfl

/-! ### What a command does to the stack -/

variable {m : Machine S} {c : Command S} {i : Instruction}

/-- What was executed, was executed on command or in a step. -/
theorem obey_of_executed?_eq_some (h : m.executed? c = some i) :
    (c = .execute i ∧ m.obey c = (m.execute i).state) ∨
      (c = .step ∧ m.obey c = (m.execute i).state.advance) := by
  cases c with
  | execute j =>
    obtain rfl : j = i := Option.some.inj h
    exact .inl ⟨rfl, rfl⟩
  | step =>
    rcases m.step_cases with hs | ⟨j, hresult, hstate⟩
    · rw [executed?, hs] at h
      cases h
    · rw [executed?, hresult] at h
      obtain rfl : j = i := Option.some.inj h
      exact .inr ⟨rfl, hstate⟩
  | replace memory registers screen => cases h

theorem obey_stack_sp_of_executed?_eq_some (h : m.executed? c = some i) :
    (m.obey c).stack = (m.execute i).state.stack ∧
      (m.obey c).registers.sp = (m.execute i).state.registers.sp := by
  rcases obey_of_executed?_eq_some h with ⟨-, h⟩ | ⟨-, h⟩
  · rw [h]
    exact ⟨rfl, rfl⟩
  · rw [h, advance_eq]
    exact ⟨rfl, rfl⟩

theorem obey_stack_sp_of_executed?_eq_none (h : m.executed? c = none) :
    (m.obey c).stack = m.stack ∧ (m.obey c).registers.sp = m.registers.sp := by
  cases c with
  | execute i => cases h
  | step =>
    rcases m.step_cases with hs | ⟨j, hresult, -⟩
    · rw [obey, hs]
      exact ⟨rfl, rfl⟩
    · rw [executed?, hresult] at h
      cases h
  | replace memory registers screen => exact ⟨rfl, rfl⟩

/-- A command without a transfer leaves the stack and its pointer alone. -/
theorem obey_of_transfer?_eq_none (h : m.transfer? c = none) :
    (m.obey c).stack = m.stack ∧ (m.obey c).registers.sp = m.registers.sp := by
  cases hi : m.executed? c with
  | none => exact obey_stack_sp_of_executed?_eq_none hi
  | some i =>
    have hof : Transfer.of? m.registers.pc i = none := by
      rw [← h, transfer?, hi]
      rfl
    have hcall : ∀ target, i ≠ .call target := by
      rintro target rfl
      cases hof
    have hret : i ≠ .ret := by
      rintro rfl
      cases hof
    obtain ⟨hstack, hsp⟩ := obey_stack_sp_of_executed?_eq_some hi
    constructor
    · rw [hstack]
      exact (m.executes i).stack hcall
    · rw [hsp]
      exact (m.executes i).sp hcall hret

theorem obey_of_transfer?_eq_call {pc : UInt16} (h : m.transfer? c = some (.call pc)) :
    (m.obey c).stack = m.stack.set (m.registers.sp + 1) pc ∧
      (m.obey c).registers.sp = m.registers.sp + 1 := by
  obtain ⟨i, hi, hof⟩ := Option.bind_eq_some_iff.1 h
  obtain ⟨hstack, hsp⟩ := obey_stack_sp_of_executed?_eq_some hi
  rw [hstack, hsp]
  cases i with
  | call target =>
    obtain rfl : m.registers.pc = pc := Transfer.call.inj (Option.some.inj hof)
    rw [execute, call_eq]
    exact ⟨rfl, rfl⟩
  | _ => cases hof

theorem executed?_of_transfer?_eq_ret (h : m.transfer? c = some .ret) :
    m.executed? c = some .ret := by
  obtain ⟨i, hi, hof⟩ := Option.bind_eq_some_iff.1 h
  cases i with
  | ret => exact hi
  | _ => cases hof

theorem obey_of_transfer?_eq_ret (h : m.transfer? c = some .ret) :
    (m.obey c).stack = m.stack ∧ (m.obey c).registers.sp = m.registers.sp - 1 := by
  obtain ⟨hstack, hsp⟩ := obey_stack_sp_of_executed?_eq_some (executed?_of_transfer?_eq_ret h)
  rw [hstack, hsp, execute, ret_eq]
  exact ⟨rfl, rfl⟩

end Machine

end ChipEight
