import ChipEight.Proofs.Machine.Step

/-!
# Exhausted programs

A program is exhausted where neither byte of the next word was ever written. A machine there stays
as it is, however often it is asked for a step. No other fault comes out of a step, so running a
machine never ends with one.
-/

namespace ChipEight.Machine

variable {S : Type} [Surface S] {m : Machine S}

/-! ### Where a step fails -/

theorem step_result_eq_error_iff {fault : Fault} : m.step.result = .error fault ↔
    m.fetch? = none ∧ fault = .exhausted m.registers.pc := by
  constructor
  · intro h
    cases hw : m.fetch? with
    | none =>
      rw [step_of_fetch?_eq_none hw] at h
      exact ⟨rfl, (Except.error.inj h).symm⟩
    | some w =>
      rw [(step_of_fetch?_eq_some hw).1] at h
      cases h
  · rintro ⟨hw, rfl⟩
    rw [step_of_fetch?_eq_none hw]
    rfl

theorem exists_step_result_eq_error_iff : (∃ fault, m.step.result = .error fault) ↔
    m.memory.isWritten m.registers.pc = false ∧
      m.memory.isWritten (m.registers.pc + 1) = false := by
  rw [← fetch?_eq_none_iff]
  constructor
  · rintro ⟨fault, h⟩
    exact (step_result_eq_error_iff.1 h).1
  · intro h
    exact ⟨_, step_result_eq_error_iff.2 ⟨h, rfl⟩⟩

/-- An exhausted machine stays as it is. -/
theorem after_of_fetch?_eq_none (h : m.fetch? = none) (n : Nat) : m.after n = m := by
  induction n with
  | zero => rfl
  | succ n ih =>
    rw [after, step_of_fetch?_eq_none h]
    exact ih

/-- So every later step finds it exhausted again. -/
theorem step_after_of_fetch?_eq_none (h : m.fetch? = none) (n : Nat) :
    (m.after n).step = .fail (.exhausted m.registers.pc) m := by
  rw [after_of_fetch?_eq_none h, step_of_fetch?_eq_none h]

/-- Where a step fails, later ones are not counted. -/
theorem after_eq_after_min {fault : Fault} {e : Nat}
    (h : (m.after e).step.result = .error fault) (n : Nat) : m.after n = m.after (min n e) := by
  rcases Nat.le_total n e with hle | hle
  · rw [Nat.min_eq_left hle]
  · have hrest := after_of_fetch?_eq_none (step_result_eq_error_iff.1 h).1 (n - e)
    rw [← after_add, Nat.add_sub_cancel' hle] at hrest
    rw [Nat.min_eq_right hle, hrest]

/-- A step succeeds, or else the machine is exhausted for ever. -/
theorem step_ok_or_exhausted (m : Machine S) : (∃ i, m.step.result = .ok i) ∨
    m.step = .fail (.exhausted m.registers.pc) m ∧ ∀ n, (m.after n).step = m.step := by
  cases h : m.fetch? with
  | none =>
    right
    constructor
    · exact step_of_fetch?_eq_none h
    · intro n
      rw [after_of_fetch?_eq_none h]
  | some w =>
    left
    exact ⟨_, (step_of_fetch?_eq_some h).1⟩

/-! ### Runs -/

/-- A run makes its steps one by one, and the flag is up only if the program is exhausted. -/
theorem run_eq (m : Machine S) (n : Nat) : ∃ exhausted, m.run n = (.ok exhausted, m.after n) ∧
    (exhausted = true → (m.after n).fetch? = none) := by
  induction n generalizing m with
  | zero => exact ⟨false, rfl, Bool.noConfusion⟩
  | succ n ih =>
    cases h : m.fetch? with
    | none =>
      refine ⟨true, ?_, fun _ => ?_⟩
      · rw [run, after_of_fetch?_eq_none h, step_of_fetch?_eq_none h]
        rfl
      · rw [after_of_fetch?_eq_none h, h]
    | some w =>
      obtain ⟨exhausted, hrun, hflag⟩ := ih m.step.state
      refine ⟨exhausted, ?_, hflag⟩
      rw [run, after, ← hrun, (step_of_fetch?_eq_some h).1]

/-- A run that stops early leaves the machine where all its steps would. -/
theorem state_run (m : Machine S) (n : Nat) : (m.run n).2 = m.after n := by
  obtain ⟨exhausted, hrun, -⟩ := m.run_eq n
  rw [hrun]

/-! ### Instructions of a run -/

/-- How many instructions are executed in a run. -/
def executedCount : Nat → Machine S → Nat
  | 0, _     => 0
  | n + 1, m =>
    let o := m.step
    match o.result with
    | .ok _    => executedCount n o.state + 1
    | .error _ => 0

theorem executedCount_of_fetch?_eq_none (h : m.fetch? = none) (n : Nat) :
    m.executedCount n = 0 := by
  cases n with
  | zero => rfl
  | succ n =>
    rw [executedCount, step_of_fetch?_eq_none h]
    rfl

theorem executedCount_succ {w : UInt16} (h : m.fetch? = some w) (n : Nat) :
    m.executedCount (n + 1) = m.step.state.executedCount n + 1 := by
  rw [executedCount, (step_of_fetch?_eq_some h).1]

theorem executedCount_le (m : Machine S) (n : Nat) : m.executedCount n ≤ n := by
  induction n generalizing m with
  | zero => exact Nat.le_refl 0
  | succ n ih =>
    cases h : m.fetch? with
    | none =>
      rw [executedCount_of_fetch?_eq_none h]
      exact Nat.zero_le _
    | some w =>
      rw [executedCount_succ h]
      exact Nat.succ_le_succ (ih _)

/-- What a run leads to comes of the instructions that are executed. -/
theorem after_executedCount (m : Machine S) (n : Nat) :
    m.after (m.executedCount n) = m.after n := by
  induction n generalizing m with
  | zero => rfl
  | succ n ih =>
    cases h : m.fetch? with
    | none => rw [after_of_fetch?_eq_none h, after_of_fetch?_eq_none h]
    | some w => rw [executedCount_succ h, after, ih, after]

theorem exists_step_result_of_lt_executedCount {k n : Nat} (h : k < m.executedCount n) :
    ∃ i, (m.after k).step.result = .ok i := by
  induction n generalizing m k with
  | zero => exact absurd h (Nat.not_lt_zero k)
  | succ n ih =>
    cases hw : m.fetch? with
    | none =>
      rw [executedCount_of_fetch?_eq_none hw] at h
      exact absurd h (Nat.not_lt_zero k)
    | some w =>
      cases k with
      | zero => exact ⟨_, (step_of_fetch?_eq_some hw).1⟩
      | succ k =>
        rw [executedCount_succ hw] at h
        exact ih (m := m.step.state) (Nat.lt_of_succ_lt_succ h)

end ChipEight.Machine
