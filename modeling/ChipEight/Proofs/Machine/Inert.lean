import ChipEight.Proofs.Machine.Reports
import ChipEight.Proofs.Outcome

/-!
# What makes no difference

No instruction reads a timer, and of the index register only a drawing makes use, which cuts it to
twelve bits. So machines that differ in no more than their timers and the four high bits of the
index register cannot be told apart by what they execute, nor by what they report or draw. They go
on to differ in no more than that, and when an address is loaded, not even in the high bits.
-/

namespace ChipEight

/-- The address that an instruction puts into the index register. -/
def Instruction.loadedIndex? : Instruction → Option UInt16
  | .loadIndex address => some address
  | _                  => none

namespace Machine

variable {S : Type}

/-- Machines that are equal but for their timers and the four high bits of the index register. -/
structure Indistinct (m m' : Machine S) : Prop where
  memory_eq : m'.memory = m.memory
  general_eq : m'.registers.general = m.registers.general
  address_eq : m'.registers.index &&& 0x0FFF = m.registers.index &&& 0x0FFF
  pc_eq : m'.registers.pc = m.registers.pc
  sp_eq : m'.registers.sp = m.registers.sp
  stack_eq : m'.stack = m.stack
  screen_eq : m'.screen = m.screen
  instructions_eq : m'.instructions = m.instructions

variable {m m' m₁ m₁' : Machine S} {i : Instruction}

theorem Indistinct.fetch?_eq (h : m.Indistinct m') : m'.fetch? = m.fetch? := by
  rw [fetch?, fetch?, h.memory_eq, h.pc_eq]

theorem Indistinct.reports_eq (h : m.Indistinct m') (i : Instruction) :
    m'.reports i = m.reports i := by
  cases i with
  | call target => rw [reports_call, reports_call, h.sp_eq]
  | ret => rw [reports_ret, reports_ret, h.sp_eq, h.stack_eq]
  | _ => rfl

variable [Surface S]

/-! ### One instruction -/

theorem Indistinct.drawn (h : m.Indistinct m') (x y : UInt16) (rows : UInt8) :
    (m.drawn x y rows).Indistinct (m'.drawn x y rows) := by
  obtain ⟨memory, ⟨general, index, pc, sp, delay, sound⟩, stack, screen, set⟩ := m
  obtain ⟨memory', ⟨general', index', pc', sp', delay', sound'⟩, stack', screen', set'⟩ := m'
  obtain ⟨rfl, rfl, haddress, rfl, rfl, rfl, rfl, rfl⟩ := h
  -- The sprites begin at the same address.
  constructor <;> simp only [Machine.drawn, RegisterFile.set, haddress]

/-- An instruction keeps machines indistinct. -/
theorem Indistinct.effect (h : m.Indistinct m') (he : m.Effect i m₁) (he' : m'.Effect i m₁') :
    m₁.Indistinct m₁' := by
  have hdrawn := h.drawn
  obtain ⟨memory, ⟨general, index, pc, sp, delay, sound⟩, stack, screen, set⟩ := m
  obtain ⟨memory', ⟨general', index', pc', sp', delay', sound'⟩, stack', screen', set'⟩ := m'
  obtain ⟨rfl, rfl, haddress, rfl, rfl, rfl, rfl, rfl⟩ := h
  cases he with
  | draw x y n =>
    cases he'
    obtain ⟨hmemory, hgeneral, haddress, -, hsp, hstack, hscreen, hset⟩ := hdrawn _ _ n
    exact ⟨hmemory, hgeneral, haddress, rfl, hsp, hstack, hscreen, hset⟩
  | loadIndex nnn =>
    cases he'
    exact ⟨rfl, rfl, rfl, rfl, rfl, rfl, rfl, rfl⟩
  | _ =>
    cases he'
    exact ⟨rfl, rfl, haddress, rfl, rfl, rfl, rfl, rfl⟩

/-- Only a load of an address changes the index register. -/
theorem Effect.index_eq (h : m.Effect i m') :
    m'.registers.index = i.loadedIndex?.getD m.registers.index := by
  cases h <;> rfl

/-- Nothing changes a timer. -/
theorem Effect.timers_eq (h : m.Effect i m') :
    m'.registers.delay = m.registers.delay ∧ m'.registers.sound = m.registers.sound := by
  cases h <;> exact ⟨rfl, rfl⟩

/-! ### One step -/

theorem step_timers (m : Machine S) : m.step.state.registers.delay = m.registers.delay ∧
    m.step.state.registers.sound = m.registers.sound := by
  rcases m.step_ok_or_exhausted with ⟨i, hi⟩ | ⟨hfail, -⟩
  · obtain ⟨w, -, -, heffect⟩ := exists_effect_of_step hi
    exact heffect.timers_eq
  · rw [hfail]
    exact ⟨rfl, rfl⟩

theorem Indistinct.step_result_eq (h : m.Indistinct m') : m'.step.result = m.step.result := by
  cases hw : m.fetch? with
  | none =>
    rw [step_of_fetch?_eq_none hw, step_of_fetch?_eq_none (h.fetch?_eq.trans hw), h.pc_eq]
    rfl
  | some w =>
    rw [(step_of_fetch?_eq_some hw).1, (step_of_fetch?_eq_some (h.fetch?_eq.trans hw)).1,
      h.instructions_eq]

theorem Indistinct.step_of_exhausted (h : m.Indistinct m')
    (hfail : m.step = .fail (.exhausted m.registers.pc) m) :
    m'.step = .fail (.exhausted m.registers.pc) m' := by
  have hnone : m.fetch? = none := (step_result_eq_error_iff.1 (congrArg Outcome.result hfail)).1
  rw [step_of_fetch?_eq_none (h.fetch?_eq.trans hnone), h.pc_eq]

/-- A step has the same result on both machines, logs the same, and keeps them indistinct. -/
theorem Indistinct.step (h : m.Indistinct m') : m.step.Related Indistinct m'.step := by
  rcases m.step_ok_or_exhausted with ⟨i, hi⟩ | ⟨hfail, -⟩
  · have hi' : m'.step.result = .ok i := h.step_result_eq.trans hi
    obtain ⟨w, -, -, heffect⟩ := exists_effect_of_step hi
    obtain ⟨w', -, -, heffect'⟩ := exists_effect_of_step hi'
    refine ⟨h.step_result_eq, ?_, h.effect heffect heffect'⟩
    rw [step_log hi, step_log hi', h.pc_eq, h.reports_eq]
  · rw [hfail, h.step_of_exhausted hfail]
    exact ⟨rfl, rfl, h⟩

/-- A load of an address makes up for the high bits, and no other step brings up a difference. -/
theorem Indistinct.step_index_eq (h : m.Indistinct m')
    (hindex : m'.registers.index = m.registers.index ∨
      ∃ address, m.step.result = .ok (.loadIndex address)) :
    m'.step.state.registers.index = m.step.state.registers.index := by
  rcases m.step_ok_or_exhausted with ⟨i, hi⟩ | ⟨hfail, -⟩
  · obtain ⟨w, -, -, heffect⟩ := exists_effect_of_step hi
    obtain ⟨w', -, -, heffect'⟩ := exists_effect_of_step (h.step_result_eq.trans hi)
    rw [heffect.index_eq, heffect'.index_eq]
    rcases hindex with hindex | ⟨address, hload⟩
    · rw [hindex]
    · obtain rfl : Instruction.loadIndex address = i := Except.ok.inj (hload.symm.trans hi)
      rfl
  · rw [hfail, h.step_of_exhausted hfail]
    rcases hindex with hindex | ⟨address, hload⟩
    · exact hindex
    · rw [hfail] at hload
      cases hload

/-! ### Many steps -/

/-- So they are indistinct in all of a run. -/
theorem Indistinct.after (h : m.Indistinct m') (n : Nat) : (m.after n).Indistinct (m'.after n) := by
  induction n with
  | zero => exact h
  | succ n ih =>
    rw [after_succ, after_succ]
    exact ih.step.state

theorem Indistinct.after_index_eq (h : m.Indistinct m') {k n : Nat} (hk : k < n) {address : UInt16}
    (hload : (m.after k).step.result = .ok (.loadIndex address)) :
    (m'.after n).registers.index = (m.after n).registers.index := by
  induction n with
  | zero => exact absurd hk (Nat.not_lt_zero k)
  | succ n ih =>
    rw [after_succ, after_succ]
    apply (h.after n).step_index_eq
    rcases Nat.lt_succ_iff_lt_or_eq.1 hk with hlt | rfl
    · exact .inl (ih hlt)
    · exact .inr ⟨address, hload⟩

/-- No run changes a timer. -/
theorem after_timers (m : Machine S) (n : Nat) :
    (m.after n).registers.delay = m.registers.delay ∧
      (m.after n).registers.sound = m.registers.sound :=
  after_of_step
    (P := fun m' => m'.registers.delay = m.registers.delay ∧ m'.registers.sound = m.registers.sound)
    (fun m' h => ⟨m'.step_timers.1.trans h.1, m'.step_timers.2.trans h.2⟩) n ⟨rfl, rfl⟩

/-- Machines that are equal but for their timers and the four high bits of the index register do the
same for ever. Each step has the same result and reports the same, and leaves them equal but for
that. Once a step has loaded an address into the index register, they are equal there in all bits.
The timers stay as they were in each of them. -/
theorem timers_and_high_bits_inert (h : m.Indistinct m') (n : Nat) :
    let one := m.after n
    let other := m'.after n
    (other.step.result = one.step.result ∧ other.step.log = one.step.log) ∧
      one.Indistinct other ∧
      (∀ k < n, ∀ address, (m.after k).step.result = .ok (.loadIndex address) →
        other.registers.index = one.registers.index) ∧
      (one.registers.delay = m.registers.delay ∧ one.registers.sound = m.registers.sound) ∧
      other.registers.delay = m'.registers.delay ∧ other.registers.sound = m'.registers.sound := by
  intro one other
  have hafter : one.Indistinct other := h.after n
  exact ⟨⟨hafter.step.result_eq, hafter.step.log_eq⟩, hafter,
    fun _ hk _ hload => h.after_index_eq hk hload, m.after_timers n, m'.after_timers n⟩

/-- A digit is drawn from an address with high bits, and then an address is loaded. -/
theorem timers_and_high_bits_inert_digit :
    let rom : Rom := ⟨[0xD0, 0x15, 0xA0, 0x5A], by decide⟩
    let loaded := ((fresh Config.default Grid.dark).loadRom rom).state
    let m : Machine Grid := { loaded with registers.index := 0x0050 }
    let m' : Machine Grid :=
      { loaded with registers := { loaded.registers with index := 0xF050, delay := 7, sound := 9 } }
    m.Indistinct m' ∧ (m.after 1).screen.isLit 0 0 = true ∧
      (m'.after 1).screen.isLit 0 0 = true ∧
      (m.after 1).step.result = .ok (.loadIndex 0x5A) ∧
      (m'.after 1).step.result = .ok (.loadIndex 0x5A) ∧
      (m'.after 2).registers.index = (m.after 2).registers.index ∧
      (m'.after 2).registers.delay = 7 ∧ (m'.after 2).registers.sound = 9 := by
  intro rom loaded m m'
  have hlike : m.Indistinct m' := ⟨rfl, rfl, by decide, rfl, rfl, rfl, rfl, rfl⟩
  have hlit : (m.after 1).screen.isLit 0 0 = true := by decide +kernel
  have hload : (m.after 1).step.result = .ok (.loadIndex 0x5A) := by decide +kernel
  have htimers : m'.registers.delay = 7 ∧ m'.registers.sound = 9 := ⟨rfl, rfl⟩
  clear_value m m'
  obtain ⟨⟨hresult, -⟩, hdrawn, -⟩ := timers_and_high_bits_inert hlike 1
  obtain ⟨-, -, hindex, -, hdelay, hsound⟩ := timers_and_high_bits_inert hlike 2
  refine ⟨hlike, hlit, ?_, hload, hresult.trans hload, hindex 1 (by decide) _ hload,
    hdelay.trans htimers.1, hsound.trans htimers.2⟩
  rw [hdrawn.screen_eq]
  exact hlit

end Machine

end ChipEight
