import ChipEight.Proofs.Machine.Step

/-!
# The effects of instructions

The table of instructions as a relation between the machine before a step and the machine after
it. Each row names all that changes; the rest stays. Both the program counter and the stack
pointer wrap around.

The program counter moves on behind every instruction, so a transfer goes on two bytes behind its
target.
-/

namespace ChipEight.Machine

open Word

variable {S : Type} [Surface S]

/-- A step that executes the instruction leads to the second machine. -/
inductive Effect (m : Machine S) : Instruction → Machine S → Prop where
  | clear : Effect m .clear
      { m with
        screen := Surface.clear m.screen
        registers.pc := m.registers.pc + 2 }
  | ret : Effect m .ret
      { m with
        registers.pc := (m.stack.get? m.registers.sp).getD 0 + 2
        registers.sp := m.registers.sp - 1 }
  | jump (nnn : UInt16) : Effect m (.jump nnn) { m with registers.pc := nnn + 2 }
  | call (nnn : UInt16) : Effect m (.call nnn)
      { m with
        stack := m.stack.set (m.registers.sp + 1) m.registers.pc
        registers.pc := nnn + 2
        registers.sp := m.registers.sp + 1 }
  | skipIfByte (x : Fin 16) (kk : UInt8) : Effect m (.skipIfEqual (.general x) (.byte kk))
      { m with registers.pc :=
          if m.registers.get x = kk then m.registers.pc + 4 else m.registers.pc + 2 }
  | skipUnlessByte (x : Fin 16) (kk : UInt8) : Effect m (.skipIfNotEqual (.general x) (.byte kk))
      { m with registers.pc :=
          if m.registers.get x = kk then m.registers.pc + 2 else m.registers.pc + 4 }
  | skipIf (x y : Fin 16) :
      Effect m (.skipIfEqual (.general x) (.register (.general y)))
      { m with registers.pc :=
          if m.registers.get x = m.registers.get y then m.registers.pc + 4
          else m.registers.pc + 2 }
  | skipUnless (x y : Fin 16) :
      Effect m (.skipIfNotEqual (.general x) (.register (.general y)))
      { m with registers.pc :=
          if m.registers.get x = m.registers.get y then m.registers.pc + 2
          else m.registers.pc + 4 }
  | loadByte (x : Fin 16) (kk : UInt8) : Effect m (.load (.general x) (.byte kk))
      { m with
        registers := { m.registers.set x kk with pc := m.registers.pc + 2 } }
  | load (x y : Fin 16) : Effect m (.load (.general x) (.register (.general y)))
      { m with
        registers := { m.registers.set x (m.registers.get y) with pc := m.registers.pc + 2 } }
  | loadIndex (nnn : UInt16) : Effect m (.loadIndex nnn)
      { m with
        registers.index := nnn
        registers.pc := m.registers.pc + 2 }
  | draw (x y : Fin 16) (n : UInt8) : Effect m (.draw (.general x) (.general y) n)
      { m.drawn (m.registers.get x).toUInt16 (m.registers.get y).toUInt16 n with
        registers.pc := m.registers.pc + 2 }
  | unknown (w : UInt16) : Effect m (.unknown w) { m with registers.pc := m.registers.pc + 2 }

variable {m m' m'' : Machine S} {w : UInt16} {i : Instruction}

/-- An instruction stands in one row of the table. -/
theorem Effect.unique (h : m.Effect i m') (h' : m.Effect i m'') : m' = m'' := by
  cases h <;> cases h' <;> rfl

theorem address_and {nnn : UInt16} (h : nnn.toNat < 0x1000) : nnn &&& 0x0FFF = nnn :=
  address_eq (Nat.mod_eq_of_lt h)

omit [Surface S] in
theorem skip_advance (m : Machine S) (p : Prop) [Decidable p] : (m.skip (decide p)).advance =
    { m with registers.pc := if p then m.registers.pc + 4 else m.registers.pc + 2 } := by
  have h : m.registers.pc + 2 + 2 = m.registers.pc + 4 := UInt16.add_assoc _ 2 2
  by_cases hp : p <;> simp [skip_eq, advance_eq, hp, h]

omit [Surface S] in
theorem skip_not_advance (m : Machine S) (p : Prop) [Decidable p] :
    (m.skip !decide p).advance =
      { m with registers.pc := if p then m.registers.pc + 2 else m.registers.pc + 4 } := by
  rw [← decide_not, skip_advance, ite_not]

/-- Executing what a word spells and moving on is what the table says. -/
theorem effect_of_spells (h : Spells m.instructions w i) :
    m.Effect i (m.execute i).state.advance := by
  cases h with
  | clear =>
    rw [advance_eq]
    exact .clear
  | ret =>
    rw [execute, ret_eq, advance_eq]
    exact .ret
  | jump nnn hn =>
    rw [execute, jump_eq, address_and hn, advance_eq]
    exact .jump nnn
  | call nnn hn =>
    rw [execute, call_eq, address_and hn, advance_eq]
    exact .call nnn
  | skipIfByte x kk =>
    rw [execute, RegisterFile.agree_byte, given_ok, Outcome.state_ok, skip_advance]
    exact .skipIfByte x kk
  | skipUnlessByte x kk =>
    rw [execute, RegisterFile.agree_byte, given_ok, Outcome.state_ok, skip_not_advance]
    exact .skipUnlessByte x kk
  | skipIf x y =>
    rw [execute, RegisterFile.agree_register, given_ok, Outcome.state_ok, skip_advance]
    exact .skipIf x y
  | skipUnless x y =>
    rw [execute, RegisterFile.agree_register, given_ok, Outcome.state_ok, skip_not_advance]
    exact .skipUnless x y
  | loadByte x kk =>
    rw [execute, RegisterFile.load_byte, advance_eq]
    exact .loadByte x kk
  | load x y =>
    rw [execute, RegisterFile.load_register, advance_eq]
    exact .load x y
  | loadIndex nnn =>
    rw [execute_loadIndex, advance_eq]
    exact .loadIndex nnn
  | draw x y n =>
    rw [execute, draw_eq _ rfl rfl, advance_eq]
    exact .draw x y _
  | unknown =>
    rw [advance_eq]
    exact .unknown w

/-- A step that succeeds has the effect of what the fetched word spells. -/
theorem exists_effect_of_step (h : m.step.result = .ok i) :
    ∃ w, m.fetch? = some w ∧ Spells m.instructions w i ∧ m.Effect i m.step.state := by
  cases hw : m.fetch? with
  | none =>
    rw [step_of_fetch?_eq_none hw] at h
    cases h
  | some w =>
    obtain ⟨hresult, hstate⟩ := step_of_fetch?_eq_some hw
    have hspells : Spells m.instructions w i :=
      spells_iff.2 (Except.ok.inj (hresult.symm.trans h))
    refine ⟨w, rfl, hspells, ?_⟩
    rw [hstate, hspells.decode_eq]
    exact effect_of_spells hspells

/-- Only a call sets a slot, which is the next one, to the address of the call itself. -/
theorem Effect.get?_stack (h : m.Effect i m') (sp : UInt8) :
    m'.stack.get? sp = m.stack.get? sp ∨
      ∃ nnn, i = .call nnn ∧ sp = m.registers.sp + 1 ∧
        m'.stack.get? sp = some m.registers.pc := by
  cases h with
  | call nnn =>
    by_cases hsp : sp = m.registers.sp + 1
    · right
      exact ⟨nnn, rfl, hsp, by rw [CallStack.get?_set, if_pos hsp]⟩
    · left
      rw [CallStack.get?_set, if_neg hsp]
  | _ => exact .inl rfl

/-- A return goes on two bytes behind the address in the slot at hand. -/
theorem step_of_ret (h : m.step.result = .ok .ret) : m.step.state =
    { m with
      registers.pc := (m.stack.get? m.registers.sp).getD 0 + 2
      registers.sp := m.registers.sp - 1 } := by
  obtain ⟨w, -, -, heffect⟩ := exists_effect_of_step h
  exact heffect.unique .ret

/-- A step goes exactly by the table: it succeeds where a word is fetched, with what this word
spells, and what it leaves behind is the effect of that instruction. -/
theorem step_ok_iff_effect (m m' : Machine S) (i : Instruction) :
    (m.step.result = .ok i ∧ m.step.state = m') ↔
      ∃ w, m.fetch? = some w ∧ Spells m.instructions w i ∧ m.Effect i m' := by
  constructor
  · rintro ⟨hi, rfl⟩
    cases hw : m.fetch? with
    | none =>
      rw [step_of_fetch?_eq_none hw] at hi
      cases hi
    | some w =>
      obtain ⟨hresult, hstate⟩ := step_of_fetch?_eq_some hw
      obtain rfl : Instruction.decode m.instructions w = i := Except.ok.inj (hresult.symm.trans hi)
      have hspells : Spells m.instructions w (Instruction.decode m.instructions w) :=
        spells_iff.2 rfl
      refine ⟨w, rfl, hspells, ?_⟩
      rw [hstate]
      exact effect_of_spells hspells
  · rintro ⟨w, hw, hspells, heffect⟩
    obtain ⟨hresult, hstate⟩ := step_of_fetch?_eq_some hw
    rw [hspells.decode_eq] at hresult hstate
    exact ⟨hresult, hstate.trans ((effect_of_spells hspells).unique heffect)⟩

end ChipEight.Machine
