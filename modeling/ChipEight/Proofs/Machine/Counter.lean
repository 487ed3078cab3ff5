import ChipEight.Proofs.Machine.Returns

/-!
# The program counter in bounds

A program is executed from the byte before its image on and up to the end of memory. Every target
and every return address lies in memory too, so the counter gets no further than a skipped
instruction behind the end. It never comes near the value where it would wrap around.
-/

namespace ChipEight.Machine

variable {S : Type}

/-! ### What the counter is handed -/

/-- The value that an instruction hands to the program counter as it is executed, if any. -/
def handed? (m : Machine S) : Instruction → Option UInt32
  | .ret => some ((m.stack.get? m.registers.sp).getD 0).toUInt32
  | .jump target | .call target => some (target &&& 0x0FFF).toUInt32
  | .skipIfEqual left right =>
    match m.registers.agree left right with
    | .ok true => some (m.registers.pc.toUInt32 + 2)
    | _        => none
  | .skipIfNotEqual left right =>
    match m.registers.agree left right with
    | .ok false => some (m.registers.pc.toUInt32 + 2)
    | _         => none
  | _ => none

variable [Surface S]

/-- The counter takes the low sixteen bits of what it is handed, and stays where it is else. -/
theorem execute_pc (m : Machine S) (i : Instruction) :
    (m.execute i).state.registers.pc =
      (m.handed? i).elim m.registers.pc UInt32.toUInt16 := by
  cases i with
  | clear | unknown => rfl
  | ret =>
    rw [execute, ret_eq]
    simp [handed?]
  | jump target =>
    rw [execute, jump_eq]
    simp [handed?]
  | call target =>
    rw [execute, call_eq]
    simp [handed?]
  | skipIfEqual left right =>
    rw [execute, handed?]
    cases m.registers.agree left right with
    | error fault => rfl
    | ok same => cases same <;> rfl
  | skipIfNotEqual left right =>
    rw [execute, handed?]
    cases m.registers.agree left right with
    | error fault => rfl
    | ok same => cases same <;> rfl
  | load target source =>
    rw [execute]
    cases h : m.registers.load target source with
    | error fault => rfl
    | ok f => exact (RegisterFile.load_frame h).1
  | loadIndex address =>
    rw [execute_loadIndex]
    rfl
  | draw rx ry rows =>
    have h := m.executes (.draw rx ry rows)
    generalize (m.execute (.draw rx ry rows)).state = m' at h
    cases h <;> rfl

/-! ### Bounds -/

variable {m : Machine S} {rom : Rom} {i : Instruction}

omit [Surface S] in
/-- Return addresses are those of calls, and only three digits of a target count. -/
theorem Runs.toNat_handed_le (h : m.Runs rom) (hpc : m.registers.pc.toNat ≤ 0xFFF)
    {value : UInt32} (hvalue : m.handed? i = some value) : value.toNat ≤ 0x1001 := by
  have hskip : (m.registers.pc.toUInt32 + 2).toNat ≤ 0x1001 := by
    rw [UInt32.toNat_add, UInt16.toNat_toUInt32]
    exact (Nat.mod_le _ _).trans (Nat.add_le_add_right hpc 2)
  have htarget (target : UInt16) : (target &&& 0x0FFF).toUInt32.toNat ≤ 0x1001 := by
    rw [UInt16.toNat_toUInt32, ← Word.address, Word.toNat_address]
    omega
  cases i with
  | ret =>
    obtain rfl := Option.some.inj hvalue
    rw [UInt16.toNat_toUInt32]
    cases hslot : m.stack.get? m.registers.sp with
    | none => decide
    | some a => exact (h.isCall hslot).le_end.trans (by decide)
  | jump target | call target =>
    obtain rfl := Option.some.inj hvalue
    exact htarget target
  | skipIfEqual left right | skipIfNotEqual left right =>
    rw [handed?] at hvalue
    split at hvalue
    · obtain rfl := Option.some.inj hvalue
      exact hskip
    · cases hvalue
  | clear | load | loadIndex | draw | unknown => cases hvalue

theorem Runs.toNat_execute_pc_le (h : m.Runs rom) (hpc : m.registers.pc.toNat ≤ 0xFFF)
    (i : Instruction) : (m.execute i).state.registers.pc.toNat ≤ 0x1001 := by
  rw [execute_pc]
  cases hvalue : m.handed? i with
  | none => exact hpc.trans (by decide)
  | some value =>
    rw [Option.elim_some, UInt32.toNat_toUInt16]
    exact (Nat.mod_le _ _).trans (h.toNat_handed_le hpc hvalue)

theorem Runs.toNat_pc_of_step (h : m.Runs rom) (hstep : m.step.result = .ok i) :
    0x1FF ≤ m.registers.pc.toNat ∧ m.registers.pc.toNat ≤ 0xFFF := by
  obtain ⟨w, hw, -, -⟩ := exists_effect_of_step hstep
  obtain ⟨hle, hend, -⟩ := h.of_fetch?_eq_some hw
  exact ⟨hle, hend⟩

/-- A step leads no further than four bytes behind the last address. -/
theorem Runs.toNat_step_pc_le (h : m.Runs rom) (hpc : m.registers.pc.toNat ≤ 0x1003) :
    m.step.state.registers.pc.toNat ≤ 0x1003 := by
  rcases m.step_cases with hfail | ⟨i, hresult, hstate⟩
  · rw [hfail]
    exact hpc
  · obtain ⟨-, hend⟩ := h.toNat_pc_of_step hresult
    rw [hstate, advance_eq, UInt16.toNat_add]
    exact (Nat.mod_le _ _).trans (Nat.add_le_add_right (h.toNat_execute_pc_le hend i) 2)

/-- So the program counter never gets any further. -/
theorem toNat_pc_after_le (config : Config) (screen : S) (rom : Rom) (n : Nat) :
    (((fresh config screen).loadRom rom).state.after n).registers.pc.toNat ≤ 0x1003 := by
  have hloaded : ((fresh config screen).loadRom rom).state.registers.pc.toNat ≤ 0x1003 := by
    rw [loadRom_fresh]
    exact (by decide : (0x200 : UInt16).toNat ≤ 0x1003)
  exact after_of_runs (fun m hruns => hruns.toNat_step_pc_le) config screen n hloaded

/-! ### No wrapping -/

theorem toUInt32_toUInt16_of_le {value : UInt32} (h : value.toNat ≤ 0xFFFF) :
    value.toUInt16.toUInt32 = value := by
  apply UInt32.toNat_inj.1
  rw [UInt16.toNat_toUInt32, UInt32.toNat_toUInt16]
  exact Nat.mod_eq_of_lt (Nat.lt_succ_of_le h)

/-- A program never makes its counter wrap around. The counter goes no further than `0x1003`, a step
that succeeds starts between `0x1FF` and `0xFFF`, and the sixteen bits hold whatever the step hands
to the counter: what the instruction itself does, and the value two bytes on at last. -/
theorem program_counter_never_wraps (config : Config) (screen : S) (rom : Rom) (n : Nat) :
    let m := ((fresh config screen).loadRom rom).state.after n
    m.registers.pc.toNat ≤ 0x1003 ∧
      ∀ i, m.step.result = .ok i →
        let done := (m.execute i).state
        0x1FF ≤ m.registers.pc.toNat ∧ m.registers.pc.toNat ≤ 0xFFF ∧
          done.registers.pc = (m.handed? i).elim m.registers.pc UInt32.toUInt16 ∧
          m.step.state.registers.pc = (done.registers.pc.toUInt32 + 2).toUInt16 ∧
          ∀ value ∈ (m.handed? i).toList ++ [done.registers.pc.toUInt32 + 2],
            value.toUInt16.toUInt32 = value := by
  intro m
  have hruns : m.Runs rom := runs_after config screen rom n
  refine ⟨toNat_pc_after_le config screen rom n, ?_⟩
  intro i hresult done
  obtain ⟨hle, hend⟩ := hruns.toNat_pc_of_step hresult
  have hdone : done.registers.pc.toNat ≤ 0x1001 := hruns.toNat_execute_pc_le hend i
  refine ⟨hle, hend, m.execute_pc i, ?_, ?_⟩
  · obtain ⟨w, hw, hspells, -⟩ := exists_effect_of_step hresult
    rw [(step_of_fetch?_eq_some hw).2, hspells.decode_eq]
    rfl
  · intro value hmem
    apply toUInt32_toUInt16_of_le
    rcases List.mem_append.1 hmem with hhanded | hadvance
    · have hvalue : m.handed? i = some value := Option.mem_toList.1 hhanded
      exact (hruns.toNat_handed_le hend hvalue).trans (by decide)
    · obtain rfl := List.mem_singleton.1 hadvance
      rw [UInt32.toNat_add, UInt16.toNat_toUInt32]
      exact (Nat.mod_le _ _).trans ((Nat.add_le_add_right hdone 2).trans (by decide))

/-- The last word of an odd image is a skip, which goes on behind the image. -/
theorem program_counter_never_wraps_at_end :
    let rom : Rom := ⟨[0x00, 0xE0, 0x30], by decide⟩
    let m := ((fresh Config.default Grid.dark).loadRom rom).state.after 1
    let skip := Instruction.skipIfEqual (.general 0) (.byte 0)
    m.step.result = .ok skip ∧ m.handed? skip = some 0x204 ∧
      m.step.state.registers.pc.toNat = 0x206 ∧ m.registers.pc.toNat ≤ 0xFFF ∧
      (0x204 : UInt32).toUInt16.toUInt32 = 0x204 := by
  intro rom m skip
  have hresult : m.step.result = .ok skip := by decide +kernel
  have hhanded : m.handed? skip = some 0x204 := by decide +kernel
  have hpc : m.step.state.registers.pc.toNat = 0x206 := by decide +kernel
  have hm : m = ((fresh Config.default Grid.dark).loadRom rom).state.after 1 := rfl
  have hnever := program_counter_never_wraps Config.default Grid.dark rom 1
  rw [← hm] at hnever
  clear_value m
  obtain ⟨-, hend, -, -, hvalues⟩ := hnever.2 skip hresult
  refine ⟨hresult, hhanded, hpc, hend, ?_⟩
  apply hvalues
  exact List.mem_append_left _ (Option.mem_toList.2 hhanded)

end ChipEight.Machine
