import ChipEight.Proofs.Machine.Alignment

/-!
# Programs that only go forward

A program without returns whose jumps and calls never go back runs out. Each step takes the program
counter on by one word at least, for a transfer goes on behind its target, so there are no more
steps than words. This holds for a jump to itself too.
-/

namespace ChipEight

open Word

namespace Rom

/-- There is no return among the words, and all jumps and calls go to even addresses that do not
come before their own. -/
def IsForward (rom : Rom) : Prop :=
  ∀ k < rom.wordCount, rom.word k ≠ 0x00EE ∧
    (IsTransfer (rom.word k) →
      2 ∣ (address (rom.word k)).toNat ∧ 0x200 + 2 * k ≤ (address (rom.word k)).toNat)

instance : DecidablePred IsForward := fun rom =>
  inferInstanceAs (Decidable (∀ k < rom.wordCount, rom.word k ≠ 0x00EE ∧
    (IsTransfer (rom.word k) →
      2 ∣ (address (rom.word k)).toNat ∧ 0x200 + 2 * k ≤ (address (rom.word k)).toNat)))

variable {rom : Rom}

theorem IsForward.isAligned (h : rom.IsForward) : rom.IsAligned :=
  fun k hk htransfer => ((h k hk).2 htransfer).1

theorem wordCount_le (rom : Rom) : rom.wordCount ≤ 0x700 := by
  have hfits : rom.size ≤ 4096 - 0x200 := rom.fits
  rw [wordCount]
  omega

end Rom

namespace Machine

variable {S : Type} [Surface S] {m : Machine S} {rom : Rom} {i : Instruction}

/-- Every step goes on by one word at least. -/
theorem Aligned.pc_add_two_le (h : m.Aligned) (hruns : m.Runs rom) (hrom : rom.IsForward)
    (hi : m.step.result = .ok i) :
    m.registers.pc.toNat + 2 ≤ m.step.state.registers.pc.toNat := by
  obtain ⟨k, hk, hpc, hspells, heffect⟩ := h.exists_word hruns hi
  obtain ⟨hret, htransfer⟩ := hrom k hk
  have hcount := rom.wordCount_le
  -- Neither the counter nor a target is so large that it would wrap around.
  have hadd {a b : UInt16} (ha : a.toNat < 0x1000) (hb : b.toNat ≤ 4) :
      (a + b).toNat = a.toNat + b.toNat := by
    rw [UInt16.toNat_add]
    exact Nat.mod_eq_of_lt (by omega)
  have hnext : (m.registers.pc + 2).toNat = m.registers.pc.toNat + 2 := hadd (by omega) (by decide)
  have hskip : (m.registers.pc + 4).toNat = m.registers.pc.toNat + 4 := hadd (by omega) (by decide)
  have htarget {nnn : UInt16} (hword : IsTransfer (rom.word k) ∧ address (rom.word k) = nnn) :
      m.registers.pc.toNat + 2 ≤ (nnn + 2).toNat := by
    obtain ⟨hword, rfl⟩ := hword
    have hback := (htransfer hword).2
    rw [hadd (toNat_address_lt _) (by decide), hpc]
    exact Nat.add_le_add_right hback 2
  generalize m.step.state = m' at heffect
  cases heffect with
  | jump nnn => exact htarget hspells.isTransfer_of_jump
  | call nnn => exact htarget hspells.isTransfer_of_call
  | ret =>
    cases hspells with
    | ret hw => exact absurd (UInt16.toNat_inj.1 hw) hret
  | skipIfByte | skipUnlessByte | skipIf | skipUnless =>
    dsimp only
    split <;> omega
  | _ => exact hnext.ge

/-- The program is exhausted after a number of steps, all of which succeed. -/
def RunsOut (m : Machine S) (n : Nat) : Prop :=
  (∀ k < n, ∃ i, (m.after k).step.result = .ok i) ∧
    (m.after n).step.result = .error (.exhausted (m.after n).registers.pc)

theorem runsOut_zero (h : m.fetch? = none) : m.RunsOut 0 :=
  ⟨fun _ hk => absurd hk (Nat.not_lt_zero _), step_result_eq_error_iff.2 ⟨h, rfl⟩⟩

theorem RunsOut.succ {n : Nat} (hi : m.step.result = .ok i) (h : m.step.state.RunsOut n) :
    m.RunsOut (n + 1) := by
  refine ⟨fun k hk => ?_, h.2⟩
  cases k with
  | zero => exact ⟨i, hi⟩
  | succ k => exact h.1 k (Nat.lt_of_succ_lt_succ hk)

/-- There are no more steps than words from the program counter on. -/
theorem Aligned.exists_runsOut (h : m.Aligned) (hruns : m.Runs rom) (hrom : rom.IsForward) {d : Nat}
    (hd : 0x200 + 2 * rom.wordCount ≤ m.registers.pc.toNat + 2 * d) : ∃ n ≤ d, m.RunsOut n := by
  induction d generalizing m with
  | zero =>
    refine ⟨0, Nat.le_refl _, runsOut_zero ?_⟩
    by_contra hsome
    obtain ⟨w, hw⟩ := Option.ne_none_iff_exists'.1 hsome
    obtain ⟨k, hk, hpc, -⟩ := h.of_fetch?_eq_some hruns hw
    omega
  | succ d ih =>
    cases hw : m.fetch? with
    | none => exact ⟨0, Nat.zero_le _, runsOut_zero hw⟩
    | some w =>
      have hi := (step_of_fetch?_eq_some hw).1
      have hon := h.pc_add_two_le hruns hrom hi
      obtain ⟨n, hn, hout⟩ := ih (h.step hruns hrom.isAligned) hruns.step (by omega)
      exact ⟨n + 1, Nat.succ_le_succ hn, hout.succ hi⟩

/-- A program that only goes forward runs out, whatever the registers and the screen hold at first,
after no more steps than it has words. On any machine, a jump to itself goes on by one word. -/
theorem forward_programs_run_out (config : Config) (screen : S) {rom : Rom}
    (hrom : rom.IsForward) (registers : RegisterFile) :
    let loaded := ((fresh config screen).loadRom rom).state
    let m := { loaded with
      registers := { registers with pc := loaded.registers.pc, sp := loaded.registers.sp } }
    (∃ n ≤ (rom.size + 1) / 2, m.RunsOut n) ∧
      ∀ m' : Machine S, m'.step.result = .ok (.jump m'.registers.pc) →
        m'.step.state.registers.pc = m'.registers.pc + 2 := by
  intro loaded m
  have hruns : loaded.Runs rom := runs_loaded config screen rom
  have haligned : loaded.Aligned := aligned_loaded config screen rom
  have hpc : loaded.registers.pc.toNat = 0x200 := by
    have hloaded : loaded = _ := congrArg Outcome.state (loadRom_fresh config screen rom)
    rw [hloaded]
    exact (by decide : (0x200 : UInt16).toNat = 0x200)
  constructor
  · have hm : m.Aligned := ⟨haligned.pc, haligned.slot⟩
    refine hm.exists_runsOut ⟨hruns.memory_eq, hruns.isCall⟩ hrom (Nat.le_of_eq ?_)
    rw [show m.registers.pc.toNat = 0x200 from hpc]
    rfl
  · intro m' hjump
    obtain ⟨-, -, -, heffect⟩ := exists_effect_of_step hjump
    rw [heffect.unique (.jump _)]

/-- A program of two jumps to themselves with a skip between them and half a word behind them. -/
theorem forward_programs_run_out_behind_jump :
    let rom : Rom := ⟨[0x12, 0x00, 0x30, 0x07, 0x12, 0x04, 0x60], by decide⟩
    let loaded := ((fresh Config.default Grid.dark).loadRom rom).state
    let registers := { RegisterFile.zero.set 0 7 with index := 0x1FFF, delay := 9, sound := 1 }
    let m := { loaded with
      registers := { registers with pc := loaded.registers.pc, sp := loaded.registers.sp } }
    rom.IsForward ∧ (∃ n ≤ 4, m.RunsOut n) ∧ loaded.step.result = .ok (.jump loaded.registers.pc) ∧
      loaded.step.state.registers.pc = loaded.registers.pc + 2 := by
  intro rom loaded registers m
  have hrom : rom.IsForward := by decide +kernel
  have hcount : (rom.size + 1) / 2 = 4 := by decide
  have hjump : loaded.step.result = .ok (.jump loaded.registers.pc) := by decide +kernel
  obtain ⟨⟨n, hn, hout⟩, hself⟩ :=
    forward_programs_run_out Config.default Grid.dark hrom registers
  exact ⟨hrom, ⟨n, hcount ▸ hn, hout⟩, hjump, hself loaded hjump⟩

end Machine

end ChipEight
