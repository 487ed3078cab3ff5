import ChipEight.Proofs.Program.Words

/-!
# Aligned programs

If all jumps and calls among the words of a program go to even addresses, the machine keeps to
these words: the program counter moves by two or four bytes, and the call stack holds addresses
where the counter was. So nothing is executed that lies across two words, however the calls nest
and whatever is left in the slots.
-/

namespace ChipEight

open Word

namespace Rom

/-- All jumps and calls among the words go to even addresses. -/
def IsAligned (rom : Rom) : Prop :=
  ∀ k < rom.wordCount, IsTransfer (rom.word k) → 2 ∣ (address (rom.word k)).toNat

instance : DecidablePred IsAligned := fun rom =>
  inferInstanceAs
    (Decidable (∀ k < rom.wordCount, IsTransfer (rom.word k) → 2 ∣ (address (rom.word k)).toNat))

end Rom

/-! ### Aligned machines -/

variable {S : Type}

/-- Both the program counter and the return addresses are even. -/
structure Machine.Aligned (m : Machine S) : Prop where
  pc : 2 ∣ m.registers.pc.toNat
  slot : ∀ {sp a}, m.stack.get? sp = some a → 2 ∣ a.toNat

namespace Machine

variable {m : Machine S} {rom : Rom} {w : UInt16} {i : Instruction}

theorem aligned_loaded (config : Config) (screen : S) (rom : Rom) :
    ((fresh config screen).loadRom rom).state.Aligned := by
  rw [loadRom_fresh]
  refine ⟨(by decide : 2 ∣ (0x200 : UInt16).toNat), ?_⟩
  intro sp a hslot
  cases (CallStack.get?_empty sp).symm.trans hslot

/-- At an even address, a word of the image is fetched. -/
theorem Aligned.of_fetch?_eq_some (h : m.Aligned) (hruns : m.Runs rom) (hw : m.fetch? = some w) :
    ∃ k < rom.wordCount, m.registers.pc.toNat = 0x200 + 2 * k ∧ w = rom.word k := by
  obtain ⟨j, hj⟩ := h.pc
  obtain ⟨hle, -, hword⟩ := hruns.of_fetch?_eq_some hw
  have hend : m.registers.pc.toNat < 0x200 + rom.size := by
    rw [fetch?_program _ rom hruns.memory_eq rfl] at hw
    split at hw
    case isTrue => cases hw
    case isFalse hin => omega
  have hpc : m.registers.pc.toNat = 0x200 + 2 * (j - 0x100) := by omega
  refine ⟨j - 0x100, ?_, hpc, ?_⟩
  · rw [Rom.wordCount]
    omega
  · rw [hword, Rom.word, hpc]

/-- The sum of even addresses is even, although it may wrap around. -/
theorem two_dvd_add {a b : UInt16} (ha : 2 ∣ a.toNat) (hb : 2 ∣ b.toNat) : 2 ∣ (a + b).toNat := by
  rw [UInt16.toNat_add]
  omega

variable [Surface S]

/-- What an aligned machine executes is a word of the image. -/
theorem Aligned.exists_word (h : m.Aligned) (hruns : m.Runs rom) (hi : m.step.result = .ok i) :
    ∃ k < rom.wordCount, m.registers.pc.toNat = 0x200 + 2 * k ∧
      Spells m.instructions (rom.word k) i ∧ m.Effect i m.step.state := by
  obtain ⟨w, hw, hspells, heffect⟩ := exists_effect_of_step hi
  obtain ⟨k, hk, hpc, rfl⟩ := h.of_fetch?_eq_some hruns hw
  exact ⟨k, hk, hpc, hspells, heffect⟩

/-- A step of an aligned program keeps the machine aligned. -/
theorem Aligned.step (h : m.Aligned) (hruns : m.Runs rom) (hrom : rom.IsAligned) :
    m.step.state.Aligned := by
  rcases m.step_cases with hfail | ⟨i, hi, -⟩
  · rw [hfail]
    exact h
  · obtain ⟨k, hk, -, hspells, heffect⟩ := h.exists_word hruns hi
    have htwo : 2 ∣ (2 : UInt16).toNat := by decide
    have hfour : 2 ∣ (4 : UInt16).toNat := by decide
    have htarget {nnn : UInt16} (h : IsTransfer (rom.word k) ∧ address (rom.word k) = nnn) :
        2 ∣ nnn.toNat := h.2 ▸ hrom k hk h.1
    constructor
    case pc =>
      generalize m.step.state = m' at heffect
      cases heffect with
      | jump nnn => exact two_dvd_add (htarget hspells.isTransfer_of_jump) htwo
      | call nnn => exact two_dvd_add (htarget hspells.isTransfer_of_call) htwo
      | ret =>
        refine two_dvd_add ?_ htwo
        cases hslot : m.stack.get? m.registers.sp with
        | none => decide
        | some a => exact h.slot hslot
      | skipIfByte | skipUnlessByte | skipIf | skipUnless =>
        dsimp only
        split
        · exact two_dvd_add h.pc ‹_›
        · exact two_dvd_add h.pc ‹_›
      | _ => exact two_dvd_add h.pc htwo
    case slot =>
      intro sp a hslot
      rcases heffect.get?_stack sp with hold | ⟨nnn, -, -, hnew⟩
      · exact h.slot (hold.symm.trans hslot)
      · obtain rfl : m.registers.pc = a := Option.some.inj (hnew.symm.trans hslot)
        exact h.pc

/-- So the machine is aligned in all of a run. -/
theorem aligned_after (config : Config) (screen : S) (hrom : rom.IsAligned) (n : Nat) :
    (((fresh config screen).loadRom rom).state.after n).Aligned :=
  after_of_runs (fun _ hruns haligned => haligned.step hruns hrom) config screen n
    (aligned_loaded config screen rom)

/-- An aligned program stays aligned. However long it has run, the program counter and every set
slot of the call stack are even. What a step executes is the instruction of a word of the image,
and if the image came from a listing, of the word in the same place there. -/
theorem aligned_programs_keep_to_words (config : Config) (screen : S) {rom : Rom}
    (hrom : rom.IsAligned) (n : Nat) :
    let m := ((fresh config screen).loadRom rom).state.after n
    2 ∣ m.registers.pc.toNat ∧ (∀ sp a, m.stack.get? sp = some a → 2 ∣ a.toNat) ∧
      ∀ i, m.step.result = .ok i → ∃ k < rom.wordCount,
        m.registers.pc.toNat = 0x200 + 2 * k ∧
          i = Instruction.decode config.instructions (rom.word k) ∧
          ∀ text, Rom.ofListing text = .ok rom → ∃ word,
            (words text.toList)[k]? = some word ∧ Listing.IsWord word ∧
              (rom.word k).toNat = Hex.number word := by
  intro m
  have hruns : m.Runs rom := runs_after config screen rom n
  have haligned : m.Aligned := aligned_after config screen hrom n
  have hinstructions : m.instructions = config.instructions := by
    rw [show m.instructions = _ from after_instructions _ n, loadRom_fresh]
    rfl
  refine ⟨haligned.pc, fun sp a hslot => haligned.slot hslot, fun i hi => ?_⟩
  obtain ⟨k, hk, hpc, hspells, -⟩ := haligned.exists_word hruns hi
  rw [hinstructions] at hspells
  exact ⟨k, hk, hpc, hspells.decode_eq.symm, fun text htext => Rom.word_of_listing htext hk⟩

/-- The call at the start has gone on at the last word, which is a jump. -/
theorem aligned_programs_keep_to_words_once :
    let text := "2202 3000 1200"
    let rom : Rom := ⟨[0x22, 0x02, 0x30, 0x00, 0x12, 0x00], by decide⟩
    let m := ((fresh Config.default Grid.dark).loadRom rom).state.after 1
    rom.IsAligned ∧ m.step.result = .ok (.jump 0x200) ∧ m.stack.get? 1 = some 0x200 ∧
      Rom.ofListing text = .ok rom ∧ 2 ∣ m.registers.pc.toNat ∧
      ∃ k < 3, m.registers.pc.toNat = 0x200 + 2 * k ∧
        ∃ word, (words text.toList)[k]? = some word ∧ (rom.word k).toNat = Hex.number word := by
  intro text rom m
  have hrom : rom.IsAligned := by decide +kernel
  have hcount : rom.wordCount = 3 := by decide
  have hjump : m.step.result = .ok (.jump 0x200) := by decide +kernel
  have hslot : m.stack.get? 1 = some 0x200 := by decide +kernel
  have htext : Rom.ofListing text = .ok rom := by decide +kernel
  have hm : m = ((fresh Config.default Grid.dark).loadRom rom).state.after 1 := rfl
  have hkeeps := aligned_programs_keep_to_words Config.default Grid.dark hrom 1
  rw [← hm] at hkeeps
  clear_value m
  obtain ⟨hpc, -, hexecuted⟩ := hkeeps
  obtain ⟨k, hk, hplace, -, hlisted⟩ := hexecuted _ hjump
  obtain ⟨word, hword, -, hnumber⟩ := hlisted text htext
  exact ⟨hrom, hjump, hslot, htext, hpc, k, hcount ▸ hk, hplace, word, hword, hnumber⟩

end Machine

end ChipEight
