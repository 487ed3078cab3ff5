import ChipEight.Proofs.Machine.Exhaustion
import ChipEight.Proofs.Machine.Loading

/-!
# Running a program

No instruction writes to memory, so a machine that runs a program on its own finds the image as it
was loaded, whatever it did before. What it fetches is made of the image alone: the bytes around
it count as zeros, also those of the font.
-/

namespace ChipEight

/-! ### Images -/

namespace Rom

/-- The byte of a program image at an address. There are zeros around the image. -/
def byteAt (rom : Rom) (a : Nat) : UInt8 :=
  if 0x200 ≤ a then rom.bytes.getD (a - 0x200) 0 else 0

theorem byteAt_eq_zero {rom : Rom} {a : Nat} (h : a < 0x200 ∨ 0x200 + rom.size ≤ a) :
    rom.byteAt a = 0 := by
  rw [byteAt]
  split
  · have hend : rom.bytes.length ≤ a - 0x200 := by
      rw [size] at h
      omega
    exact List.getD_eq_default _ _ hend
  · rfl

end Rom

namespace Machine

variable {S : Type}

/-! ### Memory behind a program -/

section

variable (policy : WritePolicy) (rom : Rom)

theorem isWritten_program (a : UInt16) :
    ((Memory.fresh policy).filled 0x200 rom.bytes).isWritten a =
      decide (0x200 ≤ a.toNat ∧ a.toNat < 0x200 + rom.size) := by
  have hfits : rom.bytes.length ≤ 4096 - 0x200 := rom.fits
  rw [Memory.isWritten_filled (by omega), Memory.isWritten_fresh, Bool.or_false]
  rfl

/-- Behind the font, memory looks like the image. -/
theorem byteAt_program {a : Nat} (ha : 0x1FF ≤ a) :
    ((Memory.fresh policy).filled 0x200 rom.bytes).byteAt a = rom.byteAt a := by
  have hfits : rom.bytes.length ≤ 4096 - 0x200 := rom.fits
  by_cases h : 0x200 ≤ a ∧ a < 0x200 + rom.bytes.length
  · rw [Memory.byteAt_filled_of_mem (by omega) h.1 h.2, Rom.byteAt, if_pos h.1]
  · have hout : a < 0x200 ∨ 0x200 + rom.bytes.length ≤ a := by omega
    have hfont : Memory.fontStart + Memory.font.length ≤ a := le_trans (by decide) ha
    rw [Memory.byteAt_filled_of_not_mem hout, Memory.byteAt_fresh_of_le _ hfont,
      Rom.byteAt_eq_zero hout]

end

/-! ### Fetching from a program -/

/-- A word is fetched where one of its bytes belongs to the image. A last byte on its own is the
high one of a word. -/
theorem fetch?_program {m : Machine S} (policy : WritePolicy) (rom : Rom) {p : Nat}
    (hm : m.memory = (Memory.fresh policy).filled 0x200 rom.bytes)
    (hp : m.registers.pc.toNat = p) :
    m.fetch? = if rom.bytes = [] ∨ p + 1 < 0x200 ∨ 0x200 + rom.size ≤ p then none
      else some (Word.ofBytes (rom.byteAt p) (rom.byteAt (p + 1))) := by
  have hfits : rom.size ≤ 4096 - 0x200 := rom.fits
  have hempty : rom.bytes = [] ↔ rom.size = 0 := List.length_eq_zero_iff.symm
  have hlt : p < 0x10000 := hp ▸ m.registers.pc.toNat_lt
  have hnext : (m.registers.pc + 1).toNat = (p + 1) % 0x10000 := by
    rw [UInt16.toNat_add, hp]
    rfl
  have hword := m.memory.word_eq m.registers.pc
  rw [hp] at hword
  have hpc : m.memory.isWritten m.registers.pc = decide (0x200 ≤ p ∧ p < 0x200 + rom.size) := by
    rw [hm, isWritten_program, hp]
  have hpc' : m.memory.isWritten (m.registers.pc + 1) =
      decide (0x200 ≤ (p + 1) % 0x10000 ∧ (p + 1) % 0x10000 < 0x200 + rom.size) := by
    rw [hm, isWritten_program, hnext]
  rw [fetch?, hpc, hpc', hword, hm]
  by_cases hlow : 0x200 ≤ p + 1 ∧ p + 1 < 0x200 + rom.size
  · -- The low byte is there. The high one may still be the last before the image.
    rw [if_pos (by simp only [decide_eq_true_eq]; omega), if_neg (by rw [hempty]; omega),
      byteAt_program _ _ (by omega), byteAt_program _ _ (by omega)]
  · rw [if_neg (by simp only [decide_eq_true_eq]; omega)]
    by_cases hhigh : 0x200 ≤ p ∧ p < 0x200 + rom.size
    · -- The high byte is the last of the image.
      rw [if_pos (decide_eq_true hhigh), if_neg (by rw [hempty]; omega), Word.ofBytes_and_high,
        byteAt_program _ _ (by omega), Rom.byteAt_eq_zero (a := p + 1) (by omega)]
    · rw [if_neg (by simpa using hhigh), if_pos (by rw [hempty]; omega)]

/-! ### Any number of steps -/

variable [Surface S]

/-- A program is loaded and stays as it is. After any number of steps the next one executes what
the image holds at the program counter, or the program is exhausted if it holds nothing there. -/
theorem program_run (config : Config) (screen : S) (rom : Rom) (n : Nat) :
    let loaded := (fresh config screen).loadRom rom
    let m := loaded.state.after n
    let p := m.registers.pc.toNat
    loaded.result = .ok () ∧ m.memory = loaded.state.memory ∧
      m.step.result =
        if rom.bytes = [] ∨ p + 1 < 0x200 ∨ 0x200 + rom.size ≤ p then
          .error (.exhausted m.registers.pc)
        else
          .ok (Instruction.decode config.instructions
            (UInt16.ofNat (0x100 * (rom.byteAt p).toNat + (rom.byteAt (p + 1)).toNat))) := by
  intro loaded m p
  have hloaded : loaded = _ := loadRom_fresh config screen rom
  have hmemory : m.memory = loaded.state.memory := after_memory _ n
  have hinstructions : m.instructions = config.instructions := by
    rw [show m.instructions = loaded.state.instructions from after_instructions _ n, hloaded]
    rfl
  have hfetch := fetch?_program (m := m) config.policy rom (by rw [hmemory, hloaded]) rfl
  refine ⟨by rw [hloaded], hmemory, ?_⟩
  split at hfetch
  case isTrue hout =>
    rw [step_of_fetch?_eq_none hfetch, if_pos hout]
    rfl
  case isFalse hin =>
    rw [(step_of_fetch?_eq_some hfetch).1, if_neg hin, hinstructions, Word.ofBytes_eq_ofNat]

end Machine

end ChipEight
