import ChipEight.Proofs.Machine.Effect
import ChipEight.Proofs.Machine.Program
import ChipEight.Screen.Grid

/-!
# Where returns go

While a machine runs a program on its own, a slot of the call stack is set by a call only, and what
is executed as a call stands in the image as a call. So a set slot holds the address of a call,
however deep the calls nest and whatever older calls left behind, and a return goes on behind that
call.

A return through an unset slot ends the program: nothing was ever written where it goes on.
-/

namespace ChipEight

/-! ### Calls in an image -/

namespace Rom

/-- The word of a program image at an address. -/
def wordAt (rom : Rom) (a : Nat) : UInt16 := Word.ofBytes (rom.byteAt a) (rom.byteAt (a + 1))

/-- A call stands in the image at the address. -/
structure IsCall (rom : Rom) (a : Nat) : Prop where
  start_le : 0x200 ≤ a
  le_end : a ≤ 0xFFF
  digit_eq : Word.digit (rom.wordAt a) 3 = 0x2

/-- There is nothing but a low byte right before the image. -/
theorem toNat_wordAt_lt {rom : Rom} {a : Nat} (h : a < 0x200) :
    (rom.wordAt a).toNat < 0x100 := by
  have hlow := (rom.byteAt (a + 1)).toNat_lt
  rw [wordAt, Word.toNat_ofBytes, byteAt_eq_zero (.inl h), UInt8.toNat_zero]
  omega

end Rom

/-! ### Machines that run a program -/

variable {S : Type}

/-- What is left of a program's machine after any number of steps: the image as it was loaded, and
the addresses of calls in the slots of the stack. -/
structure Machine.Runs (m : Machine S) (rom : Rom) : Prop where
  memory_eq : m.memory = (Memory.fresh m.memory.policy).filled 0x200 rom.bytes
  isCall : ∀ {sp a}, m.stack.get? sp = some a → rom.IsCall a.toNat

namespace Machine

open Word

variable {m : Machine S} {rom : Rom} {w : UInt16}

theorem runs_loaded (config : Config) (screen : S) (rom : Rom) :
    ((fresh config screen).loadRom rom).state.Runs rom := by
  rw [loadRom_fresh]
  refine ⟨rfl, ?_⟩
  intro sp a hslot
  cases (CallStack.get?_empty sp).symm.trans hslot

/-! ### Fetching -/

/-- Fetched words come from the image. -/
theorem Runs.of_fetch?_eq_some (h : m.Runs rom) (hw : m.fetch? = some w) :
    0x1FF ≤ m.registers.pc.toNat ∧ m.registers.pc.toNat ≤ 0xFFF ∧
      w = rom.wordAt m.registers.pc.toNat := by
  have hfits : rom.size ≤ 4096 - 0x200 := rom.fits
  rw [fetch?_program _ rom h.memory_eq rfl] at hw
  split at hw
  case isTrue => cases hw
  case isFalse hin =>
    simp only [not_or, not_lt, not_le] at hin
    exact ⟨by omega, by omega, (Option.some.inj hw).symm⟩

/-- Below the image the program has run out. -/
theorem Runs.fetch?_eq_none (h : m.Runs rom) (hpc : m.registers.pc.toNat < 0x1FF) :
    m.fetch? = none := by
  rw [fetch?_program _ rom h.memory_eq rfl, if_pos]
  right
  left
  exact Nat.succ_lt_succ hpc

/-- What is executed as a call stands in the image as a call. -/
theorem Runs.isCall_of_spells {set : InstructionSet} {nnn : UInt16} (h : m.Runs rom)
    (hw : m.fetch? = some w) (hspells : Spells set w (.call nnn)) :
    rom.IsCall m.registers.pc.toNat := by
  obtain ⟨hle, hend, rfl⟩ := h.of_fetch?_eq_some hw
  cases hspells with
  | call _ hn hword =>
    -- The byte before the image leaves a word too small for a call.
    have hstart : ¬ m.registers.pc.toNat < 0x200 := by
      intro hlt
      have hlow : (rom.wordAt m.registers.pc.toNat).toNat < 0x100 := Rom.toNat_wordAt_lt hlt
      omega
    refine ⟨by omega, hend, ?_⟩
    rw [digit_three]
    omega

/-! ### Stepping -/

variable [Surface S]

theorem Runs.step (h : m.Runs rom) : m.step.state.Runs rom := by
  rcases m.step_cases with hfail | ⟨i, hresult, -⟩
  · rw [hfail]
    exact h
  · obtain ⟨w, hw, hspells, heffect⟩ := exists_effect_of_step hresult
    constructor
    case memory_eq =>
      rw [step_memory]
      exact h.memory_eq
    case isCall =>
      intro sp a hslot
      rcases heffect.get?_stack sp with hold | ⟨nnn, rfl, -, hnew⟩
      · exact h.isCall (hold.symm.trans hslot)
      · obtain rfl : m.registers.pc = a := Option.some.inj (hnew.symm.trans hslot)
        exact h.isCall_of_spells hw hspells

/-- So the slots hold addresses of calls in all of a run. -/
theorem runs_after (config : Config) (screen : S) (rom : Rom) (n : Nat) :
    (((fresh config screen).loadRom rom).state.after n).Runs rom :=
  after_of_step (P := (·.Runs rom)) (fun _ => Runs.step) n (runs_loaded config screen rom)

/-- What a step of the program keeps, any number of steps keeps. -/
theorem after_of_runs {P : Machine S → Prop} (hstep : ∀ m, m.Runs rom → P m → P m.step.state)
    (config : Config) (screen : S) (n : Nat) (h : P ((fresh config screen).loadRom rom).state) :
    P (((fresh config screen).loadRom rom).state.after n) :=
  (after_of_step (P := fun m => m.Runs rom ∧ P m)
    (fun m hm => ⟨hm.1.step, hstep m hm.1 hm.2⟩) n ⟨runs_loaded config screen rom, h⟩).2

/-! ### Returning -/

/-- A return through an unset slot runs out of the program, for ever. -/
theorem Runs.ends_of_unset (h : m.Runs rom) (hret : m.step.result = .ok .ret)
    (hslot : m.stack.get? m.registers.sp = none) :
    m.step.state.registers.pc = 0x002 ∧
      ∀ k, (m.step.state.after k).step = .fail (.exhausted 0x002) m.step.state := by
  have hpc : m.step.state.registers.pc = 0x002 := by
    rw [step_of_ret hret, hslot]
    rfl
  have hnone : m.step.state.fetch? = none := by
    apply h.step.fetch?_eq_none
    rw [hpc]
    decide
  refine ⟨hpc, fun k => ?_⟩
  rw [step_after_of_fetch?_eq_none hnone, hpc]

/-- Returns keep to the calls of the program. However long it has run, each set slot holds the
address of a call in the image. A return goes on two bytes behind such a call, or its slot is unset
and the program has run out for ever. -/
theorem returns_go_behind_calls (config : Config) (screen : S) (rom : Rom) (n : Nat) :
    let m := ((fresh config screen).loadRom rom).state.after n
    (∀ sp a, m.stack.get? sp = some a → rom.IsCall a.toNat) ∧
      (m.step.result = .ok .ret →
        (∃ a, m.stack.get? m.registers.sp = some a ∧ rom.IsCall a.toNat ∧
          m.step.state.registers.pc = a + 2) ∨
        (m.stack.get? m.registers.sp = none ∧ m.step.state.registers.pc = 0x002 ∧
          ∀ k, (m.step.state.after k).step = .fail (.exhausted 0x002) m.step.state)) := by
  intro m
  have hruns : m.Runs rom := runs_after config screen rom n
  refine ⟨fun sp a hslot => hruns.isCall hslot, fun hret => ?_⟩
  cases hslot : m.stack.get? m.registers.sp with
  | none =>
    right
    exact ⟨rfl, hruns.ends_of_unset hret hslot⟩
  | some a =>
    left
    refine ⟨a, rfl, hruns.isCall hslot, ?_⟩
    rw [step_of_ret hret, hslot]
    rfl

/-- The call right at the start has been executed, and the return that it led to comes next. -/
theorem returns_go_behind_calls_once :
    let rom : Rom := ⟨[0x22, 0x04, 0x00, 0xEE, 0x00, 0x00, 0x00, 0xEE], by decide⟩
    let m := ((fresh Config.default Grid.dark).loadRom rom).state.after 1
    m.stack.get? m.registers.sp = some 0x200 ∧ rom.IsCall 0x200 ∧ m.step.result = .ok .ret ∧
      m.step.state.registers.pc = 0x202 := by
  intro rom m
  have hslot : m.stack.get? m.registers.sp = some 0x200 := by decide +kernel
  have hret : m.step.result = .ok .ret := by decide +kernel
  have hm : m = ((fresh Config.default Grid.dark).loadRom rom).state.after 1 := rfl
  have hreturns := returns_go_behind_calls Config.default Grid.dark rom 1
  rw [← hm] at hreturns
  clear_value m
  obtain ⟨hcalls, hrets⟩ := hreturns
  refine ⟨hslot, hcalls _ _ hslot, hret, ?_⟩
  rcases hrets hret with ⟨a, ha, -, hpc⟩ | ⟨hnone, -⟩
  · obtain rfl : a = 0x200 := Option.some.inj (ha.symm.trans hslot)
    exact hpc
  · cases hnone.symm.trans hslot

end Machine

end ChipEight
