import ChipEight.Proofs.Machine.Effect
import ChipEight.Proofs.Machine.Loading
import ChipEight.Screen.Grid
import ChipEight.Screen.Recorder
import Mathlib.Data.Set.Insert
import Mathlib.Logic.Function.Iterate

/-!
# The reference set of instructions

The reference set has neither loads nor the sprite draw. So a machine that knows no more than it can
be steered by its registers, but it never changes one besides the program counter and the stack
pointer. Of its screen it asks one thing only, which is to be cleared, once for each `00E0`. A cell
is on only if it was on before the first of these.
-/

namespace ChipEight

open Word

/-! ### Clearing again and again -/

section

variable {S : Type} [Surface S]

theorem Recorder.iterate_clear (r : Recorder S) (k : Nat) : Surface.clear^[k] r =
    { r with
      surface := Surface.clear^[k] r.surface
      calls := r.calls ++ Array.replicate k .clear } := by
  induction k with
  | zero => simp
  | succ k ih =>
    rw [Function.iterate_succ_apply', ih, Function.iterate_succ_apply', Array.replicate_succ,
      Array.append_push]
    rfl

/-- Clearing a second time makes no difference to what can be seen. -/
theorem Surface.lit_iterate_clear {lit : S → Set (Nat × Nat)} (h : ∀ s, lit (clear s) = ∅)
    (s : S) (k : Nat) : lit (clear^[k] s) = if k = 0 then lit s else ∅ := by
  cases k with
  | zero => rfl
  | succ k => rw [Function.iterate_succ_apply', h, if_neg k.succ_ne_zero]

end

namespace Machine

variable {S : Type} [Surface S] {m m' : Machine S} {w : UInt16} {i : Instruction}

/-! ### One step -/

/-- No row of the reference set writes to a register. -/
theorem Effect.registers_of_reference (h : m.Effect i m') (hspells : Spells .reference w i) :
    m'.registers =
      { m.registers with pc := m'.registers.pc, sp := m'.registers.sp } := by
  cases h with
  | loadByte => cases hspells with | loadByte _ _ hs => cases hs
  | load => cases hspells with | load _ _ hs => cases hs
  | loadIndex => cases hspells with | loadIndex _ hs => cases hs
  | draw => cases hspells with | draw _ _ _ hs => cases hs
  | _ => rfl

/-- And only one has to do with the screen. -/
theorem Effect.screen_of_reference (h : m.Effect i m') (hspells : Spells .reference w i) :
    m'.screen = if w = 0x00E0 then Surface.clear m.screen else m.screen := by
  by_cases hw : w = 0x00E0
  · subst hw
    obtain rfl : Instruction.clear = i := hspells.decode_eq
    cases h
    rfl
  · rw [if_neg hw]
    cases h with
    | clear => cases hspells with | clear h => exact absurd (UInt16.toNat_inj.1 h) hw
    | draw => cases hspells with | draw _ _ _ hs => cases hs
    | _ => rfl

/-- A reference step changes no register but the program counter and the stack pointer, and may
clear the screen. -/
theorem step_reference (h : m.instructions = .reference) :
    m.step.state.registers =
        { m.registers with pc := m.step.state.registers.pc, sp := m.step.state.registers.sp } ∧
      m.step.state.screen =
        if m.fetch? = some 0x00E0 then Surface.clear m.screen else m.screen := by
  cases hw : m.fetch? with
  | none =>
    rw [step_of_fetch?_eq_none hw]
    exact ⟨rfl, rfl⟩
  | some w =>
    obtain ⟨i, hi⟩ : ∃ i, m.step.result = .ok i := ⟨_, (step_of_fetch?_eq_some hw).1⟩
    obtain ⟨w', hw', hspells, heffect⟩ := exists_effect_of_step hi
    obtain rfl : w = w' := Option.some.inj (hw.symm.trans hw')
    rw [h] at hspells
    simp only [Option.some.injEq]
    exact ⟨heffect.registers_of_reference hspells, heffect.screen_of_reference hspells⟩

/-! ### Many steps -/

/-- How many of a number of steps execute `00E0`. -/
def clearings (m : Machine S) (n : Nat) : Nat :=
  (List.range n).countP fun k => (m.after k).fetch? = some 0x00E0

theorem clearings_succ (m : Machine S) (n : Nat) : m.clearings (n + 1) =
    m.clearings n + if (m.after n).fetch? = some 0x00E0 then 1 else 0 := by
  simp [clearings, List.range_succ]

theorem clearings_eq_zero_iff {n : Nat} :
    m.clearings n = 0 ↔ ∀ k < n, (m.after k).fetch? ≠ some 0x00E0 := by
  simp [clearings, List.countP_eq_zero]

/-- Nor does a run change another register. -/
theorem registers_after_reference (h : m.instructions = .reference) (n : Nat) :
    (m.after n).registers =
      { m.registers with pc := (m.after n).registers.pc, sp := (m.after n).registers.sp } := by
  induction n with
  | zero => rfl
  | succ n ih =>
    have hstep := step_reference ((after_instructions m n).trans h)
    rw [after_succ, hstep.1, ih]

/-- The screen has been cleared and nothing else. -/
theorem screen_after_reference (h : m.instructions = .reference) (n : Nat) :
    (m.after n).screen = Surface.clear^[m.clearings n] m.screen := by
  induction n with
  | zero => rfl
  | succ n ih =>
    have hstep := step_reference ((after_instructions m n).trans h)
    rw [after_succ, hstep.2, ih, clearings_succ]
    split
    · rw [Function.iterate_succ_apply']
    · rfl

/-- A program cannot change what it was given under the reference set, however long it runs. All
registers but the program counter and the stack pointer stay. The screen is never asked to light a
cell, nor whether one is off: it is asked to clear itself, once for each `00E0`. Whatever cells were
on are on until the first of these comes, and none is from there on. -/
theorem reference_set_only_clears {m : Machine (Recorder S)} (h : m.instructions = .reference)
    (n : Nat) :
    let now := m.after n
    now.registers = { m.registers with pc := now.registers.pc, sp := now.registers.sp } ∧
      now.screen.calls = m.screen.calls ++ Array.replicate (m.clearings n) .clear ∧
      ∀ lit : S → Set (Nat × Nat), (∀ s, lit (Surface.clear s) = ∅) →
        ((∀ k < n, (m.after k).fetch? ≠ some 0x00E0) →
          lit now.screen.surface = lit m.screen.surface) ∧
        ((∃ k < n, (m.after k).fetch? = some 0x00E0) → lit now.screen.surface = ∅) := by
  intro now
  have hscreen : now.screen = _ := screen_after_reference h n
  rw [Recorder.iterate_clear] at hscreen
  refine ⟨registers_after_reference h n, by rw [hscreen], fun lit hlit => ?_⟩
  have hlit' : lit now.screen.surface =
      if m.clearings n = 0 then lit m.screen.surface else ∅ := by
    rw [hscreen, Surface.lit_iterate_clear hlit]
  constructor
  · intro hnever
    rw [hlit', if_pos (clearings_eq_zero_iff.2 hnever)]
  · rintro ⟨k, hk, hclear⟩
    rw [hlit', if_neg fun hzero => clearings_eq_zero_iff.1 hzero k hk hclear]

/-- A load, a draw and a clearing over one cell that is on. -/
theorem reference_set_only_clears_once :
    let rom : Rom := ⟨[0x6A, 0x12, 0xD0, 0x15, 0x00, 0xE0], by decide⟩
    let screen := Recorder.on (Grid.dark.light 3 2) none
    let m := ((fresh Config.reference screen).loadRom rom).state
    let lit (g : Grid) : Set (Nat × Nat) := {c | g.isLit c.1 c.2 = true}
    m.instructions = .reference ∧ (∀ g : Grid, lit (Surface.clear g) = ∅) ∧
      (m.after 2).registers.get 0xA = 0 ∧ lit (m.after 2).screen.surface = {(3, 2)} ∧
      (m.after 3).screen.calls = #[.clear] ∧ lit (m.after 3).screen.surface = ∅ := by
  intro rom screen m lit
  have hset : m.instructions = .reference := by decide +kernel
  have hdark (g : Grid) : lit (Surface.clear g) = ∅ := by
    ext c
    simp [lit, Surface.clear]
  have hnever : ∀ k < 2, (m.after k).fetch? ≠ some 0x00E0 := by decide +kernel
  have hclear : (m.after 2).fetch? = some 0x00E0 := by decide +kernel
  have hcount : m.clearings 3 = 1 := by decide +kernel
  have hzero : m.registers.get 0xA = 0 := by decide +kernel
  have hscreen : m.screen = screen := by
    simp only [m, loadRom_fresh]
    rfl
  have hon : lit screen.surface = {(3, 2)} := by
    ext ⟨x, y⟩
    simp [lit, screen, Recorder.on, Grid.isLit_light]
  clear_value m
  obtain ⟨hregisters, -, hlit⟩ := reference_set_only_clears hset 2
  obtain ⟨-, hcalls, hlit'⟩ := reference_set_only_clears hset 3
  refine ⟨hset, hdark, ?_, ?_, ?_, ?_⟩
  · rw [hregisters]
    exact hzero
  · rw [(hlit lit hdark).1 hnever, hscreen, hon]
  · rw [hcalls, hscreen, hcount]
    rfl
  · exact (hlit' lit hdark).2 ⟨2, by decide, hclear⟩

end Machine

end ChipEight
