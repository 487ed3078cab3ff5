import ChipEight.Machine.Load
import ChipEight.Proofs.Machine.Effect
import ChipEight.Proofs.Machine.Simulation

/-!
# The extended set of instructions

The extended set adds four forms of words to the reference set and reads every other word alike.
What is decoded is executed alike under both. So machines that differ in their set only stay in
step up to the first word of an added form, which the reference set passes over.
-/

namespace ChipEight

/-! ### Added words -/

namespace Word

/-- The forms `6xkk`, `8xy0`, `Annn` and `Dxyn`. -/
def IsAdded (w : UInt16) : Prop :=
  digit w 3 = 0x6 ∨ (digit w 3 = 0x8 ∧ digit w 0 = 0x0) ∨ digit w 3 = 0xA ∨ digit w 3 = 0xD

instance : DecidablePred IsAdded := fun _ => inferInstanceAs (Decidable (_ ∨ _))

variable {w : UInt16} {i : Instruction}

/-- The rows of the table that both sets share. -/
theorem Spells.reference (h : Spells .extended w i) (hw : ¬ IsAdded w) :
    Spells .reference w i := by
  cases h with
  | clear h => exact .clear h
  | ret h => exact .ret h
  | jump nnn hn h => exact .jump nnn hn h
  | call nnn hn h => exact .call nnn hn h
  | skipIfByte x kk h => exact .skipIfByte x kk h
  | skipUnlessByte x kk h => exact .skipUnlessByte x kk h
  | skipIf x y free h => exact .skipIf x y free h
  | skipUnless x y free h => exact .skipUnless x y free h
  | loadByte x kk hs h =>
    have hkk := kk.toNat_lt
    have h3 : digit w 3 = 0x6 := by rw [digit_three]; omega
    exact absurd (.inl h3) hw
  | load x y hs h =>
    have h3 : digit w 3 = 0x8 := by rw [digit_three]; omega
    have h0 : digit w 0 = 0x0 := by rw [digit_zero]; omega
    exact absurd (.inr (.inl ⟨h3, h0⟩)) hw
  | loadIndex nnn hs hn h =>
    have h3 : digit w 3 = 0xA := by rw [digit_three]; omega
    exact absurd (.inr (.inr (.inl h3))) hw
  | draw x y n hs h =>
    have h3 : digit w 3 = 0xD := by rw [digit_three]; omega
    exact absurd (.inr (.inr (.inr h3))) hw
  | unknown h =>
    cases h with
    | zero h hc hr => exact .unknown (.zero h hc hr)
    | leading h => exact .unknown (.leading h)
    | last h h0 => exact .unknown (.last h h0)
    | reference hs => cases hs

theorem decode_reference_of_isAdded (h : IsAdded w) :
    Instruction.decode .reference w = .unknown w := by
  apply Spells.decode_eq
  refine .unknown (.reference rfl ?_)
  rcases h with h | ⟨h, -⟩ | h | h <;> simp [h]

/-- The extended set knows what it adds. -/
theorem decode_extended_of_isAdded (h : IsAdded w) :
    Instruction.decode .extended w ≠ .unknown w := by
  intro hunknown
  have hspells : Spells .extended w (.unknown w) := spells_iff.2 hunknown
  cases hspells with
  | unknown hout =>
    cases hout with
    | zero hzero =>
      have h3 : digit w 3 = 0x0 := by rw [digit_three]; omega
      simp [IsAdded, h3] at h
    | leading hlead =>
      rcases h with h | ⟨h, -⟩ | h | h <;> simp [h] at hlead
    | last h8 h0 => simp [IsAdded, h8, h0] at h
    | reference hs => cases hs

/-- No other word is read in two ways. -/
theorem decode_reference_eq_decode_extended_iff :
    Instruction.decode .reference w = Instruction.decode .extended w ↔ ¬ IsAdded w := by
  constructor
  · intro heq hadded
    rw [decode_reference_of_isAdded hadded] at heq
    exact decode_extended_of_isAdded hadded heq.symm
  · intro hadded
    have hspells : Spells .extended w (Instruction.decode .extended w) := spells_iff.2 rfl
    exact (hspells.reference hadded).decode_eq

end Word

/-! ### One machine under two sets -/

namespace Machine

open Word

variable {S : Type}

/-- The machine with a set of instructions in place of its own. -/
def under (m : Machine S) (set : InstructionSet) : Machine S := { m with instructions := set }

variable [Surface S]

omit [Surface S] in
theorem Alike.eq_under {m m' : Machine S} (h : m.Alike Eq m') : m' = m.under m'.instructions := by
  rw [under, ← h.memory_eq, ← h.registers_eq, ← h.stack_eq, h.screen]

/-- Executing an instruction does not ask which set it comes from. -/
theorem execute_under (m : Machine S) (set : InstructionSet) (i : Instruction) :
    (m.under set).execute i =
      { m.execute i with state := (m.execute i).state.under set } := by
  have halike : m.Alike Eq (m.under set) := ⟨rfl, rfl, rfl, rfl⟩
  obtain ⟨hresult, hlog, hstate⟩ := halike.execute Surface.simulation_eq i
  have hset : ((m.under set).execute i).state.instructions = set :=
    ((m.under set).executes i).instructions
  calc (m.under set).execute i
      = ⟨((m.under set).execute i).result, ((m.under set).execute i).state,
          ((m.under set).execute i).log⟩ := rfl
    _ = ⟨(m.execute i).result, (m.execute i).state.under set, (m.execute i).log⟩ := by
        rw [hresult, hlog, hstate.eq_under, hset]

/-- Where both sets read the next word alike, a step is the same under both. -/
theorem step_under (m : Machine S) (set : InstructionSet)
    (h : ∀ w, m.fetch? = some w →
      Instruction.decode set w = Instruction.decode m.instructions w) :
    (m.under set).step = { m.step with state := m.step.state.under set } := by
  have hfetch : (m.under set).fetch? = m.fetch? := rfl
  rw [step, step, hfetch]
  cases hw : m.fetch? with
  | none => rfl
  | some w =>
    have hdecode : Instruction.decode (m.under set).instructions w =
      Instruction.decode m.instructions w := h w hw
    simp only [hdecode, Outcome.note, Outcome.andThen, execute_under]
    cases (m.execute (Instruction.decode m.instructions w)).result <;> rfl

/-- So are the steps before the first word that they read in two ways. -/
theorem after_under (m : Machine S) (set : InstructionSet) (n : Nat)
    (h : ∀ k < n, ∀ w, (m.after k).fetch? = some w →
      Instruction.decode set w = Instruction.decode m.instructions w) :
    (m.under set).after n = (m.after n).under set := by
  induction n generalizing m with
  | zero => rfl
  | succ n ih =>
    rw [after, after, step_under m set (h 0 n.succ_pos)]
    apply ih
    intro k hk w hw
    rw [step_instructions]
    exact h (k + 1) (Nat.succ_lt_succ hk) w hw

/-- Only the counter moves where the reference set meets an added word. -/
theorem step_reference_of_isAdded {m : Machine S} {w : UInt16} (hset : m.instructions = .reference)
    (hw : m.fetch? = some w) (hadded : IsAdded w) :
    m.step.result = .ok (.unknown w) ∧
      m.step.state = { m with registers.pc := m.registers.pc + 2 } := by
  obtain ⟨hresult, hstate⟩ := step_of_fetch?_eq_some hw
  rw [hset, decode_reference_of_isAdded hadded] at hresult hstate
  refine ⟨hresult, ?_⟩
  rw [hstate, advance_eq]
  rfl

/-- The extended set is a conservative extension of the reference set. As long as no added word is
fetched, machines that differ in their set only stay equal but for that, and each step has the same
result. At the first added word the machine with the reference set takes it for unknown and only
moves on. No other word tells the sets apart. -/
theorem extended_agrees_with_reference (m : Machine S) (n : Nat)
    (h : ∀ k < n, ∀ w, ((m.under .reference).after k).fetch? = some w → ¬ IsAdded w) :
    let small (k : Nat) := (m.under .reference).after k
    let large (k : Nat) := (m.under .extended).after k
    (∀ k ≤ n, large k = (small k).under .extended) ∧
      (∀ k < n, (large k).step.result = (small k).step.result) ∧
      (∀ w, (small n).fetch? = some w → IsAdded w →
        (small n).step.result = .ok (.unknown w) ∧
          (small n).step.state =
            { small n with registers.pc := (small n).registers.pc + 2 }) ∧
      ∀ w, Instruction.decode .reference w = Instruction.decode .extended w ↔ ¬ IsAdded w := by
  intro small large
  have hset (k : Nat) : (small k).instructions = .reference := after_instructions _ k
  have hdecode (k : Nat) (hk : k < n) (w : UInt16) (hw : (small k).fetch? = some w) :
      Instruction.decode .extended w = Instruction.decode .reference w :=
    (decode_reference_eq_decode_extended_iff.2 (h k hk w hw)).symm
  have hlarge (k : Nat) (hk : k ≤ n) : large k = (small k).under .extended :=
    after_under (m.under .reference) .extended k fun j hj => hdecode j (hj.trans_le hk)
  refine ⟨hlarge, ?_, ?_, fun w => decode_reference_eq_decode_extended_iff⟩
  · intro k hk
    have hstep := step_under (small k) .extended (by rw [hset]; exact hdecode k hk)
    rw [hlarge k hk.le, hstep]
  · intro w hw hadded
    exact step_reference_of_isAdded (hset n) hw hadded

/-- Both sets clear the screen alike, and then a load comes up. -/
theorem extended_agrees_with_reference_once :
    let rom : Rom := ⟨[0x00, 0xE0, 0x6A, 0x12], by decide⟩
    let m := ((fresh Config.default Grid.dark).loadRom rom).state
    let small (k : Nat) := (m.under .reference).after k
    let large (k : Nat) := (m.under .extended).after k
    (∀ k < 1, ∀ w, (small k).fetch? = some w → ¬ IsAdded w) ∧ (small 1).fetch? = some 0x6A12 ∧
      large 1 = (small 1).under .extended ∧ (large 0).step.result = (small 0).step.result ∧
      (small 1).step.result = .ok (.unknown 0x6A12) ∧
      (large 1).step.result = .ok (.load (.general 0xA) (.byte 0x12)) := by
  intro rom m small large
  have hsame : ∀ k < 1, ∀ w, (small k).fetch? = some w → ¬ IsAdded w := by
    intro k hk w hw
    obtain rfl := Nat.lt_one_iff.1 hk
    have hclear : (small 0).fetch? = some 0x00E0 := by decide +kernel
    obtain rfl := Option.some.inj (hclear.symm.trans hw)
    decide
  have hword : (small 1).fetch? = some 0x6A12 := by decide +kernel
  have hload : (large 1).step.result = .ok (.load (.general 0xA) (.byte 0x12)) := by
    decide +kernel
  obtain ⟨hlarge, hresults, hadded, -⟩ := extended_agrees_with_reference m 1 hsame
  refine ⟨hsame, hword, hlarge 1 le_rfl, hresults 0 Nat.one_pos, ?_, hload⟩
  exact (hadded _ hword (by decide)).1

end Machine

end ChipEight
