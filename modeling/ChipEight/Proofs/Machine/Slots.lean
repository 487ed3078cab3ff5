import ChipEight.Proofs.Machine.Reports

/-!
# Slot 0

A call moves the stack pointer on before it sets a slot, so slot 0 is left out as long as the
pointer does not come around. It comes around with the 256th outstanding call. From then on slot 0
is set, and a return that no call matches is no longer told by it.
-/

namespace ChipEight.Machine

open Transfer

variable {S : Type} [Surface S] {m : Machine S} {transfers : List Transfer}

/-! ### What a step does to a slot -/

/-- A slot that is set is never unset. -/
theorem get?_step_ne_none {sp : UInt8} (h : m.stack.get? sp ≠ none) :
    m.step.state.stack.get? sp ≠ none := by
  rcases m.step_cases with hfail | ⟨i, hi, -⟩
  · rw [hfail]
    exact h
  · obtain ⟨w, -, -, heffect⟩ := exists_effect_of_step hi
    rcases heffect.get?_stack sp with hold | ⟨nnn, -, -, hnew⟩
    · rw [hold]
      exact h
    · rw [hnew]
      exact Option.some_ne_none _

/-- A call sets slot 0 if the stack pointer stands at the last slot. -/
theorem get?_zero_of_transfer?_eq_call {pc : UInt16} (h : m.transfer? .step = some (.call pc)) :
    m.step.state.stack.get? 0 =
      if m.registers.sp.toNat = 255 then some pc else m.stack.get? 0 := by
  have hstack : m.step.state.stack = _ := (obey_of_transfer?_eq_call h).1
  have hwrap : 0 = m.registers.sp + 1 ↔ m.registers.sp.toNat = 255 := by
    have hlt := m.registers.sp.toNat_lt
    rw [← UInt8.toNat_inj, UInt8.toNat_add, UInt8.toNat_zero, UInt8.toNat_one]
    omega
  rw [hstack, CallStack.get?_set]
  simp only [hwrap]

/-- As long as slot 0 is unset, a step sets it just if it closes the ring of slots. -/
theorem Nested.get?_zero_step (h : m.Nested transfers) (hunset : m.stack.get? 0 = none)
    (hmax : outstanding transfers ≤ 255) : m.step.state.stack.get? 0 = none ↔
      outstanding (transfers ++ (m.transfer? .step).toList) ≤ 255 := by
  cases htransfer : m.transfer? .step with
  | none =>
    have hstack : m.step.state.stack = m.stack := (obey_of_transfer?_eq_none htransfer).1
    rw [hstack, Option.toList_none, List.append_nil]
    exact iff_of_true hunset hmax
  | some t =>
    rw [Option.toList_some]
    cases t with
    | ret =>
      have hstack : m.step.state.stack = m.stack := (obey_of_transfer?_eq_ret htransfer).1
      rw [hstack, outstanding_ret]
      exact iff_of_true hunset (by omega)
    | call pc =>
      cases h with
      | ended hlt hout =>
        rw [transfer?_of_fetch?_eq_none hout] at htransfer
        cases htransfer
      | running hkeeps _ =>
        have hsp := hkeeps.sp_eq_outstanding hmax
        rw [get?_zero_of_transfer?_eq_call htransfer, outstanding_call, hunset]
        split
        · exact iff_of_false (Option.some_ne_none pc) (by omega)
        · exact iff_of_true rfl (by omega)

/-! ### Slot 0 in a run -/

/-- Slot 0 tells whether a run ever had more than 255 calls outstanding. -/
theorem get?_zero_after (config : Config) (screen : S) (rom : Rom) (n : Nat) :
    (((fresh config screen).loadRom rom).state.after n).stack.get? 0 = none ↔
      ∀ k ≤ n, outstanding (((fresh config screen).loadRom rom).state.transfersIn k) ≤ 255 := by
  induction n with
  | zero =>
    refine iff_of_true ?_ ?_
    · rw [after, loadRom_fresh]
      exact CallStack.get?_empty 0
    · rintro k hk
      obtain rfl := Nat.le_zero.1 hk
      exact (by decide : outstanding [] ≤ 255)
  | succ n ih =>
    simp only [Nat.le_add_one_iff, or_imp, forall_and, forall_eq]
    rw [after_succ, ← ih]
    by_cases hunset : (((fresh config screen).loadRom rom).state.after n).stack.get? 0 = none
    · have hmax := ih.1 hunset
      have hnested := nested_after config screen rom n hmax
      rw [hnested.get?_zero_step hunset (hmax n (Nat.le_refl n)), transfersIn_succ,
        and_iff_right hunset]
    · exact iff_of_false (get?_step_ne_none hunset) fun h => hunset h.1

section

variable {n : Nat} {target : UInt16}

/-- A call in a run from slot 0 on sets it if it leaves a multiple of 256 calls. -/
theorem get?_zero_of_call (hzero : m.registers.sp = 0)
    (hcall : (m.after n).step.result = .ok (.call target)) :
    (m.after n).step.state.stack.get? 0 =
      if outstanding (m.transfersIn (n + 1)) % 256 = 0 then some (m.after n).registers.pc
      else (m.after n).stack.get? 0 := by
  have hcount := m.toNat_sp_after n
  rw [hzero, UInt8.toNat_zero, Int.natCast_zero, Int.zero_add] at hcount
  have hwrap : (m.after n).registers.sp.toNat = 255 ↔
      outstanding (m.transfersIn (n + 1)) % 256 = 0 := by
    rw [outstanding_of_call hcall]
    omega
  rw [get?_zero_of_transfer?_eq_call (transfer?_of_call hcall)]
  simp only [hwrap]

end

/-- Slot 0 is unset as long as there were never more than 255 calls outstanding, and no longer. The
calls that set it are those that leave a multiple of 256 calls outstanding, and it then holds the
address of the call. -/
theorem slot_zero_unset_iff (config : Config) (screen : S) (rom : Rom) (n : Nat) :
    let loaded := ((fresh config screen).loadRom rom).state
    let m := loaded.after n
    (m.stack.get? 0 = none ↔ ∀ k ≤ n, outstanding (loaded.transfersIn k) ≤ 255) ∧
      ∀ target, m.step.result = .ok (.call target) →
        m.step.state.stack.get? 0 =
          if outstanding (loaded.transfersIn (n + 1)) % 256 = 0 then some m.registers.pc
          else m.stack.get? 0 := by
  intro loaded m
  exact ⟨get?_zero_after config screen rom n,
    fun target hcall => get?_zero_of_call (sp_loaded config screen rom) hcall⟩

/-- After 255 calls of a recursion slot 0 is still unset, and the next one sets it. -/
theorem slot_zero_unset_iff_of_recursion :
    let loaded := ((fresh Config.default Grid.dark).loadRom recursion).state
    (loaded.after 255).stack.get? 0 = none ∧
      (loaded.after 255).step.result = .ok (.call 0x1FE) ∧
      (loaded.after 255).step.state.stack.get? 0 = some 0x200 := by
  intro loaded
  have hcall (n : Nat) : (loaded.after n).step.result = .ok (.call 0x1FE) :=
    step_after_recursion Config.default Grid.dark n
  have hpc (n : Nat) : (loaded.after n).registers.pc = 0x200 :=
    pc_after_recursion Config.default Grid.dark n
  have hdepth (n : Nat) : outstanding (loaded.transfersIn n) = n :=
    outstanding_recursion Config.default Grid.dark n
  have hslots := slot_zero_unset_iff Config.default Grid.dark recursion 255
  have hloaded : loaded = ((fresh Config.default Grid.dark).loadRom recursion).state := rfl
  rw [← hloaded] at hslots
  clear_value loaded
  obtain ⟨hiff, hset⟩ := hslots
  refine ⟨hiff.2 fun k hk => ?_, hcall 255, ?_⟩
  · rw [hdepth]
    exact Int.ofNat_le.2 hk
  · rw [hset 0x1FE (hcall 255), hdepth, if_pos (by decide), hpc]

/-- A recursion sets slot 0 with its 256th call. -/
theorem not_forall_slot_zero_unset :
    ¬ ∀ (config : Config) (rom : Rom) (n : Nat),
      (((fresh config Grid.dark).loadRom rom).state.after n).stack.get? 0 = none := by
  intro h
  have hunset := (get?_zero_after Config.default Grid.dark recursion 256).1
    (h Config.default recursion 256) 256 (Nat.le_refl _)
  rw [outstanding_recursion] at hunset
  exact absurd hunset (by decide)

end ChipEight.Machine
