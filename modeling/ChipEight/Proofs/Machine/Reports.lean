import ChipEight.Proofs.Machine.Depth

/-!
# What is reported about calls

A step reports what it executes, and then what there is to say about it. Of a call this is a warning
if the stack pointer has come past the nominal depth.

The stack pointer counts the outstanding calls, but only as far as a byte goes. A call that closes
the ring of slots is as deep as 256, and no warning is given for it and the next sixteen.
-/

namespace ChipEight

/-- Is a warning among what was reported? -/
def Outcome.Warns {σ ε α : Type} (o : Outcome σ ε α) : Prop := ∃ d ∈ o.log, d.level = .warning

namespace Machine

open Transfer

variable {S : Type} [Surface S] {m : Machine S} {i : Instruction}

/-! ### Reports of a step -/

/-- What there is to say about an instruction that is executed. -/
def reports (m : Machine S) : Instruction → List Diagnostic
  | .call _    =>
    if nominalDepth < (m.registers.sp + 1).toNat then [.deepStack (m.registers.sp + 1)] else []
  | .ret       => if m.stack.get? m.registers.sp = none then [.unsetSlot m.registers.sp] else []
  | .unknown w => [.unknownInstruction w]
  | _          => []

omit [Surface S] in
theorem reports_call (m : Machine S) (target : UInt16) : m.reports (.call target) =
    if nominalDepth < (m.registers.sp + 1).toNat then [.deepStack (m.registers.sp + 1)] else [] :=
  rfl

omit [Surface S] in
theorem reports_ret (m : Machine S) : m.reports .ret =
    if m.stack.get? m.registers.sp = none then [.unsetSlot m.registers.sp] else [] :=
  rfl

theorem execute_log (m : Machine S) (i : Instruction) : (m.execute i).log = m.reports i := by
  cases i with
  | clear | jump | loadIndex | unknown => rfl
  | ret =>
    rw [execute, ret_eq]
    rfl
  | call target =>
    rw [execute, call_eq]
    rfl
  | skipIfEqual left right | skipIfNotEqual left right =>
    rw [execute]
    cases m.registers.agree left right <;> rfl
  | load target source =>
    rw [execute]
    cases m.registers.load target source <;> rfl
  | draw rx ry rows =>
    rw [execute]
    cases hx : m.registers.read rx with
    | error fault =>
      rw [draw, hx]
      rfl
    | ok x =>
      cases hy : m.registers.read ry with
      | error fault =>
        rw [draw, hx, hy]
        rfl
      | ok y =>
        rw [draw_eq rows hx hy]
        rfl

theorem step_log (h : m.step.result = .ok i) :
    m.step.log = .executing m.registers.pc i :: m.reports i := by
  obtain ⟨w, hw, hspells, -⟩ := exists_effect_of_step h
  have hok := execute_result hspells
  rw [step, hw, ← execute_log]
  simp only [hspells.decode_eq, Outcome.note, Outcome.andThen, hok, Outcome.ok, List.append_nil,
    List.singleton_append]

/-! ### The stack pointer as a count -/

/-- The stack pointer goes around with the calls and returns, matched or not. -/
theorem toNat_sp_follow (m : Machine S) (commands : List (Command S)) :
    ((m.follow commands).registers.sp.toNat : Int) =
      (m.registers.sp.toNat + outstanding (m.transfers commands)) % 256 := by
  induction commands using List.reverseRecOn with
  | nil =>
    have hlt := m.registers.sp.toNat_lt
    simp only [follow, List.foldl_nil, transfers, outstanding, List.countP_nil, List.count_nil]
    omega
  | append_singleton commands c ih =>
    rw [follow_concat, transfers_concat]
    cases hc : (m.follow commands).transfer? c with
    | none =>
      rw [(obey_of_transfer?_eq_none hc).2, Option.toList_none, List.append_nil, ih]
    | some t =>
      cases t with
      | call pc =>
        rw [(obey_of_transfer?_eq_call hc).2, Option.toList_some, outstanding_call,
          UInt8.toNat_add, UInt8.toNat_one]
        omega
      | ret =>
        rw [(obey_of_transfer?_eq_ret hc).2, Option.toList_some, outstanding_ret,
          UInt8.toNat_sub, UInt8.toNat_one]
        omega

/-- The stack pointer counts the outstanding calls, but comes around at 256. -/
theorem toNat_sp_after (m : Machine S) (n : Nat) : ((m.after n).registers.sp.toNat : Int) =
    (m.registers.sp.toNat + outstanding (m.transfersIn n)) % 256 := by
  rw [after_eq_follow]
  exact toNat_sp_follow m _

theorem transfer?_of_call {target : UInt16} (h : m.step.result = .ok (.call target)) :
    m.transfer? .step = some (.call m.registers.pc) := by
  rw [transfer?, executed?, h]
  rfl

/-! ### Calls in a run -/

omit [Surface S] in
theorem sp_loaded (config : Config) (screen : S) (rom : Rom) :
    ((fresh config screen).loadRom rom).state.registers.sp = 0 := by
  rw [loadRom_fresh]
  rfl

section

variable {n : Nat} {target : UInt16}

theorem outstanding_of_call (h : (m.after n).step.result = .ok (.call target)) :
    outstanding (m.transfersIn (n + 1)) = outstanding (m.transfersIn n) + 1 := by
  rw [transfersIn_succ, transfer?_of_call h, Option.toList_some, outstanding_call]

/-- A call in a run from slot 0 on is reported with its depth, as far as a byte can tell it. -/
theorem reported_of_call (hzero : m.registers.sp = 0)
    (hcall : (m.after n).step.result = .ok (.call target)) :
    let depth := outstanding (m.transfersIn (n + 1))
    let sp := (m.after n).step.state.registers.sp
    (sp.toNat : Int) = depth % 256 ∧
      (m.after n).step.log = .executing (m.after n).registers.pc (.call target) ::
        (if 16 < depth % 256 then [.deepStack sp] else []) ∧
      ((m.after n).step.Warns ↔ 16 < depth % 256) := by
  intro depth sp
  have hcount : (sp.toNat : Int) = depth % 256 := by
    have hafter := m.toNat_sp_after (n + 1)
    rwa [hzero, UInt8.toNat_zero, Int.natCast_zero, Int.zero_add, after_succ] at hafter
  have hnext : sp = (m.after n).registers.sp + 1 :=
    (obey_of_transfer?_eq_call (transfer?_of_call hcall)).2
  have hdeep : nominalDepth < sp.toNat ↔ 16 < depth % 256 := by
    rw [← hcount, nominalDepth]
    omega
  have hlog : (m.after n).step.log = .executing (m.after n).registers.pc (.call target) ::
      (if 16 < depth % 256 then [.deepStack sp] else []) := by
    rw [step_log hcall, reports_call, ← hnext]
    simp only [hdeep]
  refine ⟨hcount, hlog, ?_⟩
  rw [Outcome.Warns, hlog]
  split <;> simp [Diagnostic.level, *]

end

/-! ### Recursion without end -/

/-- A program of a single call, which goes on at that call. -/
def recursion : Rom := ⟨[0x21, 0xFE], by decide⟩

theorem Runs.step_of_recursion (h : m.Runs recursion) (hpc : m.registers.pc = 0x200) :
    m.step.result = .ok (.call 0x1FE) ∧ m.step.state.registers.pc = 0x200 := by
  have hword : m.fetch? = some 0x21FE := by
    rw [fetch?_program _ recursion h.memory_eq (congrArg UInt16.toNat hpc)]
    decide
  have hresult : m.step.result = .ok (.call 0x1FE) := by
    rw [(step_of_fetch?_eq_some hword).1]
    cases m.instructions <;> rfl
  obtain ⟨-, -, -, heffect⟩ := exists_effect_of_step hresult
  refine ⟨hresult, ?_⟩
  rw [heffect.unique (.call 0x1FE)]
  rfl

section

variable (config : Config) (screen : S) (n : Nat)

theorem pc_after_recursion :
    (((fresh config screen).loadRom recursion).state.after n).registers.pc = 0x200 := by
  have hloaded : ((fresh config screen).loadRom recursion).state.registers.pc = 0x200 := by
    rw [loadRom_fresh]
    rfl
  exact after_of_runs (fun m hruns hpc => (hruns.step_of_recursion hpc).2) config screen n hloaded

/-- Each step of the recursion is a call. -/
theorem step_after_recursion :
    (((fresh config screen).loadRom recursion).state.after n).step.result =
      .ok (.call 0x1FE) :=
  ((runs_after config screen recursion n).step_of_recursion
    (pc_after_recursion config screen n)).1

/-- Each step is one more call. -/
theorem outstanding_recursion :
    outstanding (((fresh config screen).loadRom recursion).state.transfersIn n) = n := by
  induction n with
  | zero => rfl
  | succ n ih =>
    rw [outstanding_of_call (step_after_recursion config screen n), ih]
    rfl

theorem outstanding_recursion_nonneg :
    0 ≤ outstanding (((fresh config screen).loadRom recursion).state.transfersIn n) := by
  rw [outstanding_recursion]
  exact Int.natCast_nonneg n

end

/-! ### Warnings -/

/-- A call warns if the stack pointer behind it, which is the depth of calls as far as a byte can
tell, is more than sixteen. While no more than 255 calls are outstanding, these are just the calls
that leave more than sixteen of them. -/
theorem deep_calls_reported (config : Config) (screen : S) (rom : Rom) (n : Nat) {target : UInt16}
    (hmatched : ∀ k ≤ n, 0 ≤ outstanding (((fresh config screen).loadRom rom).state.transfersIn k))
    (hcall : (((fresh config screen).loadRom rom).state.after n).step.result =
      .ok (.call target)) :
    let loaded := ((fresh config screen).loadRom rom).state
    let m := loaded.after n
    let depth := outstanding (loaded.transfersIn (n + 1))
    let sp := m.step.state.registers.sp
    (sp.toNat : Int) = depth % 256 ∧
      m.step.log = .executing m.registers.pc (.call target) ::
        (if 16 < depth % 256 then [.deepStack sp] else []) ∧
      (m.step.Warns ↔ 16 < depth % 256) ∧
      (depth ≤ 255 → (m.step.Warns ↔ 16 < depth)) := by
  intro loaded m depth sp
  obtain ⟨hcount, hlog, hwarns⟩ := reported_of_call (sp_loaded config screen rom) hcall
  have hdepth : depth = outstanding (loaded.transfersIn n) + 1 := outstanding_of_call hcall
  have hbefore : 0 ≤ outstanding (loaded.transfersIn n) := hmatched n (Nat.le_refl _)
  refine ⟨hcount, hlog, hwarns, fun hmax => ?_⟩
  have hmod : depth % 256 = depth := Int.emod_eq_of_lt (by omega) (by omega)
  rw [show m.step.Warns ↔ 16 < depth % 256 from hwarns, hmod]

/-- The seventeenth call of a recursion warns, and the sixteenth did not. -/
theorem deep_calls_reported_of_recursion :
    let loaded := ((fresh Config.default Grid.dark).loadRom recursion).state
    (∀ k ≤ 16, 0 ≤ outstanding (loaded.transfersIn k)) ∧
      (loaded.after 15).step.result = .ok (.call 0x1FE) ∧ ¬ (loaded.after 15).step.Warns ∧
      (loaded.after 16).step.result = .ok (.call 0x1FE) ∧ (loaded.after 16).step.Warns := by
  intro loaded
  have hcall (n : Nat) : (loaded.after n).step.result = .ok (.call 0x1FE) :=
    step_after_recursion Config.default Grid.dark n
  have hdepth (n : Nat) : outstanding (loaded.transfersIn n) = n :=
    outstanding_recursion Config.default Grid.dark n
  have hmatched (n : Nat) : ∀ k ≤ n, 0 ≤ outstanding (loaded.transfersIn k) :=
    fun k _ => outstanding_recursion_nonneg Config.default Grid.dark k
  obtain ⟨-, -, -, hlast⟩ :=
    deep_calls_reported Config.default Grid.dark recursion 15 (hmatched 15) (hcall 15)
  obtain ⟨-, -, -, hnext⟩ :=
    deep_calls_reported Config.default Grid.dark recursion 16 (hmatched 16) (hcall 16)
  rw [show outstanding _ = _ from hdepth 16] at hlast
  rw [show outstanding _ = _ from hdepth 17] at hnext
  refine ⟨hmatched 16, hcall 15, ?_, hcall 16, ?_⟩
  · rw [hlast (by decide)]
    decide
  · rw [hnext (by decide)]
    decide

/-- The call that closes the ring of slots does not warn, deep as it is. -/
theorem not_forall_deep_calls_warn :
    ¬ ∀ (config : Config) (rom : Rom) (n : Nat) (target : UInt16),
      let loaded := ((fresh config Grid.dark).loadRom rom).state
      (∀ k ≤ n, 0 ≤ outstanding (loaded.transfersIn k)) →
      (loaded.after n).step.result = .ok (.call target) →
      16 < outstanding (loaded.transfersIn (n + 1)) → (loaded.after n).step.Warns := by
  intro h
  have hcall := step_after_recursion Config.default Grid.dark 255
  have hdepth := outstanding_recursion Config.default Grid.dark 256
  have hwarns := h Config.default recursion 255 0x1FE
    (fun k _ => outstanding_recursion_nonneg Config.default Grid.dark k) hcall
    (hdepth.symm ▸ by decide)
  obtain ⟨-, -, hiff⟩ := reported_of_call (sp_loaded Config.default Grid.dark recursion) hcall
  rw [hiff, hdepth] at hwarns
  exact absurd hwarns (by decide)

end Machine

end ChipEight
