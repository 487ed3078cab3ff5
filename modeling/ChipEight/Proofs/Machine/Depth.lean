import ChipEight.Proofs.Machine.Calls
import ChipEight.Proofs.Machine.Returns

/-!
# Returns without a call

A fresh machine has its stack pointer at slot 0, and a call moves it on before it sets a slot. So
slot 0 stays unset until the ring of slots is closed, which takes 256 outstanding calls, and up to
there the stack pointer tells how many calls are outstanding.

A return without a call finds slot 0 unset, whatever older calls have left in the other slots, and
the program has run out.
-/

namespace ChipEight.Machine

open Transfer

variable {S : Type} [Surface S]

/-! ### Steps as commands -/

/-- The calls and returns of a number of steps. -/
def transfersIn (m : Machine S) (n : Nat) : List Transfer :=
  m.transfers (List.replicate n .step)

theorem after_eq_follow (m : Machine S) (n : Nat) :
    m.after n = m.follow (List.replicate n .step) := by
  induction n generalizing m with
  | zero => rfl
  | succ n ih => exact ih m.step.state

theorem transfersIn_succ (m : Machine S) (n : Nat) :
    m.transfersIn (n + 1) = m.transfersIn n ++ ((m.after n).transfer? .step).toList := by
  rw [transfersIn, List.replicate_succ', transfers_concat, ← after_eq_follow]
  rfl

/-! ### The depth of calls -/

/-- After the transfers of a run from slot 0 on, either each return was matched, and slot 0 is still
unset, or one was not, and that was the end. -/
inductive Nested (m : Machine S) (transfers : List Transfer) : Prop where
  | running (keeps : m.Keeps 0 transfers) (unset : m.stack.get? 0 = none)
  | ended (lt : outstanding transfers < 0) (out : m.fetch? = none)

variable {m : Machine S} {rom : Rom} {transfers : List Transfer}

omit [Surface S] in
theorem Keeps.outstanding_nonneg {base : UInt8} (h : m.Keeps base transfers) :
    0 ≤ outstanding transfers := by
  rw [← h.length_eq]
  exact Int.natCast_nonneg _

omit [Surface S] in
/-- Up to 255 calls, the stack pointer is the number of those outstanding. -/
theorem Keeps.sp_eq_outstanding (h : m.Keeps 0 transfers) (hmax : outstanding transfers ≤ 255) :
    (m.registers.sp.toNat : Int) = outstanding transfers := by
  calc (m.registers.sp.toNat : Int)
      = ((0 : UInt8).toNat + outstanding transfers) % 256 := h.toNat_sp
    _ = outstanding transfers % 256 := by
        rw [UInt8.toNat_zero, Int.natCast_zero, Int.zero_add]
    _ = outstanding transfers := Int.emod_eq_of_lt h.outstanding_nonneg (by omega)

omit [Surface S] in
/-- With no call outstanding, the slot at hand is slot 0. -/
theorem Keeps.sp_eq_zero (h : m.Keeps 0 transfers) (hzero : outstanding transfers = 0) :
    m.registers.sp = 0 := by
  have hsp := h.sp_eq_outstanding (hzero ▸ by decide)
  rw [hzero] at hsp
  exact UInt8.toNat_inj.1 (Int.ofNat_inj.1 hsp)

omit [Surface S] in
/-- Only a call at full depth reaches slot 0 again. -/
theorem Keeps.sp_add_one_ne_zero (h : m.Keeps 0 transfers) (hlt : outstanding transfers < 255) :
    m.registers.sp + 1 ≠ 0 := by
  intro hzero
  have hsp := h.sp_eq_outstanding (Int.le_of_lt hlt)
  have hnext := congrArg UInt8.toNat hzero
  rw [UInt8.toNat_add, UInt8.toNat_one, UInt8.toNat_zero] at hnext
  omega

/-- A return with no call outstanding goes through slot 0, and the program has run out. -/
theorem Keeps.ends_of_ret (h : m.Keeps 0 transfers) (hunset : m.stack.get? 0 = none)
    (hruns : m.Runs rom) (hret : m.step.result = .ok .ret) (hzero : outstanding transfers = 0) :
    m.stack.get? m.registers.sp = none ∧ m.step.state.registers.sp = 255 ∧
      m.step.state.registers.pc = 0x002 ∧
      ∀ k, (m.step.state.after k).step = .fail (.exhausted 0x002) m.step.state := by
  have hsp := h.sp_eq_zero hzero
  have hslot : m.stack.get? m.registers.sp = none := by rw [hsp, hunset]
  obtain ⟨hpc, hends⟩ := hruns.ends_of_unset hret hslot
  refine ⟨hslot, ?_, hpc, hends⟩
  rw [step_of_ret hret, hsp]
  rfl

theorem step_of_transfer?_eq_ret (h : m.transfer? .step = some .ret) :
    m.step.result = .ok .ret := by
  have hexecuted := executed?_of_transfer?_eq_ret h
  cases hresult : m.step.result with
  | error fault =>
    rw [executed?, hresult] at hexecuted
    cases hexecuted
  | ok i =>
    rw [executed?, hresult] at hexecuted
    exact congrArg Except.ok (Option.some.inj hexecuted)

theorem transfer?_of_fetch?_eq_none (h : m.fetch? = none) : m.transfer? .step = none := by
  rw [transfer?, executed?, step_of_fetch?_eq_none h]
  rfl

/-- One step more stays within both cases, as long as the ring is not closed. -/
theorem Nested.step (h : m.Nested transfers) (hruns : m.Runs rom)
    (hmax : outstanding (transfers ++ (m.transfer? .step).toList) ≤ 255) :
    m.step.state.Nested (transfers ++ (m.transfer? .step).toList) := by
  cases h with
  | ended hlt hout =>
    rw [transfer?_of_fetch?_eq_none hout, step_of_fetch?_eq_none hout, Option.toList_none,
      List.append_nil]
    exact .ended hlt hout
  | running hkeeps hunset =>
    cases htransfer : m.transfer? .step with
    | none =>
      obtain ⟨hstack, hsp⟩ := obey_of_transfer?_eq_none htransfer
      rw [Option.toList_none, List.append_nil]
      exact .running (hkeeps.of_eq hstack hsp) ((congrArg (·.get? 0) hstack).trans hunset)
    | some t =>
      rw [htransfer, Option.toList_some] at hmax
      cases t with
      | call pc =>
        obtain ⟨hstack, -⟩ := obey_of_transfer?_eq_call htransfer
        rw [outstanding_call] at hmax
        -- The new address goes to another slot, since the ring is not closed yet.
        have hne := hkeeps.sp_add_one_ne_zero (by omega)
        refine .running (hkeeps.call htransfer (by omega)) ?_
        rw [show m.step.state.stack = _ from hstack, CallStack.get?_set, if_neg hne.symm, hunset]
      | ret =>
        obtain ⟨hstack, -⟩ := obey_of_transfer?_eq_ret htransfer
        rcases Int.lt_or_eq_of_le hkeeps.outstanding_nonneg with hpos | hzero
        · exact .running (hkeeps.ret htransfer hpos) ((congrArg (·.get? 0) hstack).trans hunset)
        · -- No call is outstanding, so this is the return that ends the program.
          have hret := step_of_transfer?_eq_ret htransfer
          obtain ⟨-, -, -, hends⟩ := hkeeps.ends_of_ret hunset hruns hret hzero.symm
          refine .ended ?_ (step_result_eq_error_iff.1 (congrArg Outcome.result (hends 0))).1
          rw [Option.toList_some, outstanding_ret, ← hzero]
          decide

/-! ### Returns of a run -/

/-- A run is nested as long as it has never had more than 255 calls outstanding. -/
theorem nested_after (config : Config) (screen : S) (rom : Rom) (n : Nat)
    (h : ∀ k ≤ n, outstanding (((fresh config screen).loadRom rom).state.transfersIn k) ≤ 255) :
    (((fresh config screen).loadRom rom).state.after n).Nested
      (((fresh config screen).loadRom rom).state.transfersIn n) := by
  induction n with
  | zero =>
    rw [loadRom_fresh]
    exact .running (keeps_nil _) (CallStack.get?_empty 0)
  | succ n ih =>
    have hnested := ih fun k hk => h k (Nat.le_succ_of_le hk)
    have hmax := h (n + 1) (Nat.le_refl _)
    rw [transfersIn_succ] at hmax ⊢
    rw [after_succ]
    exact hnested.step (runs_after config screen rom n) hmax

/-- An unmatched return ends a program whose calls nest no deeper than 255. Up to such a return the
stack pointer is the number of outstanding calls. A return with no call outstanding finds its slot
unset and the program runs out for ever. Any other return goes on behind the last call that is
outstanding, and never behind one that was returned from. -/
theorem unmatched_return_ends (config : Config) (screen : S) (rom : Rom) (n : Nat)
    (h : ∀ k ≤ n, outstanding (((fresh config screen).loadRom rom).state.transfersIn k) ≤ 255) :
    let loaded := ((fresh config screen).loadRom rom).state
    let m := loaded.after n
    let depth := outstanding (loaded.transfersIn n)
    (0 ≤ depth → (m.registers.sp.toNat : Int) = depth) ∧
      (m.step.result = .ok .ret → depth = 0 →
        m.stack.get? m.registers.sp = none ∧ m.step.state.registers.sp = 255 ∧
          m.step.state.registers.pc = 0x002 ∧
          ∀ k, (m.step.state.after k).step = .fail (.exhausted 0x002) m.step.state) ∧
      (m.step.result = .ok .ret → depth ≠ 0 →
        ∃ address rest, pending (loaded.transfersIn n) = address :: rest ∧
          m.stack.get? m.registers.sp = some address ∧
          m.step.state.registers.pc = address + 2) := by
  intro loaded m depth
  have hruns : m.Runs rom := runs_after config screen rom n
  have hmax : depth ≤ 255 := h n (Nat.le_refl _)
  have hnested : m.Nested (loaded.transfersIn n) := nested_after config screen rom n h
  cases hnested with
  | ended hlt hout =>
    have hnever : m.step.result ≠ .ok .ret := by
      rw [step_of_fetch?_eq_none hout]
      intro hret
      cases hret
    exact ⟨fun hmin => absurd hlt (Int.not_lt.2 hmin), fun hret => absurd hret hnever,
      fun hret => absurd hret hnever⟩
  | running hkeeps hunset =>
    refine ⟨fun _ => hkeeps.sp_eq_outstanding hmax, ?_, ?_⟩
    · intro hret hzero
      exact hkeeps.ends_of_ret hunset hruns hret hzero
    · intro hret hne
      have hpos : 0 < depth := Int.lt_iff_le_and_ne.2 ⟨hkeeps.outstanding_nonneg, hne.symm⟩
      obtain ⟨address, rest, hpending, hslot⟩ := hkeeps.exists_pending hpos
      refine ⟨address, rest, hpending, hslot, ?_⟩
      rw [step_of_ret hret, hslot]
      rfl

/-- The address of a call that was returned from is still in slot 1 when a second return comes. -/
theorem unmatched_return_ends_after_call :
    let rom : Rom := ⟨[0x22, 0x04, 0x00, 0xEE, 0x00, 0x00, 0x00, 0xEE], by decide⟩
    let loaded := ((fresh Config.default Grid.dark).loadRom rom).state
    let m := loaded.after 2
    (∀ k ≤ 2, outstanding (loaded.transfersIn k) ≤ 255) ∧
      m.stack.get? 1 = some 0x200 ∧ m.step.result = .ok .ret ∧
      outstanding (loaded.transfersIn 2) = 0 ∧ m.registers.sp.toNat = 0 ∧
      m.step.state.registers.sp = 255 ∧ m.step.state.registers.pc = 0x002 := by
  intro rom loaded m
  have hdepth : ∀ k ≤ 2, outstanding (loaded.transfersIn k) ≤ 255 := by decide +kernel
  have hstale : m.stack.get? 1 = some 0x200 := by decide +kernel
  have hret : m.step.result = .ok .ret := by decide +kernel
  have hzero : outstanding (loaded.transfersIn 2) = 0 := by decide +kernel
  have hends := unmatched_return_ends Config.default Grid.dark rom 2 hdepth
  have hloaded : loaded = ((fresh Config.default Grid.dark).loadRom rom).state := rfl
  rw [← hloaded] at hends
  clear_value loaded
  obtain ⟨hsp, hunmatched, -⟩ := hends
  have hm : m = loaded.after 2 := rfl
  rw [← hm] at hsp hunmatched
  clear_value m
  obtain ⟨-, hlast, hpc, -⟩ := hunmatched hret hzero
  have hfirst := hsp (Int.le_of_eq hzero.symm)
  rw [hzero] at hfirst
  exact ⟨hdepth, hstale, hret, hzero, Int.ofNat_inj.1 hfirst, hlast, hpc⟩

end ChipEight.Machine
