import ChipEight.Proofs.Machine.Commands
import ChipEight.Screen.Grid
import Mathlib.Data.List.Induction
import Mathlib.Data.List.Infix

/-!
# Nested calls

The slots of the call stack form a ring, and the stack pointer may stand anywhere in it. While no
more than 256 calls are outstanding and no return is unmatched, the slots behind the first
position of the pointer hold what the outstanding calls kept, in their order. So each return finds
the address of the call that it matches.
-/

namespace ChipEight

/-! ### The ring of slots -/

namespace CallStack

/-- Slots less than one turn of the ring apart are different. -/
theorem slot_ne (base : UInt8) {j k : Nat} (h : j < k) (hk : k < j + 256) :
    base + UInt8.ofNat j ≠ base + UInt8.ofNat k := by
  intro heq
  have h' := congrArg UInt8.toNat heq
  rw [UInt8.toNat_add, UInt8.toNat_add, UInt8.toNat_ofNat', UInt8.toNat_ofNat'] at h'
  omega

/-- The slots behind `base` hold the addresses, the last one in the list right behind it. -/
inductive Holds (s : CallStack) (base : UInt8) : List UInt16 → Prop where
  | nil : Holds s base []
  | cons {address : UInt16} {addresses : List UInt16}
      (top : s.get? (base + UInt8.ofNat (addresses.length + 1)) = some address)
      (rest : Holds s base addresses) : Holds s base (address :: addresses)

variable {s : CallStack} {base : UInt8} {addresses : List UInt16}

/-- Setting a slot further on does no harm, short of closing the ring. -/
theorem Holds.set (h : s.Holds base addresses) {n : Nat} (hn : addresses.length ≤ n)
    (hlt : n < 256) (address : UInt16) :
    (s.set (base + UInt8.ofNat (n + 1)) address).Holds base addresses := by
  induction h with
  | nil => exact .nil
  | cons top rest ih =>
    rw [List.length_cons] at hn
    refine .cons ?_ (ih (by omega))
    rw [get?_set, if_neg (slot_ne base (by omega) (by omega))]
    exact top

/-- With room for one more address, another can be stored in the next slot. -/
theorem Holds.push (h : s.Holds base addresses) (hlt : addresses.length < 256)
    (address : UInt16) :
    (s.set (base + UInt8.ofNat (addresses.length + 1)) address).Holds base
      (address :: addresses) := by
  refine .cons ?_ (h.set (Nat.le_refl _) hlt address)
  rw [get?_set, if_pos rfl]

end CallStack

/-! ### Outstanding calls -/

open Transfer

variable {S : Type}

/-- After the transfers from a stack pointer at `base` on, the machine has kept all that is
pending. -/
structure Machine.Keeps (m : Machine S) (base : UInt8) (transfers : List Transfer) : Prop where
  length_eq : ((pending transfers).length : Int) = outstanding transfers
  sp_eq : m.registers.sp = base + UInt8.ofNat (pending transfers).length
  holds : m.stack.Holds base (pending transfers)

namespace Machine

variable {m : Machine S} {base : UInt8} {transfers : List Transfer}

theorem keeps_nil (m : Machine S) : m.Keeps m.registers.sp [] where
  length_eq := rfl
  sp_eq := (UInt8.add_zero _).symm
  holds := .nil

/-- The stack pointer goes around with the number of outstanding calls. -/
theorem Keeps.toNat_sp (h : m.Keeps base transfers) :
    (m.registers.sp.toNat : Int) = (base.toNat + outstanding transfers) % 256 := by
  rw [h.sp_eq, UInt8.toNat_add, UInt8.toNat_ofNat', ← h.length_eq]
  omega

/-- An outstanding call has its address in the slot at hand. -/
theorem Keeps.exists_pending (h : m.Keeps base transfers) (hpos : 0 < outstanding transfers) :
    ∃ address addresses, pending transfers = address :: addresses ∧
      m.stack.get? m.registers.sp = some address := by
  obtain ⟨hlength, hsp, hholds⟩ := h
  cases hpending : pending transfers with
  | nil =>
    rw [hpending, List.length_nil] at hlength
    omega
  | cons address addresses =>
    rw [hpending] at hsp hholds
    cases hholds with
    | cons top rest =>
      rw [hsp]
      exact ⟨address, addresses, rfl, top⟩

variable [Surface S] {c : Command S}

theorem Keeps.call {pc : UInt16} (h : m.Keeps base transfers)
    (hc : m.transfer? c = some (.call pc)) (hlt : outstanding transfers < 256) :
    (m.obey c).Keeps base (transfers ++ [.call pc]) := by
  obtain ⟨hstack, hsp⟩ := obey_of_transfer?_eq_call hc
  have hpending : pending (transfers ++ [.call pc]) = pc :: pending transfers :=
    pending_concat transfers (.call pc)
  have hnext : m.registers.sp + 1 = base + UInt8.ofNat ((pending transfers).length + 1) := by
    rw [h.sp_eq, UInt8.ofNat_add, UInt8.add_assoc]
    rfl
  constructor
  case length_eq =>
    rw [hpending, outstanding_call, List.length_cons, ← h.length_eq]
    rfl
  case sp_eq =>
    rw [hpending, hsp, hnext, List.length_cons]
  case holds =>
    rw [hpending, hstack, hnext]
    have hlength := h.length_eq
    exact h.holds.push (by omega) pc

theorem Keeps.ret (h : m.Keeps base transfers) (hc : m.transfer? c = some .ret)
    (hpos : 0 < outstanding transfers) : (m.obey c).Keeps base (transfers ++ [.ret]) := by
  obtain ⟨hstack, hsp⟩ := obey_of_transfer?_eq_ret hc
  obtain ⟨address, addresses, hpending, -⟩ := h.exists_pending hpos
  obtain ⟨hlength, hold, hholds⟩ := h
  rw [hpending] at hlength hold hholds
  have hpending' : pending (transfers ++ [.ret]) = addresses := by
    rw [pending_concat, hpending]
    rfl
  have hnext : m.registers.sp - 1 = base + UInt8.ofNat addresses.length := by
    rw [hold, List.length_cons, UInt8.ofNat_add, ← UInt8.add_assoc]
    exact UInt8.add_sub_cancel _ _
  constructor
  case length_eq =>
    rw [hpending', outstanding_ret, ← hlength, List.length_cons]
    omega
  case sp_eq =>
    rw [hpending', hsp, hnext]
  case holds =>
    rw [hpending', hstack]
    cases hholds with
    | cons top rest => exact rest

omit [Surface S] in
theorem Keeps.of_eq {m' : Machine S} (h : m.Keeps base transfers) (hstack : m'.stack = m.stack)
    (hsp : m'.registers.sp = m.registers.sp) : m'.Keeps base transfers where
  length_eq := h.length_eq
  sp_eq := hsp.trans h.sp_eq
  holds := hstack.symm ▸ h.holds

/-- One command keeps what is pending, if the calls stay within their bounds. -/
theorem Keeps.obey (h : m.Keeps base transfers) (c : Command S)
    (hmin : 0 ≤ outstanding (transfers ++ (m.transfer? c).toList))
    (hmax : outstanding (transfers ++ (m.transfer? c).toList) ≤ 256) :
    (m.obey c).Keeps base (transfers ++ (m.transfer? c).toList) := by
  cases hc : m.transfer? c with
  | none =>
    obtain ⟨hstack, hsp⟩ := obey_of_transfer?_eq_none hc
    rw [Option.toList_none, List.append_nil]
    exact h.of_eq hstack hsp
  | some t =>
    rw [hc, Option.toList_some] at hmin hmax
    cases t with
    | call pc =>
      rw [outstanding_call] at hmax
      exact h.call hc (by omega)
    | ret =>
      rw [outstanding_ret] at hmin
      exact h.ret hc (by omega)

/-- So does any number of commands. -/
theorem keeps_follow (m : Machine S) (commands : List (Command S))
    (h : ∀ before, before <+: commands →
      0 ≤ outstanding (m.transfers before) ∧ outstanding (m.transfers before) ≤ 256) :
    (m.follow commands).Keeps m.registers.sp (m.transfers commands) := by
  induction commands using List.reverseRecOn with
  | nil => exact m.keeps_nil
  | append_singleton commands c ih =>
    obtain ⟨hmin, hmax⟩ := h _ (List.prefix_refl _)
    rw [transfers_concat] at hmin hmax ⊢
    rw [follow_concat]
    refine Keeps.obey (ih ?_) c hmin hmax
    intro before hbefore
    exact h before (hbefore.trans (List.prefix_append _ _))

/-- Calls nest to a depth of 256. Whatever else is done, the stack pointer counts the outstanding
calls from where it stood, their addresses stay in their slots, and each return takes the address
that its own call kept. A step goes on two bytes behind that address. -/
theorem returns_match_calls (m : Machine S) (commands : List (Command S))
    (h : ∀ before, before <+: commands →
      0 ≤ outstanding (m.transfers before) ∧ outstanding (m.transfers before) ≤ 256) :
    (∀ before, before <+: commands →
      let now := m.follow before
      let addresses := pending (m.transfers before)
      (addresses.length : Int) = outstanding (m.transfers before) ∧
        (now.registers.sp.toNat : Int) =
          (m.registers.sp.toNat + outstanding (m.transfers before)) % 256 ∧
        now.stack.Holds m.registers.sp addresses) ∧
    ∀ before c, before ++ [c] <+: commands → (m.follow before).executed? c = some .ret →
      let now := m.follow before
      ∃ address rest, pending (m.transfers before) = address :: rest ∧
        now.stack.get? now.registers.sp = some address ∧
        (c = .execute .ret ∧ (now.obey c).registers.pc = address ∨
          c = .step ∧ (now.obey c).registers.pc = address + 2) := by
  have hkeeps : ∀ before, before <+: commands →
      (m.follow before).Keeps m.registers.sp (m.transfers before) := by
    intro before hbefore
    apply keeps_follow
    intro before' hbefore'
    exact h before' (hbefore'.trans hbefore)
  constructor
  · intro before hbefore
    have hnow := hkeeps before hbefore
    exact ⟨hnow.length_eq, hnow.toNat_sp, hnow.holds⟩
  · intro before c hbefore hret now
    have hc : now.transfer? c = some .ret := by
      rw [transfer?, hret]
      rfl
    have hmin := (h _ hbefore).1
    rw [transfers_concat, hc, Option.toList_some, outstanding_ret] at hmin
    have hnow := hkeeps before ((List.prefix_append _ _).trans hbefore)
    obtain ⟨address, rest, hpending, hslot⟩ := hnow.exists_pending (by omega)
    refine ⟨address, rest, hpending, hslot, ?_⟩
    have hpc : (now.execute .ret).state.registers.pc = address := by
      rw [execute, ret_eq]
      exact (congrArg (·.getD 0) hslot)
    rcases obey_of_executed?_eq_some hret with ⟨hcommand, hobey⟩ | ⟨hcommand, hobey⟩
    · left
      exact ⟨hcommand, hobey ▸ hpc⟩
    · right
      refine ⟨hcommand, ?_⟩
      rw [show now.obey c = _ from hobey, advance_eq, hpc]

/-- Three nested calls around the end of the ring, and two returns from them. -/
theorem returns_match_calls_around :
    let m : Machine Grid :=
      { fresh Config.default Grid.dark with registers := { RegisterFile.zero with sp := 254 } }
    let calls := [.execute (.call 0x300), .execute (.call 0x400), .execute (.call 0x500)]
    let commands := calls ++ [.execute .ret, .execute .ret]
    (∀ before, before <+: commands →
      0 ≤ outstanding (m.transfers before) ∧ outstanding (m.transfers before) ≤ 256) ∧
    (m.follow calls).registers.sp.toNat = 1 ∧ (m.follow commands).registers.pc = 0x300 := by
  intro m calls commands
  have hinits : ∀ before ∈ commands.inits,
      0 ≤ outstanding (m.transfers before) ∧ outstanding (m.transfers before) ≤ 256 := by
    decide
  have hdepth : ∀ before, before <+: commands →
      0 ≤ outstanding (m.transfers before) ∧ outstanding (m.transfers before) ≤ 256 :=
    fun before hbefore => hinits before ((List.mem_inits before commands).2 hbefore)
  obtain ⟨hcalls, hrets⟩ := returns_match_calls m commands hdepth
  refine ⟨hdepth, ?_, ?_⟩
  · obtain ⟨-, hsp, -⟩ := hcalls calls (List.prefix_append _ _)
    have hone : (m.registers.sp.toNat + outstanding (m.transfers calls)) % 256 = (1 : Nat) := by
      decide
    exact Int.ofNat_inj.1 (hsp.trans hone)
  · have hpending : pending (m.transfers (calls ++ [.execute .ret])) = [0x300, 0] := by decide
    obtain ⟨address, rest, hcons, -, ⟨-, hpc⟩ | ⟨hstep, -⟩⟩ :=
      hrets (calls ++ [.execute .ret]) (.execute .ret) (List.prefix_refl _) rfl
    · rw [hpending] at hcons
      obtain ⟨rfl, -⟩ := List.cons.inj hcons
      exact hpc
    · cases hstep

end Machine

end ChipEight
