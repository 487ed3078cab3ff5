import ChipEight.Machine.Execute
import Mathlib.Tactic.Common

/-!
# Access to registers

Two registers are restricted. Whatever is asked of some registers one after the other is refused for
the first restricted one among them, and granted if there is none. What a register holds can be told
of the restricted ones as well.
-/

namespace ChipEight

/-- Is access left to accessors of its own? -/
def Register.isRestricted : Register → Bool
  | .pc | .sp => true
  | _         => false

theorem Register.isRestricted_iff {r : Register} : r.isRestricted = true ↔ r = .pc ∨ r = .sp := by
  cases r <;> simp [isRestricted]

theorem Register.isRestricted_eq_false {r : Register} (h : r ≠ .pc ∧ r ≠ .sp) :
    r.isRestricted = false :=
  Bool.eq_false_iff.2 fun hr => (isRestricted_iff.1 hr).elim h.1 h.2

/-- The registers that an operand names. -/
def Operand.registers : Operand → List Register
  | .byte _     => []
  | .register r => [r]

/-! ### What a register holds -/

namespace RegisterFile

/-- What a register holds, restricted or not. -/
def held (f : RegisterFile) : Register → UInt16
  | .general x => (f.get x).toUInt16
  | .index     => f.index
  | .pc        => f.pc
  | .sp        => f.sp.toUInt16
  | .delay     => f.delay.toUInt16
  | .sound     => f.sound.toUInt16

variable (f : RegisterFile)

theorem get_set (x y : Fin 16) (b : UInt8) :
    (f.set x b).get y = if y = x then b else f.get y := by
  have hget (v : Vector UInt8 16) (k : Fin 16) : v.get k = v[k.val] := rfl
  unfold RegisterFile.get set
  rw [hget, hget, Vector.getElem_set]
  simp only [Fin.ext_iff, eq_comm]

theorem held_set_self (x : Fin 16) (b : UInt8) : (f.set x b).held (.general x) = b.toUInt16 := by
  rw [held, get_set, if_pos rfl]

theorem held_set_of_ne {r : Register} {x : Fin 16} (h : r ≠ .general x) (b : UInt8) :
    (f.set x b).held r = f.held r := by
  cases r with
  | general y =>
    have hne : y ≠ x := fun he => h (congrArg Register.general he)
    rw [held, get_set, if_neg hne, held]
  | _ => rfl

end RegisterFile

/-! ### Refusals -/

/-- A value that is refused for the first restricted register among some, and else granted. -/
structure Guards {α : Type} (rs : List Register) (value : Except Register.Fault α) : Prop where
  refused {r : Register} (h : rs.find? Register.isRestricted = some r) :
    value = .error (.restricted r)
  granted (h : rs.find? Register.isRestricted = none) : ∃ a, value = .ok a

section

variable {α β : Type} {rs rs' : List Register} {value : Except Register.Fault α}

theorem guards_ok (a : α) : Guards [] (.ok a) where
  refused h := nomatch h
  granted _ := ⟨a, rfl⟩

/-- What is asked for later is refused only if nothing was refused before. -/
theorem Guards.bind (h : Guards rs value) {next : α → Except Register.Fault β}
    (hnext : ∀ a, Guards rs' (next a)) : Guards (rs ++ rs') (value >>= next) := by
  cases hfind : rs.find? Register.isRestricted with
  | some r =>
    have happend : (rs ++ rs').find? Register.isRestricted = some r := by
      rw [List.find?_append, hfind, Option.some_or]
    obtain rfl := h.refused hfind
    constructor
    case refused =>
      intro r' hr'
      obtain rfl : r = r' := Option.some.inj (happend.symm.trans hr')
      rfl
    case granted =>
      intro hnone
      cases happend.symm.trans hnone
  | none =>
    have happend : (rs ++ rs').find? Register.isRestricted = rs'.find? Register.isRestricted := by
      rw [List.find?_append, hfind, Option.none_or]
    obtain ⟨a, rfl⟩ := h.granted hfind
    constructor
    case refused =>
      intro r hr
      exact (hnext a).refused (happend.symm.trans hr)
    case granted =>
      intro hnone
      exact (hnext a).granted (happend.symm.trans hnone)

end

namespace RegisterFile

variable (f : RegisterFile)

theorem guards_read (r : Register) : Guards [r] (f.read r) := by
  cases r with
  | pc | sp => exact ⟨fun h => by cases h; rfl, nofun⟩
  | _ => exact ⟨nofun, fun _ => ⟨_, rfl⟩⟩

theorem guards_write (r : Register) (value : UInt32) : Guards [r] (f.write r value) := by
  cases r with
  | pc | sp => exact ⟨fun h => by cases h; rfl, nofun⟩
  | _ => exact ⟨nofun, fun _ => ⟨_, rfl⟩⟩

theorem guards_value (o : Operand) : Guards o.registers (f.value o) := by
  cases o with
  | byte b => exact guards_ok _
  | register r => exact f.guards_read r

theorem guards_agree (left : Register) (right : Operand) :
    Guards (left :: right.registers) (f.agree left right) := by
  have h := (f.guards_read left).bind fun a => (f.guards_value right).bind fun b =>
    guards_ok (decide (a = b))
  rwa [List.append_nil, List.singleton_append] at h

theorem guards_load (target : Register) (source : Operand) :
    Guards (source.registers ++ [target]) (f.load target source) :=
  (f.guards_value source).bind fun a => f.guards_write target a.toUInt32

/-- What is read is what the register holds. -/
theorem read_eq_ok {r : Register} (h : r.isRestricted = false) : f.read r = .ok (f.held r) := by
  cases r with
  | pc | sp => cases h
  | _ => rfl

end RegisterFile

end ChipEight
