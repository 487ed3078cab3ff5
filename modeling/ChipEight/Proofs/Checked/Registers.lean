import ChipEight.Machine.Execute
import ChipEight.Proofs.Checked.Access
import ChipEight.Proofs.Machine.Requests

/-!
# Registers and the call stack in arrays

The general registers in one array, where a register that has no place of its own is looked up by
its position among all. The positions of the general ones come first, so that no other register ever
reaches the array.

The call stack in an array that grows with the slots that are stored to. A slot beyond its end is
unset like one that was never stored to.
-/

namespace ChipEight

/-! ### Registers -/

namespace Register

/-- The place of a register among all. -/
def position : Register → Nat
  | .general x => x
  | .index     => 16
  | .pc        => 17
  | .sp        => 18
  | .delay     => 19
  | .sound     => 20

theorem position_lt_iff {r : Register} : r.position < 16 ↔ ∃ x, r = .general x := by
  cases r with
  | general x => exact ⟨fun _ => ⟨x, rfl⟩, fun _ => x.isLt⟩
  | _ =>
    constructor
    · intro h
      exact absurd h (by decide)
    · rintro ⟨x, ⟨⟩⟩

theorem getElem?_all (r : Register) : all[r.position]? = some r := by
  cases r with
  | general x =>
    revert x
    decide
  | _ => rfl

end Register

namespace Checked

structure Registers where
  general : Array UInt8
  index : UInt16
  pc : UInt16
  sp : UInt8
  delay : UInt8
  sound : UInt8

namespace Registers

def read? (c : Registers) : Register → Option (Except Register.Fault UInt16)
  | .pc    => some (.error (.restricted .pc))
  | .sp    => some (.error (.restricted .sp))
  | .index => some (.ok c.index)
  | .delay => some (.ok c.delay.toUInt16)
  | .sound => some (.ok c.sound.toUInt16)
  | r      => c.general[r.position]?.map fun b => .ok b.toUInt16

def write? (c : Registers) (r : Register) (value : UInt32) :
    Option (Except Register.Fault Registers) :=
  match r with
  | .pc    => some (.error (.restricted .pc))
  | .sp    => some (.error (.restricted .sp))
  | .index => some (.ok { c with index := value.toUInt16 })
  | .delay => some (.ok { c with delay := value.toUInt8 })
  | .sound => some (.ok { c with sound := value.toUInt8 })
  | r      => (set? c.general r.position value.toUInt8).map fun general =>
    .ok { c with general := general }

def readNamed? (c : Registers) (name : String) : Option (Except Register.Fault UInt16) :=
  bind? (some (Register.ofName? name)) c.read?

def writeNamed? (c : Registers) (name : String) (value : UInt32) :
    Option (Except Register.Fault Registers) :=
  bind? (some (Register.ofName? name)) fun r => c.write? r value

def setPc (c : Registers) (value : UInt32) : Registers := { c with pc := value.toUInt16 }

def setSp (c : Registers) (value : UInt32) : Registers := { c with sp := value.toUInt8 }

/-- The program counter one instruction on, as a sum of 32 bits that is cut to sixteen. -/
def advance? (c : Registers) : Option Registers := do
  let pc ← add? 0x100000000 c.pc.toNat 2
  return c.setPc (.ofNat pc)

def value? (c : Registers) : Operand → Option (Except Register.Fault UInt16)
  | .byte b     => some (.ok b.toUInt16)
  | .register r => c.read? r

def agree? (c : Registers) (left : Register) (right : Operand) :
    Option (Except Register.Fault Bool) :=
  bind? (c.read? left) fun a => bind? (c.value? right) fun b => some (.ok (a = b))

def load? (c : Registers) (target : Register) (source : Operand) :
    Option (Except Register.Fault Registers) :=
  bind? (c.value? source) fun a => c.write? target a.toUInt32

def serve? (c : Registers) :
    RegisterFile.Request → Option (Except Register.Fault (Option UInt16 × Registers))
  | .read r                => bind? (c.read? r) fun a => some (.ok (some a, c))
  | .write r value         => bind? (c.write? r value) fun c => some (.ok (none, c))
  | .readNamed name        => bind? (c.readNamed? name) fun a => some (.ok (some a, c))
  | .writeNamed name value => bind? (c.writeNamed? name value) fun c => some (.ok (none, c))
  | .pc                    => some (.ok (some c.pc, c))
  | .sp                    => some (.ok (some c.sp.toUInt16, c))
  | .setPc value           => some (.ok (none, c.setPc value))
  | .setSp value           => some (.ok (none, c.setSp value))
  | .incrementSp           => some (.ok (none, { c with sp := c.sp + 1 }))
  | .decrementSp           => some (.ok (none, { c with sp := c.sp - 1 }))

/-! ### The array of a register file -/

def ofFile (f : RegisterFile) : Registers :=
  ⟨f.general.toArray, f.index, f.pc, f.sp, f.delay, f.sound⟩

@[simp] theorem size_general_ofFile (f : RegisterFile) : (ofFile f).general.size = 16 := by
  simp [ofFile]

@[simp] theorem pc_ofFile (f : RegisterFile) : (ofFile f).pc = f.pc := rfl

@[simp] theorem sp_ofFile (f : RegisterFile) : (ofFile f).sp = f.sp := rfl

/-- The array is looked at for general registers only. -/
theorem read?_general (c : Registers) (x : Fin 16) :
    c.read? (.general x) = c.general[x.val]?.map fun b => .ok b.toUInt16 := rfl

theorem write?_general (c : Registers) (x : Fin 16) (value : UInt32) : c.write? (.general x) value =
    (set? c.general x.val value.toUInt8).map fun general => .ok { c with general := general } := rfl

theorem access_of_not_general {r : Register} (h : ∀ x, r ≠ .general x) (c : Registers)
    (general : Array UInt8) (value : UInt32) :
    { c with general := general }.read? r = c.read? r ∧
      { c with general := general }.write? r value =
        (c.write? r value).map (Except.map fun c => { c with general := general }) := by
  cases r with
  | general x => exact absurd rfl (h x)
  | _ => exact ⟨rfl, rfl⟩

variable (f : RegisterFile)

/-- A register is read from within the array, or refused as by the registers. -/
theorem read?_ofFile (r : Register) : (ofFile f).read? r = some (f.read r) := by
  cases r with
  | general x =>
    rw [read?_general, Array.getElem?_eq_getElem (by simp)]
    rfl
  | _ => rfl

theorem write?_ofFile (r : Register) (value : UInt32) :
    (ofFile f).write? r value = some ((f.write r value).map ofFile) := by
  cases r with
  | general x =>
    rw [write?_general, set?_eq_some (by simp)]
    rfl
  | _ => rfl

theorem readNamed?_ofFile (name : String) :
    (ofFile f).readNamed? name = some (f.readNamed name) :=
  bind?_eq_some (read?_ofFile f)

theorem writeNamed?_ofFile (name : String) (value : UInt32) :
    (ofFile f).writeNamed? name value = some ((f.writeNamed name value).map ofFile) := by
  rw [writeNamed?, RegisterFile.writeNamed]
  cases Register.ofName? name with
  | error fault => rfl
  | ok r => exact write?_ofFile f r value

theorem advance?_ofFile :
    (ofFile f).advance? = some (ofFile (f.setPc (f.pc.toUInt32 + 2))) := by
  have hpc := f.pc.toNat_lt
  have hsum : UInt32.ofNat (f.pc.toNat + 2) = f.pc.toUInt32 + 2 := by
    apply UInt32.toNat_inj.1
    rw [UInt32.toNat_ofNat_of_lt' (show f.pc.toNat + 2 < 2 ^ 32 by omega)]
    simp
    omega
  rw [advance?, pc_ofFile, add?_eq_some (by omega), ← hsum]
  rfl

theorem value?_ofFile (source : Operand) : (ofFile f).value? source = some (f.value source) := by
  cases source with
  | byte b => rfl
  | register r => exact read?_ofFile f r

theorem agree?_ofFile (left : Register) (right : Operand) :
    (ofFile f).agree? left right = some (f.agree left right) := by
  rw [agree?, read?_ofFile, value?_ofFile]
  apply bind?_eq_some
  intro a
  apply bind?_eq_some
  intro b
  rfl

theorem load?_ofFile (target : Register) (source : Operand) :
    (ofFile f).load? target source = some ((f.load target source).map ofFile) := by
  rw [load?, value?_ofFile, RegisterFile.load]
  cases f.value source with
  | error fault => rfl
  | ok a => exact write?_ofFile f target a.toUInt32

/-- Whatever is asked for, the arrays answer as the registers do. -/
theorem serve?_ofFile (r : RegisterFile.Request) : (ofFile f).serve? r =
    some ((f.serve r).map fun (value, f) => (value, ofFile f)) := by
  cases r with
  | read r =>
    rw [serve?, read?_ofFile, RegisterFile.serve]
    cases f.read r <;> rfl
  | write r value =>
    rw [serve?, write?_ofFile, RegisterFile.serve]
    cases f.write r value <;> rfl
  | readNamed name =>
    rw [serve?, readNamed?_ofFile, RegisterFile.serve]
    cases f.readNamed name <;> rfl
  | writeNamed name value =>
    rw [serve?, writeNamed?_ofFile, RegisterFile.serve]
    cases f.writeNamed name value <;> rfl
  | _ => rfl

end Registers

/-! ### The call stack -/

structure Slots where
  slots : Array (Option UInt16)

namespace Slots

/-- The array with unset slots behind it, if it is too short for an index. -/
def reach? (c : Slots) (i : Nat) : Option (Array (Option UInt16)) :=
  if c.slots.size ≤ i then do
    let length ← add? wordLimit i 1
    return c.slots ++ .replicate (length - c.slots.size) none
  else some c.slots

def store? (c : Slots) (sp : UInt8) (address : UInt16) : Option Slots := do
  let slots ← c.reach? sp.toNat
  return ⟨← set? slots sp.toNat (some address)⟩

def get? (c : Slots) (sp : UInt8) : Option UInt16 := c.slots[sp.toNat]?.join

/-- The slots of the array are those of the stack, and there are no more than the stack pointer can
tell apart. -/
structure Hold (s : CallStack) (c : Slots) : Prop where
  size_le : c.slots.size ≤ 256
  get?_eq : ∀ sp, c.get? sp = s.get? sp

theorem hold_empty : Hold .empty ⟨#[]⟩ where
  size_le := Nat.zero_le _
  get?_eq sp := (CallStack.get?_empty sp).symm

theorem exists_reach?_eq_some (c : Slots) {i : Nat} (hi : i < 256) :
    ∃ slots, c.reach? i = some slots ∧ i < slots.size ∧ slots.size ≤ max c.slots.size (i + 1) ∧
      ∀ k : Nat, slots[k]?.join = c.slots[k]?.join := by
  by_cases h : c.slots.size ≤ i
  · have hfits : i + 1 < wordLimit := by
      simp only [wordLimit]
      omega
    refine ⟨c.slots ++ .replicate (i + 1 - c.slots.size) none, ?_, ?_, ?_, fun k => ?_⟩
    · rw [reach?, if_pos h, add?_eq_some hfits]
      rfl
    · simp
      omega
    · simp
      omega
    · rw [Array.getElem?_append]
      split
      case isTrue => rfl
      case isFalse hk =>
        rw [Array.getElem?_eq_none (Nat.le_of_not_lt hk), Array.getElem?_replicate]
        split <;> rfl
  · refine ⟨c.slots, if_neg h, Nat.lt_of_not_le h, Nat.le_max_left _ _, fun k => rfl⟩

/-- The array of the stack grows far enough for any slot. -/
theorem Hold.store? {s : CallStack} {c : Slots} (h : Hold s c) (sp : UInt8) (address : UInt16) :
    ∃ c', c.store? sp address = some c' ∧ Hold (s.set sp address) c' := by
  have hsp := sp.toNat_lt
  obtain ⟨slots, hreach, hlt, hsize, hslots⟩ := c.exists_reach?_eq_some hsp
  have hle := h.size_le
  refine ⟨⟨slots.set sp.toNat (some address)⟩, ?_, ⟨?_, fun sp' => ?_⟩⟩
  · rw [Slots.store?, hreach, Option.bind_eq_bind, Option.bind_some, set?_eq_some hlt]
    rfl
  · simp
    omega
  · rw [CallStack.get?_set, ← h.get?_eq sp', get?, get?, ← hslots, Array.getElem?_set]
    by_cases hsp' : sp' = sp
    · rw [if_pos hsp', hsp', if_pos rfl]
      rfl
    · rw [if_neg hsp', if_neg fun e => hsp' (UInt8.toNat_inj.1 e.symm)]

end Slots

end Checked

end ChipEight
