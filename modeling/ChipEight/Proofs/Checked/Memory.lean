import ChipEight.Proofs.Checked.Access
import ChipEight.Proofs.Memory.Cells

/-!
# Memory in two arrays

The bytes and the marks of a memory in an array each. A write compares the address with the last
cell's and then takes both arrays for long enough; a read cuts its range to the length of the array
of bytes. As long as both arrays have an entry for each cell, no index goes wrong and the memory
does what it should.
-/

namespace ChipEight.Checked

structure Cells where
  bytes : Array UInt8
  written : Array Bool
  policy : WritePolicy
  programStart : UInt16

namespace Cells

open Memory (Fault)

/-! ### What is done to the arrays -/

def fresh? (policy : WritePolicy) : Option Cells := do
  let bytes ← copy? (.replicate 4096 0) Memory.fontStart Memory.font
  return ⟨bytes, .replicate 4096 false, policy, Memory.defaultStart⟩

def isReserved (c : Cells) (a : UInt16) : Bool := a < c.programStart

/-- Is a write of the cell refused as things stand? -/
def refuses (c : Cells) (a : UInt16) : Bool := c.isReserved a && c.policy = .strict

def write? (c : Cells) (a : UInt16) (b : UInt8) : Option (Outcome Cells Fault UInt8) :=
  if 0x0FFF < a then some (.fail (.outOfBounds a) c)
  else if c.refuses a then some (.fail (.reserved a) c)
  else do
    let bytes ← set? c.bytes a.toNat b
    let written ← set? c.written a.toNat true
    return {
      result := .ok b
      state := { c with bytes := bytes, written := written }
      log := if c.isReserved a then [.reservedWrite a] else [] }

/-- Store bytes, each at its offset, up to the first that is refused. -/
def storeAll? (start : Nat) : List (UInt8 × Nat) → Cells → Option (Outcome Cells Fault Unit)
  | [], c => some (.ok () c)
  | (b, offset) :: rest, c => do
    let a ← add? wordLimit start offset
    if a < 0x10000 then andThen? (c.write? (.ofNat a) b) fun _ c => storeAll? start rest c
    else some (.fail (.outOfBounds 0xFFFF) c)

def load? (c : Cells) (bytes : List UInt8) (a : UInt16) : Option (Outcome Cells Fault Unit) :=
  storeAll? a.toNat bytes.zipIdx c

def read? (c : Cells) (a : UInt16) (count : Nat) : Option (List UInt8) :=
  let i := min a.toNat c.bytes.size
  slice? c.bytes i (min (saturatingAdd i count) c.bytes.size)

def word? (c : Cells) (a : UInt16) : Option UInt16 :=
  (c.read? a 2).map fun
    | [high, low] => Word.ofBytes high low
    | [high]      => Word.ofBytes high 0
    | _           => 0

def isWritten (c : Cells) (a : UInt16) : Bool := c.written.getD a.toNat false

/-! ### The arrays of a memory -/

def ofMemory (m : Memory) : Cells where
  bytes := m.cells.toArray.map Cell.byte
  written := m.cells.toArray.map Cell.written
  policy := m.policy
  programStart := m.programStart

/-- The arrays hold just what the memory does. -/
def Hold (m : Memory) (c : Cells) : Prop := c = ofMemory m

@[simp] theorem size_bytes_ofMemory (m : Memory) : (ofMemory m).bytes.size = 4096 := by
  simp [ofMemory]

@[simp] theorem size_written_ofMemory (m : Memory) : (ofMemory m).written.size = 4096 := by
  simp [ofMemory]

theorem fresh?_eq (policy : WritePolicy) : fresh? policy = some (ofMemory (.fresh policy)) := by
  have hcopy : copy? (.replicate 4096 0) Memory.fontStart Memory.font =
      some Memory.initialBytes.toArray :=
    copy?_replicate 0 (by decide) (by decide)
  have hbytes : (ofMemory (.fresh policy)).bytes = Memory.initialBytes.toArray := by
    simp only [ofMemory, Memory.fresh, List.map_toArray, List.map_map]
    exact congrArg _ (List.map_id' _)
  have hwritten : (ofMemory (.fresh policy)).written = .replicate 4096 false := by
    simp only [ofMemory, Memory.fresh, List.map_toArray, List.map_map]
    rw [← Memory.length_initialBytes, ← List.toArray_replicate]
    exact congrArg _ List.map_const'
  rw [fresh?, hcopy, ← hbytes, ← hwritten]
  rfl

theorem isWritten_ofMemory (m : Memory) (a : UInt16) :
    (ofMemory m).isWritten a = m.isWritten a := by
  rw [isWritten, ofMemory, Memory.isWritten]
  by_cases h : a.toNat < 4096
  · simp [h]
  · simp [h]

theorem put_ofMemory (m : Memory) (a : Fin 4096) (b : UInt8) :
    ofMemory (m.put a b) = { ofMemory m with
      bytes := (ofMemory m).bytes.set a b (by simp)
      written := (ofMemory m).written.set a true (by simp) } := by
  simp [ofMemory, Memory.put]

/-- An address that is not refused lies within both arrays. -/
theorem write?_yields (m : Memory) (a : UInt16) (b : UInt8) :
    Yields Hold (m.write a b) ((ofMemory m).write? a b) := by
  have hreserved : (ofMemory m).isReserved a = m.isReserved a := rfl
  have hrefuses : (ofMemory m).refuses a = (m.isReserved a && m.policy = .strict) := rfl
  by_cases ha : a.toNat < 4096
  · have hend : ¬ 0x0FFF < a := by
      rw [UInt16.not_lt, UInt16.le_iff_toNat_le]
      exact Nat.le_of_lt_succ ha
    have hput := (put_ofMemory m ⟨a.toNat, ha⟩ b).symm
    rw [Memory.write, dif_pos ha, write?, if_neg hend, hrefuses, hreserved,
      set?_eq_some (by simpa using ha), set?_eq_some (by simpa using ha)]
    cases m.isReserved a with
    | false => exact yields_some ⟨rfl, rfl, hput⟩
    | true =>
      cases m.policy with
      | strict => exact yields_some ⟨rfl, rfl, rfl⟩
      | permissive => exact yields_some ⟨rfl, rfl, hput⟩
  · have hend : 0x0FFF < a := by
      rw [UInt16.lt_iff_toNat_lt]
      exact Nat.lt_of_succ_le (Nat.le_of_not_lt ha)
    rw [Memory.write, dif_neg ha, write?, if_pos hend]
    exact yields_some ⟨rfl, rfl, rfl⟩

/-- Without an entry for the cell a write has no way on. -/
example : (write? ⟨#[], #[], .permissive, 0x200⟩ 0x0FFF 0x42).isNone = true := rfl

/-- Bytes are stored one after the other without a sum that runs over. -/
theorem storeAll?_yields {bytes : List UInt8} {start k : Nat}
    (h : start + k + bytes.length ≤ wordLimit) (m : Memory) :
    Yields Hold ((AddressSpace.loadFrom (.ok (start + k) m) bytes).map fun _ => ())
      (storeAll? start (bytes.zipIdx k) (ofMemory m)) := by
  induction bytes generalizing k m with
  | nil => exact yields_some ⟨rfl, rfl, rfl⟩
  | cons b bytes ih =>
    rw [List.length_cons] at h
    rw [AddressSpace.loadFrom_cons, Outcome.ok_andThen, AddressSpace.loadByte, List.zipIdx_cons,
      storeAll?, add?_eq_some (by omega)]
    simp only [Option.bind_eq_bind, Option.bind_some]
    split
    · rw [AddressSpace.loadFrom_eq_andThen, Outcome.andThen_assoc, Outcome.map_andThen]
      apply (write?_yields m _ b).andThen
      rintro _ m _ rfl
      rw [Outcome.ok_andThen]
      exact ih (by omega) m
    · rw [AddressSpace.loadFrom_eq_andThen, Outcome.fail_andThen]
      exact yields_some ⟨rfl, rfl, rfl⟩

/-- Bytes are loaded as into the memory, if they are no more than a list of bytes can hold. -/
theorem load?_yields {bytes : List UInt8} (h : bytes.length < 0x8000000000000000) (m : Memory)
    (a : UInt16) :
    Yields Hold (AddressSpace.load m bytes a) ((ofMemory m).load? bytes a) := by
  have hfits : a.toNat + 0 + bytes.length ≤ wordLimit := by
    have := a.toNat_lt
    simp only [wordLimit]
    omega
  rw [AddressSpace.load, Outcome.andThen_ok_eq_map]
  exact storeAll?_yields hfits m

/-- A read from any address gets the bytes up to the last cell, however many are asked for. -/
theorem read?_ofMemory (m : Memory) (a : UInt16) (count : Nat) :
    (ofMemory m).read? a count = some (m.read a count) := by
  have hlimit : 4096 < wordLimit := by decide
  have hend : min (min a.toNat 4096 + count) 4096 ≤ (ofMemory m).bytes.size := by
    rw [size_bytes_ofMemory]
    exact Nat.min_le_right _ _
  rw [read?, size_bytes_ofMemory]
  rw [min_saturatingAdd hlimit, slice?_eq_some (by omega) hend, Memory.read_eq]
  congr 1
  apply List.ext_getElem
  · simp
    omega
  · intro k hk hk'
    rw [List.length_map, List.length_range'] at hk'
    have hstart : min a.toNat 4096 = a.toNat := by omega
    have hcell : a.toNat + k < 4096 := by omega
    simp [ofMemory, Memory.byteAt, hstart, hcell]

theorem word?_ofMemory (m : Memory) (a : UInt16) :
    (ofMemory m).word? a = some (AddressSpace.word m a) := by
  rw [word?, read?_ofMemory]
  rfl

end Cells

end ChipEight.Checked
