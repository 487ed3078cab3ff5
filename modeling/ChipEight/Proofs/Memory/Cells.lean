import ChipEight.Memory.Basic
import ChipEight.Proofs.Instruction.Word
import Mathlib.Data.List.Basic

/-!
# Memory cell by cell

Reads, words and marks in terms of single cells, at addresses of any size. Loading bytes where
memory is free to write fills the cells from the first address on and no others.
-/

namespace ChipEight.Memory

/-! ### Cells -/

theorem ext {m m' : Memory} (hcells : ∀ (k : Nat) (hk : k < 4096), m.cells[k] = m'.cells[k])
    (hpolicy : m.policy = m'.policy) (hstart : m.programStart = m'.programStart) : m = m' := by
  obtain ⟨cells, policy, start⟩ := m
  obtain ⟨cells', policy', start'⟩ := m'
  obtain rfl : cells = cells' := Vector.ext hcells
  obtain rfl : policy = policy' := hpolicy
  obtain rfl : start = start' := hstart
  rfl

/-- The byte at an address. Beyond the last cell there are zeros. -/
def byteAt (m : Memory) (a : Nat) : UInt8 := m.cells[a]?.elim 0 Cell.byte

theorem isWritten_eq (m : Memory) (a : UInt16) :
    m.isWritten a = m.cells[a.toNat]?.any Cell.written := by
  by_cases h : a.toNat < 4096
  · simp [isWritten, h]
  · simp [isWritten, h]

theorem byteAt_eq_zero {m : Memory} {a : Nat} (h : 4096 ≤ a) : m.byteAt a = 0 := by
  simp [byteAt, h]

/-- A read yields the bytes of its cells, as far as there are cells. -/
theorem read_eq (m : Memory) (a : UInt16) (n : Nat) :
    m.read a n = (List.range' a.toNat (min (a.toNat + n) 4096 - a.toNat)).map m.byteAt := by
  rw [read, List.filterMap_eq_map_iff_forall_eq_some]
  intro i hi
  have hi := List.mem_range'_1.1 hi
  have : i < 4096 := by omega
  simp [byteAt, this]

theorem length_read_le (m : Memory) (a : UInt16) (n : Nat) : (m.read a n).length ≤ 4096 := by
  rw [read_eq, List.length_map, List.length_range']
  omega

/-- A word is made of two neighbouring bytes, also at the end of memory. -/
theorem word_eq (m : Memory) (a : UInt16) :
    AddressSpace.word m a = Word.ofBytes (m.byteAt a.toNat) (m.byteAt (a.toNat + 1)) := by
  have hread : AddressSpace.read m a 2 = m.read a 2 := rfl
  rw [AddressSpace.word, hread, read_eq]
  rcases Nat.lt_trichotomy a.toNat 4095 with h | h | h
  · have : min (a.toNat + 2) 4096 - a.toNat = 2 := by omega
    rw [this]
    rfl
  · have : min (a.toNat + 2) 4096 - a.toNat = 1 := by omega
    rw [this, byteAt_eq_zero (a := a.toNat + 1) (by omega)]
    rfl
  · have : min (a.toNat + 2) 4096 - a.toNat = 0 := by omega
    rw [this, byteAt_eq_zero (a := a.toNat) (by omega), byteAt_eq_zero (by omega)]
    rfl

/-! ### Fresh memory -/

theorem getElem?_fresh (policy : WritePolicy) (k : Nat) :
    (fresh policy).cells[k]? = initialBytes[k]?.map fun b => ⟨b, false⟩ := by
  simp [fresh]

/-- The font counts as never written. -/
theorem isWritten_fresh (policy : WritePolicy) (a : UInt16) :
    (fresh policy).isWritten a = false := by
  rw [isWritten_eq, getElem?_fresh]
  cases initialBytes[a.toNat]? <;> rfl

/-- There are zeros around the font. -/
theorem byteAt_fresh (policy : WritePolicy) (a : Nat) :
    (fresh policy).byteAt a = if fontStart ≤ a then font.getD (a - fontStart) 0 else 0 := by
  rw [byteAt, getElem?_fresh, initialBytes, List.append_assoc]
  by_cases h : fontStart ≤ a
  · rw [if_pos h, List.getElem?_append_right (by rwa [List.length_replicate]),
      List.length_replicate]
    by_cases h' : a - fontStart < font.length
    · rw [List.getElem?_append_left h']
      simp [h']
    · rw [List.getElem?_append_right (Nat.le_of_not_lt h'), List.getElem?_replicate,
        List.getD_eq_default _ _ (Nat.le_of_not_lt h')]
      split <;> rfl
  · rw [if_neg h, List.getElem?_append_left (by rw [List.length_replicate]; omega),
      List.getElem?_replicate_of_lt (by omega)]
    rfl

theorem byteAt_fresh_of_le (policy : WritePolicy) {a : Nat} (h : fontStart + font.length ≤ a) :
    (fresh policy).byteAt a = 0 := by
  rw [byteAt_fresh, if_pos (by omega), List.getD_eq_default _ _ (by omega)]

/-! ### Filled memory -/

/-- Memory with bytes in the cells from `a` on, which are marked as written. -/
def filled (m : Memory) (a : Nat) (bytes : List UInt8) : Memory :=
  { m with cells := m.cells.mapIdx fun k cell =>
      if h : a ≤ k ∧ k - a < bytes.length then ⟨bytes[k - a], true⟩ else cell }

theorem getElem?_filled_of_mem {m : Memory} {a : Nat} {bytes : List UInt8} {k : Nat}
    (hk : k < 4096) (ha : a ≤ k) (hb : k - a < bytes.length) :
    (m.filled a bytes).cells[k]? = some ⟨bytes[k - a], true⟩ := by
  simp [filled, hk, ha, hb]

theorem getElem?_filled_of_not_mem {m : Memory} {a : Nat} {bytes : List UInt8} {k : Nat}
    (h : k < a ∨ a + bytes.length ≤ k) : (m.filled a bytes).cells[k]? = m.cells[k]? := by
  have : ¬ (a ≤ k ∧ k - a < bytes.length) := by omega
  by_cases hk : k < 4096
  · simp [filled, hk, this]
  · simp [hk]

theorem isWritten_filled {m : Memory} {a : Nat} {bytes : List UInt8}
    (hb : a + bytes.length ≤ 4096) (k : UInt16) : (m.filled a bytes).isWritten k =
      (decide (a ≤ k.toNat ∧ k.toNat < a + bytes.length) || m.isWritten k) := by
  rw [isWritten_eq, isWritten_eq]
  by_cases hk : a ≤ k.toNat ∧ k.toNat < a + bytes.length
  · rw [getElem?_filled_of_mem (by omega) hk.1 (by omega)]
    simp [hk]
  · rw [getElem?_filled_of_not_mem (by omega)]
    simp [hk]

theorem byteAt_filled_of_mem {m : Memory} {a : Nat} {bytes : List UInt8} {k : Nat}
    (hb : a + bytes.length ≤ 4096) (ha : a ≤ k) (hk : k < a + bytes.length) :
    (m.filled a bytes).byteAt k = bytes.getD (k - a) 0 := by
  have hlt : k - a < bytes.length := by omega
  rw [byteAt, getElem?_filled_of_mem (by omega) ha hlt]
  simp [hlt]

theorem byteAt_filled_of_not_mem {m : Memory} {a : Nat} {bytes : List UInt8} {k : Nat}
    (h : k < a ∨ a + bytes.length ≤ k) : (m.filled a bytes).byteAt k = m.byteAt k := by
  rw [byteAt, byteAt, getElem?_filled_of_not_mem h]

/-- What was filled in is read again. -/
theorem read_filled (m : Memory) {address : UInt16} {a : Nat} (ha : address.toNat = a)
    {bytes : List UInt8} (hb : a + bytes.length ≤ 4096) :
    (m.filled a bytes).read address bytes.length = bytes := by
  have hlength : min (a + bytes.length) 4096 - a = bytes.length := by omega
  rw [read_eq, ha, hlength]
  apply List.ext_getElem
  · rw [List.length_map, List.length_range']
  · intro k hk hk'
    rw [List.getElem_map, List.getElem_range', byteAt_filled_of_mem hb (by omega) (by omega)]
    simp [hk']

@[simp] theorem filled_nil (m : Memory) (a : Nat) : m.filled a [] = m := by
  apply Memory.ext
  case hpolicy => rfl
  case hstart => rfl
  intro k hk
  simp [filled]

/-- The first byte can be stored ahead of the others. -/
theorem filled_put (m : Memory) (a : Fin 4096) (b : UInt8) (bytes : List UInt8) :
    (m.put a b).filled (a + 1) bytes = m.filled a (b :: bytes) := by
  apply Memory.ext
  case hpolicy => rfl
  case hstart => rfl
  intro k hk
  simp only [filled, put, Vector.getElem_mapIdx, List.length_cons]
  by_cases htail : a + 1 ≤ k ∧ k - (a + 1) < bytes.length
  · have hcons : a ≤ k ∧ k - a < bytes.length + 1 := by omega
    have hk : k - a = k - (a + 1) + 1 := by omega
    rw [dif_pos htail, dif_pos hcons]
    simp [hk]
  · rw [dif_neg htail]
    by_cases hka : k = a
    · simp [hka]
    · have hne : (a : Nat) ≠ k := fun e => hka e.symm
      have hcons : ¬ (a ≤ k ∧ k - a < bytes.length + 1) := by omega
      rw [dif_neg hcons, Vector.getElem_set_ne _ _ hne]

/-! ### Loading -/

/-- A write of a cell that is not reserved. -/
theorem write_eq_put {m : Memory} {a : UInt16} (ha : a.toNat < 4096) (hs : m.programStart ≤ a)
    (b : UInt8) : m.write a b = .ok b (m.put ⟨a.toNat, ha⟩ b) := by
  have : m.isReserved a = false := by simpa [isReserved] using hs
  simp [write, ha, this]

theorem loadByte_eq_put {m : Memory} {a : Nat} (ha : a < 4096) (hs : m.programStart.toNat ≤ a)
    (b : UInt8) : AddressSpace.loadByte b a m = .ok (a + 1) (m.put ⟨a, ha⟩ b) := by
  have hn : (UInt16.ofNat a).toNat = a := UInt16.toNat_ofNat_of_lt (show a < 0x10000 by omega)
  have hstart : m.programStart ≤ UInt16.ofNat a := by
    rw [UInt16.le_iff_toNat_le, hn]
    exact hs
  have hwrite : AddressSpace.write m (UInt16.ofNat a) b = .ok b (m.put ⟨a, ha⟩ b) := by
    rw [← show (⟨(UInt16.ofNat a).toNat, by omega⟩ : Fin 4096) = ⟨a, ha⟩ from Fin.ext hn]
    exact write_eq_put _ hstart b
  rw [AddressSpace.loadByte, if_pos (by omega), hwrite, Outcome.ok_andThen]

/-- Bytes that fit above the start are stored as a whole. -/
theorem loadFrom_eq_filled {m : Memory} {a : Nat} {bytes : List UInt8}
    (hs : m.programStart.toNat ≤ a) (hb : a + bytes.length ≤ 4096) :
    AddressSpace.loadFrom (.ok a m) bytes = .ok (a + bytes.length) (m.filled a bytes) := by
  induction bytes generalizing m a with
  | nil => simp
  | cons b bytes ih =>
    rw [List.length_cons] at hb
    have ha : a < 4096 := by omega
    have hrest := ih (m := m.put ⟨a, ha⟩ b) (a := a + 1) (Nat.le_succ_of_le hs) (by omega)
    have hfilled := m.filled_put ⟨a, ha⟩ b bytes
    have hend : a + 1 + bytes.length = a + (bytes.length + 1) := by omega
    rw [AddressSpace.loadFrom_cons, Outcome.ok_andThen, loadByte_eq_put ha hs, hrest, hfilled, hend,
      List.length_cons]

theorem loadFrom_append (o : Outcome Memory Fault Nat) (bytes bytes' : List UInt8) :
    AddressSpace.loadFrom o (bytes ++ bytes') =
      AddressSpace.loadFrom (AddressSpace.loadFrom o bytes) bytes' :=
  List.foldl_append

/-- Behind a refused byte nothing is loaded. -/
theorem loadFrom_fail (fault : Fault) (m : Memory) (bytes : List UInt8) :
    AddressSpace.loadFrom (.fail fault m) bytes = .fail fault m := by
  rw [AddressSpace.loadFrom_eq_andThen, Outcome.fail_andThen]

theorem loadByte_end (b : UInt8) (m : Memory) :
    AddressSpace.loadByte b 4096 m = .fail (.outOfBounds 0x1000) m := rfl

/-- Of too many bytes those are loaded that fit, and the first one beyond the end is refused. -/
theorem loadFrom_eq_fail {m : Memory} {a : Nat} {bytes : List UInt8}
    (hs : m.programStart.toNat ≤ a) (ha : a ≤ 4096) (hb : 4096 < a + bytes.length) :
    AddressSpace.loadFrom (.ok a m) bytes =
      .fail (.outOfBounds 0x1000) (m.filled a (bytes.take (4096 - a))) := by
  have hlength : a + (bytes.take (4096 - a)).length = 4096 := by
    rw [List.length_take]
    omega
  cases hrest : bytes.drop (4096 - a) with
  | nil =>
    have := List.drop_eq_nil_iff.1 hrest
    omega
  | cons b rest =>
    calc AddressSpace.loadFrom (.ok a m) bytes
        = AddressSpace.loadFrom (.ok a m) (bytes.take (4096 - a) ++ b :: rest) := by
          rw [← hrest, List.take_append_drop]
      _ = AddressSpace.loadFrom (.ok 4096 (m.filled a (bytes.take (4096 - a)))) (b :: rest) := by
          rw [loadFrom_append, loadFrom_eq_filled hs hlength.le, hlength]
      _ = .fail (.outOfBounds 0x1000) (m.filled a (bytes.take (4096 - a))) := by
          rw [AddressSpace.loadFrom_cons, Outcome.ok_andThen, loadByte_end, loadFrom_fail]

/-- Bytes that fit between an unreserved address and the end of memory are all loaded. -/
theorem load_eq_filled {m : Memory} {a : UInt16} {bytes : List UInt8} (hs : m.programStart ≤ a)
    (hb : a.toNat + bytes.length ≤ 4096) :
    AddressSpace.load m bytes a = .ok () (m.filled a.toNat bytes) := by
  rw [AddressSpace.load, loadFrom_eq_filled (UInt16.le_iff_toNat_le.1 hs) hb, Outcome.ok_andThen]

theorem load_eq_fail {m : Memory} {a : UInt16} {bytes : List UInt8} (hs : m.programStart ≤ a)
    (ha : a.toNat ≤ 4096) (hb : 4096 < a.toNat + bytes.length) :
    AddressSpace.load m bytes a =
      .fail (.outOfBounds 0x1000) (m.filled a.toNat (bytes.take (4096 - a.toNat))) := by
  rw [AddressSpace.load, loadFrom_eq_fail (UInt16.le_iff_toNat_le.1 hs) ha hb,
    Outcome.fail_andThen]

end ChipEight.Memory
