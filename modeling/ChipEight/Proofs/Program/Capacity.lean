import ChipEight.Program.Rom
import ChipEight.Proofs.Memory.Cells

/-!
# Room for a program

Two parts of the library say how long a program may be: a program image refuses too many bytes by
their number, and memory refuses the first byte beyond its last cell. Both draw the line at the same
length. What an image takes, fresh memory takes as well, and afterwards it holds these bytes behind
the program's start and is otherwise as it was.
-/

namespace ChipEight

/-! ### Memory with a program -/

/-- The memory holds the bytes as its program and is as good as fresh around them. -/
structure Memory.HoldsProgram (m : Memory) (bytes : List UInt8) : Prop where
  byteAt_eq : ∀ k < bytes.length, m.byteAt (0x200 + k) = bytes.getD k 0
  isWritten_iff : ∀ a, m.isWritten a = true ↔
    0x200 ≤ a.toNat ∧ a.toNat < 0x200 + bytes.length
  byteAt_around : ∀ a, a < 0x200 ∨ 0x200 + bytes.length ≤ a → m.byteAt a =
    if Memory.fontStart ≤ a then Memory.font.getD (a - Memory.fontStart) 0 else 0
  read_eq : m.read 0x200 bytes.length = bytes

variable (policy : WritePolicy) {bytes : List UInt8}

theorem Memory.holdsProgram_filled (h : 0x200 + bytes.length ≤ 4096) :
    ((Memory.fresh policy).filled 0x200 bytes).HoldsProgram bytes where
  byteAt_eq k hk := by
    rw [byteAt_filled_of_mem h (by omega) (by omega), Nat.add_sub_cancel_left]
  isWritten_iff a := by
    rw [isWritten_filled h, isWritten_fresh, Bool.or_false, decide_eq_true_eq]
  byteAt_around a ha := by
    rw [byteAt_filled_of_not_mem ha, byteAt_fresh]
  read_eq := read_filled _ (by decide) h

/-! ### Images and memory -/

namespace Rom

/-- A program that fits is loaded as a whole. -/
theorem loadProgram_of_le (h : bytes.length ≤ maxSize) : (Memory.fresh policy).loadProgram bytes =
    .ok () ((Memory.fresh policy).filled 0x200 bytes) := by
  have hfits : bytes.length ≤ 4096 - 0x200 := h
  have hend : 0x200 + bytes.length ≤ 4096 := by omega
  exact Memory.load_eq_filled (UInt16.le_refl _) hend

/-- One that does not fit fails behind the last cell. -/
theorem loadProgram_of_lt (h : maxSize < bytes.length) : (Memory.fresh policy).loadProgram bytes =
    .fail (.outOfBounds 0x1000) ((Memory.fresh policy).filled 0x200 (bytes.take maxSize)) := by
  have hlarge : 4096 - 0x200 < bytes.length := h
  have hend : 4096 < 0x200 + bytes.length := by omega
  have hstart : (0x200 : UInt16).toNat ≤ 4096 := by decide
  exact Memory.load_eq_fail (UInt16.le_refl _) hstart hend

/-- Bytes make a program image exactly where fresh memory takes them as a program. Then they stand
in the cells from the program's start on, these cells and no others count as written, all others
hold the font or zeros as before, and the bytes can be read again. Bytes that make no image are
refused at the end of memory, and never for being below the program's start. -/
theorem fits_iff_loads (policy : WritePolicy) (bytes : List UInt8) :
    let stored := (Memory.fresh policy).loadProgram bytes
    ((∃ rom, ofBytes bytes = .ok rom) ↔ stored.result = .ok ()) ∧
      (stored.result = .ok () → stored.state.HoldsProgram bytes) ∧
      ((∃ fault, ofBytes bytes = .error fault) →
        stored.result = .error (.outOfBounds 0x1000)) := by
  intro stored
  rcases Nat.lt_or_ge maxSize bytes.length with hlarge | hfits
  · have hstored : stored = _ := loadProgram_of_lt policy hlarge
    rw [hstored, ofBytes_of_lt hlarge]
    refine ⟨⟨?_, ?_⟩, ?_, fun _ => rfl⟩
    · rintro ⟨rom, hrom⟩
      cases hrom
    · intro hresult
      cases hresult
    · intro hresult
      cases hresult
  · have hstored : stored = _ := loadProgram_of_le policy hfits
    have hend : bytes.length ≤ 4096 - 0x200 := hfits
    rw [hstored, ofBytes_of_le hfits, Outcome.state_ok]
    refine ⟨⟨fun _ => rfl, fun _ => ⟨_, rfl⟩⟩, fun _ => ?_, ?_⟩
    · exact Memory.holdsProgram_filled policy (by omega)
    · rintro ⟨fault, hfault⟩
      cases hfault

end Rom

end ChipEight
