import ChipEight.Proofs.Screen.Grid
import ChipEight.Screen.Bitmap
import Mathlib.Data.List.FinRange
import Mathlib.Data.Nat.Bitwise

/-!
# Packed grids

Packing puts each cell of a grid into a bit of its own, and the points of a bitmap are read off the
same bits. So the points of a packed grid are the cells that are on.
-/

namespace ChipEight

/-! ### Bits of a byte -/

/-- One bit, counted from the low end. -/
theorem one_and_shiftRight (b : UInt8) {k : Nat} (hk : k < 8) :
    1 &&& (b >>> UInt8.ofNat k) = if b.toNat.testBit k then 1 else 0 := by
  have hshift : (UInt8.ofNat k).toNat % 8 = k := by
    rw [UInt8.toNat_ofNat_of_lt' (show k < 256 by omega), Nat.mod_eq_of_lt hk]
  have hbit : (1 &&& (b >>> UInt8.ofNat k)).toNat = (b.toNat.testBit k).toNat := by
    rw [UInt8.toNat_and, UInt8.toNat_shiftRight, hshift, Nat.toNat_testBit,
      ← Nat.shiftRight_eq_div_pow]
    exact Nat.one_and_eq_mod_two _
  apply UInt8.toNat_inj.1
  rw [hbit]
  cases b.toNat.testBit k <;> rfl

theorem testBit_high {i k : Nat} (hi : i < 8) (hk : k < 8) :
    ((0x80 : UInt8) >>> UInt8.ofNat i).toNat.testBit (7 - k) = decide (i = k) := by
  have h : ∀ i k : Fin 8, ((0x80 : UInt8) >>> UInt8.ofNat i.val).toNat.testBit (7 - k.val) =
    decide (i.val = k.val) := by decide
  exact h ⟨i, hi⟩ ⟨k, hk⟩

namespace Grid

/-! ### Packing -/

theorem testBit_foldl_or (bits : Nat → Bool) {l : List Nat} (hl : ∀ i ∈ l, i < 8) (b : UInt8)
    {k : Nat} (hk : k < 8) :
    (l.foldl (fun b i => if bits i then b ||| (0x80 >>> UInt8.ofNat i) else b) b).toNat.testBit
      (7 - k) = (b.toNat.testBit (7 - k) || (bits k && decide (k ∈ l))) := by
  induction l generalizing b with
  | nil => simp
  | cons i l ih =>
    obtain ⟨hi, hl⟩ := List.forall_mem_cons.1 hl
    have hstep : (if bits i then b ||| (0x80 >>> UInt8.ofNat i) else b).toNat.testBit (7 - k) =
        (b.toNat.testBit (7 - k) || (bits i && decide (i = k))) := by
      cases bits i with
      | false => simp
      | true => rw [if_pos rfl, UInt8.toNat_or, Nat.testBit_or, testBit_high hi hk, Bool.true_and]
    rw [List.foldl_cons, ih hl, hstep, Bool.or_assoc]
    congr 1
    by_cases hik : i = k
    · subst hik
      cases bits i <;> simp
    · simp [hik, Ne.symm hik]

/-- The first of the packed bits is the high one. -/
theorem testBit_packByte (bits : Nat → Bool) {k : Nat} (hk : k < 8) :
    (packByte bits).toNat.testBit (7 - k) = bits k := by
  rw [packByte, testBit_foldl_or bits (fun i => List.mem_range.1) 0 hk]
  simp [hk]

end Grid

/-! ### Points -/

theorem Bitmap.mem_points_iff {b : Bitmap} {plane : UInt8} {p : Point} : p ∈ b.points plane ↔
    ∃ n, b.bit n = plane ∧
      p = ⟨n.val % b.resolution.width, n.val / b.resolution.width⟩ := by
  simp [points, eq_comm]

theorem Resolution.pixelCount_screen : screen.pixelCount = 2048 := by decide

namespace Grid

theorem data_toBitmap (g : Grid) : g.toBitmap.data = g.toBytes.toArray := by
  simp only [toBitmap]

theorem resolution_toBitmap (g : Grid) : g.toBitmap.resolution = .screen := by
  simp only [toBitmap]

/-- The bits of the bitmap are the cells of the grid, row by row. -/
theorem bit_toBitmap (g : Grid) (n : Fin g.toBitmap.resolution.pixelCount) :
    g.toBitmap.bit n = if g.isLit (n.val % 64) (n.val / 64) then 1 else 0 := by
  have hn : n.val < 2048 := Resolution.pixelCount_screen ▸ n.isLt
  have hbyte : n.val / 8 < 256 := by omega
  have hcell : 8 * (n.val / 8) + n.val % 8 = n.val := Nat.div_add_mod _ _
  simp only [Bitmap.bit, data_toBitmap, Vector.getElem_toArray, toBytes, Vector.getElem_ofFn]
  rw [one_and_shiftRight _ (by omega), testBit_packByte _ (by omega), hcell, isLit_eq_getElem hn]
  simp [Vector.getD, hn]

theorem width_toBitmap (g : Grid) : g.toBitmap.resolution.width = 64 := by
  simp only [toBitmap, Resolution.screen, Screen.width]

/-- The set points are the cells that are on. -/
theorem mem_points_toBitmap_iff {g : Grid} {p : Point} :
    p ∈ g.toBitmap.points 1 ↔ g.isLit p.column p.row = true := by
  simp only [Bitmap.mem_points_iff, width_toBitmap, bit_toBitmap]
  constructor
  · rintro ⟨n, hbit, rfl⟩
    by_contra hoff
    rw [if_neg hoff] at hbit
    exact absurd hbit (by decide)
  · intro hlit
    obtain ⟨hx, hy⟩ : p.column < 64 ∧ p.row < 32 := lt_of_isLit hlit
    have hn : 64 * p.row + p.column < g.toBitmap.resolution.pixelCount := by
      rw [resolution_toBitmap, Resolution.pixelCount_screen]
      omega
    have hcolumn : (64 * p.row + p.column) % 64 = p.column := by omega
    have hrow : (64 * p.row + p.column) / 64 = p.row := by omega
    refine ⟨⟨64 * p.row + p.column, hn⟩, ?_, ?_⟩
    · rw [hcolumn, hrow, if_pos hlit]
    · rw [hcolumn, hrow]

end Grid

end ChipEight
