import ChipEight.Proofs.Screen.Drawing
import ChipEight.Proofs.Terminal.Canvas
import Mathlib.Data.List.Perm.Basic

/-!
# The pixels of a plane

The pixels of a bitmap are numbered row by row, and those of a plane are listed with their numbers
going down. No number is listed twice, and no two numbers are at the same place. The planes of zeros
and of ones share the pixels out among them, and there is nothing on any other plane.
-/

namespace ChipEight

/-! ### Places -/

namespace Point

/-- Where a point is on the axes. -/
def place (p : Point) : Int × Int := (p.x.value, p.y.value)

theorem place_injective : Function.Injective place := by
  rintro ⟨column, row⟩ ⟨column', row'⟩ h
  obtain ⟨hx, hy⟩ := Prod.mk.inj h
  obtain rfl : column = column' := Int.ofNat_inj.1 hx
  obtain rfl : row = row' := Int.ofNat_inj.1 (Int.neg_inj.1 hy)
  rfl

/-- The pixel of a number. -/
def ofNumber (width n : Nat) : Point := ⟨n % width, n / width⟩

theorem ofNumber_injective (width : Nat) : Function.Injective (ofNumber width) := by
  intro j k h
  obtain ⟨hcolumn, hrow⟩ := mk.inj h
  rw [← Nat.div_add_mod j width, ← Nat.div_add_mod k width, hcolumn, hrow]

end Point

namespace Bitmap

variable {b : Bitmap} {plane : UInt8} {n : Nat}

/-- The bit of a pixel, which counts from the high end of its byte. -/
def bitOf (b : Bitmap) (n : Nat) : UInt8 :=
  if (b.data.getD (n / 8) 0).toNat.testBit (7 - n % 8) then 1 else 0

/-- The numbers of those pixels of a plane that are among the first ones, going down. -/
def numbersBelow (b : Bitmap) (plane : UInt8) (count : Nat) : List Nat :=
  ((List.range count).filter fun n => b.bitOf n = plane).reverse

/-- The numbers of all pixels of a plane. -/
def numbers (b : Bitmap) (plane : UInt8) : List Nat := b.numbersBelow plane b.resolution.pixelCount

/-- The byte of a pixel is there. -/
theorem div_lt_size (b : Bitmap) (h : n < b.resolution.pixelCount) : n / 8 < b.data.size := by
  have := b.enough
  omega

theorem bit_eq_bitOf (b : Bitmap) (n : Fin b.resolution.pixelCount) : b.bit n = b.bitOf n.val := by
  rw [bit, one_and_shiftRight _ (by omega), bitOf, Array.getD_eq_getD_getElem?,
    Array.getElem?_eq_getElem (b.div_lt_size n.isLt), Option.getD_some]

theorem points_eq (b : Bitmap) (plane : UInt8) :
    b.points plane = (b.numbers plane).map (Point.ofNumber b.resolution.width) := by
  simp only [points, bit_eq_bitOf, numbers, numbersBelow]
  rw [← List.map_coe_finRange_eq_range, List.filter_map, ← List.map_reverse, List.map_map,
    List.filter_reverse]
  rfl

/-! ### Numbers -/

theorem numbersBelow_succ (b : Bitmap) (plane : UInt8) (n : Nat) : b.numbersBelow plane (n + 1) =
    if b.bitOf n = plane then n :: b.numbersBelow plane n else b.numbersBelow plane n := by
  rw [numbersBelow, List.range_succ, List.filter_append, List.reverse_append]
  split <;> simp [*, numbersBelow]

theorem mem_numbers_iff : n ∈ b.numbers plane ↔
    n < b.resolution.width * b.resolution.height ∧ b.bitOf n = plane := by
  simp [numbers, numbersBelow, Resolution.pixelCount]

/-- The numbers of a plane come from the last one down. -/
theorem pairwise_numbers (b : Bitmap) (plane : UInt8) : (b.numbers plane).Pairwise (· > ·) :=
  List.pairwise_reverse.2 (List.pairwise_lt_range.filter _)

theorem nodup_points (b : Bitmap) (plane : UInt8) : (b.points plane).Nodup := by
  have hnumbers : (b.numbers plane).Nodup := (b.pairwise_numbers plane).imp Nat.ne_of_gt
  rw [points_eq]
  exact hnumbers.map (Point.ofNumber_injective _)

/-! ### Planes -/

theorem bitOf_eq_zero_or_one (b : Bitmap) (n : Nat) : b.bitOf n = 0 ∨ b.bitOf n = 1 := by
  rw [bitOf]
  split
  · exact .inr rfl
  · exact .inl rfl

/-- Each number belongs to just one of the two planes. -/
theorem perm_numbers (b : Bitmap) : (b.numbers 0 ++ b.numbers 1).Perm
    (List.range (b.resolution.width * b.resolution.height)) := by
  have hone (n : Nat) : b.bitOf n = 1 ↔ ¬ b.bitOf n = 0 := by
    rcases b.bitOf_eq_zero_or_one n with h | h <;> simp [h]
  simp only [numbers, numbersBelow, hone, decide_not]
  exact ((List.reverse_perm _).append (List.reverse_perm _)).trans (List.filter_append_perm _ _)

theorem points_eq_nil (h₀ : plane ≠ 0) (h₁ : plane ≠ 1) : b.points plane = [] := by
  rw [points_eq, List.map_eq_nil_iff, List.eq_nil_iff_forall_not_mem]
  intro n hn
  obtain ⟨-, rfl⟩ := mem_numbers_iff.1 hn
  rcases b.bitOf_eq_zero_or_one n with h | h
  · exact h₀ h
  · exact h₁ h

end Bitmap

/-! ### Grids -/

namespace Grid

variable {g g' : Grid}

/-- As many points are set as cells are on. -/
theorem length_points_toBitmap (g : Grid) : (g.toBitmap.points 1).length = g.litCount := by
  let cell (p : Point) : Nat × Nat := (p.column, p.row)
  have hcell : Function.Injective cell := by
    rintro ⟨column, row⟩ ⟨column', row'⟩ h
    obtain ⟨rfl, rfl⟩ := Prod.mk.inj h
    rfl
  have hcells : ((g.toBitmap.points 1).map cell).toFinset = g.litCells := by
    ext c
    rw [List.mem_toFinset, mem_litCells_iff, ← mem_points_toBitmap_iff (p := ⟨c.1, c.2⟩),
      ← List.mem_map_of_injective hcell]
  rw [litCount_eq_card, ← hcells,
    List.toFinset_card_of_nodup ((g.toBitmap.nodup_points 1).map hcell), List.length_map]

/-- What is packed can be unpacked, so no two grids are packed alike. -/
theorem toBytes_injective : Function.Injective toBytes := by
  intro g g' h
  have hbitmap : g.toBitmap = g'.toBitmap := by simp only [toBitmap, h]
  apply ext
  intro x y
  rw [Bool.eq_iff_iff, ← mem_points_toBitmap_iff (p := ⟨x, y⟩), hbitmap, mem_points_toBitmap_iff]

end Grid

end ChipEight
