import ChipEight.Proofs.Screen.Simulation
import ChipEight.Screen.Grid

/-!
# Drawing on the grid

A grid is known by the cells that are on. Drawing a sprite turns on the cells that it covers: those
that one of its set bits reaches from the wrapped corner without leaving the screen.
-/

namespace ChipEight

/-! ### What a sprite covers -/

namespace Sprite

/-- A bit set in column `i` of row `j` lies over a cell of the screen. -/
def Covers (rows : List UInt8) (x y : Nat) (c : Nat × Nat) : Prop :=
  ∃ i < 8, ∃ j row, rows[j]? = some row ∧ bit row i = true ∧
    c = (x % Screen.width + i, y % Screen.height + j) ∧ c.1 < Screen.width ∧ c.2 < Screen.height

theorem mem_rowCells_iff {row : UInt8} {x y : Nat} {c : Nat × Nat} : c ∈ rowCells row x y ↔
    ∃ i < 8, bit row i = true ∧ c = (x + i, y) ∧ c.1 < Screen.width ∧ c.2 < Screen.height := by
  rw [rowCells]
  split
  case isTrue hy =>
    simp only [List.mem_map, List.mem_filter, List.mem_range, Bool.and_eq_true, decide_eq_true_eq]
    constructor
    · rintro ⟨i, ⟨hi, hbit, hx⟩, rfl⟩
      exact ⟨i, hi, hbit, rfl, hx, hy⟩
    · rintro ⟨i, hi, hbit, rfl, hx, -⟩
      exact ⟨i, ⟨hi, hbit, hx⟩, rfl⟩
  case isFalse hy =>
    constructor
    · intro hc
      cases hc
    · rintro ⟨i, -, -, rfl, -, hy'⟩
      exact absurd hy' hy

/-- The cells of a sprite are those that it covers. -/
theorem mem_cells_iff {rows : List UInt8} {x y : Nat} {c : Nat × Nat} :
    c ∈ cells rows x y ↔ Covers rows x y c := by
  simp only [cells, List.mem_flatMap, Prod.exists, mem_rowCells_iff,
    List.mk_mem_zipIdx_iff_le_and_getElem?_sub]
  constructor
  · rintro ⟨row, k, ⟨hk, hrow⟩, i, hi, hbit, rfl, hx, hy⟩
    refine ⟨i, hi, k - y % Screen.height, row, hrow, hbit, ?_, hx, hy⟩
    rw [Nat.add_sub_cancel' hk]
  · rintro ⟨i, hi, j, row, hrow, hbit, rfl, hx, hy⟩
    refine ⟨row, y % Screen.height + j, ⟨Nat.le_add_right _ _, ?_⟩, i, hi, hbit, rfl, hx, hy⟩
    rw [Nat.add_sub_cancel_left]
    exact hrow

end Sprite

namespace Grid

/-! ### Cell by cell -/

theorem isLit_eq_getElem {g : Grid} {k : Nat} (hk : k < 2048) :
    g.isLit (k % 64) (k / 64) = g.cells[k] := by
  have h : k % 64 < 64 ∧ k / 64 < 32 := by omega
  simp only [isLit, h, and_self, dif_pos, Nat.div_add_mod]

/-- Grids are equal if the same cells are on. -/
theorem ext {g g' : Grid} (h : ∀ x y, g.isLit x y = g'.isLit x y) : g = g' := by
  obtain ⟨cells⟩ := g
  obtain ⟨cells'⟩ := g'
  congr 1
  apply Vector.ext
  intro k hk
  have hcell := h (k % 64) (k / 64)
  rwa [isLit_eq_getElem hk, isLit_eq_getElem hk] at hcell

theorem isLit_light_iff {g : Grid} {x y : Nat} {c : Nat × Nat} :
    (g.light x y).isLit c.1 c.2 = true ↔
      g.isLit c.1 c.2 = true ∨ c = (x, y) ∧ x < Screen.width ∧ y < Screen.height := by
  rw [isLit_light]
  simp [Prod.ext_iff, Screen.width, Screen.height]

/-- Off the screen nothing is on. -/
theorem lt_of_isLit {g : Grid} {x y : Nat} (h : g.isLit x y = true) :
    x < Screen.width ∧ y < Screen.height := by
  rw [isLit] at h
  split at h
  case isTrue hxy => exact hxy
  case isFalse => cases h

/-! ### Drawing -/

/-- Touching a cell of a grid leaves no other mark than its light. -/
theorem foldl_touch (g : Grid) (cells : List (Nat × Nat)) (collision : Bool) :
    (cells.foldl Surface.touch (collision, g)).2 = cells.foldl (fun g c => g.light c.1 c.2) g := by
  induction cells generalizing g collision with
  | nil => rfl
  | cons c cells ih => exact ih _ _

/-- Cells that are turned on are on, and the others are as they were. -/
theorem isLit_foldl_light {g : Grid} {cells : List (Nat × Nat)}
    (hcells : ∀ c ∈ cells, c.1 < Screen.width ∧ c.2 < Screen.height) (c : Nat × Nat) :
    (cells.foldl (fun g c => g.light c.1 c.2) g).isLit c.1 c.2 = true ↔
      g.isLit c.1 c.2 = true ∨ c ∈ cells := by
  induction cells generalizing g with
  | nil => simp
  | cons d cells ih =>
    obtain ⟨hd, hcells⟩ := List.forall_mem_cons.1 hcells
    rw [List.foldl_cons, ih hcells, isLit_light_iff, List.mem_cons, and_iff_left hd, or_assoc]

/-- A drawing adds the cells that the sprite covers, and takes none away. -/
theorem isLit_draw_iff {g : Grid} {rows : List UInt8} {x y : Nat} {c : Nat × Nat} :
    (Surface.draw g rows x y).2.isLit c.1 c.2 = true ↔
      g.isLit c.1 c.2 = true ∨ Sprite.Covers rows x y c := by
  rw [Surface.draw, foldl_touch, isLit_foldl_light fun _ => Sprite.lt_of_mem_cells,
    Sprite.mem_cells_iff]

end Grid

end ChipEight
