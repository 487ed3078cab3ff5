import ChipEight.Proofs.Screen.Grid
import Mathlib.Data.Finset.Prod
import Mathlib.Data.List.Nodup

/-!
# Drawing as a union of sets

A grid is the set of its lit cells, and a sprite at a place is the set of the cells that it covers.
Drawing unites them. The sprite collides if the sets had a cell in common, which is asked cell by
cell while others are already being turned on. It makes no difference, since no cell is touched
twice.
-/

namespace ChipEight

/-! ### Sprites -/

namespace Sprite

/-- The cells under the set bits of a sprite, counted from its wrapped corner, as far as they lie on
the screen. -/
def covered (rows : List UInt8) (x y : Nat) : Finset (Nat × Nat) :=
  ((Finset.range 8 ×ˢ Finset.range rows.length).filter fun p =>
    bit (rows.getD p.2 0) p.1 = true ∧ x % Screen.width + p.1 < Screen.width ∧
      y % Screen.height + p.2 < Screen.height).image
    fun p => (x % Screen.width + p.1, y % Screen.height + p.2)

variable {rows : List UInt8} {x y : Nat} {c : Nat × Nat}

theorem mem_covered_iff : c ∈ covered rows x y ↔ Covers rows x y c := by
  simp only [covered, Finset.mem_image, Finset.mem_filter, Finset.mem_product, Finset.mem_range,
    Prod.exists]
  constructor
  · rintro ⟨i, j, ⟨⟨hi, hj⟩, hbit, hx, hy⟩, rfl⟩
    refine ⟨i, hi, j, rows[j], List.getElem?_eq_getElem hj, ?_, rfl, hx, hy⟩
    simpa [hj] using hbit
  · rintro ⟨i, hi, j, row, hrow, hbit, rfl, hx, hy⟩
    obtain ⟨hj, rfl⟩ := List.getElem?_eq_some_iff.1 hrow
    exact ⟨i, j, ⟨⟨hi, hj⟩, by simpa [hj] using hbit, hx, hy⟩, rfl⟩

/-! ### The order of cells -/

/-- Row by row from the top, and from left to right within a row. -/
def Before (c d : Nat × Nat) : Prop := c.2 < d.2 ∨ c.2 = d.2 ∧ c.1 < d.1

theorem snd_of_mem_rowCells {row : UInt8} (h : c ∈ rowCells row x y) : c.2 = y := by
  obtain ⟨i, -, -, rfl, -⟩ := mem_rowCells_iff.1 h
  rfl

theorem pairwise_rowCells (row : UInt8) (x y : Nat) : (rowCells row x y).Pairwise Before := by
  rw [rowCells]
  split
  · rw [List.pairwise_map]
    apply (List.pairwise_lt_range.filter _).imp
    intro i j hij
    exact .inr ⟨rfl, Nat.add_lt_add_left hij x⟩
  · exact .nil

/-- Later rows of a sprite are lower rows of the screen. -/
theorem pairwise_cells (rows : List UInt8) (x y : Nat) : (cells rows x y).Pairwise Before := by
  rw [cells, List.pairwise_flatMap]
  constructor
  · rintro ⟨row, j⟩ -
    exact pairwise_rowCells row _ j
  · have hrows : (rows.zipIdx (y % Screen.height)).Pairwise fun p q => p.2 < q.2 := by
      apply List.pairwise_map.1
      rw [List.zipIdx_map_snd]
      exact List.pairwise_lt_range'
    apply hrows.imp
    intro p q hpq c hp d hq
    left
    rwa [snd_of_mem_rowCells hp, snd_of_mem_rowCells hq]

/-- A cell does not come before itself, so none is covered twice. -/
theorem nodup_cells (rows : List UInt8) (x y : Nat) : (cells rows x y).Nodup := by
  apply (pairwise_cells rows x y).imp
  rintro c _ h rfl
  rcases h with h | ⟨-, h⟩ <;> exact Nat.lt_irrefl _ h

end Sprite

/-! ### Grids -/

namespace Grid

variable {g : Grid} {x y : Nat}

/-- All cells that are on. -/
def litCells (g : Grid) : Finset (Nat × Nat) :=
  (Finset.range Screen.width ×ˢ Finset.range Screen.height).filter fun c => g.isLit c.1 c.2

@[simp] theorem mem_litCells_iff {c : Nat × Nat} : c ∈ g.litCells ↔ g.isLit c.1 c.2 = true := by
  simp only [litCells, Finset.mem_filter, Finset.mem_product, Finset.mem_range,
    and_iff_right_iff_imp]
  exact lt_of_isLit

/-- The cells row by row, as they are packed. -/
theorem toList_cells (g : Grid) :
    g.cells.toList = (List.range 2048).map fun k => g.isLit (k % 64) (k / 64) := by
  apply List.ext_getElem
  · simp
  · intro k hk _
    rw [Vector.length_toList] at hk
    simp [isLit_eq_getElem hk]

/-- The column and the row of a place in the packed order. -/
def place (k : Nat) : Nat × Nat := (k % 64, k / 64)

theorem place_injective : Function.Injective place := by
  intro j k h
  obtain ⟨hcolumn, hrow⟩ := Prod.mk.inj h
  rw [← Nat.div_add_mod j 64, ← Nat.div_add_mod k 64, hcolumn, hrow]

theorem mem_map_place_iff {c : Nat × Nat} :
    c ∈ ((List.range 2048).filter fun k => g.isLit (k % 64) (k / 64)).map place ↔
      g.isLit c.1 c.2 = true := by
  simp only [List.mem_map, List.mem_filter, List.mem_range, place]
  constructor
  · rintro ⟨k, ⟨-, hlit⟩, rfl⟩
    exact hlit
  · intro hlit
    obtain ⟨hx, hy⟩ : c.1 < 64 ∧ c.2 < 32 := lt_of_isLit hlit
    have hcolumn : (64 * c.2 + c.1) % 64 = c.1 := by omega
    have hrow : (64 * c.2 + c.1) / 64 = c.2 := by omega
    refine ⟨64 * c.2 + c.1, ⟨by omega, ?_⟩, ?_⟩
    · rwa [hcolumn, hrow]
    · rw [hcolumn, hrow]

theorem litCount_eq_card (g : Grid) : g.litCount = g.litCells.card := by
  have hnodup : (((List.range 2048).filter fun k => g.isLit (k % 64) (k / 64)).map place).Nodup :=
    (List.nodup_range.filter _).map place_injective
  have hcells : (((List.range 2048).filter fun k => g.isLit (k % 64) (k / 64)).map place).toFinset =
      g.litCells := by
    ext c
    rw [List.mem_toFinset, mem_map_place_iff, mem_litCells_iff]
  rw [← hcells, List.toFinset_card_of_nodup hnodup, List.length_map, ← List.countP_eq_length_filter,
    litCount, ← Vector.count_toList, toList_cells, List.count, List.countP_map]
  congr
  funext k
  simp

/-! ### Collisions -/

theorem clipped_one (start limit : Nat) :
    clipped start 1 limit = if start < limit then [start] else [] := by
  split
  case isTrue h =>
    have : min (start + 1) limit - start = 1 := by omega
    rw [clipped, this]
    rfl
  case isFalse h =>
    have : min (start + 1) limit - start = 0 := by omega
    rw [clipped, this]
    rfl

/-- A cell on its own is clear if it is not on, off the screen as well. -/
theorem isClear_cell (g : Grid) (x y : Nat) : g.isClear (.cell x y) = !g.isLit x y := by
  simp only [isClear, Region.cell, clipped_one]
  by_cases h : x < Screen.width ∧ y < Screen.height
  · simp [h.1, h.2]
  · have hoff : g.isLit x y = false := Bool.eq_false_iff.2 fun hlit => h (lt_of_isLit hlit)
    rw [hoff]
    by_cases hy : y < Screen.height
    · have hx : ¬ x < Screen.width := fun hx => h ⟨hx, hy⟩
      simp [hx]
    · simp [hy]

/-- If no cell is touched twice, what is already touched does not count. -/
theorem collides_foldl_touch {cells : List (Nat × Nat)} (hcells : cells.Nodup) (g : Grid)
    (collision : Bool) :
    (cells.foldl Surface.touch (collision, g)).1 =
      (collision || cells.any fun c => g.isLit c.1 c.2) := by
  induction cells generalizing g collision with
  | nil => simp
  | cons c cells ih =>
    obtain ⟨x, y⟩ := c
    obtain ⟨hnot, hcells⟩ := List.nodup_cons.1 hcells
    have hquery : (Surface.query g (.cell x y)).1 = !g.isLit x y := g.isClear_cell x y
    have hrest : (cells.any fun c => (g.light x y).isLit c.1 c.2) =
        cells.any fun c => g.isLit c.1 c.2 := by
      rw [Bool.eq_iff_iff, List.any_eq_true, List.any_eq_true]
      refine exists_congr fun c => and_congr_right fun hc => ?_
      rw [isLit_light_iff, or_iff_left]
      rintro ⟨rfl, -⟩
      exact hnot hc
    rw [List.foldl_cons, Surface.touch_eq, ih hcells, hquery, Bool.not_not, List.any_cons,
      ← Bool.or_assoc]
    exact congrArg _ hrest

/-- A sprite collides just if it covers a cell that was on. -/
theorem draw_collides_iff {rows : List UInt8} : (Surface.draw g rows x y).1 = true ↔
    ∃ c ∈ Sprite.covered rows x y, g.isLit c.1 c.2 = true := by
  rw [Surface.draw, collides_foldl_touch (Sprite.nodup_cells rows x y), Bool.false_or,
    List.any_eq_true]
  simp only [Sprite.mem_cells_iff, Sprite.mem_covered_iff]

/-- The cells that are on behind a draw are those before it and those covered. -/
theorem litCells_draw (g : Grid) (rows : List UInt8) (x y : Nat) :
    (Surface.draw g rows x y).2.litCells = g.litCells ∪ Sprite.covered rows x y := by
  ext c
  rw [mem_litCells_iff, isLit_draw_iff, Finset.mem_union, mem_litCells_iff, Sprite.mem_covered_iff]

/-- Drawing a sprite unites the cells that are on with those that the sprite covers, wherever its
corner is and however many rows it has. It collides exactly if one of the latter was on before, and
the number of lit cells grows by the number of those that were not. -/
theorem draw_unites_sprite (g : Grid) (rows : List UInt8) (x y : Nat) :
    let drawn := Surface.draw g rows x y
    let sprite := Sprite.covered rows x y
    (∀ c : Nat × Nat, drawn.2.isLit c.1 c.2 = true ↔ g.isLit c.1 c.2 = true ∨ c ∈ sprite) ∧
      (drawn.1 = true ↔ ∃ c ∈ sprite, g.isLit c.1 c.2 = true) ∧
      drawn.2.litCount =
        g.litCount + (sprite.card - (sprite.filter fun c => g.isLit c.1 c.2).card) := by
  intro drawn sprite
  refine ⟨?_, draw_collides_iff, ?_⟩
  · intro c
    rw [← mem_litCells_iff, litCells_draw, Finset.mem_union, mem_litCells_iff]
  · have hboth : sprite.filter (fun c => g.isLit c.1 c.2) = g.litCells ∩ sprite := by
      ext c
      rw [Finset.mem_filter, Finset.mem_inter, mem_litCells_iff, and_comm]
    have hcount := Finset.card_union_add_card_inter g.litCells sprite
    have hle : (g.litCells ∩ sprite).card ≤ sprite.card :=
      Finset.card_le_card Finset.inter_subset_right
    have hcells : drawn.2.litCells = g.litCells ∪ sprite := litCells_draw g rows x y
    rw [litCount_eq_card, litCount_eq_card, hcells, hboth]
    omega

end Grid

end ChipEight
