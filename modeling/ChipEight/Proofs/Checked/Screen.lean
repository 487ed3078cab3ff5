import ChipEight.Proofs.Checked.Access
import ChipEight.Proofs.Screen.Bitmap
import Mathlib.Data.List.Induction
import Mathlib.Data.List.OfFn

/-!
# The grid in arrays

The cells of a grid in an array for each row. A query goes through a rectangle that is cut to the
screen and takes each of its cells to be there; lighting a cell looks whether it is. A drawing asks
for a cell only after its column and its row were found to be on the screen, and packing finds for
each cell the byte that its bit is in.
-/

namespace ChipEight.Checked

structure Rows where
  rows : Array (Array Bool)

namespace Rows

/-! ### What is done to the arrays -/

def light (c : Rows) (x y : Nat) : Rows := ⟨c.rows.modify y fun row => row.modify x fun _ => true⟩

def clear (c : Rows) : Rows := ⟨c.rows.map fun row => row.map fun _ => false⟩

/-- Is a cell off that has to be there? -/
def isOff? (c : Rows) (x y : Nat) : Option Bool := do
  let row ← c.rows[y]?
  return !(← row[x]?)

def isClear? (c : Rows) (r : Region) : Option Bool :=
  (List.range' r.y (min (saturatingAdd r.y r.height) Screen.height - r.y)).allM fun y =>
    (List.range' r.x (min (saturatingAdd r.x r.width) Screen.width - r.x)).allM fun x =>
      c.isOff? x y

/-- Light the cell for bit `i` of row `j`, if the bit is set and there is such a cell. -/
def drawBit? (x y : Nat) (row : UInt8) (j : Nat) (p : Bool × Rows) (i : Nat) :
    Option (Bool × Rows) := do
  let k ← sub? 7 i
  let bits ← shiftRight? row k
  if bits &&& 1 = 1 then
    let column ← add? wordLimit x i
    if column < Screen.width then
      let line ← add? wordLimit y j
      if line < Screen.height then
        let isOff ← p.2.isClear? (.cell column line)
        return (p.1 || !isOff, p.2.light column line)
      else return p
    else return p
  else return p

def draw? (c : Rows) (sprite : List UInt8) (x y : Nat) : Option (Bool × Rows) :=
  sprite.zipIdx.foldlM (fun p (row, j) => (List.range 8).foldlM
    (drawBit? (x % Screen.width) (y % Screen.height) row j) p) (false, c)

/-- Set the bit of a cell that is on, given its place in the order of rows. -/
def packCell? (data : Array UInt8) : Bool × Nat → Option (Array UInt8)
  | (false, _) => some data
  | (true, n)  => do
    let byte ← data[n / 8]?
    let mask ← shiftRight? 0x80 (n % 8)
    set? data (n / 8) (byte ||| mask)

def toBytes? (c : Rows) : Option (Array UInt8) :=
  (c.rows.toList.flatMap Array.toList).zipIdx.foldlM packCell? (.replicate 256 0)

/-! ### The arrays of a grid -/

def ofGrid (g : Grid) : Rows :=
  ⟨.ofFn fun y : Fin 32 => .ofFn fun x : Fin 64 => g.isLit x y⟩

theorem light_ofGrid (g : Grid) (x y : Nat) : (ofGrid g).light x y = ofGrid (g.light x y) := by
  rw [light, ofGrid, ofGrid, Rows.mk.injEq]
  apply Array.ext
  · simp
  · intro j hj hj'
    have hj32 : j < 32 := by simpa using hj'
    rw [Array.getElem_modify, Array.getElem_ofFn, Array.getElem_ofFn]
    apply Array.ext
    · split <;> simp
    · intro i hi hi'
      have hi64 : i < 64 := by simpa using hi'
      rw [Array.getElem_ofFn, Grid.isLit_light]
      by_cases hy : y = j
      · subst hy
        simp only [if_pos, Array.getElem_modify, Array.getElem_ofFn]
        by_cases hx : x = i
        · subst hx
          simp [hi64, hj32]
        · simp [hx, Ne.symm hx]
      · simp [hy, Ne.symm hy]

theorem clear_ofGrid (g : Grid) : (ofGrid g).clear = ofGrid .dark := by
  simp [clear, ofGrid, Function.comp_def]

theorem isOff?_ofGrid (g : Grid) {x y : Nat} (hx : x < Screen.width) (hy : y < Screen.height) :
    (ofGrid g).isOff? x y = some !g.isLit x y := by
  have hx : x < 64 := hx
  have hy : y < 32 := hy
  simp [isOff?, ofGrid, hx, hy]

theorem lt_of_mem_range'_sub {a b i : Nat} (h : i ∈ List.range' a (b - a)) : i < b := by
  have := List.mem_range'_1.1 h
  omega

/-- Only cells on the screen are looked at, whatever the region. -/
theorem isClear?_ofGrid (g : Grid) (r : Region) : (ofGrid g).isClear? r = some (g.isClear r) := by
  rw [isClear?, min_saturatingAdd (by decide), min_saturatingAdd (by decide), Grid.isClear,
    Grid.clipped, Grid.clipped]
  apply allM_eq_some
  intro y hy
  apply allM_eq_some
  intro x hx
  have hy := lt_of_mem_range'_sub hy
  have hx := lt_of_mem_range'_sub hx
  exact isOff?_ofGrid g (by omega) (by omega)

/-! ### Drawing -/

/-- A collision flag and a grid, with the grid in arrays. -/
def view (p : Bool × Grid) : Bool × Rows := (p.1, ofGrid p.2)

theorem drawBit?_view {x y j i : Nat} (hx : x < Screen.width) (hy : y + j < wordLimit)
    (hi : i < 8) (row : UInt8) (p : Bool × Grid) :
    drawBit? x y row j (view p) i =
      some (view (if Sprite.bit row i ∧ x + i < Screen.width ∧ y + j < Screen.height then
        Surface.touch p (x + i, y + j) else p)) := by
  have hbits : row >>> UInt8.ofNat (7 - i) &&& 1 = 1 ↔ Sprite.bit row i = true := by
    rw [UInt8.and_comm, one_and_shiftRight row (by omega), Sprite.bit]
    cases row.toNat.testBit (7 - i) <;> decide
  have hcolumn : x + i < wordLimit := by
    simp only [Screen.width, wordLimit] at hx ⊢
    omega
  rw [drawBit?, sub?_eq_some (by omega), Option.bind_eq_bind, Option.bind_some,
    shiftRight?_eq_some (by omega), Option.bind_eq_bind, Option.bind_some]
  by_cases hbit : Sprite.bit row i = true
  · rw [if_pos (hbits.2 hbit), add?_eq_some hcolumn, Option.bind_eq_bind, Option.bind_some]
    by_cases hwidth : x + i < Screen.width
    · rw [if_pos hwidth, add?_eq_some hy, Option.bind_some]
      by_cases hheight : y + j < Screen.height
      · rw [if_pos hheight, if_pos ⟨hbit, hwidth, hheight⟩, view, isClear?_ofGrid, light_ofGrid]
        rfl
      · rw [if_neg hheight, if_neg fun h => hheight h.2.2]
        rfl
    · rw [if_neg hwidth, if_neg fun h => hwidth h.2.1]
      rfl
  · rw [if_neg (mt hbits.1 hbit), if_neg fun h => hbit h.1]
    rfl

theorem drawRow?_view {x y j : Nat} (hx : x < Screen.width) (hy : y + j < wordLimit)
    (row : UInt8) (p : Bool × Grid) :
    (List.range 8).foldlM (drawBit? x y row j) (view p) =
      some (view ((Sprite.rowCells row x (y + j)).foldl Surface.touch p)) := by
  rw [foldlM_eq_some fun i hi p => drawBit?_view hx hy (List.mem_range.1 hi) row p, Sprite.rowCells]
  by_cases hheight : y + j < Screen.height
  · rw [if_pos hheight, List.foldl_map, List.foldl_filter]
    simp [hheight]
  · rw [if_neg hheight]
    simp [hheight]

/-- A sprite is drawn on the rows as on the grid, from any origin. -/
theorem draw?_ofGrid {sprite : List UInt8} (h : sprite.length < 0x8000000000000000) (g : Grid)
    (x y : Nat) : (ofGrid g).draw? sprite x y = some (view (Surface.draw g sprite x y)) := by
  have hx : x % Screen.width < Screen.width := Nat.mod_lt x (by decide)
  have hy : y % Screen.height < Screen.height := Nat.mod_lt y (by decide)
  have hrow : ∀ r ∈ sprite.zipIdx, ∀ p : Bool × Grid,
      (List.range 8).foldlM (drawBit? (x % Screen.width) (y % Screen.height) r.1 r.2) (view p) =
        some (view ((Sprite.rowCells r.1 (x % Screen.width) (y % Screen.height + r.2)).foldl
          Surface.touch p)) := by
    intro r hr p
    have hlength := List.snd_lt_of_mem_zipIdx hr
    apply drawRow?_view hx
    simp only [Screen.height, wordLimit] at hy ⊢
    omega
  have hview : (false, ofGrid g) = view (false, g) := rfl
  rw [draw?, hview, foldlM_eq_some hrow, Surface.draw, Sprite.cells, List.foldl_flatMap,
    List.zipIdx_eq_map_add (i := y % Screen.height), List.foldl_map]

/-! ### Packing -/

theorem toNat_eq_of_testBit {a b : UInt8}
    (h : ∀ k < 8, a.toNat.testBit (7 - k) = b.toNat.testBit (7 - k)) : a = b := by
  apply UInt8.toNat_inj.1
  apply Nat.eq_of_testBit_eq
  intro k
  by_cases hk : k < 8
  · have hbit := h (7 - k) (by omega)
    rwa [Nat.sub_sub_self (Nat.le_of_lt_succ hk)] at hbit
  · have hlarge (c : UInt8) : c.toNat < 2 ^ k :=
      c.toNat_lt.trans_le (Nat.pow_le_pow_right (by decide) (Nat.le_of_not_lt hk))
    rw [Nat.testBit_lt_two_pow (hlarge a), Nat.testBit_lt_two_pow (hlarge b)]

/-- A byte with one more bit. -/
theorem packByte_or (bits : Nat → Bool) {i : Nat} (hi : i < 8) :
    Grid.packByte bits ||| (0x80 >>> UInt8.ofNat i) =
      Grid.packByte fun k => bits k || decide (k = i) := by
  apply toNat_eq_of_testBit
  intro k hk
  rw [UInt8.toNat_or, Nat.testBit_or, Grid.testBit_packByte _ hk, Grid.testBit_packByte _ hk,
    testBit_high hi hk]
  simp only [eq_comm]

/-- The bytes of a number of cells, with zeros behind them. -/
def packed (cells : List Bool) : Array UInt8 :=
  .ofFn fun k : Fin 256 => Grid.packByte fun i => cells.getD (8 * k + i) false

theorem packed_nil : packed [] = .replicate 256 0 := by
  have hzero : Grid.packByte (fun _ => false) = 0 := by decide
  apply Array.ext
  · simp [packed]
  · intro k hk hk'
    simp [packed, hzero]

theorem getD_concat (cells : List Bool) (b : Bool) (n : Nat) :
    (cells ++ [b]).getD n false = (cells.getD n false || (b && decide (n = cells.length))) := by
  rcases Nat.lt_trichotomy n cells.length with h | rfl | h
  · simp [List.getElem?_append_left h, h.ne]
  · simp
  · have hend : (cells ++ [b]).length ≤ n := by
      rw [List.length_append]
      exact h
    simp [h.le, h.ne', List.getElem?_eq_none hend]

theorem packByte_congr {bits bits' : Nat → Bool} (h : ∀ i < 8, bits i = bits' i) :
    Grid.packByte bits = Grid.packByte bits' := by
  apply toNat_eq_of_testBit
  intro k hk
  rw [Grid.testBit_packByte _ hk, Grid.testBit_packByte _ hk, h k hk]

/-- The bit of the next cell goes into the byte of its place. -/
theorem packCell?_packed {cells : List Bool} (h : cells.length < 2048) (b : Bool) :
    packCell? (packed cells) (b, cells.length) = some (packed (cells ++ [b])) := by
  cases b with
  | false =>
    simp only [packCell?, packed, getD_concat, Bool.false_and, Bool.or_false]
  | true =>
    have hbyte : cells.length / 8 < (packed cells).size := by
      rw [packed, Array.size_ofFn]
      omega
    rw [packCell?, Array.getElem?_eq_getElem hbyte, Option.bind_eq_bind, Option.bind_some,
      shiftRight?_eq_some (Nat.mod_lt _ (by decide)), Option.bind_some, set?_eq_some hbyte]
    refine congrArg some (Array.ext ?_ ?_)
    · simp [packed]
    · intro k hk hk'
      rw [Array.getElem_set]
      simp only [packed, Array.getElem_ofFn]
      split
      case isTrue hbyte =>
        subst hbyte
        rw [packByte_or _ (Nat.mod_lt _ (by decide))]
        apply packByte_congr
        intro i hi
        rw [getD_concat, Bool.true_and]
        congr 2
        simp only [eq_iff_iff]
        omega
      case isFalse hbyte =>
        apply packByte_congr
        intro i hi
        have hne : 8 * k + i ≠ cells.length := by omega
        rw [getD_concat]
        simp [hne]

theorem foldlM_packCell? {cells : List Bool} (h : cells.length ≤ 2048) :
    cells.zipIdx.foldlM packCell? (.replicate 256 0) = some (packed cells) := by
  -- The last cell is split off, since the bytes are those of the cells before it.
  induction cells using List.reverseRecOn with
  | nil => rw [packed_nil]; rfl
  | append_singleton cells b ih =>
    rw [List.length_append] at h
    rw [List.zipIdx_append, List.foldlM_append, ih (by omega), Nat.zero_add, List.zipIdx_cons,
      List.zipIdx_nil, Option.bind_eq_bind, Option.bind_some, List.foldlM_cons,
      packCell?_packed (Nat.lt_of_succ_le h)]
    rfl

/-- The rows in order are the cells of the grid in order. -/
theorem flatMap_rows_ofGrid (g : Grid) :
    (ofGrid g).rows.toList.flatMap Array.toList = g.cells.toList := by
  have hcells : g.cells.toList = List.ofFn fun k : Fin (32 * 64) => g.cells[k.val] := by
    apply List.ext_getElem
    · rw [Vector.length_toList, List.length_ofFn]
    · intro k hk hk'
      rw [Vector.getElem_toList, List.getElem_ofFn]
  rw [hcells, List.ofFn_mul, ofGrid, Array.toList_ofFn, List.flatMap_def, List.map_ofFn]
  refine congrArg List.flatten (congrArg List.ofFn ?_)
  funext y
  rw [Function.comp_apply, Array.toList_ofFn]
  refine congrArg List.ofFn ?_
  funext x
  have hcell : x.val < 64 ∧ y.val < 32 := ⟨x.isLt, y.isLt⟩
  simp only [Grid.isLit, hcell, and_self, dif_pos, Nat.mul_comm]

/-- Each cell of the grid has its bit within the packed bytes. -/
theorem toBytes?_ofGrid (g : Grid) : (ofGrid g).toBytes? = some g.toBytes.toArray := by
  rw [toBytes?, flatMap_rows_ofGrid, foldlM_packCell? (by simp)]
  refine congrArg some (Array.ext ?_ ?_)
  · simp [packed]
  · intro k hk hk'
    simp [packed, Grid.toBytes, Vector.getD]

end Rows

end ChipEight.Checked
