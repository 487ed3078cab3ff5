import ChipEight.Proofs.Screen.Bitmap
import ChipEight.Terminal.Canvas

/-!
# Frames and grids

The cells of a grid that are on are painted as coordinates on the axes of a plot. Whatever paints
them, if it only leaves a mark in the column and the row that a pair of coordinates stands for and
blanks elsewhere, its frame shows the grid cell by cell. So grids that differ have different frames.

The canvas paints in this way, inside a box of one character all around.
-/

namespace ChipEight

/-! ### Coordinates -/

/-- The number that a coordinate stands for. -/
def Coordinate.value (c : Coordinate) : Int :=
  if c.negative then -c.magnitude else c.magnitude

theorem Coordinate.natAbs_value (c : Coordinate) : c.value.natAbs = c.magnitude := by
  rw [value]
  split <;> omega

theorem Point.value_x (p : Point) : p.x.value = p.column := rfl

theorem Point.value_y (p : Point) : p.y.value = -p.row := rfl

/-- Within the bounds of both axes. -/
def Resolution.Bounds (r : Resolution) (c : Coordinate × Coordinate) : Prop :=
  (r.xBounds.1.value ≤ c.1.value ∧ c.1.value ≤ r.xBounds.2.value) ∧
    r.yBounds.1.value ≤ c.2.value ∧ c.2.value ≤ r.yBounds.2.value

theorem Resolution.bounds_screen_iff {c : Coordinate × Coordinate} : screen.Bounds c ↔
    (0 ≤ c.1.value ∧ c.1.value ≤ 63) ∧ -31 ≤ c.2.value ∧ c.2.value ≤ 0 := Iff.rfl

/-- The coordinates that are painted for a grid. -/
def Grid.coordinates (g : Grid) : List (Coordinate × Coordinate) :=
  (g.toBitmap.points 1).map fun p => (p.x, p.y)

namespace Canvas

/-- The canvas with the points that coordinates stand for. -/
def ofCoordinates (coordinates : List (Coordinate × Coordinate)) : Canvas :=
  ofPoints (coordinates.map fun c => ⟨c.1.magnitude, c.2.magnitude⟩)

theorem ofGrid_eq (g : Grid) : ofGrid g = ofCoordinates g.coordinates := by
  rw [ofGrid, ofCoordinates, Grid.coordinates, List.map_map]
  exact congrArg ofPoints (List.map_id _).symm

/-! ### Painting -/

/-- The character at a column and a row inside the box of a frame. -/
def inside? (lines : List String) (x y : Nat) : Option Char :=
  lines[y + 1]?.bind fun line => line.toList[x + 1]?

/-- A pair of coordinates within the bounds leaves a mark, and there is nothing else. -/
def Paints (paint : List (Coordinate × Coordinate) → List String) : Prop :=
  ∀ coordinates, (∀ c ∈ coordinates, Resolution.screen.Bounds c) →
    ∀ x y : Nat, x < Screen.width → y < Screen.height →
      inside? (paint coordinates) x y =
        some (if ∃ c ∈ coordinates, c.1.value = x ∧ c.2.value = -y then mark else ' ')

end Canvas

namespace Grid

variable {g : Grid}

theorem bounds_of_mem_coordinates {c : Coordinate × Coordinate} (h : c ∈ g.coordinates) :
    Resolution.screen.Bounds c := by
  obtain ⟨p, hp, rfl⟩ := List.mem_map.1 h
  obtain ⟨hx, hy⟩ : p.column < 64 ∧ p.row < 32 := lt_of_isLit (mem_points_toBitmap_iff.1 hp)
  rw [Resolution.bounds_screen_iff, Point.value_x, Point.value_y]
  omega

/-- The cells that are on are those with coordinates. -/
theorem exists_mem_coordinates_iff {x y : Nat} :
    (∃ c ∈ g.coordinates, c.1.value = x ∧ c.2.value = -y) ↔ g.isLit x y = true := by
  constructor
  · rintro ⟨c, hc, hx, hy⟩
    obtain ⟨p, hp, rfl⟩ := List.mem_map.1 hc
    rw [Point.value_x] at hx
    rw [Point.value_y] at hy
    obtain rfl : p.column = x := by omega
    obtain rfl : p.row = y := by omega
    exact mem_points_toBitmap_iff.1 hp
  · intro h
    have hp : ⟨x, y⟩ ∈ g.toBitmap.points 1 := mem_points_toBitmap_iff.2 h
    exact ⟨_, List.mem_map_of_mem hp, rfl, rfl⟩

end Grid

namespace Canvas

/-- Frames that show grids cell by cell, and so tell them apart. -/
structure Shows (frame : Grid → List String) : Prop where
  inside?_eq (g : Grid) {x y : Nat} (hx : x < Screen.width) (hy : y < Screen.height) :
    inside? (frame g) x y = some (if g.isLit x y then mark else ' ')
  eq_iff (g g' : Grid) : frame g = frame g' ↔ g = g'

variable {paint : List (Coordinate × Coordinate) → List String} {g g' : Grid} {x y : Nat}

/-- What paints coordinates shows each cell of a grid. -/
theorem Paints.inside?_eq (h : Paints paint) (g : Grid) (hx : x < 64) (hy : y < 32) :
    inside? (paint g.coordinates) x y = some (if g.isLit x y then mark else ' ') := by
  rw [h g.coordinates (fun _ => Grid.bounds_of_mem_coordinates) x y hx hy]
  simp only [Grid.exists_mem_coordinates_iff]

theorem Paints.isLit_of_paint_eq (h : Paints paint)
    (heq : paint g.coordinates = paint g'.coordinates) (hlit : g.isLit x y = true) :
    g'.isLit x y = true := by
  obtain ⟨hx, hy⟩ := Grid.lt_of_isLit hlit
  have hcell := h.inside?_eq g hx hy
  rw [heq, h.inside?_eq g' hx hy, if_pos hlit, Option.some_inj] at hcell
  by_contra hoff
  rw [if_neg hoff] at hcell
  exact absurd hcell (by decide)

/-- So it tells any two grids apart. -/
theorem Paints.shows (h : Paints paint) : Shows fun g => paint g.coordinates where
  inside?_eq g _ _ := h.inside?_eq g
  eq_iff g g' := by
    constructor
    · intro heq
      apply Grid.ext
      intro x y
      rw [Bool.eq_iff_iff]
      exact ⟨h.isLit_of_paint_eq heq, h.isLit_of_paint_eq heq.symm⟩
    · rintro rfl
      rfl

/-! ### The canvas -/

theorem getElem_plot (c : Canvas) (p : Point) (hx : x < 64) (hy : y < 32) :
    (c.plot p).rows[y][x] = if p = ⟨x, y⟩ then mark else c.rows[y][x] := by
  obtain ⟨column, row⟩ := p
  by_cases h : column < 64 ∧ row < 32
  · by_cases hrow : row = y
    · subst hrow
      simp [plot, h, Vector.getElem_set]
    · simp [plot, h, hrow, Vector.getElem_set_ne]
  · have hne : ¬ (column = x ∧ row = y) := by omega
    simp [plot, h, hne]

theorem getElem_foldl_plot (c : Canvas) (points : List Point) (hx : x < 64) (hy : y < 32) :
    (points.foldl plot c).rows[y][x] = if ⟨x, y⟩ ∈ points then mark else c.rows[y][x] := by
  induction points generalizing c with
  | nil => simp
  | cons p points ih =>
    rw [List.foldl_cons, ih, getElem_plot _ _ hx hy]
    by_cases h : ⟨x, y⟩ ∈ points
    · simp [h]
    · simp [h, eq_comm]

/-- Inside the box of a frame stand the cells of the canvas. -/
theorem inside?_lines (c : Canvas) (hx : x < 64) (hy : y < 32) :
    inside? c.lines x y = some c.rows[y][x] := by
  have hrow : c.lines[y + 1]? = some ("│" ++ String.ofList c.rows[y].toList ++ "│") := by
    rw [lines, List.cons_append, List.getElem?_cons_succ, List.getElem?_append_left (by simpa),
      List.getElem?_map, Vector.getElem?_toList, Vector.getElem?_eq_getElem hy, Option.map_some]
  have htext : ("│" ++ String.ofList c.rows[y].toList ++ "│").toList =
      '│' :: (c.rows[y].toList ++ ['│']) := by simp
  rw [inside?, hrow, Option.bind_some, htext, List.getElem?_cons_succ,
    List.getElem?_append_left (by simpa), Vector.getElem?_toList, Vector.getElem?_eq_getElem hx]

/-- The canvas paints coordinates. -/
theorem paints_ofCoordinates : Paints fun coordinates => (ofCoordinates coordinates).lines := by
  intro coordinates hbounds x y hx hy
  have hmem : ⟨x, y⟩ ∈ coordinates.map (fun c => Point.mk c.1.magnitude c.2.magnitude) ↔
      ∃ c ∈ coordinates, c.1.value = x ∧ c.2.value = -y := by
    simp only [List.mem_map, Point.mk.injEq, ← Coordinate.natAbs_value]
    refine exists_congr fun c => and_congr_right fun hc => ?_
    have hc := Resolution.bounds_screen_iff.1 (hbounds c hc)
    omega
  rw [inside?_lines _ hx hy, ofCoordinates, ofPoints, getElem_foldl_plot _ _ hx hy]
  simp only [hmem]
  simp [blank]

/-- The frames of the canvas show the grid cell by cell, and tell any two grids apart. -/
theorem shows_ofGrid : Shows fun g => (ofGrid g).lines := by
  simp only [ofGrid_eq]
  exact paints_ofCoordinates.shows

end Canvas

end ChipEight
