import ChipEight.Numeral.Binary64
import ChipEight.Screen.Grid

/-!
# Bitmaps

A bitmap is a picture of a given resolution, packed row by row with the leftmost pixel in the high
bit. Its points of a plane are the pixels whose bit is that plane's.

On the axes of a plot a column keeps its number and a row is negated, since rows are counted
downward. A coordinate keeps its sign even at zero.
-/

namespace ChipEight

structure Resolution where
  width : Nat
  height : Nat
deriving DecidableEq

def Resolution.pixelCount (r : Resolution) : Nat := r.width * r.height

/-- The resolution of the screen. -/
def Resolution.screen : Resolution := ⟨Screen.width, Screen.height⟩

structure Point where
  column : Nat
  row : Nat
deriving DecidableEq

/-! ### Coordinates -/

structure Coordinate where
  negative : Bool
  magnitude : Nat
deriving DecidableEq

def Coordinate.text (c : Coordinate) : String :=
  (if c.negative then "-" else "") ++ Binary64.wholeText c.magnitude

def Point.x (p : Point) : Coordinate := ⟨false, p.column⟩

def Point.y (p : Point) : Coordinate := ⟨true, p.row⟩

/-- The least and the greatest coordinate of a column. -/
def Resolution.xBounds (r : Resolution) : Coordinate × Coordinate :=
  (⟨false, 0⟩, ⟨false, r.width - 1⟩)

/-- The least and the greatest coordinate of a row. -/
def Resolution.yBounds (r : Resolution) : Coordinate × Coordinate :=
  (⟨true, r.height - 1⟩, ⟨false, 0⟩)

/-! ### Packed pictures -/

structure Bitmap where
  resolution : Resolution
  data : Array UInt8
  enough : resolution.pixelCount ≤ 8 * data.size

namespace Bitmap

/-- The bit of a pixel. -/
def bit (b : Bitmap) (n : Fin b.resolution.pixelCount) : UInt8 :=
  have := b.enough
  have := n.isLt
  1 &&& (b.data[n.val / 8] >>> UInt8.ofNat (7 - n.val % 8))

/-- The pixels of a plane, the last one first. -/
def points (b : Bitmap) (plane : UInt8) : List Point :=
  ((List.finRange b.resolution.pixelCount).reverse.filter fun n => b.bit n = plane).map fun n =>
    ⟨n.val % b.resolution.width, n.val / b.resolution.width⟩

end Bitmap

def Grid.toBitmap (g : Grid) : Bitmap where
  resolution := .screen
  data := g.toBytes.toArray
  enough := by simp [Resolution.pixelCount, Resolution.screen, Screen.width, Screen.height]

end ChipEight
