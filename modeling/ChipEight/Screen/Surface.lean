import ChipEight.Device

/-!
# Drawing surfaces

The screen has 64 by 32 cells. A surface is whatever can light one of them, turn all of them off,
tell whether a rectangle is off, and show its contents to someone. A query may leave a mark on the
surface, as one that keeps count would.
-/

namespace ChipEight

namespace Screen

def width : Nat := 64

def height : Nat := 32

end Screen

/-- A rectangle of cells, which may reach beyond the screen. -/
structure Region where
  x : Nat
  y : Nat
  width : Nat
  height : Nat
deriving DecidableEq

/-- The rectangle of one cell. -/
def Region.cell (x y : Nat) : Region := ⟨x, y, 1, 1⟩

class Surface (S : Type) where
  /-- Turn a cell on. -/
  light : S → Nat → Nat → S
  /-- Turn every cell off. -/
  clear : S → S
  /-- Is every cell of the rectangle off? -/
  query : S → Region → Bool × S
  /-- Show the contents as they are. -/
  refresh : S → Except DeviceFault Unit × S

end ChipEight
