import ChipEight.Screen.Surface

/-!
# Sprites

A sprite is a byte for each row, the high bit leftmost. Its corner wraps around the screen, but
what then reaches over an edge is left out.

Drawing only turns cells on. It collides if one of them was on.
-/

namespace ChipEight

namespace Sprite

/-- Is the bit at column `i` of a row set? -/
def bit (row : UInt8) (i : Nat) : Bool := row.toNat.testBit (7 - i)

/-- The cells that a row covers, from left to right, if it stands at row `y` of the screen. -/
def rowCells (row : UInt8) (x y : Nat) : List (Nat × Nat) :=
  if y < Screen.height then
    ((List.range 8).filter fun i => bit row i && x + i < Screen.width).map fun i => (x + i, y)
  else []

/-- The cells that a sprite covers, row by row. -/
def cells (rows : List UInt8) (x y : Nat) : List (Nat × Nat) :=
  (rows.zipIdx (y % Screen.height)).flatMap fun (row, y) => rowCells row (x % Screen.width) y

end Sprite

namespace Surface

variable {S : Type} [Surface S]

/-- Light a cell, after asking whether it is off. The flag is up from the first cell on that
was not. -/
def touch : Bool × S → Nat × Nat → Bool × S
  | (collision, s), (x, y) =>
    let (isOff, s) := query s (.cell x y)
    (collision || !isOff, light s x y)

/-- Draw a sprite. The flag says whether it collided. -/
def draw (s : S) (rows : List UInt8) (x y : Nat) : Bool × S :=
  (Sprite.cells rows x y).foldl touch (false, s)

end Surface

end ChipEight
