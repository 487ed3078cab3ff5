import ChipEight.Screen.Bitmap

/-!
# What a terminal shows

A frame is a box with a title in its upper edge. Inside it is a canvas of one character for each
cell of the screen, blank until points are plotted on it.

The frame of a grid plots the points of the grid's bitmap that are set.
-/

namespace ChipEight

structure Canvas where
  rows : Vector (Vector Char 64) 32
deriving DecidableEq

namespace Canvas

/-- The character of a plotted point. -/
def mark : Char := '▄'

def blank : Canvas := ⟨.replicate _ (.replicate _ ' ')⟩

/-- A point beyond the canvas leaves no mark. -/
def plot (c : Canvas) (p : Point) : Canvas :=
  if h : p.column < 64 ∧ p.row < 32 then
    ⟨c.rows.set p.row (c.rows[p.row].set p.column mark)⟩
  else c

def ofPoints (points : List Point) : Canvas := points.foldl plot blank

def ofGrid (g : Grid) : Canvas := ofPoints (g.toBitmap.points 1)

/-! ### The box -/

def title : String := "CHIP-8"

/-- A run of the character of a horizontal edge. -/
def edge (n : Nat) : String := String.ofList (List.replicate n '─')

def top : String := "┌" ++ title ++ edge (Screen.width - title.length) ++ "┐"

def bottom : String := "└" ++ edge Screen.width ++ "┘"

/-- The lines of the frame. -/
def lines (c : Canvas) : List String :=
  top :: c.rows.toList.map (fun row => "│" ++ String.ofList row.toList ++ "│") ++ [bottom]

end Canvas

end ChipEight
