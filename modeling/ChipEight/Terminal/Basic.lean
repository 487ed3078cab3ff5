import ChipEight.Terminal.Canvas

/-!
# The terminal as a surface

Cells are kept in a grid. Only showing the contents draws a frame, and every frame is kept, the
last one first.
-/

namespace ChipEight

structure Terminal where
  grid : Grid
  frames : List Canvas

namespace Terminal

/-- A terminal on which nothing was shown yet. -/
def opened : Terminal := ⟨.dark, []⟩

instance : Surface Terminal where
  light t x y := { t with grid := t.grid.light x y }
  clear t := { t with grid := .dark }
  query t r := (t.grid.isClear r, t)
  refresh t := (.ok (), { t with frames := .ofGrid t.grid :: t.frames })

/-- The lines on the terminal. -/
def lines (t : Terminal) : List String :=
  match t.frames with
  | []         => []
  | frame :: _ => frame.lines

end Terminal

end ChipEight
