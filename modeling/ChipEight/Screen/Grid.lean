import ChipEight.Screen.Sprite

/-!
# The grid

The plainest surface is a grid of cells in memory. What is off the screen is never on.

A grid is packed into bytes row by row, eight cells each, the leftmost in the high bit.
-/

namespace ChipEight

structure Grid where
  cells : Vector Bool 2048
deriving DecidableEq

namespace Grid

def dark : Grid := ⟨.replicate _ false⟩

def isLit (g : Grid) (x y : Nat) : Bool :=
  if h : x < 64 ∧ y < 32 then g.cells[64 * y + x] else false

def light (g : Grid) (x y : Nat) : Grid :=
  if h : x < 64 ∧ y < 32 then ⟨g.cells.set (64 * y + x) true⟩ else g

/-- The part of `length` places from `start` on that lies before `limit`. -/
def clipped (start length limit : Nat) : List Nat :=
  List.range' start (min (start + length) limit - start)

/-- Is every cell of the rectangle off? -/
def isClear (g : Grid) (r : Region) : Bool :=
  (clipped r.y r.height Screen.height).all fun y =>
    (clipped r.x r.width Screen.width).all fun x => !g.isLit x y

instance : Surface Grid where
  light := light
  clear _ := dark
  query g r := (g.isClear r, g)
  refresh g := (.ok (), g)

def litCount (g : Grid) : Nat := g.cells.count true

/-! ### Packing -/

/-- The byte of eight bits, the first one high. -/
def packByte (bits : Nat → Bool) : UInt8 :=
  (List.range 8).foldl (fun b i => if bits i then b ||| (0x80 >>> UInt8.ofNat i) else b) 0

def toBytes (g : Grid) : Vector UInt8 256 :=
  .ofFn fun k => packByte fun i => g.cells.getD (8 * k + i) false

/-! ### Single cells -/

@[simp] theorem isLit_dark (x y : Nat) : dark.isLit x y = false := by simp [dark, isLit]

theorem isLit_light (g : Grid) (x y x' y' : Nat) :
    (g.light x y).isLit x' y' =
      (g.isLit x' y' || (decide (x' = x ∧ y' = y) && decide (x < 64 ∧ y < 32))) := by
  by_cases h : x < 64 ∧ y < 32
  · by_cases h' : x' < 64 ∧ y' < 32
    · by_cases e : x' = x ∧ y' = y
      · simp [light, isLit, h, e]
      · have : 64 * y + x ≠ 64 * y' + x' := by omega
        simp [light, isLit, h, h', e, Vector.getElem_set_ne, this]
    · have : ¬ (x' = x ∧ y' = y) := by omega
      simp [isLit, h', this]
  · simp [light, h]

end Grid

end ChipEight
