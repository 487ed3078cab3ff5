import ChipEight.Screen.Recorder
import ChipEight.Screen.Sprite
import Mathlib.Tactic.Common

/-!
# Surfaces that look alike

A simulation relates surfaces of two kinds, so that related surfaces tell alike of each cell of the
screen whether it is off, and stay related when one cell is lit or all are turned off. Nothing is
asked of cells off the screen, of larger rectangles, or of showing the contents.

Drawing needs no more: related surfaces collide alike with a sprite and stay related, whatever the
sprite and wherever it stands.
-/

namespace ChipEight

/-! ### Covered cells -/

/-- A sprite covers no cell off the screen. -/
theorem Sprite.lt_of_mem_cells {rows : List UInt8} {x y : Nat} {c : Nat × Nat}
    (h : c ∈ cells rows x y) : c.1 < Screen.width ∧ c.2 < Screen.height := by
  obtain ⟨⟨row, j⟩, -, hc⟩ := List.mem_flatMap.1 h
  dsimp only [rowCells] at hc
  split at hc
  case isTrue hj =>
    obtain ⟨i, hi, rfl⟩ := List.mem_map.1 hc
    have hi := (List.mem_filter.1 hi).2
    rw [Bool.and_eq_true, decide_eq_true_eq] at hi
    exact ⟨hi.2, hj⟩
  case isFalse => cases hc

namespace Surface

variable {S T : Type} [Surface S] [Surface T] {R : S → T → Prop}

/-! ### Simulations -/

/-- What related surfaces have in common. A query may leave a mark, if it keeps them related. -/
structure Simulation (R : S → T → Prop) : Prop where
  light {s t x y} (h : R s t) (hx : x < Screen.width) (hy : y < Screen.height) :
    R (light s x y) (light t x y)
  clear {s t} (h : R s t) : R (clear s) (clear t)
  answer_eq {s t x y} (h : R s t) (hx : x < Screen.width) (hy : y < Screen.height) :
    (query t (.cell x y)).1 = (query s (.cell x y)).1
  query {s t x y} (h : R s t) (hx : x < Screen.width) (hy : y < Screen.height) :
    R (query s (.cell x y)).2 (query t (.cell x y)).2

theorem simulation_eq : Simulation (Eq : S → S → Prop) where
  light h _ _ := by rw [h]
  clear h := by rw [h]
  answer_eq h _ _ := by rw [h]
  query h _ _ := by rw [h]

/-! ### Drawing -/

theorem touch_eq (collision : Bool) (s : S) (x y : Nat) : touch (collision, s) (x, y) =
    (collision || !(query s (.cell x y)).1, light (query s (.cell x y)).2 x y) := rfl

/-- Cells of the screen may be touched one after the other. -/
theorem Simulation.foldl_touch (hR : Simulation R) {s : S} {t : T} (h : R s t)
    {cells : List (Nat × Nat)} (hcells : ∀ c ∈ cells, c.1 < Screen.width ∧ c.2 < Screen.height)
    (collision : Bool) :
    (cells.foldl touch (collision, t)).1 = (cells.foldl touch (collision, s)).1 ∧
      R (cells.foldl touch (collision, s)).2 (cells.foldl touch (collision, t)).2 := by
  induction cells generalizing collision s t with
  | nil => exact ⟨rfl, h⟩
  | cons c cells ih =>
    obtain ⟨x, y⟩ := c
    obtain ⟨⟨hx, hy⟩, hcells⟩ := List.forall_mem_cons.1 hcells
    rw [List.foldl_cons, List.foldl_cons, touch_eq, touch_eq, hR.answer_eq h hx hy]
    exact ih (hR.light (hR.query h hx hy) hx hy) hcells _

theorem Simulation.draw (hR : Simulation R) {s : S} {t : T} (h : R s t) (rows : List UInt8)
    (x y : Nat) : (draw t rows x y).1 = (draw s rows x y).1 ∧
      R (draw s rows x y).2 (draw t rows x y).2 :=
  hR.foldl_touch h (fun _ => Sprite.lt_of_mem_cells) false

end Surface

/-! ### Recorders -/

/-- A recorder looks like the surface that it leaves the work to. -/
theorem Recorder.simulation {S : Type} [Surface S] :
    Surface.Simulation fun (r : Recorder S) (s : S) => r.surface = s where
  light h _ _ := by subst h; rfl
  clear h := by subst h; rfl
  answer_eq h _ _ := by subst h; rfl
  query h _ _ := by subst h; rfl

end ChipEight
