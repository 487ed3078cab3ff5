import ChipEight.Proofs.Screen.Drawing
import ChipEight.Proofs.Screen.History
import ChipEight.Screen.Recorder

/-!
# What a surface is asked to do

A surface need not be ready for every request. A drawing asks it for the covered cells alone, for
one after the other: first whether the cell is off, and then to light it. No machine asks for more
than its drawings do, but for clearings.
-/

namespace ChipEight

namespace Surface.Call

/-- What is asked for a cell that is drawn. -/
def touching (c : Nat × Nat) : List Call := [.query (.cell c.1 c.2), .light c.1 c.2]

/-- A request for one cell of the screen, or for all of them to be turned off. -/
def OnScreen : Call → Prop
  | .light x y    => x < Screen.width ∧ y < Screen.height
  | .query region => ∃ x y, region = .cell x y ∧ x < Screen.width ∧ y < Screen.height
  | .clear        => True
  | .refresh      => False

theorem onScreen_of_mem_touching {c : Nat × Nat} {call : Call} (h : call ∈ touching c)
    (hc : c.1 < Screen.width ∧ c.2 < Screen.height) : call.OnScreen := by
  simp only [touching, List.mem_cons, List.not_mem_nil, or_false] at h
  rcases h with rfl | rfl
  · exact ⟨c.1, c.2, rfl, hc⟩
  · exact hc

end Surface.Call

/-! ### Records -/

namespace Recorder

variable {S : Type} {r r' r'' : Recorder S}

/-- The second recorder has further calls on record, all of them on the screen. -/
def Continues (r r' : Recorder S) : Prop :=
  ∃ made : List Surface.Call,
    r'.calls.toList = r.calls.toList ++ made ∧ ∀ call ∈ made, call.OnScreen

theorem Continues.refl (r : Recorder S) : r.Continues r := ⟨[], by simp, List.forall_mem_nil _⟩

theorem Continues.trans (h : r.Continues r') (h' : r'.Continues r'') : r.Continues r'' := by
  obtain ⟨made, hcalls, hmade⟩ := h
  obtain ⟨made', hcalls', hmade'⟩ := h'
  refine ⟨made ++ made', ?_, List.forall_mem_append.2 ⟨hmade, hmade'⟩⟩
  rw [hcalls', hcalls, List.append_assoc]

variable [Surface S]

theorem calls_clear (r : Recorder S) :
    (Surface.clear r).calls.toList = r.calls.toList ++ [.clear] := by
  simp [Surface.clear, record]

theorem calls_touch (collision : Bool) (r : Recorder S) (c : Nat × Nat) :
    (Surface.touch (collision, r) c).2.calls.toList =
      r.calls.toList ++ Surface.Call.touching c := by
  rw [Surface.touch_eq]
  simp [Surface.query, Surface.light, record, Surface.Call.touching]

/-- Each cell of a sprite makes its own calls, one after the other. -/
theorem calls_foldl_touch (cells : List (Nat × Nat)) (collision : Bool) (r : Recorder S) :
    (cells.foldl Surface.touch (collision, r)).2.calls.toList =
      r.calls.toList ++ cells.flatMap Surface.Call.touching := by
  induction cells generalizing collision r with
  | nil => simp
  | cons c cells ih => rw [List.foldl_cons, ih, calls_touch, List.flatMap_cons, List.append_assoc]

/-- Nothing but the covered cells is touched, in their order. -/
theorem calls_draw (r : Recorder S) (rows : List UInt8) (x y : Nat) :
    (Surface.draw r rows x y).2.calls.toList =
      r.calls.toList ++ (Sprite.cells rows x y).flatMap Surface.Call.touching :=
  calls_foldl_touch _ false r

theorem continues_clear (r : Recorder S) : r.Continues (Surface.clear r) := by
  refine ⟨[.clear], r.calls_clear, ?_⟩
  rw [List.forall_mem_singleton]
  trivial

theorem continues_draw (r : Recorder S) (rows : List UInt8) (x y : Nat) :
    r.Continues (Surface.draw r rows x y).2 := by
  refine ⟨_, calls_draw r rows x y, ?_⟩
  intro call hcall
  obtain ⟨c, hc, hcall⟩ := List.mem_flatMap.1 hcall
  exact Surface.Call.onScreen_of_mem_touching hcall (Sprite.lt_of_mem_cells hc)

end Recorder

/-! ### Machines -/

namespace Machine

variable {S : Type} [Surface S] {m m' : Machine (Recorder S)}

theorem Executes.continues {i : Instruction} (h : m.Executes i m') :
    m.screen.Continues m'.screen := by
  cases h with
  | clear => exact m.screen.continues_clear
  | draw rows hx hy => exact m.screen.continues_draw _ _ _
  | skipIfEqual h | skipIfNotEqual h =>
    rw [skip_eq]
    exact .refl _
  | _ => exact .refl _

theorem continues_obey {c : Command (Recorder S)} (hc : c.isReplace = false) :
    m.screen.Continues (m.obey c).screen := by
  cases c with
  | execute i => exact (m.executes i).continues
  | replace memory registers screen => cases hc
  | step =>
    rcases m.step_cases with h | ⟨i, -, h⟩
    · rw [obey, h]
      exact .refl _
    · rw [obey, h]
      exact (m.executes i).continues

/-- No command but a replacement takes back a call. -/
theorem continues_follow {commands : List (Command (Recorder S))}
    (hcommands : ∀ c ∈ commands, c.isReplace = false) :
    m.screen.Continues (m.follow commands).screen := by
  induction commands generalizing m with
  | nil => exact .refl _
  | cons c commands ih =>
    obtain ⟨hc, hcommands⟩ := List.forall_mem_cons.1 hcommands
    exact (continues_obey hc).trans (ih hcommands)

end Machine

/-- A drawing makes exactly two calls for each cell of the screen that lies under a set bit of the
sprite: it asks whether this cell is off, and then lights it. It goes through the cells row by row
and from left to right, takes none twice, and asks for nothing else. Meanwhile the surface behind
the record becomes what it would have become without one. So whatever a machine executes, in steps
or on command, it asks its screen for cells of the screen only, for one at a time, or to be
cleared. -/
theorem Recorder.draw_touches_covered_cells {S : Type} [Surface S] :
    (∀ (r : Recorder S) (rows : List UInt8) (x y : Nat),
      let drawn := Surface.draw r rows x y
      ∃ cells : List (Nat × Nat),
        drawn.2.calls.toList = r.calls.toList ++ cells.flatMap Surface.Call.touching ∧
        (∀ c, c ∈ cells ↔ Sprite.Covers rows x y c) ∧ cells.Pairwise Sprite.Before ∧
        cells.Nodup ∧ (∀ c ∈ cells, c.1 < 64 ∧ c.2 < 32) ∧
        drawn.1 = (Surface.draw r.surface rows x y).1 ∧
        drawn.2.surface = (Surface.draw r.surface rows x y).2) ∧
    ∀ (m : Machine (Recorder S)) (commands : List (Command (Recorder S))),
      (∀ c ∈ commands, c.isReplace = false) →
      ∃ made : List Surface.Call,
        (m.follow commands).screen.calls.toList = m.screen.calls.toList ++ made ∧
        (∀ x y, .light x y ∈ made → x < 64 ∧ y < 32) ∧ ∀ call ∈ made, call.OnScreen := by
  constructor
  · intro r rows x y drawn
    obtain ⟨hcollision, hsurface⟩ := simulation.draw (rfl : r.surface = r.surface) rows x y
    exact ⟨Sprite.cells rows x y, calls_draw r rows x y, fun _ => Sprite.mem_cells_iff,
      Sprite.pairwise_cells rows x y, Sprite.nodup_cells rows x y,
      fun _ => Sprite.lt_of_mem_cells, hcollision.symm, hsurface⟩
  · intro m commands hcommands
    obtain ⟨made, hcalls, hmade⟩ := Machine.continues_follow (m := m) hcommands
    exact ⟨made, hcalls, fun x y hlight => hmade _ hlight, hmade⟩

end ChipEight
