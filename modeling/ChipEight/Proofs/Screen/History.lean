import ChipEight.Proofs.Machine.Commands
import ChipEight.Proofs.Screen.Grid
import Mathlib.Data.List.Basic
import Mathlib.Data.List.Induction

/-!
# Histories of a screen

Drawing never turns a cell off. So all that can be told of a grid is told by what was drawn on it
since it was cleared last, and neither the order of the drawings nor their number counts, though
their collisions may differ. A machine keeps to this as well: until it clears its screen, cells are
only ever added.
-/

namespace ChipEight

namespace Grid

inductive Request where
  | light (x y : Nat)
  | draw (rows : List UInt8) (x y : Nat)
  | clear
  | refresh

def serve (g : Grid) : Request → Grid
  | .light x y     => Surface.light g x y
  | .draw rows x y => (Surface.draw g rows x y).2
  | .clear         => Surface.clear g
  | .refresh       => (Surface.refresh g).2

def serveAll (g : Grid) (requests : List Request) : Grid := requests.foldl serve g

/-- Does a request ask for the cell to be on? There is nothing to turn on off the screen. -/
def Request.Covers : Request → Nat × Nat → Prop
  | .light x y, c     => c = (x, y) ∧ x < Screen.width ∧ y < Screen.height
  | .draw rows x y, c => Sprite.Covers rows x y c
  | .clear, _         => False
  | .refresh, _       => False

variable {g : Grid} {c : Nat × Nat}

/-! ### One request -/

/-- A cell is on behind a request if it is covered, or was on and is not cleared. -/
theorem isLit_serve_iff {r : Request} : (g.serve r).isLit c.1 c.2 = true ↔
    r.Covers c ∨ r ≠ .clear ∧ g.isLit c.1 c.2 = true := by
  cases r with
  | light x y =>
    rw [serve, Request.Covers, or_comm, and_iff_right (by rintro ⟨⟩)]
    exact isLit_light_iff
  | draw rows x y =>
    rw [serve, Request.Covers, or_comm, and_iff_right (by rintro ⟨⟩)]
    exact isLit_draw_iff
  | clear => simp [serve, Request.Covers, Surface.clear]
  | refresh => simp [serve, Request.Covers, Surface.refresh]

/-! ### Many requests -/

theorem serveAll_append (requests requests' : List Request) :
    g.serveAll (requests ++ requests') = (g.serveAll requests).serveAll requests' :=
  List.foldl_append

/-- Without a clearing, cells are added to those that are on and none is taken away. -/
theorem isLit_serveAll_iff {block : List Request} (h : .clear ∉ block) :
    (g.serveAll block).isLit c.1 c.2 = true ↔
      g.isLit c.1 c.2 = true ∨ ∃ r ∈ block, r.Covers c := by
  induction block generalizing g with
  | nil => simp [serveAll]
  | cons r block ih =>
    rw [List.mem_cons, not_or] at h
    rw [serveAll, List.foldl_cons, ← serveAll, ih h.2, isLit_serve_iff, and_iff_right (Ne.symm h.1),
      List.exists_mem_cons_iff, or_assoc, or_left_comm]

/-- A cell that is on was covered, and the screen was not cleared since. -/
theorem exists_covers_of_isLit {requests : List Request}
    (h : (dark.serveAll requests).isLit c.1 c.2 = true) :
    ∃ earlier r later, requests = earlier ++ r :: later ∧ r.Covers c ∧ .clear ∉ later := by
  -- The last request covers the cell, or it was on before and is not a clearing.
  induction requests using List.reverseRecOn with
  | nil => simp [serveAll] at h
  | append_singleton requests r ih =>
    rw [serveAll_append] at h
    rcases isLit_serve_iff.1 h with hcovers | ⟨hclear, h⟩
    · exact ⟨requests, r, [], rfl, hcovers, List.not_mem_nil⟩
    · obtain ⟨earlier, s, later, rfl, hcovers, hlater⟩ := ih h
      refine ⟨earlier, s, later ++ [r], by simp, hcovers, ?_⟩
      simp [hlater, Ne.symm hclear]

/-- A cell that was covered stays on as long as the screen is not cleared. -/
theorem isLit_of_covers {earlier later : List Request} {r : Request} (hcovers : r.Covers c)
    (hlater : .clear ∉ later) : (g.serveAll (earlier ++ r :: later)).isLit c.1 c.2 = true := by
  have hclear : .clear ∉ r :: later := by
    rw [List.mem_cons, not_or]
    refine ⟨?_, hlater⟩
    rintro rfl
    exact hcovers
  rw [serveAll_append, isLit_serveAll_iff hclear]
  exact .inr ⟨r, List.mem_cons_self, hcovers⟩

/-- Only what is drawn between two clearings counts, and not how often or in which order. -/
theorem serveAll_eq_of_mem_iff {block block' : List Request} (hclear : .clear ∉ block)
    (h : ∀ r, r ≠ .refresh → (r ∈ block' ↔ r ∈ block)) : g.serveAll block' = g.serveAll block := by
  have hclear' : .clear ∉ block' := mt (h .clear (by rintro ⟨⟩)).1 hclear
  have hcovers (c : Nat × Nat) : (∃ r ∈ block', r.Covers c) ↔ ∃ r ∈ block, r.Covers c := by
    refine exists_congr fun r => and_congr_left fun hr => h r ?_
    rintro rfl
    exact hr
  apply ext
  intro x y
  rw [Bool.eq_iff_iff]
  exact (isLit_serveAll_iff (c := (x, y)) hclear').trans
    ((or_congr_right (hcovers (x, y))).trans (isLit_serveAll_iff hclear).symm)

end Grid

/-! ### Machines -/

/-- Is something of the machine exchanged by its owner? -/
def Command.isReplace {S : Type} : Command S → Bool
  | .replace .. => true
  | _           => false

namespace Machine

/-- The instructions that are executed on commands. -/
def executed {S : Type} [Surface S] (m : Machine S) : List (Command S) → List Instruction
  | []            => []
  | c :: commands => (m.executed? c).toList ++ executed (m.obey c) commands

variable {m m' : Machine Grid} {x y : Nat}

theorem Executes.isLit {i : Instruction} (h : m.Executes i m') (hi : i ≠ .clear)
    (hlit : m.screen.isLit x y = true) : m'.screen.isLit x y = true := by
  cases h with
  | clear => exact absurd rfl hi
  | draw rows hx hy => exact Grid.isLit_draw_iff (c := (x, y)).2 (.inl hlit)
  | skipIfEqual h | skipIfNotEqual h =>
    rw [skip_eq]
    exact hlit
  | _ => exact hlit

/-- A command that clears nothing turns no cell off. -/
theorem isLit_obey {c : Command Grid} (hc : c.isReplace = false)
    (hclear : m.executed? c ≠ some .clear) (hlit : m.screen.isLit x y = true) :
    (m.obey c).screen.isLit x y = true := by
  cases hi : m.executed? c with
  | some i =>
    have hne : i ≠ .clear := by
      rintro rfl
      exact hclear hi
    have hexecuted := (m.executes i).isLit hne hlit
    rcases obey_of_executed?_eq_some hi with ⟨-, h⟩ | ⟨-, h⟩
    · rw [h]
      exact hexecuted
    · rw [h]
      exact hexecuted
  | none =>
    cases c with
    | execute i => cases hi
    | replace => cases hc
    | step =>
      rcases m.step_cases with hs | ⟨i, hresult, -⟩
      · rw [obey, hs]
        exact hlit
      · rw [executed?, hresult] at hi
        cases hi

theorem isLit_follow {commands : List (Command Grid)}
    (hcommands : ∀ c ∈ commands, c.isReplace = false) (hclear : .clear ∉ m.executed commands)
    (hlit : m.screen.isLit x y = true) : (m.follow commands).screen.isLit x y = true := by
  induction commands generalizing m with
  | nil => exact hlit
  | cons c commands ih =>
    obtain ⟨hc, hcommands⟩ := List.forall_mem_cons.1 hcommands
    rw [executed, List.mem_append, not_or, Option.mem_toList] at hclear
    exact ih hcommands hclear.2 (isLit_obey hc hclear.1 hlit)

end Machine

/-- The screen only adds until it is cleared. Whatever is asked of a grid that was dark at first, a
cell is on at the end if and only if a request covers it that comes after the last clearing. So
requests between two clearings can be made in any other order and any number of times, and none of
them turns a cell off. No more does a machine: as long as the instructions that it executes, in
steps or on command, do not clear the screen, each cell that is on stays on. -/
theorem Grid.lit_iff_covered_since_clear :
    (∀ (requests : List Grid.Request) (x y : Nat), (dark.serveAll requests).isLit x y = true ↔
      ∃ earlier r later, requests = earlier ++ r :: later ∧ r.Covers (x, y) ∧ .clear ∉ later) ∧
    (∀ before block block' after : List Grid.Request, .clear ∉ block →
      (∀ r, r ≠ .refresh → (r ∈ block' ↔ r ∈ block)) →
      dark.serveAll (before ++ block' ++ after) = dark.serveAll (before ++ block ++ after)) ∧
    (∀ (before block : List Grid.Request) (x y : Nat), .clear ∉ block →
      (dark.serveAll before).isLit x y = true →
      (dark.serveAll (before ++ block)).isLit x y = true) ∧
    ∀ (m : Machine Grid) (commands : List (Command Grid)) (x y : Nat),
      (∀ c ∈ commands, c.isReplace = false) → .clear ∉ m.executed commands →
      m.screen.isLit x y = true → (m.follow commands).screen.isLit x y = true := by
  refine ⟨fun requests x y => ⟨exists_covers_of_isLit (c := (x, y)), ?_⟩, ?_, ?_, ?_⟩
  · rintro ⟨earlier, r, later, rfl, hcovers, hlater⟩
    exact isLit_of_covers hcovers hlater
  · intro before block block' after hclear hmem
    rw [serveAll_append, serveAll_append, serveAll_append, serveAll_append,
      serveAll_eq_of_mem_iff hclear hmem]
  · intro before block x y hclear hlit
    rw [serveAll_append]
    exact (isLit_serveAll_iff (c := (x, y)) hclear).2 (.inl hlit)
  · intro m commands x y
    exact Machine.isLit_follow

end ChipEight
