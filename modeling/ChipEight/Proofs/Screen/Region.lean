import ChipEight.Proofs.Checked.Screen
import ChipEight.Proofs.Screen.Drawing

/-!
# Rectangles of the grid

A rectangle may begin anywhere and reach as far as it likes. A query cuts it to the screen and goes
through what is left, cell by cell. Nothing is lit off the screen, so the cut makes no difference:
the answer is about all cells of the rectangle, and follows from the answers about any two
rectangles that cover it.
-/

namespace ChipEight

/-! ### The cells of a rectangle -/

namespace Region

/-- A column and a row that a rectangle reaches, on the screen or off it. -/
def Contains (r : Region) (c : Nat × Nat) : Prop :=
  (r.x ≤ c.1 ∧ c.1 < r.x + r.width) ∧ r.y ≤ c.2 ∧ c.2 < r.y + r.height

variable {c : Nat × Nat}

/-- A rectangle side by side with another. -/
theorem contains_columns_iff {x y k l height : Nat} : Contains ⟨x, y, k + l, height⟩ c ↔
    Contains ⟨x, y, k, height⟩ c ∨ Contains ⟨x + k, y, l, height⟩ c := by
  simp only [Contains]
  omega

/-- A rectangle on top of another. -/
theorem contains_rows_iff {x y width k l : Nat} : Contains ⟨x, y, width, k + l⟩ c ↔
    Contains ⟨x, y, width, k⟩ c ∨ Contains ⟨x, y + k, width, l⟩ c := by
  simp only [Contains]
  omega

end Region

/-! ### Queries -/

namespace Grid

variable {g : Grid} {r r₁ r₂ : Region}

theorem mem_clipped_iff {k start length limit : Nat} :
    k ∈ clipped start length limit ↔ (start ≤ k ∧ k < start + length) ∧ k < limit := by
  rw [clipped, List.mem_range'_1]
  omega

/-- A region is clear just if it contains no cell that is on. -/
theorem isClear_iff :
    g.isClear r = true ↔ ∀ c : Nat × Nat, g.isLit c.1 c.2 = true → ¬ r.Contains c := by
  simp only [isClear, List.all_eq_true, mem_clipped_iff, Bool.not_eq_true']
  constructor
  · rintro hclear ⟨a, b⟩ hlit ⟨ha, hb⟩
    -- A lit cell is not among those that are cut off.
    obtain ⟨hwidth, hheight⟩ := lt_of_isLit hlit
    rw [hclear b ⟨hb, hheight⟩ a ⟨ha, hwidth⟩] at hlit
    cases hlit
  · rintro hclear b ⟨hb, -⟩ a ⟨ha, -⟩
    exact Bool.eq_false_iff.2 fun hlit => hclear (a, b) hlit ⟨ha, hb⟩

/-- Rectangles that cover another one answer for it. -/
theorem isClear_eq_and (h : ∀ c, r.Contains c ↔ r₁.Contains c ∨ r₂.Contains c) :
    g.isClear r = (g.isClear r₁ && g.isClear r₂) := by
  rw [Bool.eq_iff_iff, Bool.and_eq_true, isClear_iff, isClear_iff, isClear_iff]
  simp only [h, not_or, imp_and, forall_and]

theorem isClear_of_not_contains
    (h : ∀ c : Nat × Nat, c.1 < Screen.width → c.2 < Screen.height → ¬ r.Contains c) :
    g.isClear r = true := by
  rw [isClear_iff]
  intro c hlit
  obtain ⟨hwidth, hheight⟩ := lt_of_isLit hlit
  exact h c hwidth hheight

/-- A query is exact for every rectangle, whatever its corner and its size. It never goes out of
range, though its sums stop at the last machine word and each cell that it looks at has to be there.
A rectangle is clear if none of the lit cells lies in it, which is so if it is empty or wholly off
the screen. A single cell is clear if it is not lit. Two rectangles that cover a third are clear if
that is, and so are the parts that a cut between two columns or two rows leaves. -/
theorem query_is_exact (g : Grid) (r : Region) :
    (Checked.Rows.ofGrid g).isClear? r = some (g.isClear r) ∧
    (g.isClear r = true ↔ ∀ c : Nat × Nat, g.isLit c.1 c.2 = true → ¬ r.Contains c) ∧
    (r.width = 0 ∨ r.height = 0 ∨ Screen.width ≤ r.x ∨ Screen.height ≤ r.y →
      g.isClear r = true) ∧
    (∀ x y, g.isClear (.cell x y) = !g.isLit x y) ∧
    (∀ r₁ r₂ : Region, (∀ c, r.Contains c ↔ r₁.Contains c ∨ r₂.Contains c) →
      g.isClear r = (g.isClear r₁ && g.isClear r₂)) ∧
    ∀ x y k l size,
      g.isClear ⟨x, y, k + l, size⟩ =
        (g.isClear ⟨x, y, k, size⟩ && g.isClear ⟨x + k, y, l, size⟩) ∧
      g.isClear ⟨x, y, size, k + l⟩ =
        (g.isClear ⟨x, y, size, k⟩ && g.isClear ⟨x, y + k, size, l⟩) := by
  refine ⟨Checked.Rows.isClear?_ofGrid g r, isClear_iff, ?_, g.isClear_cell,
    fun _ _ => isClear_eq_and, fun x y k l size => ⟨?_, ?_⟩⟩
  · intro hout
    apply isClear_of_not_contains
    rintro c hwidth hheight ⟨hcolumn, hrow⟩
    omega
  · exact isClear_eq_and fun _ => Region.contains_columns_iff
  · exact isClear_eq_and fun _ => Region.contains_rows_iff

/-- Both sums of this rectangle are beyond the last machine word. -/
example : (Checked.Rows.ofGrid (dark.light 63 31)).isClear?
    ⟨63, 31, 0xFFFFFFFFFFFFFFFF, 0xFFFFFFFFFFFFFFFF⟩ = some false := by
  decide +kernel

end Grid

end ChipEight
