import ChipEight.Text.Blank
import Mathlib.Data.List.Basic

/-!
# Words of a text

The words of a text are found by splitting it at every blank, which leaves empty pieces wherever
blanks stand together. That these are the longest runs between blanks is said here by how they lie
in the text, and there is only one way to lay them.
-/

namespace ChipEight

/-- The runs without a blank in a text, each as long as it can be. A run goes on until a blank or
the end, so the next one can only begin behind a blank. -/
inductive Runs : List Char → List (List Char) → Prop where
  | nil : Runs [] []
  | blank {c : Char} {text : List Char} {runs : List (List Char)} (hc : isBlank c = true)
      (h : Runs text runs) : Runs (c :: text) runs
  | run {run rest : List Char} {runs : List (List Char)} (hne : run ≠ [])
      (hrun : ∀ c ∈ run, isBlank c = false) (hend : ∀ c ∈ rest.head?, isBlank c = true)
      (h : Runs rest runs) : Runs (run ++ rest) (run :: runs)

/-! ### Runs by splitting -/

/-- A blank ends whatever word comes before it. -/
theorem words_append_cons {c : Char} (hc : isBlank c = true) (before after : List Char) :
    words (before ++ c :: after) = words before ++ words after := by
  rw [words, List.splitOnP_append_cons _ _ hc, List.filter_append]
  rfl

theorem words_cons_of_isBlank {c : Char} (hc : isBlank c = true) (text : List Char) :
    words (c :: text) = words text := words_append_cons hc [] text

section

variable {run rest : List Char} (hne : run ≠ []) (hrun : ∀ c ∈ run, isBlank c = false)
include hne hrun

theorem words_of_forall : words run = [run] := by
  rw [words, List.splitOnP_eq_singleton hrun]
  exact List.filter_cons_of_pos (by simpa using hne)

theorem words_append (hend : ∀ c ∈ rest.head?, isBlank c = true) :
    words (run ++ rest) = run :: words rest := by
  cases rest with
  | nil => rw [List.append_nil, words_of_forall hne hrun]; rfl
  | cons c rest =>
    have hc : isBlank c = true := hend c rfl
    rw [words_append_cons hc, words_of_forall hne hrun, words_cons_of_isBlank hc]
    rfl

end

/-- Runs of a text are its words. -/
theorem Runs.words_eq {text : List Char} {runs : List (List Char)} (h : Runs text runs) :
    words text = runs := by
  induction h with
  | nil => rfl
  | blank hc _ ih => rw [words_cons_of_isBlank hc, ih]
  | run hne hrun hend _ ih => rw [words_append hne hrun hend, ih]

/-! ### Runs of any text -/

/-- A character in front of a text begins a run, or makes the one that begins there longer. -/
theorem Runs.exists_cons {text : List Char} {runs : List (List Char)} (h : Runs text runs)
    {c : Char} (hc : isBlank c = false) : ∃ runs', Runs (c :: text) runs' := by
  have hone : ∀ d ∈ [c], isBlank d = false := List.forall_mem_singleton.2 hc
  cases h with
  | nil => exact ⟨[[c]], .run (List.cons_ne_nil c []) hone (fun _ hd => by cases hd) .nil⟩
  | @blank d text _ hd h =>
    have hend : ∀ e ∈ (d :: text).head?, isBlank e = true := by simpa using hd
    exact ⟨[c] :: runs, .run (List.cons_ne_nil c []) hone hend (.blank hd h)⟩
  | @run run rest runs hne hrun hend h =>
    exact ⟨(c :: run) :: runs,
      .run (List.cons_ne_nil c run) (List.forall_mem_cons.2 ⟨hc, hrun⟩) hend h⟩

theorem exists_runs (text : List Char) : ∃ runs, Runs text runs := by
  induction text with
  | nil => exact ⟨[], .nil⟩
  | cons c text ih =>
    obtain ⟨runs, h⟩ := ih
    cases hc : isBlank c with
    | true => exact ⟨runs, .blank hc h⟩
    | false => exact h.exists_cons hc

/-- The words of a text are the one list of its runs. -/
theorem runs_iff_words_eq {text : List Char} {runs : List (List Char)} :
    Runs text runs ↔ words text = runs := by
  refine ⟨Runs.words_eq, ?_⟩
  rintro rfl
  obtain ⟨runs, h⟩ := exists_runs text
  rwa [h.words_eq]

end ChipEight
