import ChipEight.Outcome
import Mathlib.Data.List.Forall2
import Mathlib.Tactic.Common

/-!
# Outcomes that are alike

Two operations may end alike on states that are alike. Whatever goes on from there in ways that are
alike ends alike again.
-/

namespace ChipEight

namespace Outcome

variable {σ σ' τ τ' ε ε' α β γ : Type}

/-- The same with another value. -/
def map (o : Outcome σ ε α) (f : α → β) : Outcome σ ε β := ⟨o.result.map f, o.state, o.log⟩

theorem map_andThen (o : Outcome σ ε α) (next : α → σ → Outcome σ ε β) (f : β → γ) :
    (o.andThen next).map f = o.andThen fun a s => (next a s).map f := by
  obtain ⟨_ | a, s, log⟩ := o <;> rfl

theorem andThen_ok_eq_map (o : Outcome σ ε α) (f : α → β) :
    (o.andThen fun a s => ok (f a) s) = o.map f := by
  obtain ⟨_ | a, s, log⟩ := o <;> simp [andThen, ok, map, Except.map]

/-! ### Outcomes alike -/

/-- Outcomes that differ at most in their states, and these are related. -/
structure Related (P : σ → τ → Prop) (o : Outcome σ ε α) (o' : Outcome τ ε α) : Prop where
  result_eq : o'.result = o.result
  log_eq : o'.log = o.log
  state : P o.state o'.state

variable {P : σ → τ → Prop}

theorem related_ok (a : α) {s : σ} {t : τ} (h : P s t) :
    Related P (ok a s : Outcome σ ε α) (ok a t) := ⟨rfl, rfl, h⟩

/-- What goes on from one step to the next keeps states related if each of the two does. -/
theorem Related.andThen {o : Outcome σ ε α} {o' : Outcome τ ε α}
    {next : α → σ → Outcome σ ε β} {next' : α → τ → Outcome τ ε β} (h : Related P o o')
    (hnext : ∀ a {s t}, P s t → Related P (next a s) (next' a t)) :
    Related P (o.andThen next) (o'.andThen next') := by
  obtain ⟨result, s, log⟩ := o
  obtain ⟨result', t, log'⟩ := o'
  obtain ⟨rfl, rfl, h⟩ := h
  cases result' with
  | error e => exact ⟨rfl, rfl, h⟩
  | ok a =>
    obtain ⟨hresult, hlog, hstate⟩ := hnext a h
    exact ⟨hresult, congrArg (log' ++ ·) hlog, hstate⟩

theorem Related.map {o : Outcome σ ε α} {o' : Outcome τ ε α} (h : Related P o o') (f : α → β) :
    Related P (o.map f) (o'.map f) where
  result_eq := congrArg (Except.map f) h.result_eq
  log_eq := h.log_eq
  state := h.state

theorem Related.lift {Q : σ' → τ' → Prop} {o : Outcome σ ε α} {o' : Outcome τ ε α}
    (h : Related P o o') {whole : σ → σ'} {whole' : τ → τ'}
    (hwhole : ∀ {s t}, P s t → Q (whole s) (whole' t)) (fault : ε → ε') :
    Related Q (o.lift whole fault) (o'.lift whole' fault) where
  result_eq := congrArg (Except.mapError fault) h.result_eq
  log_eq := h.log_eq
  state := hwhole h.state

theorem map_result_eq {l : List (Outcome σ ε α)} {l' : List (Outcome τ ε α)}
    (h : List.Forall₂ (Related P) l l') : l'.map result = l.map result := by
  induction h with
  | nil => rfl
  | cons h _ ih => rw [List.map_cons, List.map_cons, h.result_eq, ih]

end Outcome

end ChipEight
