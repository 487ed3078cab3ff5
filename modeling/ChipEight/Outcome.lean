import ChipEight.Diagnostic

/-!
# Outcomes

An operation on a state of type `σ` ends with a value or a fault, and in either case leaves a
state behind and a log of what it reported on the way. A fault does not undo what was done
before it.
-/

namespace ChipEight

structure Outcome (σ ε α : Type) where
  result : Except ε α
  state : σ
  log : List Diagnostic

namespace Outcome

variable {σ τ ε ε' α β γ : Type}

/-! ### Single outcomes -/

def ok (a : α) (s : σ) : Outcome σ ε α := ⟨.ok a, s, []⟩

def fail (e : ε) (s : σ) : Outcome σ ε α := ⟨.error e, s, []⟩

/-- A report, and nothing else. -/
def note (d : Diagnostic) (s : σ) : Outcome σ ε Unit := ⟨.ok (), s, [d]⟩

@[simp] theorem state_ok (a : α) (s : σ) : (ok a s : Outcome σ ε α).state = s := rfl

/-! ### Outcomes in sequence -/

/-- Goes on from the state that is left behind, unless that is a fault's. -/
def andThen (o : Outcome σ ε α) (next : α → σ → Outcome σ ε β) : Outcome σ ε β :=
  match o.result with
  | .ok a    =>
    let p := next a o.state
    ⟨p.result, p.state, o.log ++ p.log⟩
  | .error e => ⟨.error e, o.state, o.log⟩

@[simp] theorem ok_andThen (a : α) (s : σ) (next : α → σ → Outcome σ ε β) :
    (ok a s).andThen next = next a s := by simp [ok, andThen]

@[simp] theorem fail_andThen (e : ε) (s : σ) (next : α → σ → Outcome σ ε β) :
    (fail e s).andThen next = fail e s := rfl

@[simp] theorem andThen_ok (o : Outcome σ ε α) : o.andThen ok = o := by
  obtain ⟨_ | _, s, l⟩ := o <;> simp [andThen, ok]

theorem andThen_assoc (o : Outcome σ ε α) (f : α → σ → Outcome σ ε β)
    (g : β → σ → Outcome σ ε γ) :
    (o.andThen f).andThen g = o.andThen fun a s => (f a s).andThen g := by
  obtain ⟨_ | a, s, l⟩ := o
  · rfl
  · simp only [andThen]
    cases (f a s).result <;> simp

/-! ### Outcomes in a larger whole -/

/-- The state is a part of another, and the fault one of another kind. -/
def lift (o : Outcome σ ε α) (whole : σ → τ) (fault : ε → ε') : Outcome τ ε' α :=
  ⟨o.result.mapError fault, whole o.state, o.log⟩

@[simp] theorem lift_ok (a : α) (s : σ) (whole : σ → τ) (fault : ε → ε') :
    (ok a s).lift whole fault = ok a (whole s) := rfl

@[simp] theorem lift_fail (e : ε) (s : σ) (whole : σ → τ) (fault : ε → ε') :
    (fail e s : Outcome σ ε α).lift whole fault = fail (fault e) (whole s) := rfl

end Outcome

end ChipEight
