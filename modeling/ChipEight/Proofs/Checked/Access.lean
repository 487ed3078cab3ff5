import ChipEight.Proofs.Outcome

/-!
# Checked access

Arrays of any size, where an index has to be in range, and sums of machine words, which have to fit.
What is out of range or does not fit stops everything: there is no result then, not even a fault.

An operation that is spelled out in these terms yields another one if it never stops and ends alike.
-/

namespace ChipEight.Checked

variable {α β σ σ' τ τ' ε ε' : Type}

/-! ### Arithmetic -/

/-- The numbers of a machine word are below this. -/
def wordLimit : Nat := 0x10000000000000000

/-- A sum below a limit. -/
def add? (limit a b : Nat) : Option Nat := if a + b < limit then some (a + b) else none

/-- A product below a limit. -/
def mul? (limit a b : Nat) : Option Nat := if a * b < limit then some (a * b) else none

/-- A sum that stays at the last machine word rather than to go beyond. -/
def saturatingAdd (a b : Nat) : Nat := min (a + b) (wordLimit - 1)

def sub? (a b : Nat) : Option Nat := if b ≤ a then some (a - b) else none

/-- There is no division by zero. -/
def div? (a b : Nat) : Option Nat := if b = 0 then none else some (a / b)

def mod? (a b : Nat) : Option Nat := if b = 0 then none else some (a % b)

/-- A byte shifted by less than its width. -/
def shiftRight? (b : UInt8) (k : Nat) : Option UInt8 :=
  if k < 8 then some (b >>> UInt8.ofNat k) else none

theorem add?_eq_some {limit a b : Nat} (h : a + b < limit) : add? limit a b = some (a + b) :=
  if_pos h

theorem mul?_eq_some {limit a b : Nat} (h : a * b < limit) : mul? limit a b = some (a * b) :=
  if_pos h

theorem div?_eq_some {a b : Nat} (h : b ≠ 0) : div? a b = some (a / b) := if_neg h

theorem mod?_eq_some {a b : Nat} (h : b ≠ 0) : mod? a b = some (a % b) := if_neg h

theorem sub?_eq_some {a b : Nat} (h : b ≤ a) : sub? a b = some (a - b) := if_pos h

theorem shiftRight?_eq_some {k : Nat} (h : k < 8) (b : UInt8) :
    shiftRight? b k = some (b >>> UInt8.ofNat k) := if_pos h

/-- A limit far below the last machine word is met by both sums alike. -/
theorem min_saturatingAdd {limit : Nat} (h : limit < wordLimit) (a b : Nat) :
    min (saturatingAdd a b) limit = min (a + b) limit := by
  rw [saturatingAdd, Nat.min_assoc, Nat.min_eq_right (Nat.le_sub_one_of_lt h)]

/-! ### Arrays -/

def set? (xs : Array α) (i : Nat) (a : α) : Option (Array α) :=
  if h : i < xs.size then some (xs.set i a h) else none

/-- The entries from `i` on that are before `j`. -/
def slice? (xs : Array α) (i j : Nat) : Option (List α) :=
  if i ≤ j ∧ j ≤ xs.size then some (xs.extract i j).toList else none

/-- Entries put in place of as many from `i` on. -/
def copy? (xs : Array α) (i : Nat) (entries : List α) : Option (Array α) := do
  let j ← add? wordLimit i entries.length
  if j ≤ xs.size then some (xs.extract 0 i ++ entries.toArray ++ xs.extract j xs.size) else none

theorem set?_eq_some {xs : Array α} {i : Nat} (h : i < xs.size) (a : α) :
    set? xs i a = some (xs.set i a) := dif_pos h

theorem slice?_eq_some {xs : Array α} {i j : Nat} (hij : i ≤ j) (hj : j ≤ xs.size) :
    slice? xs i j = some (xs.extract i j).toList := if_pos ⟨hij, hj⟩

theorem copy?_replicate {n i : Nat} (a : α) {entries : List α} (h : i + entries.length ≤ n)
    (hn : n < wordLimit) : copy? (.replicate n a) i entries =
      some (.replicate i a ++ entries ++ .replicate (n - (i + entries.length)) a).toArray := by
  have hstart : min i n = i := by omega
  rw [copy?, add?_eq_some (by omega), Option.bind_eq_bind, Option.bind_some,
    if_pos (by rwa [Array.size_replicate])]
  simp [hstart]

/-! ### Loops -/

theorem allM_eq_some {l : List α} {p? : α → Option Bool} {p : α → Bool}
    (h : ∀ a ∈ l, p? a = some (p a)) : l.allM p? = some (l.all p) := by
  induction l with
  | nil => rfl
  | cons a l ih =>
    obtain ⟨ha, hl⟩ := List.forall_mem_cons.1 h
    rw [List.allM, ha, List.all_cons]
    cases p a with
    | false => rfl
    | true => exact ih hl

/-- A loop whose body never stops, on states seen through `view`. -/
theorem foldlM_eq_some {l : List α} {f? : τ → α → Option τ} {f : σ → α → σ} {view : σ → τ}
    (h : ∀ a ∈ l, ∀ s, f? (view s) a = some (view (f s a))) (s : σ) :
    l.foldlM f? (view s) = some (view (l.foldl f s)) := by
  induction l generalizing s with
  | nil => rfl
  | cons a l ih =>
    obtain ⟨ha, hl⟩ := List.forall_mem_cons.1 h
    rw [List.foldlM_cons, ha, List.foldl_cons]
    exact ih hl (f s a)

/-! ### Values and faults -/

/-- Goes on with a value, unless there is a fault or nothing at all. -/
def bind? (e? : Option (Except ε α)) (next? : α → Option (Except ε β)) : Option (Except ε β) :=
  e?.bind fun
    | .ok a    => next? a
    | .error e => some (.error e)

theorem bind?_eq_some {e : Except ε α} {next? : α → Option (Except ε β)} {next : α → Except ε β}
    (h : ∀ a, next? a = some (next a)) : bind? (some e) next? = some (e >>= next) := by
  cases e with
  | error e => rfl
  | ok a => exact h a

/-! ### Outcomes -/

/-- Goes on from the state that is left behind, unless that is a fault's or there is none. -/
def andThen? (o? : Option (Outcome τ ε α)) (next? : α → τ → Option (Outcome τ ε β)) :
    Option (Outcome τ ε β) :=
  o?.bind fun o =>
    match o.result with
    | .ok a    => (next? a o.state).map fun p => ⟨p.result, p.state, o.log ++ p.log⟩
    | .error e => some ⟨.error e, o.state, o.log⟩

/-- The checked operation never stops, and ends like the other one. -/
def Yields (R : σ → τ → Prop) (o : Outcome σ ε α) (o? : Option (Outcome τ ε α)) : Prop :=
  ∃ o', o? = some o' ∧ o.Related R o'

section

variable {R : σ → τ → Prop} {o : Outcome σ ε α} {o? : Option (Outcome τ ε α)}

theorem yields_some {o' : Outcome τ ε α} (h : o.Related R o') : Yields R o (some o') := ⟨o', rfl, h⟩

/-- What goes on from one step to the next yields what it should if each of the two does. -/
theorem Yields.andThen {next : α → σ → Outcome σ ε β} {next? : α → τ → Option (Outcome τ ε β)}
    (h : Yields R o o?) (hnext : ∀ a {s t}, R s t → Yields R (next a s) (next? a t)) :
    Yields R (o.andThen next) (andThen? o? next?) := by
  obtain ⟨⟨result', t, log'⟩, rfl, h⟩ := h
  obtain ⟨result, s, log⟩ := o
  obtain ⟨rfl, rfl, h⟩ := h
  cases result' with
  | error e => exact yields_some ⟨rfl, rfl, h⟩
  | ok a =>
    obtain ⟨p, hp, hresult, hlog, hstate⟩ := hnext a h
    refine ⟨⟨p.result, p.state, log' ++ p.log⟩, ?_, hresult, congrArg (log' ++ ·) hlog, hstate⟩
    simp only [andThen?, Option.bind_some]
    rw [hp, Option.map_some]

theorem Yields.map (h : Yields R o o?) (f : α → β) :
    Yields R (o.map f) (o?.map fun o => o.map f) := by
  obtain ⟨o', rfl, h⟩ := h
  exact yields_some (h.map f)

theorem Yields.lift {Q : σ' → τ' → Prop} {whole : σ → σ'} {whole' : τ → τ'}
    (h : Yields R o o?) (hwhole : ∀ {s t}, R s t → Q (whole s) (whole' t)) (fault : ε → ε') :
    Yields Q (o.lift whole fault) (o?.map fun o => o.lift whole' fault) := by
  obtain ⟨o', rfl, h⟩ := h
  exact yields_some (h.lift hwhole fault)

end

end ChipEight.Checked
