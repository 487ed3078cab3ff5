import ChipEight.Outcome

/-!
# The call stack

A slot for each value of the stack pointer holds a return address once one was stored there.
Nothing is refused: a depth beyond the nominal one and a return through an unset slot are
reported, and the latter goes to address 0.
-/

namespace ChipEight

structure CallStack where
  slots : Vector (Option UInt16) 256
deriving DecidableEq

namespace CallStack

variable {ε : Type}

def empty : CallStack := ⟨.replicate _ none⟩

/-- The address in a slot. -/
def get? (s : CallStack) (sp : UInt8) : Option UInt16 :=
  have := sp.toNat_lt
  s.slots[sp.toNat]

def set (s : CallStack) (sp : UInt8) (address : UInt16) : CallStack :=
  ⟨s.slots.set sp.toNat (some address) sp.toNat_lt⟩

def store (s : CallStack) (sp : UInt8) (address : UInt16) : Outcome CallStack ε Unit where
  result := .ok ()
  state := s.set sp address
  log := if sp.toNat > nominalDepth then [.deepStack sp] else []

def load (s : CallStack) (sp : UInt8) : Outcome CallStack ε UInt16 :=
  match s.get? sp with
  | some address => .ok address s
  | none         => (Outcome.note (.unsetSlot sp) s).andThen fun _ s => .ok 0 s

/-! ### What a slot holds -/

@[simp] theorem get?_empty (sp : UInt8) : empty.get? sp = none := by simp [empty, get?]

theorem get?_set (s : CallStack) (sp sp' : UInt8) (address : UInt16) :
    (s.set sp address).get? sp' = if sp' = sp then some address else s.get? sp' := by
  by_cases h : sp' = sp
  · simp [set, get?, h]
  · have : sp.toNat ≠ sp'.toNat := fun e => h (UInt8.toNat_inj.1 e.symm)
    simp [set, get?, h, Vector.getElem_set_ne, this]

end CallStack

end ChipEight
