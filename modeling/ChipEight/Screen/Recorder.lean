import ChipEight.Screen.Surface

/-!
# Recorders

A recorder is a surface that keeps a record of what it is asked to do, in order, and leaves the
work to another. It may have lost its link to whoever looks at it: then it shows nothing.
-/

namespace ChipEight

/-- One request to a surface. -/
inductive Surface.Call where
  | light (x y : Nat)
  | clear
  | query (region : Region)
  | refresh
deriving DecidableEq

structure Recorder (S : Type) where
  surface : S
  calls : Array Surface.Call
  lost : Option DeviceFault

namespace Recorder

variable {S : Type}

/-- A recorder with nothing on record. -/
def on (s : S) (lost : Option DeviceFault) : Recorder S := ⟨s, #[], lost⟩

def record (r : Recorder S) (c : Surface.Call) : Recorder S := { r with calls := r.calls.push c }

/-- The same with nothing on record. -/
def rewind (r : Recorder S) : Recorder S := { r with calls := #[] }

instance [Surface S] : Surface (Recorder S) where
  light r x y :=
    let r := r.record (.light x y)
    { r with surface := Surface.light r.surface x y }
  clear r :=
    let r := r.record .clear
    { r with surface := Surface.clear r.surface }
  query r region :=
    let r := r.record (.query region)
    let (isOff, s) := Surface.query r.surface region
    (isOff, { r with surface := s })
  refresh r :=
    let r := r.record .refresh
    match r.lost with
    | some fault => (.error fault, r)
    | none =>
      let (shown, s) := Surface.refresh r.surface
      (shown, { r with surface := s })

end Recorder

end ChipEight
