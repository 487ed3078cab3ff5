import ChipEight.Outcome

/-!
# Address spaces

An address space stores bytes at addresses of sixteen bits and remembers which cells were ever
written. Loading a run of bytes and reading a word rest on single writes and on reads alone.
-/

namespace ChipEight

class AddressSpace (M : Type) where
  /-- Store a byte, or refuse to. The value is what was stored. -/
  write : M → UInt16 → UInt8 → Outcome M Memory.Fault UInt8
  /-- The bytes of a number of cells in order, as far as there are cells. -/
  read : M → UInt16 → Nat → List UInt8
  /-- Was a byte ever stored in the cell? -/
  isWritten : M → UInt16 → Bool

namespace AddressSpace

variable {M : Type} [AddressSpace M]

/-! ### Loading -/

/-- Store a byte at an address of any size. The value is the address after it. -/
def loadByte (b : UInt8) (address : Nat) (m : M) : Outcome M Memory.Fault Nat :=
  if address < 0x10000 then
    (write m (UInt16.ofNat address) b).andThen fun _ m => .ok (address + 1) m
  else .fail (.outOfBounds 0xFFFF) m

/-- Store bytes one after the other, up to the first that is refused. -/
def loadFrom (o : Outcome M Memory.Fault Nat) (bytes : List UInt8) : Outcome M Memory.Fault Nat :=
  bytes.foldl (fun o b => o.andThen (loadByte b)) o

def load (m : M) (bytes : List UInt8) (address : UInt16) : Outcome M Memory.Fault Unit :=
  (loadFrom (.ok address.toNat m) bytes).andThen fun _ m => .ok () m

@[simp] theorem loadFrom_nil (o : Outcome M Memory.Fault Nat) : loadFrom o [] = o := rfl

@[simp] theorem loadFrom_cons (o : Outcome M Memory.Fault Nat) (b : UInt8) (bytes : List UInt8) :
    loadFrom o (b :: bytes) = loadFrom (o.andThen (loadByte b)) bytes := rfl

/-- What was done before a load comes first, and a fault there prevents it. -/
theorem loadFrom_eq_andThen (o : Outcome M Memory.Fault Nat) (bytes : List UInt8) :
    loadFrom o bytes = o.andThen fun a m => loadFrom (.ok a m) bytes := by
  induction bytes generalizing o with
  | nil => simp
  | cons b bytes ih =>
    rw [loadFrom_cons, ih, Outcome.andThen_assoc]
    congr 1
    funext a m
    rw [loadFrom_cons, ih (Outcome.andThen (.ok a m) (loadByte b)), Outcome.ok_andThen]

/-! ### Words -/

/-- Two bytes, the high one first. What is beyond the last cell counts as zero. -/
def word (m : M) (address : UInt16) : UInt16 :=
  match read m address 2 with
  | [high, low] => Word.ofBytes high low
  | [high]      => Word.ofBytes high 0
  | _           => 0

end AddressSpace

end ChipEight
