import ChipEight.Device
import ChipEight.Numeral.Decimal
import ChipEight.Text.Quoted

/-!
# Program images

A program is a run of bytes that fits between the program's start and the end of memory.
-/

namespace ChipEight

namespace Rom

/-- The most bytes that fit. -/
def maxSize : Nat := 4096 - 0x200

inductive Fault where
  | malformedWord (index : Nat) (word : String)
  | tooLarge (size maxSize : Nat)
  | device (fault : DeviceFault)
deriving DecidableEq

def Fault.message : Fault → String
  | .malformedWord index word =>
    "malformed instruction word " ++ Quoted.quote word ++ " at position " ++ Decimal.text index
  | .tooLarge size maxSize =>
    "ROM is too large (" ++ Decimal.text size ++ " bytes), max size is " ++
      Decimal.text maxSize ++ " bytes"
  | .device fault => fault.message

end Rom

structure Rom where
  bytes : List UInt8
  fits : bytes.length ≤ Rom.maxSize
deriving DecidableEq

namespace Rom

def ofBytes (bytes : List UInt8) : Except Fault Rom :=
  if h : bytes.length ≤ maxSize then .ok ⟨bytes, h⟩
  else .error (.tooLarge bytes.length maxSize)

def size (r : Rom) : Nat := r.bytes.length

def isEmpty (r : Rom) : Bool := r.bytes.isEmpty

theorem ofBytes_of_le {bytes : List UInt8} (h : bytes.length ≤ maxSize) :
    ofBytes bytes = .ok ⟨bytes, h⟩ := dif_pos h

theorem ofBytes_of_lt {bytes : List UInt8} (h : maxSize < bytes.length) :
    ofBytes bytes = .error (.tooLarge bytes.length maxSize) := dif_neg (Nat.not_le.2 h)

theorem ofBytes_eq_ok {bytes : List UInt8} {r : Rom} (h : ofBytes bytes = .ok r) :
    r.bytes = bytes := by
  unfold ofBytes at h
  split at h
  · cases h; rfl
  · cases h

end Rom

end ChipEight
