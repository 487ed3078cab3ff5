import ChipEight.Memory.Space

/-!
# Open memory

A cell for every address, all of them free to write.
-/

namespace ChipEight

structure OpenMemory where
  bytes : Vector UInt8 0x10000
  written : Vector Bool 0x10000

namespace OpenMemory

def zero : OpenMemory := ⟨.replicate _ 0, .replicate _ false⟩

instance : AddressSpace OpenMemory where
  write m a b := .ok b
    { bytes := m.bytes.set a.toNat b a.toNat_lt, written := m.written.set a.toNat true a.toNat_lt }
  read m a n :=
    (List.range' a.toNat (min (a.toNat + n) 0x10000 - a.toNat)).filterMap fun i => m.bytes[i]?
  isWritten m a :=
    have := a.toNat_lt
    m.written[a.toNat]

end OpenMemory

end ChipEight
