import ChipEight.Program.Rom

/-!
# Deliveries

A reader delivers bytes in pieces of its own choosing. An interruption is no failure and the
reading goes on; an empty piece is the end, as is having nothing more to give. After a failure
nothing that came before it counts.
-/

namespace ChipEight

/-- What a reader answers when asked for more. -/
inductive Delivery where
  | piece (bytes : List UInt8)
  | interrupted
  | failure (fault : DeviceFault)
deriving DecidableEq

namespace Delivery

/-- The pieces of a whole delivery behind those that came before, the last one first. -/
def pieces (earlier : List (List UInt8)) : List Delivery → Except DeviceFault (List (List UInt8))
  | []                    => .ok earlier
  | .piece [] :: _        => .ok earlier
  | .piece bytes :: rest  => pieces (bytes :: earlier) rest
  | .interrupted :: rest  => pieces earlier rest
  | .failure fault :: _   => .error fault

/-- All bytes of a delivery. -/
def bytes (delivery : List Delivery) : Except DeviceFault (List UInt8) :=
  (pieces [] delivery).map fun all => all.reverse.flatten

end Delivery

def Rom.ofDelivery (delivery : List Delivery) : Except Rom.Fault Rom :=
  match Delivery.bytes delivery with
  | .ok bytes    => ofBytes bytes
  | .error fault => .error (.device fault)

end ChipEight
