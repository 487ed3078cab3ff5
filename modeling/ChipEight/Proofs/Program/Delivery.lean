import ChipEight.Program.Delivery
import Mathlib.Tactic.Common

/-!
# What a delivery brings

A reading goes on behind a piece, unless that is empty, and behind an interruption. It stops at a
failure, at an empty piece, or where nothing more is given. At a failure nothing counts of what came
before. Otherwise the pieces before the stop count, joined in their order. So it makes no difference
where the bytes were cut and how often the reading was interrupted.
-/

namespace ChipEight.Delivery

/-- Does the reading go on behind it? -/
def goesOn : Delivery → Bool
  | .piece bytes => !bytes.isEmpty
  | .interrupted => true
  | .failure _   => false

/-- The bytes that come with it. -/
def given : Delivery → List UInt8
  | .piece bytes => bytes
  | _            => []

/-- All bytes before the reading stops. -/
def received (delivery : List Delivery) : List UInt8 :=
  (delivery.takeWhile goesOn).flatMap given

/-- The failure that stops the reading, if it is stopped by one. -/
def failure? (delivery : List Delivery) : Option DeviceFault :=
  match delivery.find? (!goesOn ·) with
  | some (.failure fault) => some fault
  | _                     => none

/-! ### Reading piece by piece -/

variable {d : Delivery} {rest : List Delivery}

theorem received_cons (h : d.goesOn = true) : received (d :: rest) = d.given ++ received rest := by
  rw [received, List.takeWhile_cons_of_pos h, List.flatMap_cons, received]

theorem failure?_cons (h : d.goesOn = true) : failure? (d :: rest) = failure? rest := by
  rw [failure?, List.find?_cons_of_neg (by simpa using h), failure?]

/-- The pieces of a whole delivery, put together in their order. -/
theorem map_pieces (earlier : List (List UInt8)) (delivery : List Delivery) :
    (pieces earlier delivery).map (·.reverse.flatten) =
      (failure? delivery).elim (.ok (earlier.reverse.flatten ++ received delivery)) .error := by
  induction delivery generalizing earlier with
  | nil => exact congrArg Except.ok (List.append_nil _).symm
  | cons d rest ih =>
    cases d with
    | failure fault => rfl
    | interrupted =>
      rw [pieces, ih, failure?_cons rfl, received_cons rfl]
      rfl
    | piece bytes =>
      cases bytes with
      | nil => exact congrArg Except.ok (List.append_nil _).symm
      | cons b bytes =>
        rw [pieces, ih, failure?_cons rfl, received_cons rfl, List.reverse_cons,
          List.flatten_append, List.flatten_singleton, List.append_assoc]
        · rfl
        · exact List.cons_ne_nil b bytes

/-- The bytes of a delivery are what was received, unless it failed. -/
theorem bytes_eq (delivery : List Delivery) :
    bytes delivery = (failure? delivery).elim (.ok (received delivery)) .error :=
  map_pieces [] delivery

end ChipEight.Delivery
