/-!
# Inputs

What a terminal sends is a key, an action of the mouse, or a report of where its cursor stands.
Only keys that mean something to the machine are told apart.
-/

namespace ChipEight

inductive Key where
  | escape
  | char (c : Char) (control : Bool)
deriving DecidableEq

/-- Does the key end the session? -/
def Key.quits : Key → Bool
  | .escape      => true
  | .char 'q' _  => true
  | .char 'c' control => control
  | .char _ _    => false

inductive Input where
  | key (k : Key)
  | cursor
  | other
deriving DecidableEq

/-- What the bytes of an input amount to so far. -/
inductive Reading where
  | unfinished
  | input (i : Input)
  | garbled
deriving DecidableEq

/-- A reading of bytes that are complete. -/
def Reading.ofComplete : Option Input → Reading
  | some i => .input i
  | none   => .garbled

end ChipEight
