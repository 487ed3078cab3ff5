import ChipEight.Terminal.Sequence

/-!
# Keyboards

A terminal sends an input as one or more bytes. Bytes are gathered until they make up an input or
cannot become one any more, and the gathering starts anew behind them.

The escape byte is a key of its own only if nothing follows it. It opens a sequence of control
bytes, or else marks the key behind it as typed with Alt, which makes no difference here.

Nobody asks here where the cursor stands. But a glance at the keys goes no further than a report
of that, and only the next glance passes it.
-/

namespace ChipEight.Keyboard

/-! ### Inputs -/

/-- How many bytes a character has by its first one. None starts with a byte that follows others. -/
def characterSize? (byte : UInt8) : Option Nat :=
  if byte < 0x80 then some 1
  else if byte < 0xC0 then none
  else if byte < 0xE0 then some 2
  else if byte < 0xF0 then some 3
  else if byte < 0xF8 then some 4
  else none

/-- A character of several bytes. -/
def readWide (first : UInt8) (rest : List UInt8) : Reading :=
  match characterSize? first with
  | none      => .garbled
  | some size =>
    if rest.any fun byte => byte < 0x80 || 0xC0 ≤ byte then .garbled
    else if rest.length + 1 < size then .unfinished
    else .ofComplete ((String.fromUTF8? ⟨(first :: rest).toArray⟩).map fun _ => .other)

/-- The input of a single byte. -/
def plain (byte : UInt8) : Input :=
  if byte = 0x09 || byte = 0x0D || byte = 0x7F then .other
  else if byte = 0 then .key (.char ' ' true)
  else if byte ≤ 0x1A then .key (.char (Char.ofNat (byte.toNat + 0x60)) true)
  else if byte < 0x20 then .key (.char (Char.ofNat (byte.toNat + 0x18)) true)
  else .key (.char (Char.ofNat byte.toNat) false)

/-- What gathered bytes amount to, given whether others follow them. -/
def read (more : Bool) : List UInt8 → Reading
  | []                     => .unfinished
  | [0x1B]                 => if more then .unfinished else .input (.key .escape)
  | 0x1B :: 0x1B :: _      => .input (.key .escape)
  | [0x1B, 0x4F]           => .unfinished
  | 0x1B :: 0x4F :: n :: _ => .ofComplete (if 0x50 ≤ n && n ≤ 0x53 then some .other else none)
  | 0x1B :: 0x5B :: rest   => Sequence.read rest
  | 0x1B :: rest           => read more rest
  | byte :: rest           => if byte < 0x80 then .input (plain byte) else readWide byte rest

/-- The inputs that bytes make up behind the gathered ones, and what they leave gathered. -/
def scan (more : Bool) (gathered : List UInt8) : List UInt8 → List Input × List UInt8
  | []           => ([], gathered)
  | byte :: rest =>
    let gathered := gathered ++ [byte]
    match read (more || !rest.isEmpty) gathered with
    | .unfinished => scan more gathered rest
    | .garbled    => scan more [] rest
    | .input i    =>
      let (inputs, gathered) := scan more [] rest
      (i :: inputs, gathered)

/-! ### Glances -/

/-- How many bytes a terminal hands over at once. -/
def portion : Nat := 1204

/-- How many bytes a terminal holds until they are handed over. -/
def capacity : Nat := 4095

/-- The inputs that are found in what was typed. Portions are taken until one holds an input, and
no more then, unless the terminal could not hold everything: once it has room for the rest, it
calls for portions anew. A full portion is taken to have others behind it. -/
def inputs (called : Bool) (gathered typed : List UInt8) : List Input :=
  if typed.isEmpty then []
  else
    let (found, gathered) := scan (portion ≤ typed.length) gathered (typed.take portion)
    let called := called || capacity < typed.length
    if found.isEmpty then inputs called gathered (typed.drop portion)
    else if called then found ++ inputs false gathered (typed.drop portion)
    else found
termination_by typed.length
decreasing_by all_goals
  cases typed with
  | nil => contradiction
  | cons byte rest => simp only [List.length_drop, List.length_cons, portion]; omega

/-- The keys that a glance finds, and the inputs that it leaves to the next one. -/
def glance : List Input → List Key × List Input
  | []              => ([], [])
  | .key k :: rest  =>
    let (keys, left) := glance rest
    (k :: keys, left)
  | .cursor :: rest => ([], rest)
  | .other :: rest  => glance rest

/-- The keys that each glance finds, from the first glance on. -/
def split : List Input → List (List Key)
  | []              => [[]]
  | .key k :: rest  => (split rest).modifyHead (k :: ·)
  | .cursor :: rest => [] :: split rest
  | .other :: rest  => split rest

def glances (typed : List UInt8) : List (List Key) := split (inputs false [] typed)

end ChipEight.Keyboard
