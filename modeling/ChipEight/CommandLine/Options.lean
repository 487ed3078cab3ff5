import ChipEight.Machine.State
import ChipEight.Numeral.Binary64
import ChipEight.Program.Storage

/-!
# Options

The command line names a program and says how to run it. An option is given at most once, its
value in the same argument or in the next one. An argument that starts with a dash is an option,
but for a dash alone and for all that follows a double dash.

A value that stands in an argument of its own is judged only when the argument after it is known
to be in order, and so are the path and an option that lacks its value.
-/

namespace ChipEight

structure Options where
  path : String
  format : Rom.Format
  framesPerSecond : Binary64
  stepsPerFrame : UInt32
  maxFrames : Option UInt64
  config : Config
deriving DecidableEq

namespace Options

/-- Why a command line leads to no run. -/
inductive Refusal where
  | missingPath
  | unknownArgument
  | badValue
  | missingValue
  | repeated
  | unexpectedValue
  | help
  | version
deriving DecidableEq

/-! ### What was given -/

/-- What takes a value. -/
inductive Setting where
  | path
  | framesPerSecond
  | stepsPerFrame
  | maxFrames
deriving DecidableEq

/-- What takes none. -/
inductive Switch where
  | hexWords
  | reference
  | strictMemory
deriving DecidableEq

structure Given where
  path : Option String
  framesPerSecond : Option Binary64
  stepsPerFrame : Option UInt32
  maxFrames : Option UInt64
  hexWords : Bool
  reference : Bool
  strictMemory : Bool

def Given.nothing : Given := ⟨none, none, none, none, false, false, false⟩

/-- The first value of a setting. -/
def once {α : Type} (earlier value : Option α) : Except Refusal (Option α) :=
  if earlier.isSome then .error .repeated
  else if value.isNone then .error .badValue
  else .ok value

def stepsPerFrame? (text : String) : Option UInt32 := do
  let n ← Decimal.integer? text.toList
  if 0 ≤ n ∧ n < 0x100000000 then some (UInt32.ofNat n.toNat) else none

def maxFrames? (text : String) : Option UInt64 := do
  let n ← Decimal.unsigned? text.toList
  if n < 0x10000000000000000 then some (UInt64.ofNat n) else none

def Given.set (g : Given) (setting : Setting) (text : String) : Except Refusal Given :=
  match setting with
  | .path =>
    if text.isEmpty then .error .missingValue
    else do return { g with path := ← once g.path (some text) }
  | .framesPerSecond => do
    return { g with framesPerSecond := ← once g.framesPerSecond (Binary64.ofText? text) }
  | .stepsPerFrame => do
    return { g with stepsPerFrame := ← once g.stepsPerFrame (stepsPerFrame? text) }
  | .maxFrames => do
    return { g with maxFrames := ← once g.maxFrames (maxFrames? text) }

/-- Turn a switch that was not turned before. -/
def Given.turn (g : Given) : Switch → Except Refusal Given
  | .hexWords => if g.hexWords then .error .repeated else .ok { g with hexWords := true }
  | .reference => if g.reference then .error .repeated else .ok { g with reference := true }
  | .strictMemory =>
    if g.strictMemory then .error .repeated else .ok { g with strictMemory := true }

/-- Sixty frames a second and ten steps a frame, unless given otherwise. -/
def Given.options (g : Given) : Except Refusal Options :=
  match g.path with
  | none      => .error .missingPath
  | some path => .ok
    { path := path
      format := if g.hexWords then .hexWords else .binary
      framesPerSecond := g.framesPerSecond.getD ⟨0x404E000000000000⟩
      stepsPerFrame := g.stepsPerFrame.getD 10
      maxFrames := g.maxFrames
      config :=
        { instructions := if g.reference then .reference else .extended
          policy := if g.strictMemory then .strict else .permissive } }

/-! ### Arguments -/

/-- An option by name. -/
inductive Name where
  | setting (s : Setting)
  | switch (s : Switch)
  | help
  | version

def long? : String → Option Name
  | "fps"           => some (.setting .framesPerSecond)
  | "ipf"           => some (.setting .stepsPerFrame)
  | "max-frames"    => some (.setting .maxFrames)
  | "hex"           => some (.switch .hexWords)
  | "reference"     => some (.switch .reference)
  | "strict-memory" => some (.switch .strictMemory)
  | "help"          => some .help
  | "version"       => some .version
  | _               => none

def short? : Char → Option Name
  | 'f' => some (.setting .framesPerSecond)
  | 'i' => some (.setting .stepsPerFrame)
  | 'h' => some .help
  | 'V' => some .version
  | _   => none

/-- A setting that was named last and waits for its value, or to be judged with it. -/
structure Scan where
  given : Given
  pathSeen : Bool
  waiting : Option (Setting × Option String)

namespace Scan

/-- What was given, with what waits judged. -/
def settle (s : Scan) : Except Refusal Given :=
  match s.waiting with
  | none                      => .ok s.given
  | some (_, none)            => .error .missingValue
  | some (setting, some text) => s.given.set setting text

/-- An option that is known, with a value if one stands in the same argument. -/
def option (s : Scan) (name : Name) (value : Option String) : Except Refusal Scan := do
  let given ← s.settle
  match name, value with
  | .setting setting, none => return { s with given := given, waiting := some (setting, none) }
  | .setting setting, some text =>
    return { s with given := ← given.set setting text, waiting := none }
  | .switch switch, _ => return { s with given := ← given.turn switch, waiting := none }
  | .help, _ => .error .help
  | .version, _ => .error .version

/-- An argument behind two dashes. Only a setting has a value behind an equals sign. -/
def long (s : Scan) (text : List Char) : Except Refusal Scan :=
  let name := text.takeWhile (· ≠ '=')
  let value := match text.dropWhile (· ≠ '=') with
    | []        => none
    | _ :: rest => some (String.ofList rest)
  match long? (String.ofList name), value with
  | none, _                      => .error .unknownArgument
  | some (.setting setting), _   => s.option (.setting setting) value
  | some name, none              => s.option name none
  | some _, some _               => .error .unexpectedValue

/-- An argument behind one dash. A setting has the rest of it as value, an equals sign left
out. -/
def short (s : Scan) (letter : Char) (rest : List Char) : Except Refusal Scan :=
  match short? letter, rest with
  | none, _           => .error .unknownArgument
  | some name, []     => s.option name none
  | some name, '=' :: value => s.option name (some (String.ofList value))
  | some name, value  => s.option name (some (String.ofList value))

/-- An argument that is no option: the value that is waited for, or the path. -/
def word (s : Scan) (trailing : Bool) (text : String) : Except Refusal Scan :=
  match s.waiting, trailing with
  | some (setting, none), false => .ok { s with waiting := some (setting, some text) }
  | _, _ =>
    if s.pathSeen then .error .unknownArgument
    else do
      let given ← s.settle
      return { given := given, pathSeen := true, waiting := some (.path, some text) }

def argument (s : Scan) (text : String) : Except Refusal Scan :=
  match text.toList with
  | '-' :: '-' :: rest    => s.long rest
  | '-' :: letter :: rest => s.short letter rest
  | _                     => s.word false text

def arguments (s : Scan) : List String → Except Refusal Scan
  | []           => .ok s
  | "--" :: rest => rest.foldlM (word · true) s
  | text :: rest => do arguments (← s.argument text) rest

end Scan

def ofArguments (arguments : List String) : Except Refusal Options := do
  let scan ← Scan.arguments ⟨.nothing, false, none⟩ arguments
  (← scan.settle).options

end Options

end ChipEight
