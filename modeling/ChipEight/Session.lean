import ChipEight.CommandLine.Options
import ChipEight.Machine.Cycle
import ChipEight.Machine.Load
import ChipEight.Terminal.Basic
import ChipEight.Terminal.Keyboard

/-!
# Sessions

A session plays a program on a terminal frame by frame: in each frame the machine makes a number
of steps, and then the screen is shown. Once the program is exhausted the machine rests, and its
last picture is shown again. The session ends after as many frames as were asked for, but not
before the first.

There is a glance at the keys before each frame. One that finds a key to end the session ends it
there, also before the first frame.
-/

namespace ChipEight

structure Player where
  machine : Machine Terminal
  exhausted : Bool

namespace Player

/-! ### Frames -/

/-- A player about to show the first frame of a program. -/
def start (config : Config) (rom : Rom) : Except Machine.Fault Unit × Player :=
  let o := (Machine.fresh config Terminal.opened).loadRom rom
  (o.result, ⟨o.state, false⟩)

/-- Up to `steps` steps, unless the machine rests. -/
def advance (p : Player) (steps : Nat) : Except Machine.Fault Unit × Player :=
  if p.exhausted then (.ok (), p)
  else
    let (ran, machine) := p.machine.run steps
    match ran with
    | .ok exhausted => (.ok (), ⟨machine, exhausted⟩)
    | .error fault  => (.error fault, { p with machine := machine })

/-- Show the screen. -/
def refresh (p : Player) : Except Machine.Fault Unit × Player :=
  let o := p.machine.refresh
  (o.result, { p with machine := o.state })

/-- One frame. -/
def frame (p : Player) (steps : Nat) : Except Machine.Fault Unit × Player :=
  match p.advance steps with
  | (.ok (), p) => p.refresh
  | failed      => failed

/-- A number of frames. -/
def play (p : Player) (steps : Nat) : Nat → Except Machine.Fault Unit × Player
  | 0     => (.ok (), p)
  | n + 1 =>
    match p.frame steps with
    | (.ok (), p) => p.play steps n
    | failed      => failed

end Player

/-! ### From start to end -/

/-- What is left when a session is over: the exit status, the lines on the terminal if anything
was ever shown there, and what was written about a failure. Help and usage have words of their
own. -/
structure Ending where
  status : Nat
  screen : Option (List String)
  report : Option String
deriving DecidableEq

namespace Session

def loadReport (path : String) (fault : Rom.Fault) : String :=
  "Error: couldn't load " ++ path ++ "\n\nCaused by:\n    " ++ fault.message ++ "\n"

def faultReport (fault : Machine.Fault) : String := "Error: " ++ fault.message ++ "\n"

end Session

namespace Ending

def ofRefusal : Options.Refusal → Ending
  | .help    => ⟨0, none, some ""⟩
  | .version => ⟨0, none, some ""⟩
  | _        => ⟨2, none, none⟩

def ofPlayer : Except Machine.Fault Unit × Player → Ending
  | (.ok (), p)       => ⟨0, some p.machine.screen.lines, some ""⟩
  | (.error fault, p) => ⟨1, some p.machine.screen.lines, some (Session.faultReport fault)⟩

end Ending

namespace Session

/-- How many frames a session shows, unless it goes on for ever: as many as its budget says, but
at least one, and none behind a glance that finds a key to end it. -/
def frameCount (budget : Option UInt64) (glances : List (List Key)) : Option Nat :=
  (budget.map fun n => max 1 n.toNat).merge min (glances.findIdx? (·.any Key.quits))

/-- The end of a session on a program, if it has one. -/
def play (options : Options) (rom : Rom) (glances : List (List Key)) : Option Ending :=
  match Player.start options.config rom with
  | (.ok (), p) => (frameCount options.maxFrames glances).map fun n =>
      Ending.ofPlayer (p.play options.stepsPerFrame.toNat n)
  | failed => some (Ending.ofPlayer failed)

/-- A session from its command line, with the files it can read and the bytes typed before its
first frame. -/
def run (arguments : List String) (file : String → Except DeviceFault (List UInt8))
    (typed : List UInt8) : Option Ending :=
  match Options.ofArguments arguments with
  | .error refusal => some (Ending.ofRefusal refusal)
  | .ok options =>
    match Rom.ofFile options.format (file options.path) with
    | .error fault => some ⟨1, none, some (loadReport options.path fault)⟩
    | .ok rom      => play options rom (Keyboard.glances typed)

end Session

end ChipEight
