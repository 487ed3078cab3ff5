import ChipEight.Session.Turn

/-!
# The command line

Reads the program's file, hands what is typed to the turns of its session, and writes each frame
as it is shown. A terminal that waits for whole lines hands over a key only with its line.
-/

namespace ChipEight

def usage : String :=
  "usage: chip8 [--hex] [-f FRAMES_PER_SECOND] [-i STEPS_PER_FRAME] [--reference]\n" ++
  "             [--strict-memory] [--max-frames FRAMES] ROM_PATH\n"

def deviceFault : IO.Error → DeviceFault
  | .noFileOrDirectory .. => .notFound
  | .inappropriateType _ code _ => if code = 21 then .isFolder else .notFolder
  | .invalidArgument (some _) 36 _ => .nameTooLong
  | e => .other e.toString

def readBytes (path : String) : IO (Except DeviceFault (List UInt8)) := do
  try
    return .ok (← IO.FS.readBinFile path).toList
  catch e =>
    return .error (deviceFault e)

/-! ### Keys -/

/-- What was typed and not taken yet, unless nobody wants it any more. -/
abbrev Typed := IO.Ref (Option (List UInt8))

/-- Keep what is typed, as long as it is wanted. -/
partial def listen (typed : Typed) : IO Unit := do
  let bytes ← (← IO.getStdin).read 1
  let wanted ← typed.modifyGet fun kept => (kept.isSome, kept.map (· ++ bytes.toList))
  if wanted && !bytes.isEmpty then
    listen typed

def take (typed : Typed) : IO (List UInt8) :=
  typed.modifyGet fun kept => (kept.getD [], kept.map fun _ => [])

/-- Nothing that is typed from now on is wanted. A terminal answers the request for its status, so
that a listener that still waits for a key comes to its end. -/
def hangUp (typed : Typed) (listener : Task (Except IO.Error Unit)) : IO Unit := do
  typed.set none
  unless ← IO.hasFinished listener do
    IO.print "\x1b[5n"
    (← IO.getStdout).flush

/-! ### Frames -/

/-- How long a frame lasts, in milliseconds. -/
def frameTime (rate : Binary64) : UInt32 := (1000 / Float.ofBits rate.bits).toUInt32

/-- Write the frames that were drawn over what stands on the terminal. -/
def showFrames (l : Session.Live) : IO Unit := do
  for frame in l.progress.player.machine.screen.frames.reverse do
    IO.print ("\x1b[H" ++ String.join (frame.lines.map (· ++ "\r\n")))
  (← IO.getStdout).flush

/-- No frame is shown twice. -/
def forgetFrames (l : Session.Live) : Session.Live :=
  { l with progress.player.machine.screen.frames := [] }

/-- Turn after turn until the session is over. -/
partial def turns (options : Options) (typed : Typed) (l : Session.Live) : IO Ending := do
  match l.turn options (← take typed) with
  | .over result l =>
    showFrames l
    return .ofPlayer (result, l.progress.player)
  | .next l        =>
    showFrames l
    IO.sleep (frameTime options.framesPerSecond)
    turns options typed (forgetFrames l)

def attend (options : Options) (p : Player) : IO Ending := do
  IO.print "\x1b[2J"
  let typed ← IO.mkRef (some [])
  let listener ← IO.asTask (listen typed) .dedicated
  let ending ← turns options typed (.start p)
  hangUp typed listener
  return ending

def play (options : Options) : IO Ending := do
  match Rom.ofFile options.format (← readBytes options.path) with
  | .error fault => return ⟨1, none, some (Session.loadReport options.path fault)⟩
  | .ok rom      =>
    match Player.start options.config rom with
    | (.ok (), p) => attend options p
    | failed      => return .ofPlayer failed

end ChipEight

open ChipEight in
def main (arguments : List String) : IO UInt32 := do
  match Options.ofArguments arguments with
  | .ok options => do
    let ending ← play options
    IO.eprint (ending.report.getD "")
    return ending.status.toUInt32
  | .error .help => do
    IO.print usage
    return 0
  | .error .version => do
    IO.println "0.1.0"
    return 0
  | .error _ => do
    IO.eprint usage
    return 2
