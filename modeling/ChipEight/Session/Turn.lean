import ChipEight.Session

/-!
# Turns

A session goes on by turns. Each glances at the keys, plays a frame and counts it, and only then
asks whether as many frames were shown as the budget says. The frames are counted in a machine
word.

Keys may be typed while the session goes on. Each glance finds what was typed until then, and what
the last one left.
-/

namespace ChipEight.Session

/-- What a turn leads to. -/
inductive Turn (σ : Type) where
  | next (s : σ)
  | over (result : Except Machine.Fault Unit) (s : σ)

def Turn.map {σ τ : Type} (f : σ → τ) : Turn σ → Turn τ
  | .next s        => .next (f s)
  | .over result s => .over result (f s)

/-- Where a session stands between two turns. -/
structure Progress where
  player : Player
  shown : UInt64

def Progress.turn (options : Options) (keys : List Key) (p : Progress) : Turn Progress :=
  if keys.any Key.quits then .over (.ok ()) p
  else
    let (result, player) := p.player.frame options.stepsPerFrame.toNat
    match result with
    | .error fault => .over (.error fault) { p with player := player }
    | .ok ()       =>
      let p : Progress := ⟨player, p.shown + 1⟩
      if options.maxFrames.any (· ≤ p.shown) then .over (.ok ()) p else .next p

/-- A session at its keyboard, with the inputs that no glance has passed yet. -/
structure Live where
  progress : Progress
  waiting : List Input

namespace Live

def start (player : Player) : Live := ⟨⟨player, 0⟩, []⟩

/-- A turn before which some bytes were typed. -/
def turn (options : Options) (typed : List UInt8) (l : Live) : Turn Live :=
  let (keys, waiting) := Keyboard.glance (l.waiting ++ Keyboard.inputs false [] typed)
  (l.progress.turn options keys).map (⟨·, waiting⟩)

end Live

end ChipEight.Session
