import ChipEight.Proofs.Machine.Simulation
import ChipEight.Proofs.Session
import ChipEight.Proofs.Terminal.Canvas

/-!
# Frames of a session

A machine on a terminal goes on like one on a grid alone: its steps show nothing, and the frames
that were shown are never looked at. So a frame only cuts the steps into batches. Since a machine
that is exhausted stays as it is, it does not matter either that a player lets it rest.
-/

namespace ChipEight

/-! ### A grid behind frames -/

/-- A terminal that has shown some frames is a grid with them at its side. -/
theorem Terminal.simulation (frames : List Canvas) :
    Surface.Simulation fun (g : Grid) (t : Terminal) => t = ⟨g, frames⟩ where
  light h _ _ := by subst h; rfl
  clear h := by subst h; rfl
  answer_eq h _ _ := by subst h; rfl
  query h _ _ := by subst h; rfl

namespace Machine

/-- The machine on a terminal that has shown some frames, the last one first. -/
def onTerminal (m : Machine Grid) (frames : List Canvas) : Machine Terminal :=
  { m with screen := ⟨m.screen, frames⟩ }

theorem Alike.eq_onTerminal {m : Machine Grid} {m' : Machine Terminal} {frames : List Canvas}
    (h : m.Alike (fun g t => t = ⟨g, frames⟩) m') (hset : m'.instructions = m.instructions) :
    m' = m.onTerminal frames := by
  obtain ⟨memory, registers, stack, screen, set⟩ := m'
  obtain ⟨rfl, rfl, rfl, rfl⟩ := h
  obtain rfl : set = m.instructions := hset
  rfl

variable (m : Machine Grid) (frames : List Canvas)

theorem alike_onTerminal : m.Alike (fun g t => t = ⟨g, frames⟩) (m.onTerminal frames) :=
  ⟨rfl, rfl, rfl, rfl⟩

/-- A step does the same on a terminal as on its grid. -/
theorem step_onTerminal : (m.onTerminal frames).step.state = m.step.state.onTerminal frames := by
  obtain ⟨-, -, hstep⟩ := (m.alike_onTerminal frames).step (Terminal.simulation frames) rfl
  apply hstep.eq_onTerminal
  rw [step_instructions, step_instructions]
  rfl

theorem after_onTerminal (n : Nat) :
    (m.onTerminal frames).after n = (m.after n).onTerminal frames := by
  induction n generalizing m with
  | zero => rfl
  | succ n ih => rw [after, step_onTerminal, ih, after]

theorem executedCount_onTerminal (n : Nat) :
    (m.onTerminal frames).executedCount n = m.executedCount n := by
  induction n generalizing m with
  | zero => rfl
  | succ n ih =>
    obtain ⟨hresult, -⟩ := (m.alike_onTerminal frames).step (Terminal.simulation frames) rfl
    rw [executedCount, executedCount, step_onTerminal, ih, hresult]

/-- What is shown if a picture is taken every few steps. -/
def pictures (steps count : Nat) : List Canvas :=
  (List.range count).map fun k => .ofGrid (m.after ((k + 1) * steps)).screen

theorem pictures_succ (steps count : Nat) : m.pictures steps (count + 1) =
    m.pictures steps count ++ [.ofGrid (m.after ((count + 1) * steps)).screen] := by
  rw [pictures, List.range_succ, List.map_append]
  rfl

end Machine

namespace Player

variable {p : Player} {m : Machine Grid} {frames : List Canvas}

theorem start_eq (config : Config) (rom : Rom) : start config rom =
    (.ok (), ⟨((Machine.fresh config Grid.dark).loadRom rom).state.onTerminal [], false⟩) := by
  rw [start, Machine.loadRom_fresh, Machine.loadRom_fresh]
  rfl

/-! ### Players that rest -/

/-- A player with a machine on its terminal, which rests only if the program is exhausted. -/
structure Plays (p : Player) (m : Machine Grid) (frames : List Canvas) : Prop where
  machine_eq : p.machine = m.onTerminal frames
  exhausted : p.exhausted = true → m.fetch? = none

theorem plays_start (config : Config) (rom : Rom) :
    (start config rom).2.Plays ((Machine.fresh config Grid.dark).loadRom rom).state [] := by
  rw [start_eq]
  exact ⟨rfl, Bool.noConfusion⟩

theorem Plays.advance (h : p.Plays m frames) (steps : Nat) :
    (p.advance steps).2.Plays (m.after steps) frames := by
  rw [Player.advance]
  split
  case isTrue hrests =>
    rw [Machine.after_of_fetch?_eq_none (h.exhausted hrests)]
    exact h
  case isFalse =>
    obtain ⟨exhausted, hrun, hflag⟩ := p.machine.run_eq steps
    rw [hrun]
    rw [h.machine_eq, Machine.after_onTerminal] at hflag ⊢
    exact ⟨rfl, hflag⟩

theorem Plays.refresh (h : p.Plays m frames) :
    p.refresh.2.Plays m (.ofGrid m.screen :: frames) where
  machine_eq := by
    obtain ⟨machine, exhausted⟩ := p
    obtain ⟨rfl, -⟩ := h
    rfl
  exhausted := h.exhausted

/-- A frame makes its steps and adds the picture of the grid behind them. -/
theorem Plays.frame (h : p.Plays m frames) (steps : Nat) :
    (p.frame steps).2.Plays (m.after steps) (.ofGrid (m.after steps).screen :: frames) := by
  rw [frame_eq]
  exact (h.advance steps).refresh

/-- The last frame can be told apart as well as the first. -/
theorem play_succ_last (p : Player) (steps n : Nat) :
    (p.play steps (n + 1)).2 = ((p.play steps n).2.frame steps).2 := by
  induction n generalizing p with
  | zero =>
    rw [play_succ]
    rfl
  | succ n ih => rw [play_succ, ih, ← play_succ]

/-- Every frame takes a picture of the machine some steps on. -/
theorem Plays.play (h : p.Plays m []) (steps n : Nat) :
    (p.play steps n).2.Plays (m.after (n * steps)) (m.pictures steps n).reverse := by
  -- The last frame is split off, since its picture comes first.
  induction n with
  | zero =>
    rw [Nat.zero_mul]
    exact h
  | succ n ih =>
    have hframe := ih.frame steps
    rw [← Machine.after_add, ← Nat.succ_mul] at hframe
    rw [play_succ_last, Machine.pictures_succ, List.reverse_concat]
    exact hframe

/-! ### Players that never rest -/

/-- A number of frames, with all their steps tried whatever comes of them. -/
def playOn (p : Player) (steps : Nat) : Nat → Player
  | 0     => p
  | n + 1 =>
    let shown := p.playOn steps n
    (refresh { shown with machine := shown.machine.after steps }).2

/-- A number of frames make all their steps, and leave the picture behind each. -/
theorem Plays.playOn (h : p.Plays m []) (steps n : Nat) :
    (p.playOn steps n).machine = (m.after (n * steps)).onTerminal (m.pictures steps n).reverse := by
  induction n with
  | zero =>
    rw [Nat.zero_mul]
    exact h.machine_eq
  | succ n ih =>
    rw [Player.playOn, ih, Machine.after_onTerminal, ← Machine.after_add, ← Nat.succ_mul,
      Machine.pictures_succ, List.reverse_concat]
    rfl

end Player

namespace Session

/-- Nothing but its budget ends a session in which no key does. -/
theorem frameCount_eq {budget : UInt64} {glances : List (List Key)}
    (hpos : 1 ≤ budget) (hquit : ∀ keys ∈ glances, keys.any Key.quits = false) :
    frameCount (some budget) glances = some budget.toNat := by
  have hfind : glances.findIdx? (·.any Key.quits) = none := List.findIdx?_eq_none_iff.2 hquit
  have hmax : max 1 budget.toNat = budget.toNat := Nat.max_eq_right (UInt64.le_iff_toNat_le.1 hpos)
  rw [frameCount, hfind, Option.map_some, hmax]
  rfl

/-- The lines on the terminal behind the last of some frames. -/
theorem lines_play (config : Config) (rom : Rom) (steps : Nat) {n : Nat} (hpos : 0 < n) :
    ((Player.start config rom).2.play steps n).2.machine.screen.lines =
      (Canvas.ofGrid
        (((Machine.fresh config Grid.dark).loadRom rom).state.after (n * steps)).screen).lines := by
  obtain ⟨n, rfl⟩ := Nat.exists_eq_add_of_lt hpos
  have hplays := (Player.plays_start config rom).play steps (0 + n + 1)
  rw [hplays.machine_eq, Machine.pictures_succ, List.reverse_concat]
  rfl

theorem play_eq_of_frameCount {options : Options} {glances : List (List Key)} {n : Nat}
    (hcount : frameCount options.maxFrames glances = some n) (hpos : 0 < n) (rom : Rom) :
    play options rom glances = some ⟨0, some (Canvas.ofGrid
      (((Machine.fresh options.config Grid.dark).loadRom rom).state.after
        (n * options.stepsPerFrame.toNat)).screen).lines, some ""⟩ := by
  rw [play_eq, hcount, Option.map_some]
  dsimp only
  rw [lines_play _ _ _ hpos]

end Session

/-- If no key ends it, a session plays as many frames as its budget says, and these only batch the
steps of a machine that has nothing but a grid. Behind the last frame the machine is where that one
is after all the steps of all the frames, up to the first that fails. Each picture shows its grid
after all the steps so far, and steps from the first that fails on do not count. No more comes of
steps that are tried all the same while a player would rest. And it does not matter how the steps
are shared out: if their number is the same, the session ends the same. -/
theorem Session.frames_only_batch_steps {options : Options} {budget : UInt64}
    {glances : List (List Key)} (hbudget : options.maxFrames = some budget) (hpos : 1 ≤ budget)
    (hquit : ∀ keys ∈ glances, keys.any Key.quits = false) (rom : Rom) :
    let loaded := ((Machine.fresh options.config Grid.dark).loadRom rom).state
    let steps := options.stepsPerFrame.toNat
    let count := budget.toNat
    let started := (Player.start options.config rom).2
    let final := (started.play steps count).2.machine
    let frames := final.screen.frames
    play options rom glances = some (.ofPlayer (started.play steps count)) ∧
      (started.play steps count).1 = .ok () ∧
      final = (loaded.run (count * steps)).2.onTerminal frames ∧
      frames.reverse = (List.range count).map
        (fun k => .ofGrid (loaded.run ((k + 1) * steps)).2.screen) ∧
      (∀ e fault, (loaded.after e).step.result = .error fault →
        final = (loaded.after (min (count * steps) e)).onTerminal frames ∧
          frames.reverse = (List.range count).map
            fun k => .ofGrid (loaded.after (min ((k + 1) * steps) e)).screen) ∧
      final = (started.playOn steps count).machine ∧
      ∀ (options' : Options) (budget' : UInt64) (glances' : List (List Key)),
        options'.config = options.config → options'.maxFrames = some budget' → 1 ≤ budget' →
        (∀ keys ∈ glances', keys.any Key.quits = false) →
        budget'.toNat * options'.stepsPerFrame.toNat = count * steps →
        play options' rom glances' = play options rom glances := by
  intro loaded steps count started final frames
  have hplays := Player.plays_start options.config rom
  have hfinal : final = (loaded.after (count * steps)).onTerminal
      (loaded.pictures steps count).reverse := (hplays.play steps count).machine_eq
  have hframes : frames = (loaded.pictures steps count).reverse := by
    simp only [frames, hfinal]
    rfl
  have hpictures : frames.reverse = loaded.pictures steps count := by
    rw [hframes, List.reverse_reverse]
  have hcount : frameCount options.maxFrames glances = some count := by
    rw [hbudget, frameCount_eq hpos hquit]
  refine ⟨?_, Player.play_result _ _ _, ?_, ?_, ?_, ?_, ?_⟩
  · have hstart : Player.start options.config rom = (.ok (), started) :=
      Prod.ext (Player.start_result options.config rom) rfl
    rw [play, hstart, hcount]
    rfl
  · rw [Machine.state_run, hframes]
    exact hfinal
  · simp only [Machine.state_run]
    exact hpictures
  · intro e fault hfault
    simp only [← Machine.after_eq_after_min hfault]
    exact ⟨hframes ▸ hfinal, hpictures⟩
  · rw [hplays.playOn]
    exact hfinal
  · intro options' budget' glances' hconfig hbudget' hpos' hquit' hproduct
    have hcount' : frameCount options'.maxFrames glances' = some budget'.toNat := by
      rw [hbudget', frameCount_eq hpos' hquit']
    rw [play_eq_of_frameCount hcount (UInt64.le_iff_toNat_le.1 hpos),
      play_eq_of_frameCount hcount' (UInt64.le_iff_toNat_le.1 hpos'), hconfig, hproduct]

/-- Three frames of one step and a frame of three, where the second of two steps draws a digit. -/
theorem Session.frames_only_batch_steps_digit :
    let rom : Rom := ⟨[0xA0, 0x50, 0xD0, 0x05], by decide⟩
    let slow : Options := ⟨"digit.ch8", .binary, ⟨0x404E000000000000⟩, 1, some 3, .default⟩
    let fast : Options := { slow with stepsPerFrame := 3, maxFrames := some 1 }
    let loaded := ((Machine.fresh .default Grid.dark).loadRom rom).state
    let before := (loaded.after 1).screen
    let digit := (loaded.after 2).screen
    let final := ((Player.start .default rom).2.play 1 3).2.machine
    before.isLit 0 0 = false ∧ digit.isLit 0 0 = true ∧
      final.screen.frames.reverse = [.ofGrid before, .ofGrid digit, .ofGrid digit] ∧
      play fast rom [[.char 'c' false]] = play slow rom [] := by
  intro rom slow fast loaded before digit final
  have hbefore : before.isLit 0 0 = false := by decide +kernel
  have hdigit : digit.isLit 0 0 = true := by decide +kernel
  have hend : (loaded.after 2).step.result = .error (.exhausted 0x204) := by decide +kernel
  have hbudget : slow.maxFrames = some 3 := rfl
  have hpos : (1 : UInt64) ≤ 3 := by decide
  have hquit : ∀ keys ∈ [[Key.char 'c' false]], keys.any Key.quits = false := by decide
  clear_value rom
  obtain ⟨-, -, -, -, hframes, -, hplay⟩ :=
    frames_only_batch_steps hbudget hpos (List.forall_mem_nil _) rom
  obtain ⟨-, hframes⟩ := hframes _ _ hend
  exact ⟨hbefore, hdigit, hframes, hplay fast 1 _ rfl rfl (by decide) hquit rfl⟩

end ChipEight
