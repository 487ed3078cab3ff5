import ChipEight.Proofs.Session.Loop

/-!
# Budgets of frames

Each frame of a session leaves one more picture on the terminal, and its steps execute at most as
many instructions. So a session that only its budget ends has shown as many frames as the budget
says, if that was not zero, and has executed no more instructions than there were steps in them.
-/

namespace ChipEight.Session

namespace Loop

/-- The loop has shown a number of frames, and executed just the instructions that led the machine
to where it is. -/
structure Counts (l : Loop) (m : Machine Grid) (steps n : Nat) : Prop where
  plays : ∃ frames, frames.length = n ∧ l.player.Plays (m.after l.executed) frames
  executed_le : l.executed ≤ n * steps
  executes : ∀ k < l.executed, ∃ i, (m.after k).step.result = .ok i

variable {m : Machine Grid} {l : Loop} {steps n : Nat}

/-- A frame adds one picture, and no more instructions than it has steps. -/
theorem Counts.frame (h : l.Counts m steps n) : (l.frame steps).Counts m steps (n + 1) := by
  obtain ⟨frames, hlength, hplays⟩ := h.plays
  have hcount := hplays.executedCount_eq steps
  have hafter : m.after (l.executed + l.player.executedCount steps) =
      (m.after l.executed).after steps := by
    rw [hcount, Machine.after_add, Machine.after_executedCount]
  have hframe := hplays.frame steps
  rw [← hafter] at hframe
  refine ⟨⟨_, congrArg (· + 1) hlength, hframe⟩, ?_, ?_⟩
  · rw [Loop.frame, hcount, Nat.succ_mul]
    exact Nat.add_le_add h.executed_le (Machine.executedCount_le _ _)
  · intro k hk
    rcases Nat.lt_or_ge k l.executed with hlt | hge
    · exact h.executes k hlt
    · obtain ⟨j, rfl⟩ := Nat.exists_eq_add_of_le hge
      rw [Machine.after_add]
      apply Machine.exists_step_result_of_lt_executedCount (n := steps)
      rw [← hcount]
      exact Nat.lt_of_add_lt_add_left hk

/-- So the loop counts what it has played. -/
theorem counts_played (options : Options) (rom : Rom) (n : Nat) : (played options rom n).Counts
    ((Machine.fresh options.config Grid.dark).loadRom rom).state options.stepsPerFrame.toNat n := by
  induction n with
  | zero =>
    exact ⟨⟨[], rfl, Player.plays_start options.config rom⟩, Nat.zero_le _,
      fun k hk => absurd hk (Nat.not_lt_zero k)⟩
  | succ n ih => exact ih.frame

theorem Counts.machine_eq (h : l.Counts m steps n) : l.player.machine.screen.frames.length = n ∧
    l.player.machine = (m.after l.executed).onTerminal l.player.machine.screen.frames := by
  obtain ⟨frames, rfl, hplays⟩ := h.plays
  rw [hplays.machine_eq]
  exact ⟨rfl, rfl⟩

theorem toNat_shown_played (options : Options) (rom : Rom) {budget : UInt64}
    (hn : n ≤ max 1 budget.toNat) : (played options rom n).shown.toNat = n := by
  rw [shown_played]
  exact UInt64.toNat_ofNat_of_lt' (hn.trans_lt (max_lt (by decide) budget.toNat_lt_size))

end Loop

/-- A session with a budget that no key ends goes on until as many frames were shown as its budget
says, or until one was if the budget was of none, and then ends well. Until then each turn shows one
frame more and counts it, and the count never wraps around. In the end the machine on the terminal
is the machine that has executed a number of instructions, each of them without a fault, and there
are no more of these than steps in all the frames. -/
theorem budget_bounds_frames {options : Options} {budget : UInt64} {glances : List (List Key)}
    (hbudget : options.maxFrames = some budget)
    (hquit : ∀ keys ∈ glances, keys.any Key.quits = false) (rom : Rom) :
    let loaded := ((Machine.fresh options.config Grid.dark).loadRom rom).state
    let turns := (Loop.start options rom).turns options glances
    let count := max 1 budget.toNat
    (∀ n < count, ∃ l, turns n = .next l ∧ l.shown.toNat = n ∧
      l.player.machine.screen.frames.length = n) ∧
    ∃ l, turns count = .over (.ok ()) l ∧ l.shown.toNat = count ∧
      l.player.machine.screen.frames.length = count ∧
      l.executed ≤ count * options.stepsPerFrame.toNat ∧
      (∀ k < l.executed, ∃ i, (loaded.after k).step.result = .ok i) ∧
      l.player.machine = (loaded.after l.executed).onTerminal l.player.machine.screen.frames ∧
      play options rom glances = some (.ofPlayer (.ok (), l.player)) := by
  intro loaded turns count
  have hquit := Loop.any_quits_getD hquit
  constructor
  · intro n hn
    obtain ⟨hframes, -⟩ := (Loop.counts_played options rom n).machine_eq
    refine ⟨_, Loop.turns_of_lt rom (fun k _ => hquit k) ?_,
      Loop.toNat_shown_played options rom hn.le, hframes⟩
    rw [hbudget]
    rintro _ ⟨⟩
    exact hn
  · have hcounts := Loop.counts_played options rom count
    obtain ⟨hframes, hmachine⟩ := hcounts.machine_eq
    have hover := Loop.turns_of_budget rom hbudget fun k _ => hquit k
    exact ⟨_, hover, Loop.toNat_shown_played options rom (Nat.le_refl count), hframes,
      hcounts.executed_le, hcounts.executes, hmachine,
      Loop.play_eq_some_iff.2 ⟨_, _, _, hover, rfl⟩⟩

/-- Three frames of one step, where the program has two instructions. -/
theorem budget_bounds_frames_digit :
    let rom : Rom := ⟨[0xA0, 0x50, 0xD0, 0x05], by decide⟩
    let options : Options := ⟨"digit.ch8", .binary, ⟨0x404E000000000000⟩, 1, some 3, .default⟩
    let glances : List (List Key) := [[], [.char 'c' false]]
    options.maxFrames = some 3 ∧ (∀ keys ∈ glances, keys.any Key.quits = false) ∧
      ∃ l, (Loop.start options rom).turns options glances 3 = .over (.ok ()) l ∧
        l.player.machine.screen.frames.length = 3 ∧ l.executed ≤ 3 ∧
        play options rom glances = some (.ofPlayer (.ok (), l.player)) := by
  intro rom options glances
  have hbudget : options.maxFrames = some 3 := rfl
  have hquit : ∀ keys ∈ glances, keys.any Key.quits = false := by decide
  clear_value rom
  obtain ⟨-, l, hover, -, hframes, hexecuted, -, -, hplay⟩ :=
    budget_bounds_frames hbudget hquit rom
  exact ⟨hbudget, hquit, l, hover, hframes, hexecuted, hplay⟩

/-- A budget of no frames is not kept to. -/
theorem not_forall_budget_eq_frames :
    ¬ ∀ (options : Options) (budget : UInt64) (glances : List (List Key)) (rom : Rom),
      options.maxFrames = some budget → (∀ keys ∈ glances, keys.any Key.quits = false) →
      ∃ n l, (Loop.start options rom).turns options glances n = .over (.ok ()) l ∧
        l.player.machine.screen.frames.length = budget.toNat := by
  intro h
  let rom : Rom := ⟨[0xA0, 0x50, 0xD0, 0x05], by decide⟩
  let options : Options := ⟨"digit.ch8", .binary, ⟨0x404E000000000000⟩, 10, some 0, .default⟩
  have hbudget : options.maxFrames = some 0 := rfl
  obtain ⟨n, l, hover, hnone⟩ := h options 0 [] rom hbudget (List.forall_mem_nil _)
  have hlast := Loop.turns_of_budget rom hbudget fun k _ =>
    Loop.any_quits_getD (List.forall_mem_nil _) k
  obtain ⟨-, rfl⟩ := Turn.repeated_unique hover hlast
  obtain ⟨hone, -⟩ := (Loop.counts_played options rom _).machine_eq
  rw [hone] at hnone
  exact absurd hnone (by decide)

end ChipEight.Session
