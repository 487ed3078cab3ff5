import ChipEight.Proofs.Session.Frames

/-!
# What a session leaves on the screen

A session that shows anything ends well, behind the last of its frames. What stands on the terminal
then is the frame of the grid that the steps led to.
-/

namespace ChipEight.Session

theorem lines_play_zero (config : Config) (rom : Rom) (steps : Nat) :
    ((Player.start config rom).2.play steps 0).2.machine.screen.lines = [] := by
  rw [Player.start_eq]
  rfl

/-- A program that a command line names is played. -/
theorem run_eq_play {arguments : List String}
    {file : String → Except DeviceFault (List UInt8)} {options : Options} {rom : Rom}
    (hoptions : Options.ofArguments arguments = .ok options)
    (hrom : Rom.ofFile options.format (file options.path) = .ok rom) (typed : List UInt8) :
    run arguments file typed = play options rom (Keyboard.glances typed) := by
  rw [run, hoptions]
  dsimp only
  rw [hrom]

/-- Nothing else is ever shown on the terminal. -/
theorem exists_of_run_eq_some {arguments : List String}
    {file : String → Except DeviceFault (List UInt8)} {typed : List UInt8} {ending : Ending}
    {lines : List String} (hrun : run arguments file typed = some ending)
    (hlines : ending.screen = some lines) :
    ∃ options rom, Options.ofArguments arguments = .ok options ∧
      Rom.ofFile options.format (file options.path) = .ok rom := by
  rw [run] at hrun
  cases hoptions : Options.ofArguments arguments with
  | error refusal =>
    rw [hoptions] at hrun
    cases hrun
    cases refusal <;> cases hlines
  | ok options =>
    rw [hoptions] at hrun
    dsimp only at hrun
    cases hrom : Rom.ofFile options.format (file options.path) with
    | error fault =>
      rw [hrom] at hrun
      cases hrun
      cases hlines
    | ok rom => exact ⟨options, rom, rfl, hrom⟩

/-- The frame that is drawn for a grid has the mark at a column and a row inside its box if the cell
there is on, and a blank if not, so that grids differ just if their frames do. This holds of the
canvas, and of whatever else leaves one mark for each pair of coordinates within the bounds. If a
session ends and has shown anything, the lines on the terminal are the frame of the grid behind all
the steps of all its frames, up to the first step that fails. -/
theorem screen_shows_grid :
    Canvas.Shows (fun g => (Canvas.ofGrid g).lines) ∧
    (∀ paint, Canvas.Paints paint → Canvas.Shows fun g => paint g.coordinates) ∧
    Canvas.Paints (fun coordinates => (Canvas.ofCoordinates coordinates).lines) ∧
    ∀ arguments file typed lines,
      (∃ ending, run arguments file typed = some ending ∧ ending.screen = some lines ∧
        lines ≠ []) ↔
      ∃ options rom count, Options.ofArguments arguments = .ok options ∧
        Rom.ofFile options.format (file options.path) = .ok rom ∧
        frameCount options.maxFrames (Keyboard.glances typed) = some count ∧ 0 < count ∧
        lines = (Canvas.ofGrid (((Machine.fresh options.config Grid.dark).loadRom rom).state.run
          (count * options.stepsPerFrame.toNat)).2.screen).lines := by
  refine ⟨Canvas.shows_ofGrid, fun _ => Canvas.Paints.shows, Canvas.paints_ofCoordinates, ?_⟩
  intro arguments file typed lines
  constructor
  · rintro ⟨ending, hrun, hlines, hne⟩
    obtain ⟨options, rom, hoptions, hrom⟩ := exists_of_run_eq_some hrun hlines
    rw [run_eq_play hoptions hrom, play_eq] at hrun
    obtain ⟨count, hcount, rfl⟩ := Option.map_eq_some_iff.1 hrun
    obtain rfl := Option.some.inj hlines
    have hpos : 0 < count := by
      by_contra hzero
      obtain rfl : count = 0 := by omega
      exact hne (lines_play_zero _ _ _)
    refine ⟨options, rom, count, hoptions, hrom, hcount, hpos, ?_⟩
    rw [lines_play _ _ _ hpos, Machine.state_run]
  · rintro ⟨options, rom, count, hoptions, hrom, hcount, hpos, rfl⟩
    have hrun := (run_eq_play hoptions hrom typed).trans (play_eq_of_frameCount hcount hpos rom)
    rw [Machine.state_run]
    exact ⟨_, hrun, rfl, List.cons_ne_nil _ _⟩

/-- A session of two steps that draws a digit, and a look at the first row of its frame. -/
theorem screen_shows_grid_digit :
    let rom : Rom := ⟨[0xA0, 0x50, 0xD0, 0x05], by decide⟩
    let arguments := ["digit.ch8", "-i", "2", "--max-frames", "1"]
    ∃ ending lines, run arguments (fun _ => .ok rom.bytes) [] = some ending ∧
      ending.screen = some lines ∧ Canvas.inside? lines 3 0 = some '▄' ∧
      Canvas.inside? lines 4 0 = some ' ' := by
  intro rom arguments
  let last := ((Machine.fresh .default Grid.dark).loadRom rom).state.run (1 * 2)
  have hon : last.2.screen.isLit 3 0 = true := by decide +kernel
  have hoff : last.2.screen.isLit 4 0 = false := by decide +kernel
  have hoptions : Options.ofArguments arguments =
      .ok ⟨"digit.ch8", .binary, ⟨0x404E000000000000⟩, 2, some 1, .default⟩ := by decide +kernel
  have hrom : Rom.ofFile .binary (.ok rom.bytes) = .ok rom := rfl
  have hcount : frameCount (some 1) (Keyboard.glances []) = some 1 := by decide +kernel
  clear_value rom
  obtain ⟨hshows, -, -, hends⟩ := screen_shows_grid
  obtain ⟨ending, hrun, hlines, -⟩ :=
    (hends arguments (fun _ => .ok rom.bytes) [] _).2
      ⟨_, rom, 1, hoptions, hrom, hcount, Nat.one_pos, rfl⟩
  refine ⟨ending, _, hrun, hlines, ?_, ?_⟩
  · rw [hshows.inside?_eq _ (by decide) (by decide)]
    exact congrArg some (if_pos hon)
  · rw [hshows.inside?_eq _ (by decide) (by decide)]
    exact congrArg some (if_neg (Bool.eq_false_iff.1 hoff))

end ChipEight.Session
