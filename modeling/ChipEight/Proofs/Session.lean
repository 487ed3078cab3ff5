import ChipEight.Proofs.Machine.Exhaustion
import ChipEight.Proofs.Machine.Loading
import ChipEight.Session

/-!
# Sessions never fail

Every program image is loaded, a step has no fault but exhaustion, which a player takes for a
rest, and a terminal always shows what it is given. So a session plays on until it is asked to end,
and it ends well.
-/

namespace ChipEight

namespace Player

variable (p : Player) (steps : Nat)

/-! ### One frame -/

theorem start_result (config : Config) (rom : Rom) : (start config rom).1 = .ok () := by
  rw [start, Machine.loadRom_eq rom (UInt16.le_refl _)]

theorem advance_result : (p.advance steps).1 = .ok () := by
  obtain ⟨exhausted, hrun, -⟩ := p.machine.run_eq steps
  rw [advance, hrun]
  split <;> rfl

theorem refresh_result : p.refresh.1 = .ok () := rfl

theorem frame_eq : p.frame steps = (p.advance steps).2.refresh := by
  have h : p.advance steps = (.ok (), (p.advance steps).2) := Prod.ext (p.advance_result steps) rfl
  rw [frame, h]

theorem frame_result : (p.frame steps).1 = .ok () := by
  rw [frame_eq]
  exact refresh_result _

/-! ### Many frames -/

theorem play_succ (n : Nat) : p.play steps (n + 1) = (p.frame steps).2.play steps n := by
  have h : p.frame steps = (.ok (), (p.frame steps).2) := Prod.ext (p.frame_result steps) rfl
  rw [play, h]

/-- Frames never fail. -/
theorem play_result (n : Nat) : (p.play steps n).1 = .ok () := by
  induction n generalizing p with
  | zero => rfl
  | succ n ih =>
    rw [play_succ]
    exact ih _

end Player

namespace Session

/-- A session that ends does so behind its last frame, and well. -/
theorem play_eq (options : Options) (rom : Rom) (glances : List (List Key)) :
    play options rom glances = (frameCount options.maxFrames glances).map fun n =>
      let shown := (Player.start options.config rom).2.play options.stepsPerFrame.toNat n
      ⟨0, some shown.2.machine.screen.lines, some ""⟩ := by
  have hstart : Player.start options.config rom = (.ok (), (Player.start options.config rom).2) :=
    Prod.ext (Player.start_result options.config rom) rfl
  rw [play, hstart]
  apply congrArg (Option.map · (frameCount options.maxFrames glances))
  funext n
  generalize (Player.start options.config rom).2 = p
  have hplay : p.play options.stepsPerFrame.toNat n =
      (.ok (), (p.play options.stepsPerFrame.toNat n).2) :=
    Prod.ext (p.play_result _ n) rfl
  exact congrArg Ending.ofPlayer hplay

end Session

/-- A step fails exactly where neither byte of the word was ever written. The fault is then
exhaustion, the machine is left as it was, and every later step does the same. So a session has
no fault to end with: it loads its program, and no frame of it fails. -/
theorem Machine.step_fails_only_exhausted {S : Type} [Surface S] (m : Machine S)
    (options : Options) (rom : Rom) (frames : Nat) (glances : List (List Key)) :
    ((∃ fault, m.step.result = .error fault) ↔
      m.memory.isWritten m.registers.pc = false ∧
        m.memory.isWritten (m.registers.pc + 1) = false) ∧
    ((∃ i, m.step.result = .ok i) ∨
      m.step = .fail (.exhausted m.registers.pc) m ∧ ∀ n, (m.after n).step = m.step) ∧
    (let steps := options.stepsPerFrame.toNat
      let started := Player.start options.config rom
      let shown := started.2.play steps frames
      started.1 = .ok () ∧ shown.1 = .ok () ∧ (shown.2.advance steps).1 = .ok ()) ∧
    (Session.play options rom glances).map (fun ending => (ending.status, ending.report)) =
      (Session.frameCount options.maxFrames glances).map fun _ => (0, some "") := by
  refine ⟨exists_step_result_eq_error_iff, m.step_ok_or_exhausted, ⟨?_, ?_, ?_⟩, ?_⟩
  · exact Player.start_result options.config rom
  · exact Player.play_result _ _ frames
  · exact Player.advance_result _ _
  · rw [Session.play_eq, Option.map_map]
    rfl

end ChipEight
