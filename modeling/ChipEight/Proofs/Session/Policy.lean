import ChipEight.Proofs.CommandLine.StrictMemory
import ChipEight.Proofs.Machine.Policy
import ChipEight.Proofs.Session.Screen

/-!
# Sessions and the policy of the memory

A session asks its machine for nothing but a program and steps. So it is the same session under
either policy.
-/

namespace ChipEight

namespace Session

/-- What the machine of a session has on its screen does not depend on the policy. -/
theorem screen_after_policy {S : Type} [Surface S] (set : InstructionSet) (p : WritePolicy)
    (screen : S) (rom : Rom) (n : Nat) :
    (((Machine.fresh ⟨set, p⟩ screen).loadRom rom).state.after n).screen =
      (((Machine.fresh ⟨set, .permissive⟩ screen).loadRom rom).state.after n).screen := by
  have hloaded : ((Machine.fresh ⟨set, p⟩ screen).loadRom rom).state =
      ((Machine.fresh ⟨set, .permissive⟩ screen).loadRom rom).state.withPolicy p :=
    ((Machine.fresh ⟨set, .permissive⟩ screen).loadRom_underPolicy p rom).state
  rw [hloaded, Machine.after_withPolicy]
  rfl

theorem play_policy (options : Options) (rom : Rom) (glances : List (List Key)) :
    play { options with config.policy := .permissive } rom glances = play options rom glances := by
  rw [play_eq, play_eq]
  dsimp only
  congr 1
  funext n
  cases n with
  | zero => rw [lines_play_zero, lines_play_zero]
  | succ n =>
    rw [lines_play _ _ _ n.succ_pos, lines_play _ _ _ n.succ_pos,
      screen_after_policy _ options.config.policy]

theorem run_policy {arguments arguments' : List String} {options : Options}
    (h : Options.ofArguments arguments = .ok options)
    (h' : Options.ofArguments arguments' = .ok { options with config.policy := .permissive })
    (file : String → Except DeviceFault (List UInt8)) (typed : List UInt8) :
    run arguments file typed = run arguments' file typed := by
  rw [run, run, h, h']
  dsimp only
  simp only [play_policy]

end Session

/-- A machine cannot tell under which policy it runs. A permissive and a strict machine that are
otherwise alike are asked the same, one request after the other. If none of the requests writes to
memory from outside, all of them have the same outcomes: the same results, faults and reports, and
machines that still differ in nothing but their policies. So they do if every such write is to a
cell that is not below where programs start at the time, or to none at all. If one is, then some
request has different results. And if a command line that asks for strict memory is in order, the
session is the same without asking for it. -/
theorem Machine.policy_unobservable {S : Type} [Surface S] (set : InstructionSet) (screen : S)
    (requests : List Request) :
    let permissive := fresh ⟨set, .permissive⟩ screen
    let strict := fresh ⟨set, .strict⟩ screen
    let alike := List.Forall₂ (Outcome.Related (UnderPolicy .strict)) (permissive.outcomes requests)
      (strict.outcomes requests)
    ((∀ r ∈ requests, r.target? = none) → alike) ∧
      (Request.Respects Memory.defaultStart requests → alike) ∧
      (¬ Request.Respects Memory.defaultStart requests →
        (strict.outcomes requests).map Outcome.result ≠
          (permissive.outcomes requests).map Outcome.result) ∧
      ∀ before after options file typed, "--" ∉ before →
        Options.ofArguments (before ++ "--strict-memory" :: after) = .ok options →
        Session.run (before ++ "--strict-memory" :: after) file typed =
          Session.run (before ++ after) file typed := by
  intro permissive strict alike
  have halike (h : Request.Respects Memory.defaultStart requests) : alike :=
    outcomes_underPolicy (m := permissive) h .strict
  refine ⟨fun h => halike (Request.respects_of_target? h _), halike, ?_, ?_⟩
  · intro h
    exact outcomes_result_ne (m := permissive) h rfl
  · intro before after options file typed hbefore hoptions
    have hwithout := (Options.ofArguments_without_strictMemory hbefore hoptions).1
    exact Session.run_policy hoptions hwithout file typed

/-- A program that is loaded below the usual start and fails to fit there, a write of a free cell
and one of a reserved cell, and a command line. -/
theorem Machine.policy_unobservable_once :
    let permissive := fresh ⟨.extended, .permissive⟩ Grid.dark
    let strict := fresh ⟨.extended, .strict⟩ Grid.dark
    let rom : Rom := ⟨[0x6A, 0x12, 0x22, 0x00], by decide⟩
    let own : List Request := [.setStart 0xFFE, .loadRom rom, .setStart 0x100, .loadRom rom,
      .registers (.setPc 0x100), .step, .execute .ret, .loadProgram [0x00, 0xE0]]
    let free : List Request := [.setStart 0x100, .write 0x180 0x42, .load [] 0x50]
    let reserved : List Request := [.setStart 0x300, .write 0x2FF 0x42]
    List.Forall₂ (Outcome.Related (UnderPolicy .strict)) (permissive.outcomes own)
        (strict.outcomes own) ∧
      List.Forall₂ (Outcome.Related (UnderPolicy .strict)) (permissive.outcomes free)
        (strict.outcomes free) ∧
      (strict.outcomes reserved).map Outcome.result ≠
        (permissive.outcomes reserved).map Outcome.result ∧
      Session.run ["-i", "2", "--strict-memory", "a.ch8", "--max-frames", "1"]
          (fun _ => .ok [0x00, 0xE0]) [] =
        Session.run ["-i", "2", "a.ch8", "--max-frames", "1"] (fun _ => .ok [0x00, 0xE0]) [] := by
  intro permissive strict rom own free reserved
  have hown : ∀ r ∈ own, r.target? = none := by
    simp [own, Request.target?]
  have hfree : Request.Respects Memory.defaultStart free := by
    simp [free, Request.Respects, Request.WritesBelow, Request.target?, Request.start?]
  have hreserved : ¬ Request.Respects Memory.defaultStart reserved := by
    simp [reserved, Request.Respects, Request.WritesBelow, Request.target?, Request.start?]
  have hoptions :
      Options.ofArguments ["-i", "2", "--strict-memory", "a.ch8", "--max-frames", "1"] =
        .ok ⟨"a.ch8", .binary, ⟨0x404E000000000000⟩, 2, some 1, ⟨.extended, .strict⟩⟩ := by
    decide +kernel
  obtain ⟨halike, -, -, hrun⟩ := policy_unobservable .extended Grid.dark own
  obtain ⟨-, hrespects, -, -⟩ := policy_unobservable .extended Grid.dark free
  obtain ⟨-, -, hdiffer, -⟩ := policy_unobservable .extended Grid.dark reserved
  exact ⟨halike hown, hrespects hfree, hdiffer hreserved,
    hrun ["-i", "2"] ["a.ch8", "--max-frames", "1"] _ _ _ (by decide) hoptions⟩

end ChipEight
