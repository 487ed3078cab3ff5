import ChipEight.Proofs.Session.Loop

/-!
# Sessions at their keyboard

Glances that are made one after the other find the keys that a session is said to find, also where
a report on the cursor keeps some of them for later. So if everything was typed before the first
turn, a session at its keyboard ends as it is said to end.
-/

namespace ChipEight

/-! ### Glances -/

namespace Keyboard

/-- The inputs that a number of glances leave. -/
def left (inputs : List Input) (n : Nat) : List Input :=
  Nat.iterate (fun inputs => (glance inputs).2) n inputs

theorem inputs_nil (called : Bool) (gathered : List UInt8) : inputs called gathered [] = [] := by
  rw [inputs]
  rfl

variable (inputs : List Input) (n : Nat)

theorem left_succ : left inputs (n + 1) = (glance (left inputs n)).2 :=
  Function.iterate_succ_apply' _ n inputs

/-- The first glance is followed by those at what it leaves. -/
theorem split_eq_cons : ∃ later, split inputs = (glance inputs).1 :: later ∧
    ∀ n, later.getD n [] = (split (glance inputs).2).getD n [] := by
  induction inputs with
  | nil => exact ⟨[], rfl, fun n => by cases n <;> rfl⟩
  | cons i rest ih =>
    obtain ⟨later, hsplit, hlater⟩ := ih
    cases i with
    | key k =>
      refine ⟨later, ?_, hlater⟩
      rw [split, hsplit]
      rfl
    | cursor => exact ⟨split rest, rfl, fun _ => rfl⟩
    | other => exact ⟨later, hsplit, hlater⟩

/-- So the keys that a glance is said to find are those that it finds. -/
theorem getD_split : (split inputs).getD n [] = (glance (left inputs n)).1 := by
  induction n generalizing inputs with
  | zero =>
    obtain ⟨later, hsplit, -⟩ := split_eq_cons inputs
    rw [hsplit]
    rfl
  | succ n ih =>
    obtain ⟨later, hsplit, hlater⟩ := split_eq_cons inputs
    rw [hsplit, List.getD_cons_succ, hlater, ih]
    rfl

end Keyboard

/-! ### Turns -/

namespace Session.Live

/-- Before each turn some bytes may be typed, but none behind those that are listed. -/
def turns (options : Options) (typed : List (List UInt8)) (l : Live) : Nat → Turn Live :=
  Turn.repeated (fun n => turn options (typed.getD n [])) l

variable {options : Options} {typed : List UInt8}

/-- What waits for a turn, with what is typed before it, is what the glances before it left. -/
def Awaits (typed : List UInt8) (n : Nat) (l : Live) : Prop :=
  l.waiting ++ Keyboard.inputs false [] ([typed].getD n []) =
    Keyboard.left (Keyboard.inputs false [] typed) n

variable {n : Nat} {l : Live}

theorem Awaits.turn_eq (h : l.Awaits typed n) : l.turn options ([typed].getD n []) =
    (l.progress.turn options ((Keyboard.glances typed).getD n [])).map
      (⟨·, Keyboard.left (Keyboard.inputs false [] typed) (n + 1)⟩) := by
  rw [turn, show l.waiting ++ _ = _ from h, Keyboard.left_succ, Keyboard.glances,
    Keyboard.getD_split]

/-- Nothing more is typed behind the first turn. -/
theorem awaits_succ (p : Progress) :
    (⟨p, Keyboard.left (Keyboard.inputs false [] typed) (n + 1)⟩ : Live).Awaits typed (n + 1) := by
  have hnone : [typed].getD (n + 1) [] = [] := by cases n <;> rfl
  rw [Awaits, hnone, Keyboard.inputs_nil, List.append_nil]

/-- If everything was typed before the first turn, the glances find what was typed. -/
theorem map_turns (p : Player) (n : Nat) : ((start p).turns options [typed] n).map Live.progress =
    Progress.turns options (Keyboard.glances typed) (start p).progress n := by
  have hstart : (start p).Awaits typed 0 := rfl
  refine (Turn.map_repeated hstart (fun n l hawaits => ?_) n).1
  rw [hawaits.turn_eq]
  rcases l.progress.turn options ((Keyboard.glances typed).getD n []) with p | ⟨result, p⟩
  · refine ⟨rfl, ?_⟩
    rintro _ ⟨⟩
    exact awaits_succ p
  · exact ⟨rfl, fun _ h => by cases h⟩

/-- A session at its keyboard ends as it is said to end, and only if it is said to. -/
theorem play_eq_some_iff {rom : Rom} {ending : Ending} :
    play options rom (Keyboard.glances typed) = some ending ↔
      ∃ n result l, (start (Player.start options.config rom).2).turns options [typed] n =
        .over result l ∧ ending = .ofPlayer (result, l.progress.player) := by
  rw [Progress.play_eq_some_iff]
  exact (Turn.exists_over_iff (map_turns (Player.start options.config rom).2)
    fun result p => ending = .ofPlayer (result, p.player)).symm

end Session.Live

end ChipEight
