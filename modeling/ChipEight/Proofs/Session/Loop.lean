import ChipEight.Proofs.Session.Frames
import ChipEight.Session.Turn

/-!
# The loop of a session

Turn after turn, a session goes round a loop. While it does, the instructions that it executes are
counted. The count changes nothing, and no budget lets the count of frames wrap around.

The loop ends where a session is said to end, and not at all where it is said to go on for ever. So
a budget of some frames is kept to exactly, while one of no frames still shows one.
-/

namespace ChipEight

namespace Player

/-- How many instructions are executed in a frame. -/
def executedCount (p : Player) (steps : Nat) : Nat :=
  if p.exhausted then 0 else p.machine.executedCount steps

theorem Plays.executedCount_eq {p : Player} {m : Machine Grid} {frames : List Canvas}
    (h : p.Plays m frames) (steps : Nat) : p.executedCount steps = m.executedCount steps := by
  rw [executedCount]
  split
  case isTrue hrests => rw [Machine.executedCount_of_fetch?_eq_none (h.exhausted hrests)]
  case isFalse => rw [h.machine_eq, Machine.executedCount_onTerminal]

end Player

namespace Session

/-! ### Turn after turn -/

namespace Turn

variable {σ τ : Type}

theorem map_eq_over_iff {f : σ → τ} {t : Turn σ} {result : Except Machine.Fault Unit} {r : τ} :
    t.map f = .over result r ↔ ∃ s, t = .over result s ∧ f s = r := by
  cases t <;> simp [map]

/-- Goes on from where a turn led to, unless that was the last one. -/
def andThen : Turn σ → (σ → Turn σ) → Turn σ
  | .next s, go       => go s
  | .over result s, _ => .over result s

/-- What a number of turns lead to. -/
def repeated (turn : Nat → σ → Turn σ) (s : σ) : Nat → Turn σ
  | 0     => .next s
  | n + 1 => (repeated turn s n).andThen (turn n)

variable {turn : Nat → σ → Turn σ} {turn' : Nat → τ → Turn τ} {f : σ → τ} {s : σ} {n k : Nat}

/-- What is over stays so. -/
theorem repeated_of_le {result : Except Machine.Fault Unit} {s' : σ}
    (h : repeated turn s n = .over result s') (hle : n ≤ k) :
    repeated turn s k = .over result s' := by
  induction k, hle using Nat.le_induction with
  | base => exact h
  | succ k _ ih => rw [repeated, ih, andThen]

/-- So it ends in one way only. -/
theorem repeated_unique {result result' : Except Machine.Fault Unit} {s₁ s₂ : σ}
    (h : repeated turn s n = .over result s₁) (h' : repeated turn s k = .over result' s₂) :
    result = result' ∧ s₁ = s₂ := by
  have hmax := (repeated_of_le h (Nat.le_max_left n k)).symm.trans
    (repeated_of_le h' (Nat.le_max_right n k))
  exact over.inj hmax

/-- If each turn corresponds to another one, then so do any number of them. An invariant may hold
between the turns. -/
theorem map_repeated {P : Nat → σ → Prop} (hstart : P 0 s)
    (hturn : ∀ n s, P n s → (turn n s).map f = turn' n (f s) ∧
      ∀ s', turn n s = .next s' → P (n + 1) s') (n : Nat) :
    (repeated turn s n).map f = repeated turn' (f s) n ∧
      ∀ s', repeated turn s n = .next s' → P n s' := by
  induction n with
  | zero =>
    refine ⟨rfl, ?_⟩
    rintro _ ⟨⟩
    exact hstart
  | succ n ih =>
    obtain ⟨hmap, hbetween⟩ := ih
    rw [repeated, repeated, ← hmap]
    rcases hn : repeated turn s n with s₁ | ⟨result, s₁⟩
    · exact hturn n s₁ (hbetween s₁ hn)
    · exact ⟨rfl, fun _ h => by cases h⟩

/-- Turns that correspond to others end as these do. -/
theorem exists_over_iff (hmap : ∀ n, (repeated turn s n).map f = repeated turn' (f s) n)
    (Q : Except Machine.Fault Unit → τ → Prop) :
    (∃ n result s', repeated turn s n = .over result s' ∧ Q result (f s')) ↔
      ∃ n result r, repeated turn' (f s) n = .over result r ∧ Q result r := by
  simp only [← hmap, map_eq_over_iff]
  constructor
  · rintro ⟨n, result, s', hover, hQ⟩
    exact ⟨n, result, _, ⟨s', hover, rfl⟩, hQ⟩
  · rintro ⟨n, result, _, ⟨s', hover, rfl⟩, hQ⟩
    exact ⟨n, result, s', hover, hQ⟩

end Turn

/-- Each turn has a glance of its own, and behind the last of these no key is typed any more. -/
def Progress.turns (options : Options) (glances : List (List Key)) (p : Progress) :
    Nat → Turn Progress :=
  Turn.repeated (fun n => Progress.turn options (glances.getD n [])) p

/-- Where a session stands between two turns, with the number of instructions executed so far. -/
structure Loop extends Progress where
  executed : Nat

namespace Loop

def start (options : Options) (rom : Rom) : Loop :=
  ⟨⟨(Player.start options.config rom).2, 0⟩, 0⟩

/-- A turn, where the instructions of its frame are counted. -/
def turn (options : Options) (keys : List Key) (l : Loop) : Turn Loop :=
  let count := l.player.executedCount options.stepsPerFrame.toNat
  let executed := l.executed + if keys.any Key.quits then 0 else count
  (l.toProgress.turn options keys).map (⟨·, executed⟩)

def turns (options : Options) (glances : List (List Key)) (l : Loop) : Nat → Turn Loop :=
  Turn.repeated (fun n => turn options (glances.getD n [])) l

section

variable {options : Options} {glances : List (List Key)} {l : Loop} {n : Nat}

theorem turns_succ : l.turns options glances (n + 1) =
    (l.turns options glances n).andThen (turn options (glances.getD n [])) := rfl

/-- The count makes no difference. -/
theorem map_turns (n : Nat) : (l.turns options glances n).map Loop.toProgress =
    l.toProgress.turns options glances n := by
  refine (Turn.map_repeated (P := fun _ _ => True) trivial (fun n l _ => ⟨?_, ?_⟩) n).1
  · rw [turn]
    cases l.toProgress.turn options (glances.getD n []) <;> rfl
  · exact fun _ _ => trivial

end

/-! ### Frames -/

/-- A turn that is not ended by a key or a fault leads here. -/
def frame (steps : Nat) (l : Loop) : Loop :=
  ⟨⟨(l.player.frame steps).2, l.shown + 1⟩, l.executed + l.player.executedCount steps⟩

/-- The loop behind a number of frames. -/
def played (options : Options) (rom : Rom) : Nat → Loop
  | 0     => start options rom
  | n + 1 => (played options rom n).frame options.stepsPerFrame.toNat

variable {options : Options} {glances : List (List Key)} {keys : List Key} {rom : Rom} {n : Nat}

theorem turn_of_quits (h : keys.any Key.quits = true) (l : Loop) :
    l.turn options keys = .over (.ok ()) l := by
  rw [turn, Progress.turn, if_pos h, if_pos h]
  rfl

/-- No frame fails, so only the budget is asked behind it. -/
theorem turn_of_not_quits (h : keys.any Key.quits = false) (l : Loop) : l.turn options keys =
    if options.maxFrames.any (· ≤ l.shown + 1) then
      .over (.ok ()) (l.frame options.stepsPerFrame.toNat)
    else .next (l.frame options.stepsPerFrame.toNat) := by
  have hframe : l.player.frame options.stepsPerFrame.toNat =
      (.ok (), (l.player.frame options.stepsPerFrame.toNat).2) :=
    Prod.ext (l.player.frame_result _) rfl
  have hquits := Bool.eq_false_iff.1 h
  rw [turn, Progress.turn, if_neg hquits, if_neg hquits, hframe]
  dsimp only
  split <;> rfl

theorem player_played (options : Options) (rom : Rom) (n : Nat) : (played options rom n).player =
    ((Player.start options.config rom).2.play options.stepsPerFrame.toNat n).2 := by
  induction n with
  | zero => rfl
  | succ n ih =>
    rw [Player.play_succ_last, ← ih]
    rfl

theorem shown_played (options : Options) (rom : Rom) (n : Nat) :
    (played options rom n).shown = UInt64.ofNat n := by
  induction n with
  | zero => rfl
  | succ n ih =>
    rw [UInt64.ofNat_add, ← ih]
    rfl

/-- A frame is the last one if it spends the budget. -/
theorem le_shown_add_one_iff {budget : UInt64} (h : n < max 1 budget.toNat) :
    budget ≤ (played options rom n).shown + 1 ↔ n + 1 = max 1 budget.toNat := by
  have hfits : n + 1 < UInt64.size :=
    (Nat.succ_le_of_lt h).trans_lt (max_lt (by decide) budget.toNat_lt_size)
  have hshown : UInt64.ofNat n + 1 = UInt64.ofNat (n + 1) := (UInt64.ofNat_add n 1).symm
  rw [shown_played, hshown, UInt64.le_iff_toNat_le, UInt64.toNat_ofNat_of_lt' hfits]
  omega

/-! ### Where the loop ends -/

/-- The loop goes on as long as no key ends it and its budget is not spent. -/
theorem turns_of_lt (rom : Rom) (hquit : ∀ k < n, (glances.getD k []).any Key.quits = false)
    (hbudget : ∀ budget ∈ options.maxFrames, n < max 1 budget.toNat) :
    (start options rom).turns options glances n = .next (played options rom n) := by
  induction n with
  | zero => rfl
  | succ n ih =>
    have hnot : ¬ options.maxFrames.any (· ≤ (played options rom n).shown + 1) = true := by
      rw [Option.any_eq_true]
      rintro ⟨budget, hmax, hle⟩
      have hlt := hbudget budget hmax
      have hlast := (le_shown_add_one_iff (Nat.lt_of_succ_lt hlt)).1 (of_decide_eq_true hle)
      exact hlt.ne hlast
    rw [turns_succ, ih (fun k hk => hquit k (hk.trans (Nat.lt_succ_self n)))
      fun budget hmax => Nat.lt_of_succ_lt (hbudget budget hmax), Turn.andThen,
      turn_of_not_quits (hquit n (Nat.lt_succ_self n)), if_neg hnot, played]

/-- A key that ends the session does so before the frame of its turn. -/
theorem turns_of_quits (rom : Rom) (hkey : (glances.getD n []).any Key.quits = true)
    (hquit : ∀ k < n, (glances.getD k []).any Key.quits = false)
    (hbudget : ∀ budget ∈ options.maxFrames, n < max 1 budget.toNat) :
    (start options rom).turns options glances (n + 1) = .over (.ok ()) (played options rom n) := by
  rw [turns_succ, turns_of_lt rom hquit hbudget, Turn.andThen, turn_of_quits hkey]

/-- The frame that spends the budget is the last one, and so is the first frame of all if there was
nothing to spend. -/
theorem turns_of_budget (rom : Rom) {budget : UInt64} (hbudget : options.maxFrames = some budget)
    (hquit : ∀ k < max 1 budget.toNat, (glances.getD k []).any Key.quits = false) :
    (start options rom).turns options glances (max 1 budget.toNat) =
      .over (.ok ()) (played options rom (max 1 budget.toNat)) := by
  obtain ⟨n, hn⟩ : ∃ n, max 1 budget.toNat = n + 1 :=
    Nat.exists_eq_succ_of_ne_zero (Nat.one_pos.trans_le (Nat.le_max_left _ _)).ne'
  have hlt : n < max 1 budget.toNat := hn ▸ Nat.lt_succ_self n
  have hnext := turns_of_lt rom (fun k hk => hquit k (hk.trans hlt)) fun other hother => by
    rw [hbudget] at hother
    cases hother
    exact hlt
  have hspent : options.maxFrames.any (· ≤ (played options rom n).shown + 1) = true := by
    rw [hbudget, Option.any_some]
    exact decide_eq_true ((le_shown_add_one_iff hlt).2 hn.symm)
  rw [hn, turns_succ, hnext, Turn.andThen, turn_of_not_quits (hquit n hlt), if_pos hspent, played]

/-! ### Sessions -/

/-- Behind the last glance no key is found. -/
theorem any_quits_getD (h : ∀ keys ∈ glances, keys.any Key.quits = false) (k : Nat) :
    (glances.getD k []).any Key.quits = false := by
  by_cases hk : k < glances.length
  · rw [List.getD_eq_getElem _ _ hk]
    exact h _ (List.getElem_mem hk)
  · rw [List.getD_eq_default _ _ (Nat.le_of_not_lt hk)]
    rfl

theorem exists_any_quits_getD {q : Nat} (h : glances.findIdx? (·.any Key.quits) = some q) :
    (glances.getD q []).any Key.quits = true ∧
      ∀ k < q, (glances.getD k []).any Key.quits = false := by
  obtain ⟨hlength, hkey, hbefore⟩ := List.findIdx?_eq_some_iff_getElem.1 h
  constructor
  · rwa [List.getD_eq_getElem _ _ hlength]
  · intro k hk
    rw [List.getD_eq_getElem _ _ (hk.trans hlength)]
    exact Bool.eq_false_iff.2 (hbefore k hk)

/-- The loop ends behind as many frames as the session is said to show. -/
theorem exists_turns_of_frameCount_eq_some {count : Nat} (rom : Rom)
    (h : frameCount options.maxFrames glances = some count) :
    ∃ n, (start options rom).turns options glances n =
      .over (.ok ()) (played options rom count) := by
  rw [frameCount] at h
  cases hfind : glances.findIdx? (·.any Key.quits) with
  | none =>
    have hquit := any_quits_getD (List.findIdx?_eq_none_iff.1 hfind)
    cases hmax : options.maxFrames with
    | none =>
      rw [hfind, hmax] at h
      cases h
    | some budget =>
      rw [hfind, hmax] at h
      cases h
      exact ⟨_, turns_of_budget rom hmax fun k _ => hquit k⟩
  | some q =>
    obtain ⟨hkey, hquit⟩ := exists_any_quits_getD hfind
    cases hmax : options.maxFrames with
    | none =>
      rw [hfind, hmax] at h
      cases h
      exact ⟨count + 1, turns_of_quits rom hkey hquit (by simp [hmax])⟩
    | some budget =>
      rw [hfind, hmax] at h
      cases h
      rcases Nat.lt_or_ge q (max 1 budget.toNat) with hlt | hge
      · have hcount : min (max 1 budget.toNat) q = q := Nat.min_eq_right hlt.le
        rw [hcount]
        exact ⟨q + 1, turns_of_quits rom hkey hquit (by simpa [hmax] using hlt)⟩
      · have hcount : min (max 1 budget.toNat) q = max 1 budget.toNat := Nat.min_eq_left hge
        rw [hcount]
        exact ⟨_, turns_of_budget rom hmax fun k hk => hquit k (hk.trans_le hge)⟩

/-- It goes on for ever if the session does. -/
theorem turns_of_frameCount_eq_none (rom : Rom) (h : frameCount options.maxFrames glances = none)
    (n : Nat) : (start options rom).turns options glances n = .next (played options rom n) := by
  rw [frameCount, Option.merge_eq_none_iff, Option.map_eq_none_iff] at h
  obtain ⟨hmax, hfind⟩ := h
  have hquit := any_quits_getD (List.findIdx?_eq_none_iff.1 hfind)
  exact turns_of_lt rom (fun k _ => hquit k) (by simp [hmax])

/-- The loop ends as the session does, and only if the session does. -/
theorem play_eq_some_iff {ending : Ending} : play options rom glances = some ending ↔
    ∃ n result l, (start options rom).turns options glances n = .over result l ∧
      ending = .ofPlayer (result, l.player) := by
  rw [play_eq]
  cases hcount : frameCount options.maxFrames glances with
  | none => simp [turns_of_frameCount_eq_none rom hcount]
  | some count =>
    obtain ⟨n, hover⟩ := exists_turns_of_frameCount_eq_some rom hcount
    have hending : Ending.ofPlayer (.ok (), (played options rom count).player) =
        ⟨0, some ((Player.start options.config rom).2.play options.stepsPerFrame.toNat
          count).2.machine.screen.lines, some ""⟩ := by
      rw [player_played]
      rfl
    rw [Option.map_some, ← hending, Option.some_inj]
    constructor
    · rintro rfl
      exact ⟨n, _, _, hover, rfl⟩
    · rintro ⟨k, result, l, hover', rfl⟩
      obtain ⟨rfl, rfl⟩ := Turn.repeated_unique hover hover'
      rfl

end Loop

/-- So do its turns where nothing is counted. -/
theorem Progress.play_eq_some_iff {options : Options} {glances : List (List Key)} {rom : Rom}
    {ending : Ending} : play options rom glances = some ending ↔
      ∃ n result p, Progress.turns options glances ⟨(Player.start options.config rom).2, 0⟩ n =
        .over result p ∧ ending = .ofPlayer (result, p.player) :=
  Loop.play_eq_some_iff.trans (Turn.exists_over_iff Loop.map_turns
    fun result p => ending = .ofPlayer (result, p.player))

end Session

end ChipEight
