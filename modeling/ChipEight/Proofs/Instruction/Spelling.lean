import ChipEight.Proofs.Instruction.Word

/-!
# How instructions are spelled

The table of instruction words as a relation: `w` spells `i` if its digits are those of the row of
`i`. A word in no row spells the unknown instruction that keeps it.

Every word spells exactly one instruction, and this is the one it decodes to. Skips by two registers
leave a digit of their words free, and no other instruction is spelled by two words.
-/

namespace ChipEight.Word

/-- The words that stand in no row of the table. -/
inductive Unlisted (set : InstructionSet) (w : UInt16) : Prop where
  | zero (h : w.toNat < 0x1000) (hc : w.toNat ≠ 0x00E0) (hr : w.toNat ≠ 0x00EE)
  | leading (h : digit w 3 ∈ [0x7, 0xB, 0xC, 0xE, 0xF])
  | last (h : digit w 3 = 0x8) (h0 : digit w 0 ≠ 0x0)
  | reference (hs : set = .reference) (h : digit w 3 ∈ [0x6, 0x8, 0xA, 0xD])

/-- The table. The rows from `loadByte` to `draw` are those of the extended set alone. -/
inductive Spells (set : InstructionSet) (w : UInt16) : Instruction → Prop where
  | clear (h : w.toNat = 0x00E0) : Spells set w .clear
  | ret (h : w.toNat = 0x00EE) : Spells set w .ret
  | jump (nnn : UInt16) (hn : nnn.toNat < 0x1000) (h : w.toNat = 0x1000 + nnn.toNat) :
      Spells set w (.jump nnn)
  | call (nnn : UInt16) (hn : nnn.toNat < 0x1000) (h : w.toNat = 0x2000 + nnn.toNat) :
      Spells set w (.call nnn)
  | skipIfByte (x : Fin 16) (kk : UInt8) (h : w.toNat = 0x3000 + 0x100 * x + kk.toNat) :
      Spells set w (.skipIfEqual (.general x) (.byte kk))
  | skipUnlessByte (x : Fin 16) (kk : UInt8) (h : w.toNat = 0x4000 + 0x100 * x + kk.toNat) :
      Spells set w (.skipIfNotEqual (.general x) (.byte kk))
  | skipIf (x y free : Fin 16) (h : w.toNat = 0x5000 + 0x100 * x + 0x10 * y + free) :
      Spells set w (.skipIfEqual (.general x) (.register (.general y)))
  | skipUnless (x y free : Fin 16) (h : w.toNat = 0x9000 + 0x100 * x + 0x10 * y + free) :
      Spells set w (.skipIfNotEqual (.general x) (.register (.general y)))
  | loadByte (x : Fin 16) (kk : UInt8) (hs : set = .extended)
      (h : w.toNat = 0x6000 + 0x100 * x + kk.toNat) :
      Spells set w (.load (.general x) (.byte kk))
  | load (x y : Fin 16) (hs : set = .extended) (h : w.toNat = 0x8000 + 0x100 * x + 0x10 * y) :
      Spells set w (.load (.general x) (.register (.general y)))
  | loadIndex (nnn : UInt16) (hs : set = .extended) (hn : nnn.toNat < 0x1000)
      (h : w.toNat = 0xA000 + nnn.toNat) :
      Spells set w (.loadIndex nnn)
  | draw (x y n : Fin 16) (hs : set = .extended)
      (h : w.toNat = 0xD000 + 0x100 * x + 0x10 * y + n) :
      Spells set w (.draw (.general x) (.general y) (UInt8.ofNat n))
  | unknown (h : Unlisted set w) : Spells set w (.unknown w)

variable {set : InstructionSet} {w : UInt16} {i : Instruction}

/-! ### Digits -/

theorem digit_zero (w : UInt16) : digit w 0 = w.toNat % 0x10 := by simp [digit]

theorem digit_one (w : UInt16) : digit w 1 = w.toNat / 0x10 % 0x10 := by
  simp [digit, Nat.shiftRight_eq_div_pow]

theorem digit_two (w : UInt16) : digit w 2 = w.toNat / 0x100 % 0x10 := by
  simp [digit, Nat.shiftRight_eq_div_pow]

theorem digit_three (w : UInt16) : digit w 3 = w.toNat / 0x1000 := by
  have := w.toNat_lt
  simp only [digit, Nat.shiftRight_eq_div_pow]
  omega

/-! ### Decoding goes by the table -/

/-- A word decodes to what it spells. -/
theorem Spells.decode_eq (h : Spells set w i) : Instruction.decode set w = i := by
  cases h with
  | clear h =>
    obtain rfl : w = 0x00E0 := UInt16.toNat_inj.1 h
    cases set <;> rfl
  | ret h =>
    obtain rfl : w = 0x00EE := UInt16.toNat_inj.1 h
    cases set <;> rfl
  | jump nnn hn h =>
    have h3 : digit w 3 = 0x1 := by rw [digit_three]; omega
    have ha : address w = nnn := address_eq (by omega)
    cases set <;> simp only [Instruction.decode, h3, ha]
  | call nnn hn h =>
    have h3 : digit w 3 = 0x2 := by rw [digit_three]; omega
    have ha : address w = nnn := address_eq (by omega)
    cases set <;> simp only [Instruction.decode, h3, ha]
  | skipIfByte x kk h =>
    have hkk := kk.toNat_lt
    have h3 : digit w 3 = 0x3 := by rw [digit_three]; omega
    have hx : register w 2 = .general x := register_eq (by rw [digit_two]; omega)
    have hb : lowByte w = kk := lowByte_eq (by omega)
    cases set <;> simp only [Instruction.decode, h3, hx, hb]
  | skipUnlessByte x kk h =>
    have hkk := kk.toNat_lt
    have h3 : digit w 3 = 0x4 := by rw [digit_three]; omega
    have hx : register w 2 = .general x := register_eq (by rw [digit_two]; omega)
    have hb : lowByte w = kk := lowByte_eq (by omega)
    cases set <;> simp only [Instruction.decode, h3, hx, hb]
  | skipIf x y free h =>
    have h3 : digit w 3 = 0x5 := by rw [digit_three]; omega
    have hx : register w 2 = .general x := register_eq (by rw [digit_two]; omega)
    have hy : register w 1 = .general y := register_eq (by rw [digit_one]; omega)
    cases set <;> simp only [Instruction.decode, h3, hx, hy]
  | skipUnless x y free h =>
    have h3 : digit w 3 = 0x9 := by rw [digit_three]; omega
    have hx : register w 2 = .general x := register_eq (by rw [digit_two]; omega)
    have hy : register w 1 = .general y := register_eq (by rw [digit_one]; omega)
    cases set <;> simp only [Instruction.decode, h3, hx, hy]
  | loadByte x kk hs h =>
    have hkk := kk.toNat_lt
    have h3 : digit w 3 = 0x6 := by rw [digit_three]; omega
    have hx : register w 2 = .general x := register_eq (by rw [digit_two]; omega)
    have hb : lowByte w = kk := lowByte_eq (by omega)
    simp only [Instruction.decode, hs, h3, hx, hb]
  | load x y hs h =>
    have h3 : digit w 3 = 0x8 := by rw [digit_three]; omega
    have h0 : digit w 0 = 0x0 := by rw [digit_zero]; omega
    have hx : register w 2 = .general x := register_eq (by rw [digit_two]; omega)
    have hy : register w 1 = .general y := register_eq (by rw [digit_one]; omega)
    simp only [Instruction.decode, hs, h3, h0, hx, hy, if_true]
  | loadIndex nnn hs hn h =>
    have h3 : digit w 3 = 0xA := by rw [digit_three]; omega
    have ha : address w = nnn := address_eq (by omega)
    simp only [Instruction.decode, hs, h3, ha]
  | draw x y n hs h =>
    have h3 : digit w 3 = 0xD := by rw [digit_three]; omega
    have h0 : digit w 0 = n := by rw [digit_zero]; omega
    have hx : register w 2 = .general x := register_eq (by rw [digit_two]; omega)
    have hy : register w 1 = .general y := register_eq (by rw [digit_one]; omega)
    simp only [Instruction.decode, hs, h3, h0, hx, hy]
  | unknown h =>
    cases h with
    | zero h hc hr =>
      have h3 : digit w 3 = 0x0 := by rw [digit_three]; omega
      have hc' : w ≠ 0x00E0 := fun e => hc (congrArg UInt16.toNat e)
      have hr' : w ≠ 0x00EE := fun e => hr (congrArg UInt16.toNat e)
      cases set <;> simp only [Instruction.decode, h3, if_neg hc', if_neg hr']
    | leading h =>
      simp only [List.mem_cons, List.not_mem_nil, or_false] at h
      rcases h with h | h | h | h | h <;> cases set <;> simp only [Instruction.decode, h]
    | last h h0 => cases set <;> simp only [Instruction.decode, h, if_neg h0]
    | reference hs h =>
      simp only [List.mem_cons, List.not_mem_nil, or_false] at h
      rcases h with h | h | h | h <;> simp only [Instruction.decode, hs, h]

/-- Every word spells something. -/
theorem exists_spells (set : InstructionSet) (w : UInt16) : ∃ i, Spells set w i := by
  have h3 := digit_three w
  have ha := toNat_address w
  have hb := toNat_lowByte w
  obtain ⟨x, hx⟩ : ∃ x : Fin 16, x.val = w.toNat / 0x100 % 0x10 := ⟨⟨_, by omega⟩, rfl⟩
  obtain ⟨y, hy⟩ : ∃ y : Fin 16, y.val = w.toNat / 0x10 % 0x10 := ⟨⟨_, by omega⟩, rfl⟩
  obtain ⟨n, hn⟩ : ∃ n : Fin 16, n.val = w.toNat % 0x10 := ⟨⟨_, by omega⟩, rfl⟩
  match h : digit w 3 with
  | 0x0 =>
    by_cases hc : w.toNat = 0x00E0
    · exact ⟨_, .clear hc⟩
    by_cases hr : w.toNat = 0x00EE
    · exact ⟨_, .ret hr⟩
    · exact ⟨_, .unknown (.zero (by omega) hc hr)⟩
  | 0x1 => exact ⟨_, .jump (address w) (by omega) (by omega)⟩
  | 0x2 => exact ⟨_, .call (address w) (by omega) (by omega)⟩
  | 0x3 => exact ⟨_, .skipIfByte x (lowByte w) (by omega)⟩
  | 0x4 => exact ⟨_, .skipUnlessByte x (lowByte w) (by omega)⟩
  | 0x5 => exact ⟨_, .skipIf x y n (by omega)⟩
  | 0x9 => exact ⟨_, .skipUnless x y n (by omega)⟩
  | 0x6 =>
    cases set with
    | reference => exact ⟨_, .unknown (.reference rfl (by simp [h]))⟩
    | extended => exact ⟨_, .loadByte x (lowByte w) rfl (by omega)⟩
  | 0x8 =>
    by_cases h0 : digit w 0 = 0
    · cases set with
      | reference => exact ⟨_, .unknown (.reference rfl (by simp [h]))⟩
      | extended =>
        rw [digit_zero] at h0
        exact ⟨_, .load x y rfl (by omega)⟩
    · exact ⟨_, .unknown (.last h h0)⟩
  | 0xA =>
    cases set with
    | reference => exact ⟨_, .unknown (.reference rfl (by simp [h]))⟩
    | extended => exact ⟨_, .loadIndex (address w) rfl (by omega) (by omega)⟩
  | 0xD =>
    cases set with
    | reference => exact ⟨_, .unknown (.reference rfl (by simp [h]))⟩
    | extended => exact ⟨_, .draw x y n rfl (by omega)⟩
  | 0x7 | 0xB | 0xC | 0xE | 0xF => exact ⟨_, .unknown (.leading (by simp [h]))⟩
  | k + 16 =>
    have := w.toNat_lt
    omega

/-- What a word spells is what it decodes to, and nothing else. -/
theorem spells_iff : Spells set w i ↔ Instruction.decode set w = i := by
  refine ⟨Spells.decode_eq, ?_⟩
  rintro rfl
  obtain ⟨i, h⟩ := exists_spells set w
  rwa [h.decode_eq]

/-! ### Words of one instruction -/

variable {w' : UInt16}

/-- Two words of one instruction are equal, or they are skips by two registers and differ in their
free digit. -/
theorem Spells.eq_or_free (h : Spells set w i) (h' : Spells set w' i) :
    w = w' ∨ digit w 3 ∈ [0x5, 0x9] ∧ w.toNat / 0x10 = w'.toNat / 0x10 := by
  cases h with
  | clear | ret | jump | call | skipIfByte | skipUnlessByte | loadByte | load | loadIndex =>
    cases h'
    left
    apply UInt16.toNat_inj.1
    omega
  | skipIf | skipUnless =>
    cases h'
    right
    have hlead : digit w 3 = 0x5 ∨ digit w 3 = 0x9 := by
      rw [digit_three]
      omega
    exact ⟨by simpa using hlead, by omega⟩
  | draw x y n hs hw =>
    -- The rows are a byte made of the last digit, so both digits are found from one byte.
    generalize hrows : UInt8.ofNat n = rows at h'
    cases h' with
    | draw x y n' hs' hw' =>
      have hn := congrArg UInt8.toNat hrows
      rw [UInt8.toNat_ofNat', UInt8.toNat_ofNat'] at hn
      left
      apply UInt16.toNat_inj.1
      omega
  | unknown hw =>
    cases h'
    left
    rfl

theorem decode_eq_of_free (h : digit w 3 ∈ [0x5, 0x9]) (hw : w.toNat / 0x10 = w'.toNat / 0x10) :
    Instruction.decode set w = Instruction.decode set w' := by
  have h1 : digit w 1 = digit w' 1 := by rw [digit_one, digit_one, hw]
  have h2 : digit w 2 = digit w' 2 := by
    rw [digit_two, digit_two]
    omega
  have h3 : digit w 3 = digit w' 3 := by
    rw [digit_three, digit_three]
    omega
  have hlead : digit w' 3 = 0x5 ∨ digit w' 3 = 0x9 := by simpa [h3] using h
  rcases hlead with hlead | hlead <;> cases set <;>
    simp only [Instruction.decode, register, h1, h2, h3, hlead]

/-- Words that differ decode alike only where their last digit is free. -/
theorem decode_eq_iff : Instruction.decode set w = Instruction.decode set w' ↔
    w = w' ∨ digit w 3 ∈ [0x5, 0x9] ∧ w.toNat / 0x10 = w'.toNat / 0x10 := by
  constructor
  · intro h
    exact (spells_iff.2 h).eq_or_free (spells_iff.2 rfl)
  · rintro (rfl | ⟨hlead, hw⟩)
    · rfl
    · exact decode_eq_of_free hlead hw

end ChipEight.Word
