import ChipEight.Proofs.Machine.Exhaustion
import ChipEight.Proofs.Memory.History
import ChipEight.Screen.Grid

/-!
# What is fetched

A word is fetched where one of its two bytes was ever written. The low byte counts as zero if it was
not, but the high byte is taken as it stands. So the font is part of an instruction where a byte
was written right behind a digit row that was not.

Which cells count is asked twice, and the answers differ at one address. To see whether a program is
exhausted, the address behind the last of sixteen bits is the first again. A read ends with the
cells. So at that address a step executes a word of no cells at all if the first cell was written.
-/

namespace ChipEight

namespace Memory

/-- The byte of a cell if one was ever stored there, and zero if not. -/
def storedByte (m : Memory) (a : UInt16) : UInt8 :=
  if m.isWritten a then m.byteAt a.toNat else 0

/-- The word of two cells as far as they were ever stored in. -/
def storedWord (m : Memory) (a : UInt16) : UInt16 :=
  Word.ofBytes (m.storedByte a) (m.storedByte (a + 1))

/-- Does the address lie in the font? -/
def InFont (a : UInt16) : Prop := fontStart ≤ a.toNat ∧ a.toNat < fontStart + font.length

theorem ne_zero_of_mem_font : ∀ b ∈ font, b ≠ 0 := by decide +kernel

/-- No byte of the font is zero, and at first all others are. -/
theorem byteAt_fresh_eq_zero_iff (policy : WritePolicy) (a : UInt16) :
    (fresh policy).byteAt a.toNat = 0 ↔ ¬ InFont a := by
  rw [byteAt_fresh, InFont]
  by_cases h : fontStart ≤ a.toNat
  · by_cases h' : a.toNat - fontStart < font.length
    · have hmem := ne_zero_of_mem_font _ (List.getElem_mem h')
      have hin : a.toNat < fontStart + font.length := by omega
      simp [h, h', hin, hmem]
    · have hout : ¬ a.toNat < fontStart + font.length := by omega
      rw [if_pos h, List.getD_eq_default _ _ (Nat.le_of_not_lt h')]
      simp [hout]
  · simp [h]

/-- A cell that was not written still holds what it held at first. -/
theorem byteAt_serveAll_of_not_isWritten {policy : WritePolicy} {requests : List Request}
    {a : UInt16} (h : ((fresh policy).serveAll requests).isWritten a = false) :
    ((fresh policy).serveAll requests).byteAt a.toNat = (fresh policy).byteAt a.toNat := by
  rw [isWritten_serveAll_fresh, Option.isSome_eq_false_iff, Option.isNone_iff_eq_none] at h
  rw [byteAt_serveAll_fresh, h, Option.getD_none]

/-- So what was stored is what is held, except in the font. -/
theorem byteAt_eq_storedByte_iff (policy : WritePolicy) (requests : List Request) (a : UInt16) :
    let m := (fresh policy).serveAll requests
    m.byteAt a.toNat = m.storedByte a ↔ m.isWritten a = true ∨ ¬ InFont a := by
  intro m
  rw [storedByte]
  cases h : m.isWritten a with
  | true => simp
  | false =>
    have hbyte : m.byteAt a.toNat = (fresh policy).byteAt a.toNat :=
      byteAt_serveAll_of_not_isWritten h
    simp [hbyte, byteAt_fresh_eq_zero_iff]

/-! ### Cells that are read -/

/-- Was a byte ever stored in the cell of this number? -/
def marked (m : Memory) (k : Nat) : Bool := m.cells[k]?.any Cell.written

/-- The numbers of the cells that a read reaches, in order. -/
def reach (a : UInt16) (count : Nat) : List Nat :=
  List.range' a.toNat (min (a.toNat + count) 4096 - a.toNat)

theorem marked_eq_false {m : Memory} {k : Nat} (h : 4096 ≤ k) : m.marked k = false := by
  simp [marked, h]

theorem mem_reach_iff {a : UInt16} {count k : Nat} :
    k ∈ reach a count ↔ a.toNat ≤ k ∧ k < a.toNat + count ∧ k < 4096 := by
  rw [reach, List.mem_range'_1]
  omega

/-- Of two cells those that are not read were not written, since they do not exist. -/
theorem exists_mem_reach_iff {m : Memory} {a : UInt16} : (∃ k ∈ reach a 2, m.marked k = true) ↔
    m.marked a.toNat = true ∨ m.marked (a.toNat + 1) = true := by
  constructor
  · rintro ⟨k, hk, hmarked⟩
    obtain ⟨hle, hlt, -⟩ := mem_reach_iff.1 hk
    obtain rfl | rfl : k = a.toNat ∨ k = a.toNat + 1 := by omega
    · exact .inl hmarked
    · exact .inr hmarked
  · intro h
    have hcell {k : Nat} (hk : m.marked k = true) : k < 4096 := by
      by_contra hnot
      simp [marked_eq_false (Nat.le_of_not_lt hnot)] at hk
    rcases h with h | h
    · exact ⟨_, mem_reach_iff.2 ⟨Nat.le_refl _, Nat.lt_add_of_pos_right (by decide), hcell h⟩, h⟩
    · exact ⟨_, mem_reach_iff.2 ⟨Nat.le_succ _, Nat.lt_succ_self _, hcell h⟩, h⟩

/-- The address behind the last one is the first again. -/
theorem isWritten_add_one_iff {m : Memory} {a : UInt16} : m.isWritten (a + 1) = true ↔
    m.marked (a.toNat + 1) = true ∨ a = 0xFFFF ∧ m.isWritten 0 = true := by
  by_cases ha : a = 0xFFFF
  · subst ha
    have hend : m.marked ((0xFFFF : UInt16).toNat + 1) = false := marked_eq_false (by decide)
    have hfirst : (0xFFFF : UInt16) + 1 = 0 := by decide
    rw [hend, hfirst]
    simp
  · have hne : a.toNat ≠ 0xFFFF := fun h => ha (UInt16.toNat_inj.1 h)
    have hnext : (a + 1).toNat = a.toNat + 1 := by
      have hlt := a.toNat_lt
      rw [UInt16.toNat_add]
      exact Nat.mod_eq_of_lt (by simp; omega)
    rw [isWritten_eq, hnext, marked]
    simp [ha]

/-- A byte that is missing from a read counts as zero. -/
theorem getD_read (m : Memory) (a : UInt16) {count k : Nat} (hk : k < count) :
    (m.read a count).getD k 0 = m.byteAt (a.toNat + k) := by
  rw [read_eq]
  by_cases h : a.toNat + k < 4096
  · have hlt : k < min (a.toNat + count) 4096 - a.toNat := by omega
    simp [hlt]
  · have hle : min (a.toNat + count) 4096 - a.toNat ≤ k := by omega
    rw [byteAt_eq_zero (Nat.le_of_not_lt h)]
    simp [hle]

end Memory

theorem Word.ofBytes_inj {high low high' low' : UInt8} :
    ofBytes high low = ofBytes high' low' ↔ high = high' ∧ low = low' := by
  constructor
  · intro h
    have hword := congrArg UInt16.toNat h
    have hlow := low.toNat_lt
    have hlow' := low'.toNat_lt
    rw [toNat_ofBytes, toNat_ofBytes] at hword
    exact ⟨UInt8.toNat_inj.1 (by omega), UInt8.toNat_inj.1 (by omega)⟩
  · rintro ⟨rfl, rfl⟩
    rfl

namespace Machine

open Memory

variable {S : Type}

/-- The bytes of a fetched word in cells that both exist. -/
theorem fetch?_eq_some {m : Machine S} (hpc : m.registers.pc.toNat ≤ 0xFFE)
    (h : m.memory.isWritten m.registers.pc = true ∨
      m.memory.isWritten (m.registers.pc + 1) = true) :
    m.fetch? = some (Word.ofBytes (m.memory.byteAt m.registers.pc.toNat)
      (m.memory.storedByte (m.registers.pc + 1))) := by
  have hnext : (m.registers.pc + 1).toNat = m.registers.pc.toNat + 1 := by
    rw [UInt16.toNat_add]
    exact Nat.mod_eq_of_lt (by simp; omega)
  rw [fetch?, storedByte, hnext, word_eq]
  cases hlow : m.memory.isWritten (m.registers.pc + 1) with
  | true => simp
  | false =>
    have hhigh : m.memory.isWritten m.registers.pc = true := by simpa [hlow] using h
    simp [hhigh, Word.ofBytes_and_high]

/-- A word is made of the bytes of a read, in so far as there are any. -/
theorem eq_of_fetch?_eq_some {m : Machine S} {w : UInt16} (h : m.fetch? = some w) :
    let bytes := m.memory.read m.registers.pc 2
    w = Word.ofBytes (bytes.getD 0 0)
      (if m.memory.isWritten (m.registers.pc + 1) then bytes.getD 1 0 else 0) := by
  intro bytes
  have hhigh : bytes.getD 0 0 = m.memory.byteAt m.registers.pc.toNat := getD_read _ _ (by decide)
  have hlow : bytes.getD 1 0 = m.memory.byteAt (m.registers.pc.toNat + 1) :=
    getD_read _ _ (by decide)
  rw [hhigh, hlow]
  simp only [fetch?, word_eq] at h
  split at h
  case isTrue hnext =>
    rw [if_pos hnext]
    exact (Option.some.inj h).symm
  case isFalse hnext =>
    rw [if_neg hnext, ← Word.ofBytes_and_high]
    split at h
    case isTrue => exact (Option.some.inj h).symm
    case isFalse => cases h

variable [Surface S]

/-- A word is fetched wherever one of its cells was written, whatever was stored in memory before
and whether it was refused. Its low byte is what was stored, or zero if nothing was. Its high byte
is what the cell holds, also if nothing was stored there, and this is what a step executes. So the
word is made of what was stored alone, except where the high byte is an unwritten one of the
font. -/
theorem fetched_word (policy : WritePolicy) (requests : List Memory.Request) (m : Machine S)
    (hpc : m.registers.pc.toNat ≤ 0xFFE) :
    let memory := (Memory.fresh policy).serveAll requests
    let pc := m.registers.pc
    let now : Machine S := { m with memory := memory }
    memory.isWritten pc = true ∨ memory.isWritten (pc + 1) = true →
      let word := UInt16.ofNat
        (0x100 * (memory.byteAt pc.toNat).toNat + (memory.storedByte (pc + 1)).toNat)
      now.fetch? = some word ∧ now.step.result = .ok (Instruction.decode m.instructions word) ∧
        (now.fetch? = some (memory.storedWord pc) ↔ memory.isWritten pc = true ∨ ¬ InFont pc) := by
  intro memory pc now hwritten word
  have hbytes : now.fetch? = some (Word.ofBytes (memory.byteAt pc.toNat)
      (memory.storedByte (pc + 1))) := fetch?_eq_some (m := now) hpc hwritten
  have hword : now.fetch? = some word := by rw [hbytes, Word.ofBytes_eq_ofNat]
  refine ⟨hword, (step_of_fetch?_eq_some hword).1, ?_⟩
  rw [hbytes, Option.some_inj, storedWord, Word.ofBytes_inj, and_iff_left rfl]
  exact byteAt_eq_storedByte_iff policy requests pc

/-- A step from the last byte of the font, behind which one byte was stored. -/
theorem fetched_word_from_font :
    let requests : List Memory.Request := [.write 0xA0 0xE0]
    let memory := (Memory.fresh .permissive).serveAll requests
    let m := fresh .default Grid.dark
    let m : Machine Grid := { m with registers := m.registers.setPc 0x9F }
    let now : Machine Grid := { m with memory := memory }
    m.registers.pc.toNat ≤ 0xFFE ∧ memory.isWritten 0x9F = false ∧ memory.isWritten 0xA0 = true ∧
      memory.storedWord 0x9F = 0x00E0 ∧
      now.step.result = .ok (.load (.general 0x0) (.register (.general 0xE))) := by
  intro requests memory m₀ m now
  have hhigh : memory.isWritten 0x9F = false := by decide +kernel
  have hlow : memory.isWritten 0xA0 = true := by decide +kernel
  have hstored : memory.storedWord 0x9F = 0x00E0 := by decide +kernel
  have hword : UInt16.ofNat
      (0x100 * (memory.byteAt 0x9F).toNat + (memory.storedByte 0xA0).toNat) = 0x80E0 := by
    decide +kernel
  have hbound : m.registers.pc.toNat ≤ 0xFFE := by decide +kernel
  obtain ⟨-, hstep, -⟩ := fetched_word .permissive requests m hbound (.inr hlow)
  refine ⟨hbound, hhigh, hlow, hstored, hstep.trans ?_⟩
  exact congrArg (fun word => Except.ok (Instruction.decode .extended word)) hword

/-- A word may hold what was never stored. -/
theorem not_forall_fetch?_eq_storedWord :
    ¬ ∀ (policy : WritePolicy) (requests : List Memory.Request) (m : Machine Grid),
      m.memory = (Memory.fresh policy).serveAll requests → m.registers.pc.toNat ≤ 0xFFE →
      m.memory.isWritten m.registers.pc = true ∨
        m.memory.isWritten (m.registers.pc + 1) = true →
      m.fetch? = some (m.memory.storedWord m.registers.pc) := by
  intro h
  let memory := (Memory.fresh .permissive).serveAll [.write 0xA0 0xE0]
  let m := fresh .default Grid.dark
  let now : Machine Grid := { m with memory := memory, registers := m.registers.setPc 0x9F }
  have hfetch : now.fetch? = some 0x80E0 := by decide +kernel
  have hstored : now.memory.storedWord now.registers.pc = 0x00E0 := by decide +kernel
  have hclaim := h .permissive _ now rfl (by decide +kernel) (by decide +kernel)
  rw [hfetch, hstored] at hclaim
  exact absurd hclaim (by decide)

/-! ### Words of no cells -/

theorem step_result_ne_exhausted_iff {m : Machine S} :
    m.step.result ≠ .error (.exhausted m.registers.pc) ↔
      m.memory.isWritten m.registers.pc = true ∨
        m.memory.isWritten (m.registers.pc + 1) = true := by
  rw [Ne, step_result_eq_error_iff, and_iff_left rfl, fetch?_eq_none_iff]
  simp only [Bool.not_eq_false, not_and_or]

/-- The bytes that a step reads are those of its cells, and the word that it executes is made of
nothing else: a byte that is missing counts as zero, and so does a low byte where nothing was
stored. A step finds the program not exhausted exactly if one of these cells was written, except at
the last address, from which no cell is read at all. There it depends on the first cell, and if that
was written the step executes a word of zeros. -/
theorem step_reads_written_cell (m : Machine S) :
    let pc := m.registers.pc
    let cells := reach pc 2
    let bytes := m.memory.read pc 2
    bytes = cells.map m.memory.byteAt ∧
    (∀ w, m.fetch? = some w → w = Word.ofBytes (bytes.getD 0 0)
      (if m.memory.isWritten (pc + 1) then bytes.getD 1 0 else 0)) ∧
    (m.step.result ≠ .error (.exhausted pc) ↔
      (∃ k ∈ cells, m.memory.marked k = true) ∨ pc = 0xFFFF ∧ m.memory.isWritten 0 = true) ∧
    (pc = 0xFFFF → m.memory.isWritten 0 = true →
      bytes = [] ∧ m.step.result = .ok (.unknown 0)) := by
  intro pc cells bytes
  have hbytes : bytes = cells.map m.memory.byteAt := m.memory.read_eq pc 2
  have hword (w : UInt16) (hw : m.fetch? = some w) : w = Word.ofBytes (bytes.getD 0 0)
      (if m.memory.isWritten (pc + 1) then bytes.getD 1 0 else 0) := eq_of_fetch?_eq_some hw
  refine ⟨hbytes, hword, ?_, ?_⟩
  · rw [step_result_ne_exhausted_iff, isWritten_add_one_iff, exists_mem_reach_iff, isWritten_eq,
      or_assoc]
    rfl
  · intro hlast hfirst
    have hnone : bytes = [] := by
      rw [hbytes]
      simp only [cells, hlast]
      rfl
    have hnext : m.memory.isWritten (m.registers.pc + 1) = true :=
      isWritten_add_one_iff.2 (.inr ⟨hlast, hfirst⟩)
    obtain ⟨w, hw⟩ : ∃ w, m.fetch? = some w := by
      rw [← Option.isSome_iff_exists, Option.isSome_iff_ne_none, Ne, fetch?_eq_none_iff]
      simp [hnext]
    obtain rfl : w = 0 := by
      rw [hword w hw, hnone]
      simp [Word.ofBytes]
    refine ⟨hnone, ?_⟩
    rw [(step_of_fetch?_eq_some hw).1]
    cases m.instructions <;> rfl

/-- At the last address a step may execute what lies in no cell. -/
theorem not_forall_step_reads_written_cell :
    ¬ ∀ (policy : WritePolicy) (requests : List Memory.Request) (m : Machine Grid),
      m.memory = (Memory.fresh policy).serveAll requests →
      m.step.result ≠ .error (.exhausted m.registers.pc) →
      ∃ k ∈ reach m.registers.pc 2, m.memory.marked k = true := by
  intro h
  let memory := (Memory.fresh .permissive).serveAll [.write 0 0xE0]
  let m := fresh .default Grid.dark
  let last : Machine Grid := { m with memory := memory, registers := m.registers.setPc 0xFFFF }
  have hnext : last.memory.isWritten (last.registers.pc + 1) = true := by decide +kernel
  obtain ⟨k, hk, -⟩ := h .permissive _ last rfl (step_result_ne_exhausted_iff.2 (.inr hnext))
  have hcells : reach last.registers.pc 2 = [] := by decide +kernel
  rw [hcells] at hk
  cases hk

end Machine

end ChipEight
