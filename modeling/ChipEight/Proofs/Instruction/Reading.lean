import ChipEight.Diagnostic
import ChipEight.Proofs.Instruction.Spelling
import ChipEight.Proofs.Register.Names
import ChipEight.Proofs.Text.Digits

/-!
# Reading assembly text

The text of an instruction is cut at its blanks into parts: a name for the operation, then its
arguments, with a comma behind all but the last. From the parts the instruction is read back, so no
two instructions have the same text.

A load of the index register and an index load go by the same name and the same first argument. An
operand takes four characters at most, and an address takes more.
-/

namespace ChipEight

/-! ### Numbers -/

namespace Hex

/-- Is there the mark of a number in front? -/
def IsMarked (part : String) : Prop := part.toList.take 2 = ['0', 'x']

instance : DecidablePred IsMarked := fun part =>
  inferInstanceAs (Decidable (part.toList.take 2 = ['0', 'x']))

/-- The number behind the mark. -/
def ofMarked (part : String) : Nat := number (part.toList.drop 2)

/-- The address in a part. -/
def ofAddress (part : String) : UInt16 := UInt16.ofNat (ofMarked part)

section

variable (digits : String)

theorem isMarked_append : IsMarked ("0x" ++ digits) := by
  rw [IsMarked, String.toList_append]
  rfl

theorem ofMarked_append : ofMarked ("0x" ++ digits) = number digits.toList := by
  rw [ofMarked, String.toList_append]
  rfl

end

theorem blank_notMem {cs : List Char} (h : ∀ c ∈ cs, IsDigit c) : ' ' ∉ cs :=
  fun hblank => absurd (h _ hblank) (by decide)

theorem blank_notMem_marked (width n : Nat) : ' ' ∉ ("0x" ++ lower width n).toList := by
  rw [String.toList_append, List.mem_append, not_or]
  exact ⟨by decide, blank_notMem fun _ => isDigit_of_mem_lower⟩

variable (a : UInt16)

theorem ofAddress_address : ofAddress (address a) = a := by
  rw [ofAddress, address, ofMarked_append, number_lower, UInt16.ofNat_toNat]

/-- An address has three digits at least. -/
theorem lt_length_address : 4 < (address a).length := by
  have hdigits := le_length_lower 3 a.toNat
  rw [address, String.length_append]
  exact Nat.add_le_add (Nat.le_refl 2) hdigits

end Hex

/-! ### Registers -/

namespace Register

/-- The register of a part that ends in a comma. -/
def ofArgument? (part : String) : Option Register :=
  (ofName? (String.ofList part.toList.dropLast)).toOption

variable (r : Register)

theorem ofName?_name : ofName? r.name = .ok r := ofName?_eq_ok_iff.2 rfl

theorem ofArgument?_name : ofArgument? (r.name ++ ",") = some r := by
  have hdrop : (r.name ++ ",").toList.dropLast = r.name.toList := by
    rw [String.toList_append]
    exact List.dropLast_concat
  rw [ofArgument?, hdrop, String.ofList_toList, ofName?_name]
  rfl

theorem length_name_le : r.name.length ≤ 2 := by
  revert r
  decide +kernel

theorem blank_notMem_name : ' ' ∉ r.name.toList := by
  revert r
  decide +kernel

theorem not_isMarked_name : ¬ Hex.IsMarked r.name := by
  revert r
  decide +kernel

end Register

/-! ### Operands -/

namespace Operand

/-- The operand in a last part, a byte if it is marked. -/
def ofText? (part : String) : Option Operand :=
  if Hex.IsMarked part then some (.byte (UInt8.ofNat (Hex.ofMarked part)))
  else (Register.ofName? part).toOption.map .register

variable (o : Operand)

theorem ofText?_text : ofText? o.text = some o := by
  cases o with
  | byte b =>
    rw [ofText?, text, if_pos (Hex.isMarked_append _), Hex.ofMarked_append, Hex.number_lower,
      UInt8.ofNat_toNat]
  | register r =>
    rw [ofText?, text, if_neg r.not_isMarked_name, r.ofName?_name]
    rfl

theorem length_text_le : o.text.length ≤ 4 := by
  cases o with
  | byte b =>
    have hb : b.toNat < 16 ^ 2 := b.toNat_lt
    rw [text, String.length_append, Hex.length_lower (by decide) hb]
    rfl
  | register r => exact r.length_name_le.trans (by decide)

theorem blank_notMem_text : ' ' ∉ o.text.toList := by
  cases o with
  | byte b => exact Hex.blank_notMem_marked 2 b.toNat
  | register r => exact r.blank_notMem_name

end Operand

/-! ### Instructions -/

namespace Instruction

/-- What stands between the blanks of the text. -/
def parts : Instruction → List String
  | .clear => ["CLS"]
  | .ret => ["RET"]
  | .jump target => ["JP", Hex.address target]
  | .call target => ["CALL", Hex.address target]
  | .skipIfEqual left right => ["SE", left.name ++ ",", right.text]
  | .skipIfNotEqual left right => ["SNE", left.name ++ ",", right.text]
  | .load target source => ["LD", target.name ++ ",", source.text]
  | .loadIndex address => ["LD", "I,", Hex.address address]
  | .draw x y rows =>
    ["DRW", x.name ++ ",", y.name ++ ",", String.ofList (Nat.toDigits 10 rows.toNat)]
  | .unknown word => [Hex.upper 4 word.toNat]

/-- The instruction of parts. -/
def ofParts? : List String → Option Instruction
  | [word] =>
    if word = "CLS" then some .clear
    else if word = "RET" then some .ret
    else some (.unknown (UInt16.ofNat (Hex.number word.toList)))
  | ["JP", target] => some (.jump (Hex.ofAddress target))
  | ["CALL", target] => some (.call (Hex.ofAddress target))
  | ["SE", left, right] => do
    return .skipIfEqual (← Register.ofArgument? left) (← Operand.ofText? right)
  | ["SNE", left, right] => do
    return .skipIfNotEqual (← Register.ofArgument? left) (← Operand.ofText? right)
  | ["LD", target, source] =>
    if source.length ≤ 4 then do
      return .load (← Register.ofArgument? target) (← Operand.ofText? source)
    else if target = "I," then some (.loadIndex (Hex.ofAddress source))
    else none
  | ["DRW", x, y, rows] => do
    return .draw (← Register.ofArgument? x) (← Register.ofArgument? y)
      (UInt8.ofNat (Nat.ofDigitChars 10 rows.toList 0))
  | _ => none

/-- An instruction is read back from its parts. -/
theorem ofParts?_parts (i : Instruction) : ofParts? i.parts = some i := by
  cases i with
  | clear | ret => rfl
  | jump target | call target => rw [parts, ofParts?, Hex.ofAddress_address]
  | skipIfEqual left right | skipIfNotEqual left right =>
    rw [parts, ofParts?, left.ofArgument?_name, right.ofText?_text]
    rfl
  | load target source =>
    rw [parts, ofParts?, if_pos source.length_text_le, target.ofArgument?_name,
      source.ofText?_text]
    rfl
  | loadIndex address =>
    rw [parts, ofParts?, if_neg (Nat.not_le.2 (Hex.lt_length_address address)), if_pos rfl,
      Hex.ofAddress_address]
  | draw x y rows =>
    rw [parts, ofParts?, x.ofArgument?_name, y.ofArgument?_name, String.toList_ofList,
      Nat.ofDigitChars_ten_toDigits, UInt8.ofNat_toNat]
    rfl
  | unknown word =>
    -- Four digits are no name, for both names have three letters.
    have hlength : (Hex.upper 4 word.toNat).length = 4 :=
      Hex.length_upper (by decide) word.toNat_lt
    have hne {name : String} (h : name.length = 3) : Hex.upper 4 word.toNat ≠ name := by
      rintro rfl
      omega
    rw [parts, ofParts?, if_neg (hne rfl), if_neg (hne rfl), Hex.number_upper, UInt16.ofNat_toNat]

/-! ### Cutting at blanks -/

theorem blank_notMem_parts (i : Instruction) : ∀ part ∈ i.parts.map String.toList, ' ' ∉ part := by
  have haddress (a : UInt16) : ' ' ∉ (Hex.address a).toList := Hex.blank_notMem_marked 3 a.toNat
  have hrows (n : Nat) : ' ' ∉ Nat.toDigits 10 n := fun hblank =>
    absurd (Nat.isDigit_of_mem_toDigits (by decide) (by decide) hblank) (by decide)
  have hword (n : Nat) : ' ' ∉ (Hex.upper 4 n).toList :=
    Hex.blank_notMem fun _ => Hex.isDigit_of_mem_upper
  cases i <;> simp [parts, haddress, hrows, hword, Register.blank_notMem_name,
    Operand.blank_notMem_text]

theorem parts_ne_nil (i : Instruction) : i.parts.map String.toList ≠ [] := by
  cases i <;> exact List.cons_ne_nil _ _

/-- The text is its parts with blanks between them. -/
theorem toList_text (i : Instruction) :
    i.text.toList = [' '].intercalate (i.parts.map String.toList) := by
  cases i <;> simp [text, parts]

variable {i i' : Instruction}

theorem eq_of_parts (h : i.parts.map String.toList = i'.parts.map String.toList) : i = i' := by
  have hparts : i.parts = i'.parts :=
    List.map_injective_iff.2 (fun _ _ => String.toList_inj.1) h
  apply Option.some.inj
  rw [← i.ofParts?_parts, hparts, ofParts?_parts]

/-- Instructions with the same text are the same. -/
theorem text_inj : i.text = i'.text ↔ i = i' := by
  refine ⟨fun h => eq_of_parts ?_, congrArg text⟩
  have hcut (i : Instruction) : i.text.toList.splitOn ' ' = i.parts.map String.toList := by
    rw [toList_text, List.splitOn_intercalate _ i.blank_notMem_parts i.parts_ne_nil]
  rw [← hcut, h, hcut]

/-- The width of a number tells a byte from an address. -/
example : (Instruction.load .index (.byte 0x20)).text = "LD I, 0x20" ∧
    (Instruction.loadIndex 0x20).text = "LD I, 0x020" := by decide +kernel

/-! ### Lines of a trace -/

/-- The line of a step is the address of the instruction and its text. -/
theorem toList_message_executing (pc : UInt16) (i : Instruction) :
    (Diagnostic.executing pc i).message.toList =
      [' '].intercalate ((Hex.address pc ++ ":").toList :: i.parts.map String.toList) := by
  have hline : (Diagnostic.executing pc i).message = Hex.address pc ++ ": " ++ i.text := rfl
  have hmark : ": ".toList = ":".toList ++ [' '] := rfl
  rw [hline, List.intercalate_cons_of_ne_nil i.parts_ne_nil, ← toList_text, String.toList_append,
    String.toList_append, String.toList_append, hmark]
  simp only [List.append_assoc]

/-- Lines of a trace that are the same stand for the same instruction at the same address. -/
theorem message_executing_inj {pc pc' : UInt16} :
    (Diagnostic.executing pc i).message = (Diagnostic.executing pc' i').message ↔
      pc = pc' ∧ i = i' := by
  constructor
  · intro h
    have hcut (pc : UInt16) (i : Instruction) :
        (Diagnostic.executing pc i).message.toList.splitOn ' ' =
          (Hex.address pc ++ ":").toList :: i.parts.map String.toList := by
      have hmark : ' ' ∉ (Hex.address pc ++ ":").toList := by
        rw [String.toList_append, List.mem_append, not_or]
        exact ⟨Hex.blank_notMem_marked 3 pc.toNat, by decide⟩
      rw [toList_message_executing, List.splitOn_intercalate _ _ (List.cons_ne_nil _ _)]
      exact List.forall_mem_cons.2 ⟨hmark, i.blank_notMem_parts⟩
    have hlines := hcut pc i
    rw [h, hcut] at hlines
    obtain ⟨hpc, hparts⟩ := List.cons.inj hlines
    rw [String.toList_append, String.toList_append, List.append_left_inj, String.toList_inj] at hpc
    refine ⟨?_, (eq_of_parts hparts).symm⟩
    rw [← Hex.ofAddress_address pc, ← hpc, Hex.ofAddress_address]
  · rintro ⟨rfl, rfl⟩
    rfl

end Instruction

/-! ### Main result -/

/-- Assembly text tells all instructions apart, with any registers and numbers in them, and the
line of a trace tells the address as well. So the texts of two words are the same exactly if the
words decode to the same instruction, and this happens only for equal words or for two skips by the
same registers, where the last digit is free. -/
theorem Instruction.text_tells_apart :
    (∀ i i' : Instruction, i.text = i'.text ↔ i = i') ∧
      (∀ (pc pc' : UInt16) (i i' : Instruction),
        (Diagnostic.executing pc i).message = (Diagnostic.executing pc' i').message ↔
          pc = pc' ∧ i = i') ∧
      ∀ (set : InstructionSet) (w w' : UInt16),
        let i := decode set w
        let i' := decode set w'
        (i.text = i'.text ↔ i = i') ∧
          (i = i' ↔ w = w' ∨
            Word.digit w 3 ∈ [0x5, 0x9] ∧ w.toNat / 0x10 = w'.toNat / 0x10) :=
  ⟨fun _ _ => text_inj, fun _ _ _ _ => message_executing_inj,
    fun _ _ _ => ⟨text_inj, Word.decode_eq_iff⟩⟩

end ChipEight
