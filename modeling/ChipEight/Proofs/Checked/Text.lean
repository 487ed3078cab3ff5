import ChipEight.Proofs.Checked.Access
import ChipEight.Proofs.Text.Hex

/-!
# Checked text

Text is a row of bytes, and a character takes one to four of them. A text can be cut at a position
between two characters or at its end, but not inside of a character.
-/

namespace ChipEight.Checked

/-! ### Positions -/

/-- How many bytes a text takes. -/
def byteLength : List Char → Nat
  | []        => 0
  | c :: text => c.utf8Size + byteLength text

/-- The first bytes of a text, and what is behind them. -/
def splitBytes? (n : Nat) : List Char → Option (List Char × List Char)
  | []        => if n = 0 then some ([], []) else none
  | c :: text =>
    if n = 0 then some ([], c :: text)
    else (sub? n c.utf8Size).bind fun n =>
      (splitBytes? n text).map fun parts => (c :: parts.1, parts.2)

/-- The bytes of a text from `i` on that are before `j`. -/
def cut? (text : List Char) (i j : Nat) : Option (List Char) := do
  let n ← sub? j i
  let (_, rest) ← splitBytes? i text
  let (cut, _) ← splitBytes? n rest
  return cut

theorem splitBytes?_byteLength (text rest : List Char) :
    splitBytes? (byteLength text) (text ++ rest) = some (text, rest) := by
  induction text with
  | nil => cases rest <;> rfl
  | cons c text ih =>
    have hpos := c.utf8Size_pos
    rw [byteLength, List.cons_append, splitBytes?, if_neg (by omega),
      sub?_eq_some (Nat.le_add_right _ _), Nat.add_sub_cancel_left, Option.bind_some, ih,
      Option.map_some]

/-- What stands between two positions that are between characters can be cut out. -/
theorem cut?_eq_some (before text after : List Char) {i j : Nat} (hi : byteLength before = i)
    (hj : i + byteLength text = j) : cut? (before ++ text ++ after) i j = some text := by
  subst hi hj
  rw [cut?, sub?_eq_some (Nat.le_add_right _ _), Nat.add_sub_cancel_left, List.append_assoc]
  simp only [Option.bind_eq_bind, Option.bind_some, splitBytes?_byteLength]
  rfl

theorem byteLength_of_isDigit {text : List Char} (h : ∀ c ∈ text, Hex.IsDigit c) :
    byteLength text = text.length := by
  induction text with
  | nil => rfl
  | cons c text ih =>
    obtain ⟨hc, htext⟩ := List.forall_mem_cons.1 h
    rw [byteLength, hc.utf8Size_eq, ih htext, List.length_cons, Nat.add_comm]

example : cut? ['x', 'é', 'y'] 1 3 = some ['é'] ∧ cut? ['x', 'é', 'y'] 1 2 = none ∧
    cut? ['x', 'é', 'y'] 3 5 = none := by decide

/-! ### Numbers -/

/-- The number below a limit that hexadecimal digits spell. -/
def number? (limit : Nat) (text : List Char) : Option Nat :=
  text.foldlM (fun n c => (Hex.value? c).bind fun d => add? limit (16 * n) d) 0

/-- A byte by its digits, at least one and as many as there are, which a plus sign may precede. -/
def readByte? (text : List Char) : Option UInt8 :=
  let spelled := if text.head? = some '+' then text.tail else text
  if spelled = [] then none else (number? 256 spelled).map UInt8.ofNat

/-- Two digits are read as the byte that they spell. -/
theorem readByte?_eq_some {a b : Char} (ha : Hex.IsDigit a) (hb : Hex.IsDigit b) :
    readByte? [a, b] = some (Hex.byte a b) := by
  have hsign : ¬ [a, b].head? = some '+' := by
    rintro h
    cases h
    exact absurd ha (by decide)
  have hhigh := Hex.digit_lt ha
  have hlow := Hex.digit_lt hb
  have hvalue : number? 256 [a, b] = some (16 * Hex.digit a + Hex.digit b) := by
    simp only [number?, List.foldlM_cons, List.foldlM_nil, Hex.value?_of_isDigit ha,
      Hex.value?_of_isDigit hb, Option.bind_eq_bind, Option.bind_some, Nat.mul_zero]
    rw [add?_eq_some (by omega), Option.bind_some, add?_eq_some (by omega), Nat.zero_add]
    rfl
  simp only [readByte?, if_neg hsign, hvalue, if_neg (List.cons_ne_nil a [b])]
  rfl

example : readByte? ['+', 'f'] = some 0xF ∧ readByte? ['-', 'f'] = none := by decide

end ChipEight.Checked
