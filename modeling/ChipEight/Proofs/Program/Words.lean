import ChipEight.Proofs.Machine.Returns
import ChipEight.Proofs.Program.Listing
import ChipEight.Proofs.Text.Digits

/-!
# The words of a program

The words of a program image stand two bytes apart from its start on. If the image came from a
listing, they are the words of the listing in their order.
-/

namespace ChipEight

open Word

namespace Rom

/-- How many words an image has. The last one may lack its low byte. -/
def wordCount (rom : Rom) : Nat := (rom.size + 1) / 2

/-- A word of an image by its number. A missing low byte counts as zero. -/
def word (rom : Rom) (k : Nat) : UInt16 := rom.wordAt (0x200 + 2 * k)

end Rom

/-! ### Transfers -/

namespace Word

/-- A jump or a call, which goes by the address in the word. -/
def IsTransfer (w : UInt16) : Prop := digit w 3 = 0x1 ∨ digit w 3 = 0x2

instance : DecidablePred IsTransfer := fun w =>
  inferInstanceAs (Decidable (digit w 3 = 0x1 ∨ digit w 3 = 0x2))

theorem toNat_address_lt (w : UInt16) : (address w).toNat < 0x1000 := by
  rw [toNat_address]
  exact Nat.mod_lt _ (by decide)

variable {set : InstructionSet} {w nnn : UInt16}

theorem Spells.isTransfer_of_jump (h : Spells set w (.jump nnn)) :
    IsTransfer w ∧ address w = nnn := by
  cases h with
  | jump _ hn hw =>
    have h3 : digit w 3 = 0x1 := by rw [digit_three]; omega
    exact ⟨.inl h3, address_eq (by omega)⟩

theorem Spells.isTransfer_of_call (h : Spells set w (.call nnn)) :
    IsTransfer w ∧ address w = nnn := by
  cases h with
  | call _ hn hw =>
    have h3 : digit w 3 = 0x2 := by rw [digit_three]; omega
    exact ⟨.inr h3, address_eq (by omega)⟩

end Word

/-! ### Words of a listing -/

namespace Listing

theorem isWord_of_bytesFrom_eq_ok {index : Nat} {earlier bytes : List UInt8}
    {words : List (List Char)} (h : bytesFrom index earlier words = .ok bytes) :
    ∀ word ∈ words, IsWord word := by
  induction words generalizing index earlier with
  | nil => exact List.forall_mem_nil _
  | cons word words ih =>
    by_cases hword : IsWord word
    · obtain ⟨a, b, c, d, rfl⟩ := hword.exists_eq
      simp only [bytesFrom, wordBytes?_of_isWord hword] at h
      exact List.forall_mem_cons.2 ⟨hword, ih h⟩
    · simp only [bytesFrom, wordBytes?_of_not_isWord hword] at h
      cases h

/-- The number of a word is that of its two bytes. -/
theorem toNat_ofBytes_eq_number {a b c d : Char} (h : IsWord [a, b, c, d]) :
    (ofBytes (Hex.byte a b) (Hex.byte c d)).toNat = Hex.number [a, b, c, d] := by
  obtain ⟨⟨ha, hb⟩, hc, hd⟩ := isWord_four.1 h
  have hnumber : Hex.number [a, b, c, d] =
      16 * (16 * (16 * (16 * 0 + Hex.digit a) + Hex.digit b) + Hex.digit c) + Hex.digit d := rfl
  rw [toNat_ofBytes, Hex.toNat_byte ha hb, Hex.toNat_byte hc hd, hnumber]
  omega

end Listing

namespace Rom

open Listing

/-- A listing that becomes an image has only well-formed words, and the image is their bytes. -/
theorem ofListing_eq_ok {text : String} {rom : Rom} (h : ofListing text = .ok rom) :
    (∀ word ∈ words text.toList, IsWord word) ∧
      rom.bytes = (words text.toList).flatMap wordBytes := by
  cases hbytes : bytesFrom 0 [] (words text.toList) with
  | error fault =>
    rw [ofListing, hbytes] at h
    cases h
  | ok bytes =>
    have hwords := isWord_of_bytesFrom_eq_ok hbytes
    rw [ofListing_of_isWord hwords] at h
    exact ⟨hwords, ofBytes_eq_ok h⟩

/-- The words of an image are those of the listing that it came from, in their order. -/
theorem word_of_listing {text : String} {rom : Rom} (h : ofListing text = .ok rom) {k : Nat}
    (hk : k < rom.wordCount) :
    ∃ word, (words text.toList)[k]? = some word ∧ IsWord word ∧
      (rom.word k).toNat = Hex.number word := by
  obtain ⟨hwords, hbytes⟩ := ofListing_eq_ok h
  have hsize : rom.size = 2 * (words text.toList).length := by
    rw [size, hbytes, length_bytes hwords]
  have hlt : k < (words text.toList).length := by
    rw [wordCount] at hk
    omega
  have hget := List.getElem?_eq_getElem hlt
  have hword : IsWord (words text.toList)[k] := hwords _ (List.getElem_mem hlt)
  refine ⟨_, hget, hword, ?_⟩
  obtain ⟨a, b, c, d, heq⟩ := hword.exists_eq
  rw [heq] at hget hword ⊢
  obtain ⟨hhigh, hlow⟩ := getElem?_bytes hwords hget
  rw [← hbytes] at hhigh hlow
  have hbyte {j : Nat} {byte : UInt8} (hj : rom.bytes[j]? = some byte) :
      rom.byteAt (0x200 + j) = byte := by
    rw [byteAt, if_pos (Nat.le_add_right _ _), Nat.add_sub_cancel_left, List.getD_eq_getElem?_getD,
      hj, Option.getD_some]
  rw [Rom.word, wordAt, Nat.add_assoc, hbyte hhigh, hbyte hlow, toNat_ofBytes_eq_number hword]

end Rom

end ChipEight
