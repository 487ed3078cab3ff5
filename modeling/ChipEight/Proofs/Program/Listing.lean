import ChipEight.Program.Listing
import ChipEight.Proofs.Checked.Text
import ChipEight.Proofs.Text.Words

/-!
# What a listing says

A listing is accepted exactly where each of its words is four hexadecimal digits and their bytes
make a program image. What is wrong with a word is said before anything is said about the size, and
of several such words it is said about the first.

The words are cut into halves by their bytes, and the halves are read as numbers. Neither can go
wrong: where it could, the word has been refused before.
-/

namespace ChipEight

namespace Listing

/-! ### Words -/

/-- Exactly four digits. -/
structure IsWord (word : List Char) : Prop where
  length_eq : word.length = 4
  isDigit : ∀ c ∈ word, Hex.IsDigit c

theorem isWord_iff {word : List Char} :
    IsWord word ↔ word.length = 4 ∧ ∀ c ∈ word, Hex.IsDigit c :=
  ⟨fun h => ⟨h.length_eq, h.isDigit⟩, fun h => ⟨h.1, h.2⟩⟩

theorem isWord_four {a b c d : Char} : IsWord [a, b, c, d] ↔
    (Hex.IsDigit a ∧ Hex.IsDigit b) ∧ Hex.IsDigit c ∧ Hex.IsDigit d := by
  simp [isWord_iff, and_assoc]

theorem IsWord.exists_eq {word : List Char} (h : IsWord word) :
    ∃ a b c d, word = [a, b, c, d] :=
  List.length_eq_four.1 h.length_eq

/-- The bytes of a word, the high one first. -/
def wordBytes : List Char → List UInt8
  | [a, b, c, d] => [Hex.byte a b, Hex.byte c d]
  | _            => []

theorem wordBytes?_of_isWord {a b c d : Char} (h : IsWord [a, b, c, d]) :
    wordBytes? [a, b, c, d] = some (Hex.byte a b, Hex.byte c d) := by
  obtain ⟨⟨ha, hb⟩, hc, hd⟩ := isWord_four.1 h
  rw [wordBytes?, Hex.byte?_of_isDigit ha hb, Hex.byte?_of_isDigit hc hd]
  rfl

theorem wordBytes?_of_not_isWord {word : List Char} (h : ¬ IsWord word) :
    wordBytes? word = none := by
  unfold wordBytes?
  split
  case h_1 a b c d =>
    rw [isWord_four, ← Hex.byte?_isSome_iff, ← Hex.byte?_isSome_iff] at h
    cases hhigh : Hex.byte? a b with
    | none => rfl
    | some high =>
      cases hlow : Hex.byte? c d with
      | none => rfl
      | some low => exact absurd ⟨by rw [hhigh]; rfl, by rw [hlow]; rfl⟩ h
  case h_2 => rfl

/-! ### Bytes -/

variable {words : List (List Char)}

theorem bytesFrom_of_isWord (h : ∀ word ∈ words, IsWord word) (index : Nat)
    (earlier : List UInt8) :
    bytesFrom index earlier words = .ok (earlier.reverse ++ words.flatMap wordBytes) := by
  induction words generalizing index earlier with
  | nil => rw [List.flatMap_nil, List.append_nil]; rfl
  | cons word words ih =>
    obtain ⟨hword, hwords⟩ := List.forall_mem_cons.1 h
    obtain ⟨a, b, c, d, rfl⟩ := hword.exists_eq
    simp only [bytesFrom, wordBytes?_of_isWord hword]
    rw [ih hwords, List.flatMap_cons]
    simp [wordBytes]

theorem bytesFrom_of_not_isWord {i : Nat} {word : List Char} (hi : words[i]? = some word)
    (hword : ¬ IsWord word) (hfirst : ∀ j < i, ∀ w, words[j]? = some w → IsWord w)
    (index : Nat) (earlier : List UInt8) :
    bytesFrom index earlier words = .error (.malformedWord (index + i) (String.ofList word)) := by
  induction words generalizing i index earlier with
  | nil => cases hi
  | cons w words ih =>
    cases i with
    | zero =>
      cases hi
      simp only [bytesFrom, wordBytes?_of_not_isWord hword]
      rfl
    | succ i =>
      have hw : IsWord w := hfirst 0 (Nat.succ_pos i) w rfl
      obtain ⟨a, b, c, d, rfl⟩ := hw.exists_eq
      simp only [bytesFrom, wordBytes?_of_isWord hw]
      rw [ih hi (fun j hj => hfirst (j + 1) (Nat.succ_lt_succ hj)), Nat.add_assoc, Nat.add_comm 1 i]

theorem length_bytes (h : ∀ word ∈ words, IsWord word) :
    (words.flatMap wordBytes).length = 2 * words.length := by
  induction words with
  | nil => rfl
  | cons word words ih =>
    obtain ⟨hword, hwords⟩ := List.forall_mem_cons.1 h
    obtain ⟨a, b, c, d, rfl⟩ := hword.exists_eq
    rw [List.flatMap_cons, List.length_append, ih hwords, List.length_cons]
    simp only [wordBytes, List.length_cons, List.length_nil]
    omega

/-- The bytes of a word stand at twice its place. -/
theorem getElem?_bytes (h : ∀ word ∈ words, IsWord word) {i : Nat} {a b c d : Char}
    (hi : words[i]? = some [a, b, c, d]) :
    (words.flatMap wordBytes)[2 * i]? = some (Hex.byte a b) ∧
      (words.flatMap wordBytes)[2 * i + 1]? = some (Hex.byte c d) := by
  induction words generalizing i with
  | nil => cases hi
  | cons word words ih =>
    obtain ⟨hword, hwords⟩ := List.forall_mem_cons.1 h
    cases i with
    | zero => cases hi; exact ⟨rfl, rfl⟩
    | succ i =>
      obtain ⟨a', b', c', d', rfl⟩ := hword.exists_eq
      exact ih hwords hi

end Listing

/-! ### Checked reading -/

namespace Checked

open Listing

/-- The bytes of words behind those of the words before them. Nothing is yielded where a word is cut
inside of a character or beyond its end, nor where a half of it is no number. -/
def bytesFrom? (index : Nat) (earlier : List UInt8) :
    List (List Char) → Option (Except Rom.Fault (List UInt8))
  | []            => some (.ok earlier)
  | word :: words =>
    if byteLength word ≠ 4 || !word.all fun c => Hex.IsDigit c then
      some (.error (.malformedWord index (String.ofList word)))
    else do
      let high ← (cut? word 0 2).bind readByte?
      let low ← (cut? word 2 4).bind readByte?
      bytesFrom? (index + 1) (earlier ++ [high, low]) words

def ofListing? (text : String) : Option (Except Rom.Fault Rom) :=
  bind? (bytesFrom? 0 [] (words text.toList)) fun bytes => some (Rom.ofBytes bytes)

/-- Four bytes are four digits if all characters are digits. -/
theorem refuses_iff_not_isWord {word : List Char} :
    (byteLength word ≠ 4 || !word.all fun c => Hex.IsDigit c) = true ↔ ¬ IsWord word := by
  simp only [Bool.or_eq_true, decide_eq_true_eq, Bool.not_eq_true', ← Bool.not_eq_true,
    List.all_eq_true]
  rw [← not_and_or, isWord_iff, not_iff_not]
  exact and_congr_left fun h => by rw [byteLength_of_isDigit h]

theorem cut?_halves {a b c d : Char} (h : IsWord [a, b, c, d]) :
    cut? [a, b, c, d] 0 2 = some [a, b] ∧ cut? [a, b, c, d] 2 4 = some [c, d] := by
  obtain ⟨⟨ha, hb⟩, hc, hd⟩ := isWord_four.1 h
  have hhigh : byteLength [a, b] = 2 := byteLength_of_isDigit (by simp [ha, hb])
  have hlow : byteLength [c, d] = 2 := byteLength_of_isDigit (by simp [hc, hd])
  exact ⟨cut?_eq_some [] [a, b] [c, d] rfl (by rw [hhigh]),
    cut?_eq_some [a, b] [c, d] [] hhigh (by rw [hlow])⟩

theorem bytesFrom?_eq_some (index : Nat) (earlier : List UInt8) (words : List (List Char)) :
    bytesFrom? index earlier.reverse words = some (bytesFrom index earlier words) := by
  induction words generalizing index earlier with
  | nil => rfl
  | cons word words ih =>
    by_cases hword : IsWord word
    · obtain ⟨a, b, c, d, rfl⟩ := hword.exists_eq
      obtain ⟨⟨ha, hb⟩, hc, hd⟩ := isWord_four.1 hword
      obtain ⟨hhigh, hlow⟩ := cut?_halves hword
      have hnext := ih (index + 1) (Hex.byte c d :: Hex.byte a b :: earlier)
      rw [bytesFrom?, if_neg (fun h => refuses_iff_not_isWord.1 h hword), hhigh, hlow]
      simp only [bytesFrom, wordBytes?_of_isWord hword, Option.bind_eq_bind, Option.bind_some,
        readByte?_eq_some ha hb, readByte?_eq_some hc hd]
      simpa using hnext
    · rw [bytesFrom?, if_pos (refuses_iff_not_isWord.2 hword)]
      simp only [bytesFrom, wordBytes?_of_not_isWord hword]

/-- No word is cut within a character, and none of its digits fails to be read. -/
theorem ofListing?_eq_some (text : String) : ofListing? text = some (Rom.ofListing text) := by
  have hbytes := bytesFrom?_eq_some 0 [] (words text.toList)
  rw [ofListing?, ← List.reverse_nil, hbytes]
  exact bind?_eq_some fun _ => rfl

end Checked

/-! ### Listings -/

namespace Rom

open Listing

variable {text : String}

/-- The first word that is not well formed is the fault. -/
theorem ofListing_of_not_isWord {i : Nat} {word : List Char}
    (hi : (words text.toList)[i]? = some word) (hword : ¬ IsWord word)
    (hfirst : ∀ j < i, ∀ w, (words text.toList)[j]? = some w → IsWord w) :
    ofListing text = .error (.malformedWord i (String.ofList word)) := by
  rw [ofListing, bytesFrom_of_not_isWord hi hword hfirst, Nat.zero_add]
  rfl

/-- If all words are well formed, their bytes are the image unless there are too many. -/
theorem ofListing_of_isWord (h : ∀ word ∈ words text.toList, IsWord word) :
    ofListing text = ofBytes ((words text.toList).flatMap wordBytes) := by
  rw [ofListing, bytesFrom_of_isWord h]
  rfl

/-- What a listing yields is told by its words, the longest runs without a blank. The first of them
that is not four digits is reported, whatever the length of the listing. If there is none, more
bytes than fit are refused by their number, and otherwise each word stands in the image as two
bytes, the values of its halves. To find that out, no word is cut inside of a character or beyond
its end, and no half of a word fails to be read. -/
theorem ofListing_reads_words (text : String) :
    let ws := words text.toList
    (∀ runs, Runs text.toList runs ↔ ws = runs) ∧
      (∀ i word, ws[i]? = some word → ¬ IsWord word →
        (∀ j < i, ∀ w, ws[j]? = some w → IsWord w) →
        ofListing text = .error (.malformedWord i (String.ofList word))) ∧
      ((∀ word ∈ ws, IsWord word) → 3584 < 2 * ws.length →
        ofListing text = .error (.tooLarge (2 * ws.length) 3584)) ∧
      ((∀ word ∈ ws, IsWord word) → 2 * ws.length ≤ 3584 →
        ∃ rom, ofListing text = .ok rom ∧ rom.bytes.length = 2 * ws.length ∧
          ∀ i a b c d, ws[i]? = some [a, b, c, d] →
            rom.bytes[2 * i]?.map UInt8.toNat = some (16 * Hex.digit a + Hex.digit b) ∧
            rom.bytes[2 * i + 1]?.map UInt8.toNat = some (16 * Hex.digit c + Hex.digit d)) ∧
      Checked.ofListing? text = some (ofListing text) := by
  intro ws
  refine ⟨fun runs => runs_iff_words_eq, fun i word hi hword hfirst =>
    ofListing_of_not_isWord hi hword hfirst, fun hwords hlarge => ?_, fun hwords hfits => ?_,
    Checked.ofListing?_eq_some text⟩
  · have hlength := length_bytes hwords
    rw [ofListing_of_isWord hwords, ofBytes_of_lt (by rw [hlength]; exact hlarge), hlength]
    rfl
  · have hlength := length_bytes hwords
    have hroom : (ws.flatMap wordBytes).length ≤ maxSize := by rw [hlength]; exact hfits
    refine ⟨⟨ws.flatMap wordBytes, hroom⟩, ?_, hlength, ?_⟩
    · rw [ofListing_of_isWord hwords, ofBytes_of_le hroom]
    · intro i a b c d hi
      obtain ⟨⟨ha, hb⟩, hc, hd⟩ := isWord_four.1 (hwords _ (List.mem_of_getElem? hi))
      obtain ⟨hhigh, hlow⟩ := getElem?_bytes hwords hi
      rw [hhigh, hlow, Option.map_some, Option.map_some, Hex.toNat_byte ha hb,
        Hex.toNat_byte hc hd]
      exact ⟨rfl, rfl⟩

/-- Four bytes need not be four characters, and a sign is no digit. -/
example : Checked.ofListing? "00e0 +1FF" = some (.error (.malformedWord 1 "+1FF")) ∧
    Checked.ofListing? "éé" = some (.error (.malformedWord 0 "éé")) := by decide +kernel

end Rom

end ChipEight
