import ChipEight.Program.Rom
import ChipEight.Text.Blank

/-!
# Listings

A listing is text: instruction words of exactly four hexadecimal digits, in any case, between
blanks. Each word becomes two bytes, the high one first. The first malformed word is reported
whatever the length of the listing.
-/

namespace ChipEight

namespace Listing

/-- The two bytes of a word. -/
def wordBytes? : List Char → Option (UInt8 × UInt8)
  | [a, b, c, d] => do return (← Hex.byte? a b, ← Hex.byte? c d)
  | _            => none

/-- The bytes of words, the first of which has the given position, behind the bytes of those
before them in reverse. -/
def bytesFrom (index : Nat) (earlier : List UInt8) :
    List (List Char) → Except Rom.Fault (List UInt8)
  | []            => .ok earlier.reverse
  | word :: words =>
    match wordBytes? word with
    | some (high, low) => bytesFrom (index + 1) (low :: high :: earlier) words
    | none             => .error (.malformedWord index (String.ofList word))

end Listing

def Rom.ofListing (text : String) : Except Rom.Fault Rom := do
  ofBytes (← Listing.bytesFrom 0 [] (words text.toList))

end ChipEight
