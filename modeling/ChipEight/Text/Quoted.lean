import ChipEight.Text.Hex
import ChipEight.Text.Unprintable

/-!
# Quoted text

A quotation stands between double quotes and shows each character as itself, but for quotes,
backslashes and what has no mark: these are escaped, the common controls by a letter and the rest
by their number in hexadecimal.
-/

namespace ChipEight.Quoted

def escape (c : Char) : String :=
  match c with
  | '"'  => "\\\""
  | '\\' => "\\\\"
  | '\n' => "\\n"
  | '\r' => "\\r"
  | '\t' => "\\t"
  | '\x00' => "\\0"
  | c =>
    if isUnprintable c then "\\u\x7b" ++ Hex.lower 1 c.toNat ++ "\x7d" else String.singleton c

def quote (text : String) : String :=
  "\"" ++ String.join (text.toList.map escape) ++ "\""

end ChipEight.Quoted
