import FilterWatch.Text.Quoted.Escaped

/-!
# Quoted texts

A text between double quotes, as messages show it: the quote, the backslash and four control characters have
short escapes, a character that does not show is written by its code point, and the rest stands for itself.
-/

namespace FilterWatch.Text

/-- Hexadecimal digits in lower case, without leading zeros. -/
def hex (n : Nat) : String := .ofList (Nat.toDigits 16 n)

def quoteChar (c : Char) : String :=
  match c with
  | '"' => "\\\""
  | '\\' => "\\\\"
  | '\t' => "\\t"
  | '\n' => "\\n"
  | '\r' => "\\r"
  | '\x00' => "\\0"
  | c => if graphemeExtenders.has c || unprintable.has c then "\\u\x7b" ++ hex c.toNat ++ "\x7d" else .singleton c

/-- The text between double quotes. -/
def quote (s : String) : String := "\"" ++ String.join (s.toList.map quoteChar) ++ "\""

end FilterWatch.Text
