/-!
# Slices of a text

A text is kept in UTF-8, and a slice of it is given by a number of bytes. There is such a slice only if a character
ends there: `slice?` has none beyond the end of the text or inside a character.
-/

namespace FilterWatch.Text

/-- The text in UTF-8. -/
def bytes (cs : List Char) : List UInt8 := cs.flatMap String.utf8EncodeChar

/-- The characters that the first `n` bytes hold. -/
def slice? : (n : Nat) → List Char → Option (List Char)
  | 0, _ => some []
  | _ + 1, [] => none
  | n + 1, c :: cs => if c.utf8Size ≤ n + 1 then (slice? (n + 1 - c.utf8Size) cs).map (c :: ·) else none

end FilterWatch.Text
