import FilterWatch.Text.CharClass

/-!
# Blanks

A blank is a character with the property White_Space. `trimmed` takes blanks off both ends of a text and
touches nothing between.
-/

namespace FilterWatch.Text

/-- The characters with the property White_Space. -/
def blanks : CharClass :=
  [(0x9, 0xD), (0x20, 0x20), (0x85, 0x85), (0xA0, 0xA0), (0x1680, 0x1680), (0x2000, 0x200A), (0x2028, 0x2029),
    (0x202F, 0x202F), (0x205F, 0x205F), (0x3000, 0x3000)]

def isBlank (c : Char) : Bool := blanks.has c

/-- The control characters: C0, DEL and C1. -/
def isControl (c : Char) : Bool := c.toNat < 0x20 || (0x7F ≤ c.toNat && c.toNat ≤ 0x9F)

/-- Drops characters from the end as long as `p` holds of them. -/
def dropTrailing (p : Char → Bool) (cs : List Char) : List Char := (cs.reverse.dropWhile p).reverse

/-- Without the blanks at both ends. -/
def trimmed (cs : List Char) : List Char := dropTrailing isBlank (cs.dropWhile isBlank)

@[simp] theorem dropTrailing_nil (p : Char → Bool) : dropTrailing p [] = [] := rfl

end FilterWatch.Text
