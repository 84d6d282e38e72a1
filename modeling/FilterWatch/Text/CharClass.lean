/-!
# Character classes

A class of characters is given by closed ranges of code points. The tables of the library (blanks, letters with
case, characters that a quoted text escapes) are all of this type, so that membership is one function.
-/

namespace FilterWatch.Text

/-- A class of characters, as closed ranges of code points. -/
abbrev CharClass := List (Nat × Nat)

/-- Whether the character lies in one of the ranges. -/
def CharClass.has (cls : CharClass) (c : Char) : Bool :=
  cls.any fun r => r.1 ≤ c.toNat && c.toNat ≤ r.2

theorem CharClass.has_iff {cls : CharClass} {c : Char} :
    cls.has c = true ↔ ∃ r ∈ cls, r.1 ≤ c.toNat ∧ c.toNat ≤ r.2 := by
  simp [CharClass.has]

/-- What holds of the first 128 code points holds of the ASCII characters. -/
@[elab_as_elim]
theorem of_ascii {motive : Char → Prop} {c : Char} (hc : c.toNat < 0x80) (h : ∀ n < 0x80, motive (Char.ofNat n)) :
    motive c := by
  have hmotive := h c.toNat hc
  rwa [Char.ofNat_toNat] at hmotive

end FilterWatch.Text
