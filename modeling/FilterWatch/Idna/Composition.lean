import FilterWatch.Idna.Composites
import FilterWatch.Idna.Marks

/-!
# Composed form

The canonical composed form of a text of allowed characters: characters are taken apart, the marks behind each are
put in order, and what can be composed is composed again. `isComposed` asks whether a text is in that form.
-/

namespace FilterWatch.Idna

/-! ### Hangul -/

/-- The first leading consonant, vowel and trailing consonant, one before the last of which means none, and the
first syllable. -/
def hangulLead : Nat := 0x1100
def hangulVowel : Nat := 0x1161
def hangulTrail : Nat := 0x11A7
def hangulSyllable : Nat := 0xAC00

/-- A syllable in parts. -/
def hangulParts? (n : Nat) : Option (List Nat) :=
  if hangulSyllable ≤ n ∧ n < hangulSyllable + 11172 then
    let i := n - hangulSyllable
    let parts := [hangulLead + i / 588, hangulVowel + i % 588 / 28]
    some (if i % 28 = 0 then parts else parts ++ [hangulTrail + i % 28])
  else none

/-- The syllable of a consonant and a vowel, or of a syllable without trailing consonant and such a consonant. -/
def hangulCompose? (a b : Nat) : Option Nat :=
  if hangulLead ≤ a ∧ a < hangulLead + 19 ∧ hangulVowel ≤ b ∧ b < hangulVowel + 21 then
    some (hangulSyllable + ((a - hangulLead) * 21 + (b - hangulVowel)) * 28)
  else if hangulSyllable ≤ a ∧ a < hangulSyllable + 11172 ∧ (a - hangulSyllable) % 28 = 0 ∧
      hangulTrail < b ∧ b < hangulTrail + 28 then
    some (a + (b - hangulTrail))
  else none

/-! ### Taking apart, ordering, composing -/

/-- The two characters that a composite stands for. -/
def pairOf? (n : Nat) : Option (Nat × Nat) :=
  composites.findSome? fun (second, firsts) =>
    (firsts.find? (·.2 == n)).map fun (first, _) => (first, second)

/-- The composite of two characters. -/
def compose? (a b : Nat) : Option Nat :=
  (hangulCompose? a b) <|> ((composites.lookup b).bind (·.lookup a))

/-- A character taken apart `depth` times over; no composite is deeper than four. -/
def decompose : Nat → Nat → List Nat
  | 0, n => [n]
  | depth + 1, n =>
    match hangulParts? n with
    | some parts => parts
    | none => match pairOf? n with
      | some (first, second) => decompose depth first ++ [second]
      | none => [n]

def classOf (n : Nat) : Nat := combiningClass (Char.ofNat n)

/-- Puts a mark behind the marks of its own and of lower classes. -/
def placeMark (m : Nat) : List Nat → List Nat
  | [] => [m]
  | x :: xs => if classOf m = 0 ∨ classOf x ≤ classOf m ∧ classOf x ≠ 0 then x :: placeMark m xs else m :: x :: xs

/-- The marks between two starters in the order of their classes. -/
def orderMarks : List Nat → List Nat → List Nat
  | waiting, [] => waiting
  | waiting, n :: rest =>
    if classOf n = 0 then waiting ++ n :: orderMarks [] rest else orderMarks (placeMark n waiting) rest

/-- Composes a text behind the starter `s`, after which the marks `passed`, nearest first, did not compose. -/
def composeFrom (s : Nat) (passed : List Nat) : List Nat → List Nat
  | [] => s :: passed.reverse
  | n :: rest =>
    let blocked := passed.head?.any fun m => classOf n ≤ classOf m
    match if blocked then none else compose? s n with
    | some c => composeFrom c passed rest
    | none =>
      if classOf n = 0 then s :: passed.reverse ++ composeFrom n [] rest
      else composeFrom s (n :: passed) rest

/-- The composed form of a text. -/
def composed (cs : List Char) : List Nat :=
  match orderMarks [] (cs.flatMap fun c => decompose 4 c.toNat) with
  | [] => []
  | n :: rest => composeFrom n [] rest

/-- Whether a text is in composed form. -/
def isComposed (cs : List Char) : Bool := composed cs == cs.map Char.toNat

end FilterWatch.Idna
