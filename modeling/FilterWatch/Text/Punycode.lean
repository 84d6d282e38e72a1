/-!
# Punycode

Text of any script in letters, digits and hyphens. The ASCII characters of the text come first, a hyphen after
them; then each other character is given, in ascending order, by the distance from the one before it. A distance
is a number of variable length in base 36 whose digits have thresholds that adapt to the distances so far. Only
decoding is needed here; it reads a digit at a time and so ends with the input.
-/

namespace FilterWatch.Text.Punycode

/-- The value of a digit: letters from 0, then the ten decimal digits. -/
def digit? (c : Char) : Option Nat :=
  if 'a' ≤ c ∧ c ≤ 'z' then some (c.toNat - 97)
  else if 'A' ≤ c ∧ c ≤ 'Z' then some (c.toNat - 65)
  else if '0' ≤ c ∧ c ≤ '9' then some (c.toNat - 22)
  else none

/-- The threshold of the digit at position `k`, which counts in steps of 36. -/
def threshold (k bias : Nat) : Nat :=
  if k ≤ bias then 1 else if bias + 26 ≤ k then 26 else k - bias

/-- Divides by 35 until at most 455 is left, and counts the divisions in steps of 36. -/
def scaleDown (delta k : Nat) : Nat × Nat :=
  if 455 < delta then scaleDown (delta / 35) (k + 36) else (delta, k)
termination_by delta
decreasing_by omega

/-- The bias after a distance, in a text that now has `count` characters. -/
def adapt (delta count : Nat) (isFirst : Bool) : Nat :=
  let halved := if isFirst then delta / 700 else delta / 2
  let (rest, k) := scaleDown (halved + halved / count) 0
  k + 36 * rest / (rest + 38)

/-- The state between two distances. -/
structure State where
  /-- The text so far. -/
  text : List Char
  /-- The character that was put in last, 128 at the start. -/
  code : Nat
  /-- The place after it. -/
  place : Nat
  bias : Nat

/-- The state of a distance that is being read: what its digits add up to, the weight and position of the next. -/
structure Distance where
  sum : Nat := 0
  weight : Nat := 1
  k : Nat := 36

/-- Puts in the character at a distance from the last one. -/
def State.insert? (s : State) (distance : Nat) : Option State :=
  let count := s.text.length + 1
  let code := s.code + (s.place + distance) / count
  let place := (s.place + distance) % count
  if code.isValidChar then
    some ⟨s.text.insertIdx place (Char.ofNat code), code, place + 1, adapt distance count (s.place == 0)⟩
  else none

/-- Reads distances to the end of the text; `none` when a digit is missing or wrong. -/
def decodeFrom (s : State) (d : Distance) : List Char → Option (List Char)
  | [] => if d.k = 36 then some s.text else none
  | c :: rest => do
    let digit ← digit? c
    let sum := d.sum + digit * d.weight
    let t := threshold d.k s.bias
    if digit < t then decodeFrom (← s.insert? sum) {} rest
    else decodeFrom s ⟨sum, d.weight * (36 - t), d.k + 36⟩ rest

/-- The text before the last hyphen and the distances after it; a hyphen in front separates nothing. -/
def split (cs : List Char) : List Char × List Char :=
  let tail := cs.reverse.takeWhile (· != '-')
  if tail.length + 1 < cs.length then (cs.take (cs.length - tail.length - 1), tail.reverse) else ([], cs)

/-- The text that is written in Punycode. -/
def decode (cs : List Char) : Option (List Char) :=
  let (basic, distances) := split cs
  decodeFrom ⟨basic, 128, 0, 72⟩ {} distances

end FilterWatch.Text.Punycode
