/-!
# UTF-8

Bytes read as UTF-8, with a replacement character for each longest run of bytes that begins a character and does
not complete one. `decodeHead` reads one character or one such run.
-/

namespace FilterWatch.Text.Utf8

/-- Stands for bytes that are no character. -/
def replacement : Char := '\ufffd'

/-- A byte inside a character. -/
def isContinuation (b : UInt8) : Bool := 0x80 ≤ b && b ≤ 0xBF

/-- The six bits that a byte inside a character carries. -/
def payload (b : UInt8) : Nat := (b &&& 0x3F).toNat

/-- How many bytes follow the first byte of a character, and the range of the second one. -/
def shape? (b : UInt8) : Option (Nat × UInt8 × UInt8) :=
  if 0xC2 ≤ b ∧ b ≤ 0xDF then some (1, 0x80, 0xBF)
  else if b = 0xE0 then some (2, 0xA0, 0xBF)
  else if b = 0xED then some (2, 0x80, 0x9F)
  else if 0xE1 ≤ b ∧ b ≤ 0xEF then some (2, 0x80, 0xBF)
  else if b = 0xF0 then some (3, 0x90, 0xBF)
  else if 0xF1 ≤ b ∧ b ≤ 0xF3 then some (3, 0x80, 0xBF)
  else if b = 0xF4 then some (3, 0x80, 0x8F)
  else none

/-- The value of continuation bytes behind `acc`, `count` of them, and how many there are. -/
def gather (acc : Nat) : Nat → List UInt8 → Option Nat × Nat
  | 0, _ => (some acc, 0)
  | _ + 1, [] => (none, 0)
  | count + 1, b :: bs =>
    if isContinuation b then
      let (value, used) := gather (acc * 64 + payload b) count bs
      (value, used + 1)
    else (none, 0)

/-- The character at the front, or the replacement, and how many bytes after the first belong to it. -/
def decodeHead (b : UInt8) (rest : List UInt8) : Char × Nat :=
  if b < 0x80 then (Char.ofNat b.toNat, 0)
  else match shape? b, rest with
    | some (count, low, high), second :: _ =>
      if low ≤ second ∧ second ≤ high then
        let bits := b.toNat % (64 >>> count)
        let (value, used) := gather bits count rest
        ((value.map Char.ofNat).getD replacement, used)
      else (replacement, 0)
    | _, _ => (replacement, 0)

/-- The text that the bytes are read as. -/
def decodeLossy : List UInt8 → List Char
  | [] => []
  | b :: rest => (decodeHead b rest).1 :: decodeLossy (rest.drop (decodeHead b rest).2)
termination_by bytes => bytes.length
decreasing_by simp only [List.length_drop, List.length_cons]; omega

def encode (s : String) : List UInt8 := s.toUTF8.toList

end FilterWatch.Text.Utf8
