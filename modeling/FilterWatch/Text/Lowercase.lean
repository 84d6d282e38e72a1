import FilterWatch.Text.Lowercase.Context
import FilterWatch.Text.Lowercase.Runs

/-!
# Lower case

Full lower-casing of a text. Each character is mapped on its own, `İ` to two characters, with one exception: a
capital sigma becomes `ς` at the end of a word and `σ` elsewhere. `lowerFrom` carries what stands before the
current character, nearest first, so that both neighbourhoods of a sigma are lists read outwards.
-/

namespace FilterWatch.Text

def asciiLower (c : Char) : Char :=
  if 'A' ≤ c ∧ c ≤ 'Z' then Char.ofNat (c.toNat + 32) else c

def asciiUpper (c : Char) : Char :=
  if 'a' ≤ c ∧ c ≤ 'z' then Char.ofNat (c.toNat - 32) else c

/-- The lower case of one character, apart from its neighbours. -/
def lowerChar (c : Char) : List Char :=
  if c.toNat < 0x80 then [asciiLower c]
  else if c = 'İ' then ['i', '\u0307']
  else [(caseRuns.findSome? (·.map? c.toNat)).elim c Char.ofNat]

/-- Reading outwards, the first character that is not case-ignorable is cased. -/
def touchesLetter (cs : List Char) : Bool :=
  match cs.dropWhile caseIgnorables.has with
  | c :: _ => casedLetters.has c
  | [] => false

/-- Lower case of a text whose preceding characters, nearest first, are `before`. -/
def lowerFrom (before : List Char) : List Char → List Char
  | [] => []
  | c :: rest =>
    (if c = 'Σ' then [if touchesLetter before && !touchesLetter rest then 'ς' else 'σ'] else lowerChar c)
      ++ lowerFrom (c :: before) rest

def lower (cs : List Char) : List Char := lowerFrom [] cs

/-- Whether `pattern` stands somewhere in the text. -/
def occursIn (pattern : List Char) : List Char → Bool
  | [] => pattern.isEmpty
  | c :: cs => pattern.isPrefixOf (c :: cs) || occursIn pattern cs

theorem occursIn_iff {pattern cs : List Char} : occursIn pattern cs = true ↔ pattern <:+: cs := by
  induction cs with
  | nil => simp [occursIn]
  | cons c cs ih => simp [occursIn, ih, List.infix_cons_iff]

end FilterWatch.Text
