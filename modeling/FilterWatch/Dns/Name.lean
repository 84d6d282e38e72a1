import FilterWatch.Domain
import FilterWatch.Idna.Label
import FilterWatch.Text.Number
import FilterWatch.Text.Numeral

/-!
# Names in messages

A name is a list of labels, and labels are bytes. It has three texts: the one it is read from (`ofText?`), the
ASCII form that escapes all but letters, digits, hyphens and underscores (`ascii`), and the form that is shown,
which decodes internationalized labels (`display`).
-/

namespace FilterWatch.Dns
open Text

abbrev Label := List UInt8

/-- A name; `absolute` when it ends at the root. -/
structure Name where
  labels : List Label
  absolute : Bool
deriving DecidableEq, Repr, Inhabited

namespace Name

def root : Name := ⟨[], true⟩

/-- The bytes that labels take in a message, each of them behind its length. -/
def labelsLength : List Label → Nat
  | [] => 0
  | l :: rest => l.length + 1 + labelsLength rest

/-- The bytes that the name takes in a message. -/
def wireLength (n : Name) : Nat := labelsLength n.labels + 1

def maxWireLength : Nat := 255

def maxLabelLength : Nat := 63

/-! ### Reading a text -/

/-- What a text of a name is made of: characters of labels and the dots between them. -/
inductive Token where
  | dot
  | char (c : Char)
deriving DecidableEq, Repr

/-- A digit of an escaped code point. -/
def octal? (c : Char) : Option Nat := digit? 8 c

/-- The tokens of a text. A backslash takes the character after it out of its role, or stands before the three
octal digits of a code point; blanks and control characters must be escaped. -/
def tokens? : List Char → Option (List Token)
  | [] => some []
  | '\\' :: c :: rest =>
    if isNumeral c then
      match rest with
      | [] => (octal? c).map fun _ => []
      | [d] => do
        let _ ← octal? c
        let _ ← octal? d
        return []
      | d :: e :: rest => do
        let code := (← octal? c) * 64 + (← octal? d) * 8 + (← octal? e)
        return .char (Char.ofNat code) :: (← tokens? rest)
    else (tokens? rest).map (.char c :: ·)
  | '\\' :: [] => some []
  | '.' :: rest => (tokens? rest).map (.dot :: ·)
  | c :: rest => if isControl c || isBlank c then none else (tokens? rest).map (.char c :: ·)

/-- The labels that tokens make up: each dot ends one, and so does the end of the text unless it follows a dot. -/
def labelsOfTokens (current : List Char) : List Token → List (List Char)
  | [] => if current.isEmpty then [] else [current.reverse]
  | .dot :: rest => current.reverse :: labelsOfTokens [] rest
  | .char c :: rest => labelsOfTokens (c :: current) rest

/-- A character inside a label that is given as text. -/
def isTextLabelChar (c : Char) : Bool := isLabelChar c || c == '.'

/-- A label that is given as text: letters, digits, hyphens not in front, underscores, dots, and a star in front. -/
def isTextLabel : List Char → Bool
  | [] => false
  | c :: rest =>
    rest.length < maxLabelLength && (c == '*' || (c != '-' && isTextLabelChar c)) && rest.all isTextLabelChar

/-- The bytes of a label of ASCII characters. -/
def labelOfChars (cs : List Char) : Label := cs.map fun c => UInt8.ofNat c.toNat

/-- Reads the text of a name. It is absolute if it ends with a dot that is not escaped. -/
def ofText? (text : String) : Option Name :=
  if text = "." then some root
  else do
    let tokens ← tokens? text.toList
    let labels := labelsOfTokens [] tokens
    let name : Name := ⟨labels.map labelOfChars, tokens.getLast? == some .dot⟩
    if labels.all isTextLabel && name.wireLength ≤ maxWireLength then some name else none

/-! ### Writing -/

/-- The characters that the ASCII form leaves as they are. -/
def isPlain (atFront : Bool) (c : Char) : Bool :=
  isAsciiLetter c || isAsciiDigit c || c == '_' || (c == '-' && !atFront) || (c == '*' && atFront)

def octal (n : Nat) : List Char := [n / 64, n / 8 % 8, n % 8].map Nat.digitChar

/-- One byte of a label in the ASCII form. -/
def escapeByte (atFront : Bool) (b : UInt8) : List Char :=
  let c := Char.ofNat b.toNat
  if isPlain atFront c then [c]
  else if 0x20 < b && b < 0x7F then ['\\', c]
  else '\\' :: octal b.toNat

def escapeLabel : Label → List Char
  | [] => []
  | b :: rest => escapeByte true b ++ rest.flatMap (escapeByte false)

/-- A label as it is shown: in Unicode if it is in Punycode and has a Unicode form. -/
def displayLabel (l : Label) : List Char :=
  let cs := l.map fun b => Char.ofNat b.toNat
  if Idna.punycodeMark.isPrefixOf cs && l.all (· < 0x80) then (Idna.unicodeForm? cs).getD (escapeLabel l)
  else escapeLabel l

/-- The labels with dots between them, and a final dot if the name is absolute. -/
def join (n : Name) (write : Label → List Char) : String :=
  .ofList (joinFields '.' (n.labels.map write) ++ if n.absolute then ['.'] else [])

def ascii (n : Name) : String := n.join escapeLabel

def display (n : Name) : String := n.join displayLabel

end Name
end FilterWatch.Dns
