import FilterWatch.Domain
import FilterWatch.Text.Slice

/-!
# Scanning a name

The rules of `isValidDomain` as a scan of the text in UTF-8. Lengths are numbers of bytes, the characters of a label
are told by its bytes, and what marks a last label in Punycode is sliced off it. The labels are tried from the first
one on, and each rule only if those before it hold: `none` is the scan that takes a slice where there is none.
-/

namespace FilterWatch
open Text

namespace Scan

def isLetterByte (b : UInt8) : Bool := (0x61 ≤ b && b ≤ 0x7A) || (0x41 ≤ b && b ≤ 0x5A)

def isLabelByte (b : UInt8) : Bool := isLetterByte b || (0x30 ≤ b && b ≤ 0x39) || b == 0x2D || b == 0x5F

def label (cs : List Char) : Bool :=
  if cs.isEmpty || 63 < (bytes cs).length then false
  else if cs.head? == some '-' || cs.getLast? == some '-' then false
  else (bytes cs).all isLabelByte

def topLabel (cs : List Char) : Option Bool := do
  if (bytes cs).length < 2 then return false
  if 4 < (bytes cs).length then
    if (← slice? 4 cs).map asciiLower == "xn--".toList then return true
  return (bytes cs).all isLetterByte

def labels : List (List Char) → Option Bool
  | [] => some true
  | [last] => if label last then topLabel last else some false
  | cs :: rest => if label cs then labels rest else some false

def domain (text : String) : Option Bool :=
  let body := dropRootDot text.toList
  if body.isEmpty || 255 < (bytes body).length then some false
  else if (fields '.' body).length < 2 then some false
  else labels (fields '.' body)

end Scan
end FilterWatch
