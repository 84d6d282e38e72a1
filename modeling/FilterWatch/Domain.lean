import FilterWatch.Text.Blank
import FilterWatch.Text.Fields
import FilterWatch.Text.Lowercase

/-!
# Domain names as users write them

`isValidDomain` decides the grammar of names that may be checked: two or more labels of ASCII letters, digits,
hyphens and underscores, a last label of letters or in Punycode, one root dot tolerated. `normalize` brings a name
into the one spelling under which it is queried, cached and reported. A name that the grammar accepts is ASCII, so
lengths in characters are lengths in bytes.
-/

namespace FilterWatch
open Text

def isAsciiLetter (c : Char) : Bool := ('a' ≤ c && c ≤ 'z') || ('A' ≤ c && c ≤ 'Z')

def isAsciiDigit (c : Char) : Bool := '0' ≤ c && c ≤ '9'

/-- The characters of a label: letters, digits, hyphen and underscore. -/
def isLabelChar (c : Char) : Bool := isAsciiLetter c || isAsciiDigit c || c == '-' || c == '_'

/-- A label has 1 to 63 characters and no hyphen at either end. -/
def isLabel (cs : List Char) : Bool :=
  !cs.isEmpty && cs.length ≤ 63 && cs.head? != some '-' && cs.getLast? != some '-' && cs.all isLabelChar

/-- A last label has at least two characters: letters only, or `xn--` in any case and something after it. -/
def isTopLabel (cs : List Char) : Bool :=
  2 ≤ cs.length &&
    ((4 < cs.length && (cs.take 4).map asciiLower == "xn--".toList) || cs.all isAsciiLetter)

/-- The text without one final dot. -/
def dropRootDot (cs : List Char) : List Char := if cs.getLast? = some '.' then cs.dropLast else cs

/-- Whether labels make up a name: at least two of them, the last one fit to stand there. -/
def areNameLabels (labels : List (List Char)) : Bool :=
  2 ≤ labels.length && labels.all isLabel && labels.getLast?.all isTopLabel

/-- Whether the text is a domain name that may be checked. -/
def isValidDomain (domain : String) : Bool :=
  let body := dropRootDot domain.toList
  body.length ≤ 255 && areNameLabels (fields '.' body)

/-- Without one final dot, unless a dot or a blank stands before it. -/
def dropLoneRootDot (cs : List Char) : List Char :=
  if cs.getLast? = some '.' ∧ cs.dropLast.getLast?.all (fun c => c != '.' && !isBlank c) then cs.dropLast else cs

/-- The spelling in lower case, without blanks around it and without the root dot. -/
def normalize (domain : String) : String :=
  .ofList (dropLoneRootDot (trimmed (lower domain.toList)))

end FilterWatch
