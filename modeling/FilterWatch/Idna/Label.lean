import FilterWatch.Idna.Allowed
import FilterWatch.Idna.Composition
import FilterWatch.Idna.Direction
import FilterWatch.Idna.Joining
import FilterWatch.Text.Fields
import FilterWatch.Text.Punycode

/-!
# Internationalized labels

A label of a name that starts with `xn--` carries text of any script in Punycode. `unicodeForm?` is that text,
if the label carries one that a name may show.
-/

namespace FilterWatch.Idna
open Text

/-- What marks a label in Punycode. -/
def punycodeMark : List Char := "xn--".toList

/-- Whether a decoded label may be shown: it is not ASCII, and its characters are allowed, composed, and in
their places. -/
def isShowable (cs : List Char) : Bool :=
  cs.any (0x80 ≤ ·.toNat) && cs.all isAllowed && isComposed cs && !cs.head?.any marks.has && areJoinersInPlace [] cs

/-- One dot-free part in Unicode; a part without the mark stands for itself in lower case. -/
def partForm? (part : List Char) : Option (List Char) :=
  let part := part.map asciiLower
  if punycodeMark.isPrefixOf part then
    (Punycode.decode (part.drop punycodeMark.length)).filter isShowable
  else some part

/-- The Unicode form of an ASCII label; dots inside it separate parts. -/
def unicodeForm? (label : List Char) : Option (List Char) := do
  let parts ← (fields '.' label).mapM partForm?
  if parts.any hasRightToLeft && !parts.all keepsDirection then none
  else some (joinFields '.' parts)

end FilterWatch.Idna
