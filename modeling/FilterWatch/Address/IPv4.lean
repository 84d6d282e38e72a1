import FilterWatch.Text.Fields
import FilterWatch.Text.Number

/-!
# IPv4 addresses

An address is four octets. It is written with dots between decimal numbers, and it is read in that form only:
an octet has one to three digits and no leading zero.
-/

namespace FilterWatch
open Text

structure IPv4 where
  a : UInt8
  b : UInt8
  c : UInt8
  d : UInt8
deriving DecidableEq, Repr, Inhabited

namespace IPv4

/-- One decimal number of the dotted form. -/
def octet? (cs : List Char) : Option UInt8 :=
  if cs.length ≤ 3 ∧ (cs.head? = some '0' → cs.length = 1) then
    ((number? 10 cs).filter (· < 256)).map UInt8.ofNat
  else none

/-- Reads the dotted form. -/
def ofChars? (cs : List Char) : Option IPv4 :=
  match fields '.' cs with
  | [a, b, c, d] => do return ⟨← octet? a, ← octet? b, ← octet? c, ← octet? d⟩
  | _ => none

/-- The four octets, first one first. -/
def octets (ip : IPv4) : List UInt8 := [ip.a, ip.b, ip.c, ip.d]

/-- The dotted form. -/
def render (ip : IPv4) : String :=
  ".".intercalate (ip.octets.map fun o => toString o.toNat)

end IPv4
end FilterWatch
