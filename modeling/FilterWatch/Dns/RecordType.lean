import FilterWatch.Text.Blank
import FilterWatch.Text.Lowercase

/-!
# Record types that resolvers can be asked for

Nine types can be configured. A name that is none of theirs stands for `A`.
-/

namespace FilterWatch
open Text

/-- The record types that a query can ask for. -/
inductive RecordType where
  | a | aaaa | cname | mx | ns | txt | soa | srv | any
deriving DecidableEq, Repr, Inhabited

namespace RecordType

def all : List RecordType := [a, aaaa, cname, mx, ns, txt, soa, srv, any]

def name : RecordType → String
  | a => "A"
  | aaaa => "AAAA"
  | cname => "CNAME"
  | mx => "MX"
  | ns => "NS"
  | txt => "TXT"
  | soa => "SOA"
  | srv => "SRV"
  | any => "ANY"

/-- The code on the wire. -/
def code : RecordType → UInt16
  | a => 1
  | ns => 2
  | cname => 5
  | soa => 6
  | mx => 15
  | txt => 16
  | aaaa => 28
  | srv => 33
  | any => 255

/-- The type with this mnemonic, in any case and with blanks around it; `A` if there is none. -/
def ofName (text : String) : RecordType :=
  let upper := (trimmed text.toList).map asciiUpper
  (all.find? fun t => t.name.toList == upper).getD a

end RecordType
end FilterWatch
