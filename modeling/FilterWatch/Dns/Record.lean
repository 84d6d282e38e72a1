import FilterWatch.Address.Server
import FilterWatch.Dns.Name
import FilterWatch.Dns.TypeCode
import FilterWatch.Error
import FilterWatch.Text.Base64
import FilterWatch.Text.Utf8

/-!
# Resource records

A record and its text `name ttl class type data`. There is one kind of data that has no text, the options of an
extension record that stands where extensions do not belong; asking for it is a fault.
-/

namespace FilterWatch.Dns
open Text

/-- An option of an extension record: its code and its bytes. -/
structure EdnsOption where
  code : UInt16
  data : List UInt8
deriving DecidableEq, Repr, Inhabited

inductive RecordData where
  | a (ip : IPv4)
  | aaaa (ip : IPv6)
  | cname (target : Name)
  | ns (server : Name)
  | ptr (target : Name)
  | mx (preference : UInt16) (exchange : Name)
  /-- A list of strings of bytes. -/
  | txt (strings : List (List UInt8))
  | soa (primary mailbox : Name) (serial : UInt32) (refresh retry expire : Int32) (minimum : UInt32)
  | srv (priority weight port : UInt16) (target : Name)
  | null (bytes : List UInt8)
  | opt (options : List EdnsOption)
  /-- Any other type. -/
  | other (type : TypeCode) (bytes : List UInt8)
  /-- A record of any type without data. -/
  | empty (type : TypeCode)
deriving DecidableEq, Repr

/-- The type of a record with this data. -/
def RecordData.type : RecordData → TypeCode
  | a _ => .a
  | aaaa _ => .aaaa
  | cname _ => .cname
  | ns _ => .ns
  | ptr _ => .ptr
  | mx _ _ => .mx
  | txt _ => .txt
  | soa .. => .soa
  | srv .. => .srv
  | null _ => .null
  | opt _ => .opt
  | other type _ => type
  | empty type => type

/-- The class of a record. Extension records put the size of the sender's buffer in its place. -/
inductive RecordClass where
  | code (n : UInt16)
  | bufferSize (n : UInt16)
deriving DecidableEq, Repr, Inhabited

def RecordClass.name : RecordClass → String
  | code 1 => "IN"
  | code 3 => "CH"
  | code 4 => "HS"
  | code 254 => "NONE"
  | code 255 => "ANY"
  | code _ => "UNKNOWN"
  | bufferSize _ => "OPT"

structure Record where
  name : Name
  ttl : UInt32
  class_ : RecordClass
  data : RecordData
deriving DecidableEq, Repr

/-- The fault of asking for the text of data that has none. -/
def noTextFault : Fault := ⟨some "a Display implementation returned an error unexpectedly: Error"⟩

/-- Parts with single blanks between them. -/
def spaced (parts : List String) : String := " ".intercalate parts

namespace RecordData

def text : RecordData → Except Fault String
  | a ip => .ok ip.render
  | aaaa ip => .ok ip.render
  | cname n | ns n | ptr n => .ok n.display
  | mx preference exchange => .ok (spaced [toString preference.toNat, exchange.display])
  | txt strings => .ok (.ofList (strings.flatMap Utf8.decodeLossy))
  | soa primary mailbox serial refresh retry expire minimum =>
    .ok (spaced [primary.display, mailbox.display, toString serial.toNat, toString refresh.toInt,
      toString retry.toInt, toString expire.toInt, toString minimum.toNat])
  | srv priority weight port target =>
    .ok (spaced [toString priority.toNat, toString weight.toNat, toString port.toNat, target.display])
  | null bytes | other _ bytes => .ok (.ofList (Base64.encode bytes))
  | opt _ => .error noTextFault
  | empty _ => .ok "UPDATE"

end RecordData

namespace Record

def text (r : Record) : Except Fault String := do
  return spaced [r.name.display, toString r.ttl.toNat, r.class_.name, r.data.type.name, ← r.data.text]

end Record
end FilterWatch.Dns
