import FilterWatch.Dns.Message
import FilterWatch.Dns.RecordType

/-!
# Queries

The message that asks for one record type of one name, with recursion, and with extensions that say how large an
answer may be.
-/

namespace FilterWatch.Dns

/-- The class of the Internet. -/
def internetClass : UInt16 := 1

/-- The least size of answers that extensions can announce. -/
def minPayload : UInt16 := 512

structure Query where
  name : Name
  type : RecordType
  /-- The size of answers that is announced. -/
  payload : UInt16
deriving DecidableEq, Repr, Inhabited

namespace Query

/-- The query for a domain; an error if the domain cannot be a name in a message. -/
def ofDomain (domain : String) (type : RecordType) (payload : UInt16) : Except CheckError Query :=
  let text := if domain.toList.getLast? = some '.' then domain else domain ++ "."
  match Name.ofText? text with
  | some name => .ok ⟨name, type, max minPayload payload⟩
  | none => .error (.invalidInput domain)

def question (q : Query) : Question := ⟨q.name, q.type.code, internetClass⟩

/-- The query as a message with a given number. -/
def message (q : Query) (id : UInt16) : Message :=
  { id, flags := { recursionDesired := true }, rcode := Message.noError, questions := [q.question], answers := [],
    authority := [], additional := [], edns := some ⟨0, q.payload, []⟩ }

/-! ### On the wire -/

/-- The two bytes of a word, high one first. -/
def word (n : UInt16) : List UInt8 := [(n >>> 8).toUInt8, n.toUInt8]

/-- A name on the wire: each label behind its length, and the empty one of the root. -/
def encodeName (n : Name) : List UInt8 :=
  n.labels.flatMap (fun l => UInt8.ofNat l.length :: l) ++ [0]

/-- The flags of a query. -/
def recursionDesiredFlag : UInt16 := 0x0100

/-- The query on the wire. -/
def encode (q : Query) (id : UInt16) : List UInt8 :=
  word id ++ word recursionDesiredFlag ++ word 1 ++ word 0 ++ word 0 ++ word 1
    ++ encodeName q.name ++ word q.type.code ++ word internetClass
    ++ [0] ++ word TypeCode.opt ++ word q.payload ++ [0, 0, 0, 0] ++ word 0

/-- The most bytes that a message can have. -/
def maxMessageLength : Nat := 65535

/-- Whether a name can be written into a message. -/
def canEncode (n : Name) : Bool :=
  n.labels.all (·.length ≤ Name.maxLabelLength) && n.wireLength ≤ Name.maxWireLength

/-- The query on the wire, if its name has room there and the whole is not too long. -/
def encode? (q : Query) (id : UInt16) : Option (List UInt8) :=
  if canEncode q.name && (q.encode id).length ≤ maxMessageLength then some (q.encode id) else none

end Query
end FilterWatch.Dns
