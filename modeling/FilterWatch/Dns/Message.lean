import FilterWatch.Dns.Record

/-!
# Messages

A query or an answer: a question section, three sections of records, and the extensions (EDNS) that travel as one
more record. An answer is made with `Message.answering`.
-/

namespace FilterWatch.Dns

structure Question where
  name : Name
  type : TypeCode
  class_ : UInt16
deriving DecidableEq, Repr, Inhabited

/-- The extensions of a message. -/
structure Edns where
  version : UInt8
  /-- The size of answers that the sender can take. -/
  payload : UInt16
  options : List EdnsOption
deriving DecidableEq, Repr, Inhabited

structure Flags where
  isResponse : Bool := false
  opcode : UInt8 := 0
  authoritative : Bool := false
  truncated : Bool := false
  recursionDesired : Bool := false
  recursionAvailable : Bool := false
  authenticData : Bool := false
  checkingDisabled : Bool := false
deriving DecidableEq, Repr, Inhabited

structure Message where
  id : UInt16
  flags : Flags
  /-- The response code, its extension included. -/
  rcode : UInt16
  questions : List Question
  answers : List Record
  authority : List Record
  additional : List Record
  edns : Option Edns
deriving DecidableEq, Repr

namespace Message

/-- The code of an answer without an error. -/
def noError : UInt16 := 0

def answering (q : Question) : Message :=
  { id := 0, flags := { isResponse := true }, rcode := noError, questions := [q], answers := [], authority := [],
    additional := [], edns := none }

/-- The records of all sections in order. -/
def records (m : Message) : List Record := m.answers ++ m.authority ++ m.additional

end Message
end FilterWatch.Dns
