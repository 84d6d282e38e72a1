import FilterWatch.Dns.Wire.Options
import FilterWatch.Dns.Wire.Reader

/-!
# Messages on the wire

A message is a header, as many questions and records as the header counts, and whatever follows. Record data takes
exactly the bytes that the record says. An extension record belongs to the root; among the additional records it
becomes the extensions of the message, and there is at most one.
-/

namespace FilterWatch.Dns.Wire
open Reader

/-- The flags of the second word of a header. -/
def flagsOfWord (w : UInt16) : Flags :=
  let bit (n : Nat) : Bool := w.toNat.testBit n
  { isResponse := bit 15, opcode := (w >>> 11).toUInt8 &&& 0xF, authoritative := bit 10, truncated := bit 9,
    recursionDesired := bit 8, recursionAvailable := bit 7, authenticData := bit 5, checkingDisabled := bit 4 }

/-- The low four bits of the response code. -/
def rcodeOfWord (w : UInt16) : UInt16 := w &&& 0xF

def question : Reader Question := do
  let name ← name
  let type : TypeCode ← word
  return ⟨name, type, ← word⟩

/-- The strings that fill the data of a text record, each behind its length. -/
def strings? : List UInt8 → Option (List (List UInt8))
  | [] => some []
  | n :: rest =>
    if n.toNat ≤ rest.length then (strings? (rest.drop n.toNat)).map (rest.take n.toNat :: ·) else none
termination_by data => data.length
decreasing_by simp only [List.length_drop, List.length_cons]; omega

def address4? : List UInt8 → Option IPv4
  | [a, b, c, d] => some ⟨a, b, c, d⟩
  | _ => none

/-- The groups of two bytes each. -/
def groups : List UInt8 → List UInt16
  | high :: low :: rest => wordOf high low :: groups rest
  | _ => []

def address6? (data : List UInt8) : Option IPv6 :=
  if data.length = 16 then IPv6.ofGroups? (groups data) else none

def authorityData : Reader RecordData := do
  let primary ← name
  let mailbox ← name
  let serial ← doubleWord
  let refresh ← doubleWord
  let retry ← doubleWord
  let expire ← doubleWord
  return .soa primary mailbox serial refresh.toInt32 retry.toInt32 expire.toInt32 (← doubleWord)

def mailData : Reader RecordData := do
  let preference ← word
  return .mx preference (← name)

def serviceData : Reader RecordData := do
  let priority ← word
  let weight ← word
  let port ← word
  return .srv priority weight port (← name)

/-- Data of `length` bytes that `f?` makes something of. -/
def dataOf (length : Nat) (f? : List UInt8 → Option RecordData) : Reader RecordData := do
  match f? (← bytes length) with
  | some data => return data
  | none => failure

/-- Record data of a type. -/
def recordData (type : TypeCode) (length : Nat) : Reader RecordData :=
  if length = 0 then return .empty type
  else if type = .a then dataOf length fun bs => (address4? bs).map .a
  else if type = .aaaa then dataOf length fun bs => (address6? bs).map .aaaa
  else if type = .cname then exactly length (.cname <$> name)
  else if type = .ns then exactly length (.ns <$> name)
  else if type = .ptr then exactly length (.ptr <$> name)
  else if type = .mx then exactly length mailData
  else if type = .txt then dataOf length fun bs => (strings? bs).map .txt
  else if type = .soa then exactly length authorityData
  else if type = .srv then exactly length serviceData
  else if type = .null then dataOf length fun bs => some (.null bs)
  else if type = .opt then dataOf length fun bs => (options? bs).map .opt
  else if type = .any ∨ type = .axfr ∨ type = .ixfr then failure
  else dataOf length fun bs => some (.other type bs)

def record : Reader Record := do
  let owner ← name
  let type : TypeCode ← word
  if type = .opt ∧ owner ≠ Name.root then failure
  let class_ ← word
  let ttl ← doubleWord
  let length ← word
  let data ← recordData type length.toNat
  return ⟨owner, ttl, if type = .opt then .bufferSize class_ else .code class_, data⟩

def isExtension (r : Record) : Bool := r.data.type == .opt

def optionsOf : RecordData → List EdnsOption
  | .opt options => options
  | _ => []

/-- The extensions that an extension record carries. -/
def ednsOf (r : Record) : Edns :=
  let payload := match r.class_ with
    | .bufferSize n => n
    | .code n => n
  ⟨(r.ttl >>> 16).toUInt8, max minPayload payload, optionsOf r.data⟩

/-- The high part of the response code that an extension record carries. -/
def highRcode (r : Record) : UInt16 := (r.ttl >>> 24).toUInt16 <<< 4

/-- The message of the parts on the wire, if there is at most one extension record at its place. -/
def assemble (id flagWord : UInt16) (questions : List Question) (answers authority additional : List Record) :
    Option Message :=
  let flags := flagsOfWord flagWord
  let rcode := rcodeOfWord flagWord
  let others := additional.filter (!isExtension ·)
  match additional.filter isExtension with
  | [] => some ⟨id, flags, rcode, questions, answers, authority, others, none⟩
  | [r] => some ⟨id, flags, highRcode r ||| rcode, questions, answers, authority, others, some (ednsOf r)⟩
  | _ => none

def message : Reader Message := do
  let id ← word
  let flagWord ← word
  let questionCount ← word
  let answerCount ← word
  let authorityCount ← word
  let additionalCount ← word
  let questions ← times question questionCount.toNat
  let answers ← times record answerCount.toNat
  let authority ← times record authorityCount.toNat
  let additional ← times record additionalCount.toNat
  match assemble id flagWord questions answers authority additional with
  | some m => return m
  | none => failure

/-- The message that the bytes begin with. -/
def decode (bytes : List UInt8) : Option Message := (message bytes.toArray 0).map (·.1)

end FilterWatch.Dns.Wire
