import FilterWatch.Dns.Wire.Decode
import FilterWatch.Error

/-!
# Queries over connections

On a connection a message follows its length in two bytes. `Tcp.exchange` reads the length and then as many bytes,
from the segments in which they come in. `Tcp.receive` says the same of the bytes that came in so far; bytes behind
the first message do not matter.
-/

namespace FilterWatch.Tcp
open Dns

/-- A message behind its length, if the length fits in two bytes. -/
def frame? (bytes : List UInt8) : Option (List UInt8) :=
  if bytes.length < UInt16.size then some (Query.word (.ofNat bytes.length) ++ bytes) else none

/-- The server closed the connection before the message was complete. -/
def endedEarly : IoError := .ofKind .unexpectedEnd

/-- The text of a reply to another query. -/
def foreignReply (found asked : UInt16) : IoError :=
  ⟨.invalidData, "response id " ++ toString found.toNat ++ " does not match query id " ++ toString asked.toNat⟩

/-- The message that the bytes hold. -/
def decoded (bytes : List UInt8) : Except IoError Message :=
  match Wire.decode bytes with
  | none => .error (.ofKind .invalidData)
  | some m => .ok m

/-- A message as the end of an exchange whose query has the number `id`. -/
def answering (id : UInt16) (m : Message) : Except IoError Message :=
  if m.id = id then .ok m else .error (foreignReply m.id id)

/-! ### Segments -/

/-- What comes in on a connection before it ends. -/
abbrev Segments := List (List UInt8)

/-- Waits for exactly `n` bytes; leaves the segments with those behind them. -/
def readExact : Nat → Segments → Except IoError (List UInt8 × Segments)
  | n, [] => if n = 0 then .ok ([], []) else .error endedEarly
  | n, segment :: rest =>
    if n ≤ segment.length then .ok (segment.take n, segment.drop n :: rest)
    else do
      let (bytes, behind) ← readExact (n - segment.length) rest
      return (segment ++ bytes, behind)

/-- The length of the message behind two bytes. -/
def lengthOf : List UInt8 → Nat
  | high :: low :: _ => (Wire.wordOf high low).toNat
  | _ => 0

/-- Reads a message behind its length. -/
def readMessage (segments : Segments) : Except IoError Message := do
  let (length, behind) ← readExact 2 segments
  let (body, _) ← readExact (lengthOf length) behind
  decoded body

/-- The end of an exchange whose query has the number `id`. -/
def exchange (id : UInt16) (segments : Segments) : Except IoError Message := do
  answering id (← readMessage segments)

/-! ### Bytes that came in so far -/

/-- The bytes of the first message, if they are all there. -/
def firstMessage? : List UInt8 → Option (List UInt8)
  | high :: low :: rest =>
    let length := (Wire.wordOf high low).toNat
    if length ≤ rest.length then some (rest.take length) else none
  | _ => none

/-- The end of an exchange, or `none` while more bytes may come. -/
def receive (id : UInt16) (bytes : List UInt8) (closed : Bool) : Option (Except IoError Message) :=
  match firstMessage? bytes with
  | none => if closed then some (.error endedEarly) else none
  | some body => some (decoded body >>= answering id)

/-- Looks at all that came in whenever another segment does, and once more when the connection ends. -/
def listen (id : UInt16) (received : List UInt8) : Segments → Except IoError Message
  | [] => (receive id received true).getD (.error endedEarly)
  | segment :: rest =>
    match receive id (received ++ segment) false with
    | some reached => reached
    | none => listen id (received ++ segment) rest

end FilterWatch.Tcp
