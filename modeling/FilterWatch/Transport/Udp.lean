import FilterWatch.Config
import FilterWatch.Dns.Wire.Decode
import FilterWatch.Network

/-!
# Queries in datagrams

A query goes out in one datagram. `Udp.receive` says what an exchange makes of the datagrams that come in: messages
with another number than the query's do not count, but every datagram up to the answer must hold a message.
-/

namespace FilterWatch.Udp
open Dns

/-- How many bytes of a datagram are received. -/
def bufferSize (q : Query) : Nat := max minPacketSize.toNat q.payload.toNat

/-- Bytes that are no message. -/
def undecodable : IoError := .ofKind .invalidData

/-- The end of an exchange whose query has the number `id`, or `none` while the answer is not among the datagrams
received so far. -/
def receive (id : UInt16) (size : Nat) : List (List UInt8) → Option (Except IoError Message)
  | [] => none
  | datagram :: rest =>
    match Wire.decode (datagram.take size) with
    | none => some (.error undecodable)
    | some m => if m.id = id then some (.ok m) else receive id size rest

end FilterWatch.Udp
