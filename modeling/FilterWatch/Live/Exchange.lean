import Std.Async.DNS
import Std.Async.TCP
import Std.Async.Timer
import Std.Async.UDP
import FilterWatch.Address.Server
import FilterWatch.Network
import FilterWatch.Transport.Tcp
import FilterWatch.Transport.Udp

/-!
# Exchanges over sockets

Each exchange has a socket and a random number of its own. What the bytes that come in amount to is said by
`Udp.receive` and `Tcp.receive`; here they are only sent and received.
-/

namespace FilterWatch.Live
open Std.Async

/-- The number that the operating system gave a failure. -/
def systemCode? : IO.Error → Option UInt32
  | .alreadyExists _ code _ | .otherError code _ | .resourceBusy code _ | .resourceVanished code _
  | .unsupportedOperation code _ | .hardwareFault code _ | .unsatisfiedConstraints code _
  | .illegalOperation code _ | .protocolError code _ | .timeExpired code _ | .interrupted _ code _
  | .noFileOrDirectory _ code _ | .invalidArgument _ code _ | .permissionDenied _ code _
  | .resourceExhausted _ code _ | .inappropriateType _ code _ | .noSuchThing _ code _ => some code
  | .unexpectedEof | .userError _ => none

/-- From this number on failures are those of looking up names. -/
def lookupFailures : Nat := 3000

/-- The failure of an exchange. Event loops give the number of the operating system with its sign changed. -/
def failure (e : IO.Error) : IoError :=
  match systemCode? e with
  | none => ⟨.other, toString e⟩
  | some code =>
    let code := if code < 0x80000000 then code.toNat else UInt32.size - code.toNat
    if code < lookupFailures then .ofSystem code
    else ⟨.other, "failed to lookup address information: " ++ toString e⟩

/-- The end of an exchange. -/
abbrev End := Except IoError Dns.Message

def socketAddress : SocketAddress → Std.Net.SocketAddress
  | .v4 ip port => .v4 ⟨.ofParts ip.a ip.b ip.c ip.d, port⟩
  | .v6 ip _ port => .v6 ⟨⟨ip.groups⟩, port⟩

/-- The address that leaves the choice of an interface and a port open, in the family of another. -/
def unspecified : Std.Net.SocketAddress → Std.Net.SocketAddress
  | .v4 _ => .v4 ⟨.ofParts 0 0 0 0, 0⟩
  | .v6 _ => .v6 ⟨.ofParts 0 0 0 0 0 0 0 0, 0⟩

/-- The first address that a host name has. -/
def lookUp (host : String) (port : UInt16) : Async (Except IoError Std.Net.SocketAddress) := do
  let addresses ← DNS.getAddrInfo host ""
  match addresses.toList with
  | .v4 ip :: _ => return .ok (.v4 ⟨ip, port⟩)
  | .v6 ip :: _ => return .ok (.v6 ⟨ip, port⟩)
  | [] => return .error ⟨.addressNotAvailable, host ++ " did not resolve to an address"⟩

/-- Where a server is to be reached. -/
def locate (server : String) : Async (Except IoError Std.Net.SocketAddress) := do
  let cs := server.toList
  match SocketAddress.ofChars? cs, Text.cutLast ':' cs with
  | some address, _ => return .ok (socketAddress address)
  | none, none => return .error ⟨.invalidInput, "invalid socket address"⟩
  | none, some (host, port) =>
    match SocketAddress.port? port with
    | some port => lookUp (.ofList host) port
    | none => return .error ⟨.invalidInput, "invalid port value"⟩

def packed (bytes : List UInt8) : ByteArray := ⟨bytes.toArray⟩

/-- Asks in a datagram. -/
def askUdp (server : Std.Net.SocketAddress) (id : UInt16) (q : Dns.Query) : Async End := do
  let some bytes := q.encode? id | return .error (.ofKind .invalidData)
  let socket ← UDP.Socket.mk
  socket.bind (unspecified server)
  socket.connect server
  socket.send (packed bytes)
  let size := Udp.bufferSize q
  repeat
    let (datagram, _) ← socket.recv (.ofNat size)
    if let some reached := Udp.receive id size [datagram.toList] then return reached
  return .error Tcp.endedEarly

/-- How much is read from a connection at once. -/
def segmentSize : UInt64 := 4096

/-- Asks over a connection. -/
def askTcp (server : Std.Net.SocketAddress) (id : UInt16) (q : Dns.Query) : Async End := do
  let some frame := (q.encode? id).bind Tcp.frame? | return .error (.ofKind .invalidData)
  let client ← TCP.Socket.Client.mk
  client.connect server
  client.send (packed frame)
  let mut received := []
  repeat
    match ← client.recv? segmentSize with
    | some segment =>
      received := received ++ segment.toList
      if let some reached := Tcp.receive id received false then return reached
    | none => return (Tcp.receive id received true).getD (.error Tcp.endedEarly)
  return .error Tcp.endedEarly

def ask (protocol : Protocol) (server : String) (id : UInt16) (q : Dns.Query) : Async Arrival := do
  try
    match ← locate server with
    | .error e => return .failed e
    | .ok address =>
      let reached ← match protocol with
        | .udp => askUdp address id q
        | .tcp => askTcp address id q
      match reached with
      | .ok m => return .message m
      | .error e => return .failed e
  catch e => return .failed (failure e)

/-- The milliseconds of a wait, cut at what a timer can wait. -/
def waitMillis (millis : Nat) : Nat := min millis farFuture.ceilMillis

/-- Asks a server, and waits for what comes back until the limit. -/
def exchange (protocol : Protocol) (limit : Limit) (server : String) (q : Dns.Query) : IO Arrival := do
  let id := UInt16.ofNat (← IO.rand 0 (UInt16.size - 1))
  let expiry : Async Arrival := do
    sleep (.ofNat (waitMillis limit.due))
    return .timedOut
  (Async.race (ask protocol server id q) expiry).block

end FilterWatch.Live
