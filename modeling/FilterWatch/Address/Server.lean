import FilterWatch.Address.IPv6
import FilterWatch.Text.Blank

/-!
# Server addresses

Where a query goes: an address with a port. `withDefaultPort` completes what a user wrote (an IP address, a bare
or bracketed IPv6 address, a host name, any of them with a port) to a text that carries a port.
-/

namespace FilterWatch
open Text

inductive IP where
  | v4 (ip : IPv4)
  | v6 (ip : IPv6)
deriving DecidableEq, Repr

def IP.ofChars? (cs : List Char) : Option IP :=
  (IPv4.ofChars? cs).map .v4 <|> (IPv6.ofChars? cs).map .v6

def IP.render : IP → String
  | .v4 ip => ip.render
  | .v6 ip => ip.render

/-- An IP address with a port, an IPv6 one with a numeric scope as well. -/
inductive SocketAddress where
  | v4 (ip : IPv4) (port : UInt16)
  | v6 (ip : IPv6) (scope : UInt32) (port : UInt16)
deriving DecidableEq, Repr

namespace SocketAddress

/-- A port: decimal digits, leading zeros allowed. -/
def port? (cs : List Char) : Option UInt16 :=
  ((number? 10 cs).filter (· < UInt16.size)).map UInt16.ofNat

/-- The inside of the brackets: an IPv6 address and an optional numeric scope after a percent sign. -/
def scoped? (cs : List Char) : Option (IPv6 × UInt32) :=
  match cut '%' cs with
  | (addr, none) => (IPv6.ofChars? addr).map (·, 0)
  | (addr, some scope) => do
    return (← IPv6.ofChars? addr, UInt32.ofNat (← (number? 10 scope).filter (· < UInt32.size)))

/-- Reads `a.b.c.d:port` and `[v6]:port`. -/
def ofChars? (cs : List Char) : Option SocketAddress :=
  match cs with
  | '[' :: rest =>
    match cut ']' rest with
    | (inside, some (':' :: port)) => do
      let (ip, scope) ← scoped? inside
      return .v6 ip scope (← port? port)
    | _ => none
  | cs =>
    match cut ':' cs with
    | (ip, some port) => do return .v4 (← IPv4.ofChars? ip) (← port? port)
    | (_, none) => none

/-- The address and the port, an IPv6 address in brackets, a scope other than zero after a percent sign. -/
def render : SocketAddress → String
  | v4 ip port => ip.render ++ ":" ++ toString port.toNat
  | v6 ip scope port =>
    "[" ++ ip.render ++ (if scope = 0 then "" else "%" ++ toString scope.toNat) ++ "]:" ++ toString port.toNat

end SocketAddress

def defaultPort : UInt16 := 53

def IP.withPort (ip : IP) (port : UInt16) : SocketAddress :=
  match ip with
  | .v4 ip => .v4 ip port
  | .v6 ip => .v6 ip 0 port

/-- A host without colons followed by a port. -/
def isHostWithPort (cs : List Char) : Bool :=
  match cutLast ':' cs with
  | some (host, port) => !host.isEmpty && !host.contains ':' && (unsigned? UInt16.size port).isSome
  | none => false

/-- The address without blanks around it, and with the default port if it carries none. -/
def withDefaultPort (address : String) : String :=
  let cs := trimmed address.toList
  if (SocketAddress.ofChars? cs).isSome then .ofList cs
  else
    let bare := dropTrailing (· == ']') (cs.dropWhile (· == '['))
    match IP.ofChars? bare with
    | some ip => (ip.withPort defaultPort).render
    | none =>
      if isHostWithPort cs then .ofList cs
      else .ofList bare ++ ":" ++ toString defaultPort.toNat

end FilterWatch
