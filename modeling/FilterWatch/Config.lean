import FilterWatch.Duration
import FilterWatch.Resolver

/-!
# Settings of a checker

`Config.default` is what applies when nothing is configured; `Config.normalized` puts the defaults in place of
values that cannot work.
-/

namespace FilterWatch

/-- How queries travel. -/
inductive Protocol where
  | udp
  | tcp
deriving DecidableEq, Repr

/-- Queries travel in datagrams unless configured otherwise. -/
instance : Inhabited Protocol := ⟨.udp⟩

def Protocol.name : Protocol → String
  | udp => "UDP"
  | tcp => "TCP"

def defaultTimeout : Duration := .ofSeconds 5
def defaultMaxRetries : Nat := 2
def defaultCacheTtl : Duration := .ofSeconds 300
def defaultConcurrency : Nat := 100

/-- Small enough that answers are not fragmented on most paths. -/
def defaultPayload : UInt16 := 1232

/-- What the block page of the default resolvers carries. -/
def defaultKeyword : String := "internetpositif"

/-- The longest wait between two attempts. -/
def maxBackoff : Duration := .ofSeconds 30

/-- The name that is resolved to see whether a resolver is reachable. -/
def healthProbeDomain : String := "google.com"

/-- The least size of messages that every server and every client takes. -/
def minPacketSize : UInt16 := 512

/-- The resolvers that are asked when none is configured. -/
def defaultResolvers : List Resolver :=
  ["180.131.144.144", "180.131.145.145"].map fun address => ⟨address, defaultKeyword, .a⟩

structure Config where
  /-- The time limit of one exchange. -/
  timeout : Duration
  /-- How many attempts at a resolver follow the first one. -/
  maxRetries : Nat
  /-- How long the built-in cache keeps an outcome. -/
  cacheTtl : Duration
  /-- How many checks or health probes may run at once. -/
  concurrency : Nat
  /-- The size of answers that queries announce. -/
  payload : UInt16
  protocol : Protocol
  /-- In failover order. -/
  resolvers : List Resolver
deriving Repr, DecidableEq

namespace Config

def default : Config :=
  ⟨defaultTimeout, defaultMaxRetries, defaultCacheTtl, defaultConcurrency, defaultPayload, .udp, defaultResolvers⟩

/-- With the defaults in place of values that cannot work. -/
def normalized (c : Config) : Config :=
  { c with
    timeout := if c.timeout.isZero then defaultTimeout else c.timeout
    concurrency := if c.concurrency = 0 then defaultConcurrency else c.concurrency
    payload := if c.payload = 0 then defaultPayload else c.payload }

end Config
end FilterWatch
