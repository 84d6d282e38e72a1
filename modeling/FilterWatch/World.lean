import FilterWatch.Cache
import FilterWatch.Network
import FilterWatch.Registry
import FilterWatch.Stats

/-!
# The surroundings of jobs

All that running jobs share: the resolver list, the cache, the counters, two clocks, the cancellation token, and a
journal of what happened. Timers run on the clock `now`, in milliseconds; the cache has a clock of its own, in
nanoseconds, and what moves one does not move the other.
-/

namespace FilterWatch

/-- What the journal records. -/
inductive Happening where
  /-- A query was sent. -/
  | exchange (server : String) (q : Dns.Query)
  /-- An answer came. -/
  | answer (server : String) (q : Dns.Query)
  /-- The cache was read; `found` says whether something was there. -/
  | lookup (key : String) (found : Bool)
  | store (key : String) (o : Outcome)
  | flush
deriving DecidableEq, Repr

structure Event where
  time : Nat
  what : Happening
deriving DecidableEq, Repr

/-- The surroundings of jobs. -/
structure World where
  registry : Registry
  cache : Cache
  stats : Stats := {}
  now : Nat := 0
  cacheClock : Nat := 0
  cancelled : Bool := false
  /-- Latest entry first. -/
  journal : List Event := []

namespace World

variable (w : World)

/-- With an entry in the journal. -/
def note (what : Happening) : World := { w with journal := ⟨w.now, what⟩ :: w.journal }

/-- How many exchanges about a name a server has seen. -/
def exchangesWith (server : String) (name : Dns.Name) : Nat :=
  w.journal.countP fun e => match e.what with
    | .exchange s q => s == server && q.name.ascii == name.ascii
    | _ => false

/-- Reads the cache. -/
def lookup (key : String) : World × Except Fault (Option Outcome) :=
  let found := w.cache.has key w.cacheClock
  let (cache, hit) := w.cache.get key w.cacheClock
  ({ w with cache }.note (.lookup key found), hit)

/-- Writes to the cache. -/
def store (key : String) (o : Outcome) : World × Option Fault :=
  let (cache, fault) := w.cache.set key o w.cacheClock
  ({ w with cache }.note (.store key o), fault)

def flush : World := { w with cache := w.cache.flush }.note .flush

def count : Tally → World
  | .check blocked failed => { w with stats := w.stats.recordCheck blocked failed }
  | .cached => { w with stats := w.stats.recordCached }

def upsert (rs : List Resolver) : World := { w with registry := w.registry.upsert rs }

def delete (addresses : List String) : World := { w with registry := w.registry.delete addresses }

def probeStarted : World := { w with stats := w.stats.probeStarted }

/-- A probe ends without an answer. -/
def probeDropped : World := { w with stats := w.stats.probeDropped }

/-- The moment `time`, or this one if it is later. -/
def atTime (time : Nat) : World := { w with now := max w.now time }

/-- Time passes on the cache's clock. -/
def elapse (d : Duration) : World := { w with cacheClock := w.cacheClock + d.nanos }

/-- An exchange that was started at `started` ends: the reply, or the crash that it ends in. -/
def endExchange (server : String) (q : Dns.Query) (started : Nat) : Arrival → World × Except Fault Reply
  | .message m =>
    let elapsed := w.now - started
    let stats := w.stats.probeFinished (.ofMillis elapsed)
    ({ w with stats }.note (.answer server q), .ok (.message m elapsed))
  | .failed e => (w.probeDropped, .ok (.failed e))
  | .timedOut => (w.probeDropped, .ok .timedOut)
  | .crashed f => (w.probeDropped, .error f)

end World
end FilterWatch
