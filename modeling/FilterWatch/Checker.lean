import FilterWatch.Batch
import FilterWatch.Check

/-!
# Checkers

A checker is a configuration in force and the surroundings of its jobs. Its calls check one domain or many and probe
the resolvers; between calls, and on the agenda of a call, the resolvers can be changed and the cache flushed.
-/

namespace FilterWatch

structure Checker where
  policy : CheckPolicy
  concurrency : Nat
  world : World

/-- What surrounds a call: whether its token is cancelled before it, and what happens during it. -/
structure Call where
  cancelled : Bool := false
  /-- Interventions by the milliseconds after the start of the call. -/
  agenda : List AgendaEntry := []
deriving Repr

/-- Why a call has no outcome. -/
inductive CallFailure where
  | error (e : CheckError)
  | crash (f : Fault)
deriving DecidableEq, Repr

namespace Call

/-- The surroundings when the call begins. -/
def world (call : Call) (w : World) : World := { w with cancelled := call.cancelled }

/-- The agenda by the clock of the surroundings, in order of time. -/
def agendaFrom (call : Call) (w : World) : List AgendaEntry :=
  (call.agenda.map fun e => { e with time := w.now + e.time }).mergeSort (·.time ≤ ·.time)

end Call

/-- Runs one job in a call. -/
def runCall {α : Type} (net : Network) (call : Call) (job : Job α) (w : World) : World × Except Fault α :=
  runAlone net (call.agendaFrom w) job (call.world w)

namespace Checker

/-- The checker with a configuration, and with the built-in cache unless another is given. -/
def build (config : Config) (cache : Option Cache) : Checker :=
  let c := config.normalized
  { policy := ⟨⟨c.timeout, c.payload⟩, c.maxRetries⟩
    concurrency := c.concurrency
    world := { registry := .ofList c.resolvers, cache := cache.getD (.memory { ttl := c.cacheTtl }) } }

variable (c : Checker) (net : Network) (call : Call)

def resolvers : List Resolver := c.world.registry.resolvers

def checkOne (domain : String) : Checker × Except CallFailure Outcome :=
  if c.world.registry.isEmpty then (c, .error (.error .noResolversConfigured))
  else
    let (world, result) := runCall net call (c.policy.check domain) c.world
    ({ c with world }, result.mapError .crash)

/-- The outcome of a domain that was not checked to the end. -/
def fallback (domain : String) (e : CheckError) : Outcome := .failed domain e

/-- Checks many domains; outcomes come in the order of the domains. -/
def checkMany (domains : List String) : Checker × Except CheckError (List Outcome) :=
  if c.world.registry.isEmpty then (c, .error .noResolversConfigured)
  else
    let (world, outcomes) :=
      dispatch net c.concurrency (call.agendaFrom c.world) c.policy.check fallback domains (call.world c.world)
    ({ c with world }, .ok outcomes)

/-- Probes every resolver once, in the order of the list. -/
def health : Checker × Except CheckError (List Health) :=
  if c.world.registry.isEmpty then (c, .error .noResolversConfigured)
  else
    let (world, healths) :=
      dispatch net c.concurrency (call.agendaFrom c.world) c.policy.prober.health
        (fun r e => .failed r.address e) c.resolvers (call.world c.world)
    ({ c with world }, .ok healths)

def upsert (rs : List Resolver) : Checker := { c with world := c.world.upsert rs }

def delete (addresses : List String) : Checker := { c with world := c.world.delete addresses }

def flush : Checker := { c with world := c.world.flush }

/-- The counters since the last snapshot; counting starts again. -/
def snapshot : Checker × Snapshot :=
  let (stats, snap) := c.world.stats.snapshot
  ({ c with world := { c.world with stats } }, snap)

/-- The checker when the cache's clock has moved on. -/
def afterReal (d : Duration) : Checker := { c with world := c.world.elapse d }

end Checker
end FilterWatch
