import FilterWatch.Cache.Key
import FilterWatch.Dns.Keyword
import FilterWatch.Domain
import FilterWatch.Probe

/-!
# Checks

Whether a domain is blocked. `attempts` asks one resolver several times: an answer that carries the keyword settles
the matter at once, a clear one is kept while the remaining attempts run, because filters do not answer alike every
time, and only an attempt after a failed one waits. `against` walks down a list of resolvers until one of them, or
the cache in its place, gives a verdict. `check` is the whole of it, from the text of the domain on.
-/

namespace FilterWatch

/-- How checks are made. -/
structure CheckPolicy where
  prober : Prober
  /-- How many attempts at a resolver follow the first one. -/
  maxRetries : Nat
deriving DecidableEq, Repr

/-- The wait before an attempt that follows a failed one: one second before attempt 1, then twice as long each time
up to the longest wait. -/
def backoff (attempt : Nat) : Duration :=
  .ofNanos (min (Duration.ofSeconds (1 <<< min (attempt - 1) 63)).nanos maxBackoff.nanos)

namespace CheckPolicy

/-- What the attempts at a resolver come to when none of them settled the matter. -/
def afterAttempts (domain : String) (r : Resolver) (clear : Bool) (failure : Option CheckError) :
    Except CheckError Outcome :=
  if clear then .ok (.verdict domain r.address false)
  else .error (failure.getD .allResolversFailed)

/-- The attempts from number `attempt` on, `left` of them. `clear` says whether one of the earlier ones brought a
clear answer, and `failure` is the error of the one before. -/
def attempts (c : CheckPolicy) (domain : String) (r : Resolver) (attempt : Nat) (clear : Bool)
    (failure : Option CheckError) : (left : Nat) → Job (Except CheckError Outcome)
  | 0 => return afterAttempts domain r clear failure
  | left + 1 => do
    if failure.isSome then
      if !(← Job.wait (backoff attempt)) then return .error .cancelled
    match ← c.prober.probe domain r with
    | .ok m =>
      if ← Job.ofExcept (m.carries r.keyword) then return .ok (.verdict domain r.address true)
      c.attempts domain r (attempt + 1) true none left
    | .error e =>
      if e.isRetryable then c.attempts domain r (attempt + 1) clear (some e) left
      else return .error e

/-- A check without a verdict, counted. -/
def fail (domain : String) (e : CheckError) : Job Outcome := do
  Job.tally (.check false true)
  return .failed domain e

/-- Checks a domain against resolvers in failover order. -/
def against (c : CheckPolicy) (domain : String) : List Resolver → Job Outcome
  | [] => fail domain .allResolversFailed
  | r :: rest => do
    let key := cacheKey domain r
    match ← Job.cached? key with
    | some hit =>
      Job.tally .cached
      return hit
    | none =>
      match ← c.attempts domain r 0 false none (c.maxRetries + 1) with
      | .ok o =>
        Job.keep key o
        Job.tally (.check o.blocked false)
        return o
      | .error e => if e.isRetryable then c.against domain rest else fail domain e

/-- Checks a domain as a user wrote it. -/
def check (c : CheckPolicy) (raw : String) : Job Outcome := do
  let domain := normalize raw
  if !isValidDomain domain then fail domain (.invalidInput domain)
  else c.against domain (← Job.currentResolvers)

end CheckPolicy
end FilterWatch
