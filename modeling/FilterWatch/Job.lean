import FilterWatch.Dns.Query
import FilterWatch.Outcome
import FilterWatch.Resolver
import FilterWatch.Timer

/-!
# Jobs

A job is work that talks to its surroundings: it reads the resolver list, looks into the cache and stores in it,
counts, exchanges messages and pauses. `Job α` is the tree of what it asks for and how it goes on after each
answer; every path through the tree is finite. Jobs are put together with `do`. Exchanges and pauses end when the
caller cancels; checks and probes wait in no other way. Work that takes its time whatever the caller does sleeps.
-/

namespace FilterWatch

/-- What an exchange of messages brings. -/
inductive Reply where
  /-- An answer, and how many milliseconds it took. -/
  | message (m : Dns.Message) (elapsed : Nat)
  | failed (e : IoError)
  /-- The time limit passed first. -/
  | timedOut
  /-- The caller cancelled first. -/
  | cancelled
deriving DecidableEq, Repr

/-- How a check is counted. -/
inductive Tally where
  | check (blocked failed : Bool)
  | cached
deriving DecidableEq, Repr

/-- Work that ends in an `α`. -/
inductive Job (α : Type) where
  | done (a : α)
  /-- The work crashes. -/
  | crash (f : Fault)
  /-- Asks for the resolvers of this moment. -/
  | resolvers (next : List Resolver → Job α)
  /-- Asks the cache. -/
  | lookup (key : String) (next : Option Outcome → Job α)
  /-- Tells the cache. -/
  | store (key : String) (o : Outcome) (next : Job α)
  | count (t : Tally) (next : Job α)
  /-- Sends a query to a server and waits for the reply, up to a limit. -/
  | exchange (limit : Limit) (server : String) (q : Dns.Query) (next : Reply → Job α)
  /-- Waits; the answer is whether the time passed without cancellation. -/
  | pause (d : Duration) (next : Bool → Job α)
  /-- Waits, also when the caller cancels. -/
  | sleep (d : Duration) (next : Job α)

namespace Job

variable {α β : Type}

/-- Goes on with `f` after the work. -/
def bind (f : α → Job β) : Job α → Job β
  | done a => f a
  | crash e => crash e
  | resolvers next => resolvers fun rs => (next rs).bind f
  | lookup key next => lookup key fun hit => (next hit).bind f
  | store key o next => store key o (next.bind f)
  | count t next => count t (next.bind f)
  | exchange limit server q next => exchange limit server q fun r => (next r).bind f
  | pause d next => pause d fun passed => (next passed).bind f
  | sleep d next => sleep d (next.bind f)

instance : Monad Job where
  pure := done
  bind j f := j.bind f

/-- The resolvers of this moment. -/
def currentResolvers : Job (List Resolver) := resolvers done

/-- The outcome that the cache has under a key. -/
def cached? (key : String) : Job (Option Outcome) := lookup key done

def keep (key : String) (o : Outcome) : Job Unit := store key o (done ())

def tally (t : Tally) : Job Unit := count t (done ())

/-- Waits; whether the time passed without cancellation. -/
def wait (d : Duration) : Job Bool := pause d done

/-- The value, or the crash. -/
def ofExcept : Except Fault α → Job α
  | .ok a => done a
  | .error f => crash f

end Job
end FilterWatch
