import FilterWatch.Outcome

/-!
# Caches of a caller's own

What such a cache answers may depend in any way on the calls it got before, on the key and on the moment, so it is
given by two functions of the calls so far. A shared or remote store answers what others wrote meanwhile; that too
is a function of the calls so far, for each course that the others take.
-/

namespace FilterWatch

/-- A call that a cache got, with the moment by the cache's clock. -/
inductive CacheCall where
  | get (key : String) (now : Nat)
  | set (key : String) (o : Outcome) (now : Nat)
  | flush
deriving DecidableEq, Repr

/-- A cache of a caller's own. -/
structure CustomCache where
  /-- What a read answers after these calls, latest first. -/
  answer : List CacheCall → (key : String) → (now : Nat) → Except Fault (Option Outcome)
  /-- The crash of a write after these calls, if it crashes. -/
  refusal : List CacheCall → (key : String) → Outcome → (now : Nat) → Option Fault
  /-- The calls so far, latest first. -/
  calls : List CacheCall := []

namespace CustomCache

variable (c : CustomCache)

/-- What a read answers. -/
def get (key : String) (now : Nat) : CustomCache × Except Fault (Option Outcome) :=
  ({ c with calls := .get key now :: c.calls }, c.answer c.calls key now)

/-- Hands over an outcome. -/
def set (key : String) (o : Outcome) (now : Nat) : CustomCache × Option Fault :=
  ({ c with calls := .set key o now :: c.calls }, c.refusal c.calls key o now)

/-- Tells the cache to drop every entry. -/
def flush : CustomCache := { c with calls := .flush :: c.calls }

/-- Whether a read would find something. -/
def has (key : String) (now : Nat) : Bool :=
  match c.answer c.calls key now with
  | .ok hit => hit.isSome
  | .error _ => false

end CustomCache
end FilterWatch
