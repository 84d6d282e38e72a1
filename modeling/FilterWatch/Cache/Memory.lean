import FilterWatch.Duration
import FilterWatch.Outcome

/-!
# The built-in cache

Outcomes by key, each with the moment at which it expires. Nothing sweeps the cache: an expired entry goes when a
read finds it. A read is made of `look` and `evictIfUnchanged`, which concurrent callers may interleave with other
operations. Moments are nanoseconds of one clock whose seconds fit in 63 bits; a write whose expiry would lie
beyond that crashes while it holds the entries, and from then on nothing can be read or written.
-/

namespace FilterWatch

/-- An outcome and the moment at which it expires. -/
structure CacheEntry where
  outcome : Outcome
  expires : Nat
deriving DecidableEq, Repr

/-- Outcomes by key, at most one for each. -/
structure MemoryCache where
  ttl : Duration
  entries : List (String × CacheEntry) := []
  /-- A write crashed while it held the entries. -/
  poisoned : Bool := false
deriving Repr

namespace MemoryCache

variable (m : MemoryCache)

/-- The first moment that the clock cannot show. -/
def endOfTime : Nat := 0x8000000000000000 * 1000000000

/-- The entries with one put in the place of the one with its key, or at the end. -/
def insertEntry (key : String) (e : CacheEntry) : List (String × CacheEntry) → List (String × CacheEntry)
  | [] => [(key, e)]
  | (k, x) :: rest => if k = key then (key, e) :: rest else (k, x) :: insertEntry key e rest

/-- The number of entries, expired ones included. -/
def size : Nat := if m.poisoned then 0 else m.entries.length

def isEmpty : Bool := m.size == 0

/-- The entry under a key, expired or not. -/
def find? (key : String) : Option CacheEntry := if m.poisoned then none else m.entries.lookup key

/-- What a look under a key finds at the moment `now`. -/
inductive Look where
  | hit (o : Outcome)
  /-- The entry expired at that moment. -/
  | stale (expired : Nat)
  | miss
deriving DecidableEq, Repr

def look (key : String) (now : Nat) : Look :=
  match m.find? key with
  | some e => if now < e.expires then .hit e.outcome else .stale e.expires
  | none => .miss

/-- Removes the entry under a key if it is still the one that expired at `expired`. -/
def evictIfUnchanged (key : String) (expired : Nat) : MemoryCache :=
  match m.find? key with
  | some e => if e.expires = expired then { m with entries := m.entries.filter (·.1 != key) } else m
  | none => m

/-- The live outcome under a key; an expired one is removed. -/
def get (key : String) (now : Nat) : MemoryCache × Option Outcome :=
  match m.look key now with
  | .hit o => (m, some o)
  | .stale expired => (m.evictIfUnchanged key expired, none)
  | .miss => (m, none)

/-- The crash of a write whose expiry the clock cannot show. -/
def expiryFault : Fault := ⟨some "overflow when adding duration to instant"⟩

/-- Keeps an outcome under a key from `now` on. -/
def set (key : String) (o : Outcome) (now : Nat) : MemoryCache × Option Fault :=
  if m.poisoned then (m, none)
  else if now + m.ttl.nanos < endOfTime then
    ({ m with entries := insertEntry key ⟨o, now + m.ttl.nanos⟩ m.entries }, none)
  else ({ m with poisoned := true }, some expiryFault)

def flush : MemoryCache := if m.poisoned then m else { m with entries := [] }

end MemoryCache
end FilterWatch
