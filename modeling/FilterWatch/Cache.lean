import FilterWatch.Cache.Custom
import FilterWatch.Cache.Memory
import FilterWatch.Cache.Plain

/-!
# The cache of a checker

Either no cache, or the built-in one, or one without expiry, or one of the caller's own. All of them are read, written
and flushed in the same way; `now` is the moment by the cache's clock.
-/

namespace FilterWatch

inductive Cache where
  /-- Keeps nothing. -/
  | off
  | memory (m : MemoryCache)
  | plain (c : PlainCache)
  | custom (c : CustomCache)

namespace Cache

def get (key : String) (now : Nat) : Cache → Cache × Except Fault (Option Outcome)
  | off => (off, .ok none)
  | memory m => (memory (m.get key now).1, .ok (m.get key now).2)
  | plain c => (plain c, c.get key)
  | custom c => (custom (c.get key now).1, (c.get key now).2)

/-- Keeps an outcome under a key, unless the cache crashes. -/
def set (key : String) (o : Outcome) (now : Nat) : Cache → Cache × Option Fault
  | off => (off, none)
  | memory m => (memory (m.set key o now).1, (m.set key o now).2)
  | plain c => (plain (c.set key o).1, (c.set key o).2)
  | custom c => (custom (c.set key o now).1, (c.set key o now).2)

def flush : Cache → Cache
  | off => off
  | memory m => memory m.flush
  | plain c => plain c.flush
  | custom c => custom c.flush

/-- Whether something is kept under a key, expired or not. -/
def has (key : String) (now : Nat) : Cache → Bool
  | off => false
  | memory m => (m.find? key).isSome
  | plain c => (c.entries.lookup key).isSome
  | custom c => c.has key now

end Cache
end FilterWatch
