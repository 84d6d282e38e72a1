import FilterWatch.Cache.Memory

/-!
# Timers

A timer goes off at a whole millisecond. One that is set beyond what the clock can show goes off after thirty years.
-/

namespace FilterWatch

/-- The wait of a timer that is set beyond what the clock can show: thirty years. -/
def farFuture : Duration := .ofSeconds (30 * 365 * 86400)

/-- The milliseconds that a timer waits. Timers go off at whole milliseconds. -/
def timerMillis (d : Duration) : Nat :=
  if d.nanos < MemoryCache.endOfTime then d.ceilMillis else farFuture.ceilMillis

/-- A time limit. -/
structure Limit where
  /-- The milliseconds after which its timer goes off. -/
  due : Nat
  /-- The most milliseconds that the limit allows. Its timer may go off before that if the clock cannot show it. -/
  most : Nat
  due_le : due ≤ most
deriving DecidableEq, Repr

/-- The limit that a timer keeps which waits so many milliseconds for each duration. -/
def Limit.of (timer : Duration → Nat) (d : Duration) : Limit :=
  ⟨timer d, max (timer d) d.ceilMillis, Nat.le_max_left ..⟩

/-- The limit of so many milliseconds, after which its timer goes off. -/
def Limit.ofMillis (millis : Nat) : Limit := ⟨millis, millis, Nat.le_refl _⟩

instance : Coe Duration Limit := ⟨.of timerMillis⟩

end FilterWatch
