/-!
# Durations

A span of time in whole nanoseconds, with the coarser units in which it is written or measured.
-/

namespace FilterWatch

structure Duration where
  nanos : Nat
deriving DecidableEq, Repr, Inhabited

namespace Duration

def ofNanos (n : Nat) : Duration := ⟨n⟩

def ofMillis (n : Nat) : Duration := ⟨n * 1000000⟩

def ofSeconds (n : Nat) : Duration := ⟨n * 1000000000⟩

def seconds (d : Duration) : Nat := d.nanos / 1000000000

/-- What exceeds the whole seconds, in nanoseconds. -/
def subsecondNanos (d : Duration) : Nat := d.nanos % 1000000000

def micros (d : Duration) : Nat := d.nanos / 1000

/-- Milliseconds, rounded up. -/
def ceilMillis (d : Duration) : Nat := (d.nanos + 999999) / 1000000

def isZero (d : Duration) : Bool := d.nanos == 0

@[simp] theorem nanos_ofMillis (n : Nat) : (ofMillis n).nanos = n * 1000000 := rfl
@[simp] theorem nanos_ofSeconds (n : Nat) : (ofSeconds n).nanos = n * 1000000000 := rfl

@[simp] theorem ceilMillis_ofMillis (n : Nat) : (ofMillis n).ceilMillis = n := by
  simp only [ceilMillis, nanos_ofMillis]; omega

end Duration
end FilterWatch
