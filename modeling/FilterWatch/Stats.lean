import FilterWatch.Duration

/-!
# Counters

What a checker counts: checks, how they ended, probes and how many of them run at once. All counters are 64-bit
words and wrap around. The operations on the number of running probes are made of the single steps `enter`,
`raisePeak`, `leave` and `swapPeak`, which is as fine as concurrent callers can interleave.
-/

namespace FilterWatch

structure Stats where
  checks : UInt64 := 0
  cached : UInt64 := 0
  blocked : UInt64 := 0
  failed : UInt64 := 0
  probes : UInt64 := 0
  /-- Probes that wait for the network. -/
  inFlight : UInt64 := 0
  /-- The most probes at once since the last snapshot. -/
  peak : UInt64 := 0
  /-- The time of all finished probes, in microseconds. -/
  probeMicros : UInt64 := 0
deriving DecidableEq, Repr, Inhabited

/-- The counters between two resets. -/
structure Snapshot where
  checks : UInt64
  cached : UInt64
  blocked : UInt64
  failed : UInt64
  probes : UInt64
  peak : UInt64
  probeMicros : UInt64
deriving DecidableEq, Repr, Inhabited

/-- The mean time of a probe in milliseconds, zero if there was none. -/
def Snapshot.averageMillis (s : Snapshot) : Float :=
  if s.probes = 0 then 0.0 else (s.probeMicros.toFloat / s.probes.toFloat) / 1000.0

namespace Stats

/-- Counts a check that was not answered by the cache. -/
def recordCheck (s : Stats) (blocked failed : Bool) : Stats :=
  { s with
    checks := s.checks + 1
    blocked := if blocked then s.blocked + 1 else s.blocked
    failed := if failed then s.failed + 1 else s.failed }

/-- Counts a check that was answered by the cache. -/
def recordCached (s : Stats) : Stats := { s with cached := s.cached + 1 }

/-- One more probe waits; the answer is how many do now. -/
def enter (s : Stats) : Stats × UInt64 := ({ s with inFlight := s.inFlight + 1 }, s.inFlight + 1)

/-- The peak is at least `reached`. -/
def raisePeak (s : Stats) (reached : UInt64) : Stats := { s with peak := max s.peak reached }

def leave (s : Stats) : Stats := { s with inFlight := s.inFlight - 1 }

/-- The peak counts from `level` on; the answer is the peak before. -/
def swapPeak (s : Stats) (level : UInt64) : Stats × UInt64 := ({ s with peak := level }, s.peak)

def probeStarted (s : Stats) : Stats :=
  let (s, reached) := s.enter
  s.raisePeak reached

/-- A probe ends without a response. -/
def probeDropped (s : Stats) : Stats := s.leave

/-- A probe ends with a response that took `elapsed`. -/
def probeFinished (s : Stats) (elapsed : Duration) : Stats :=
  { s with probes := s.probes + 1, probeMicros := s.probeMicros + UInt64.ofNat elapsed.micros }.leave

/-- The counters so far; counting starts again from zero, the peak from the probes that run. -/
def snapshot (s : Stats) : Stats × Snapshot :=
  let (t, peak) := s.swapPeak s.inFlight
  ({ inFlight := t.inFlight, peak := t.peak },
    ⟨s.checks, s.cached, s.blocked, s.failed, s.probes, peak, s.probeMicros⟩)

end Stats
end FilterWatch
