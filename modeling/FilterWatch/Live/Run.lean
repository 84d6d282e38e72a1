import FilterWatch.Checker
import FilterWatch.Cli.Arguments
import FilterWatch.Cli.Report
import FilterWatch.Live.Exchange

/-!
# Jobs over sockets

Jobs that are carried out for real: they exchange messages over sockets, wait by the clock, and share their
surroundings in one reference. What a job asks of the surroundings, `World` answers.
-/

namespace FilterWatch.Live

variable {α : Type}

/-- Sets the clocks of the surroundings. -/
def setClocks (w : IO.Ref World) : IO Unit := do
  let millis ← IO.monoMsNow
  let nanos ← IO.monoNanosNow
  w.modify fun w => { w.atTime millis with cacheClock := max w.cacheClock nanos }

/-- Changes the surroundings at this moment. -/
def change (w : IO.Ref World) (f : World → World × α) : IO α := do
  setClocks w
  w.modifyGet fun w => ((f w).2, (f w).1)

/-- Sends a query and waits for the reply. -/
def exchangeIn (protocol : Protocol) (w : IO.Ref World) (limit : Limit) (server : String) (q : Dns.Query) :
    IO (Except Fault Reply) := do
  let started ← change w fun w => (w.probeStarted.note (.exchange server q), w.now)
  let arrival ← exchange protocol limit server q
  change w fun w => w.endExchange server q started arrival

def carryOut (protocol : Protocol) (w : IO.Ref World) : Job α → IO (Except Fault α)
  | .done a => return .ok a
  | .crash f => return .error f
  | .resolvers next => do carryOut protocol w (next (← w.get).registry.resolvers)
  | .lookup key next => do
    match ← change w (·.lookup key) with
    | .ok hit => carryOut protocol w (next hit)
    | .error f => return .error f
  | .store key o next => do
    match ← change w (·.store key o) with
    | none => carryOut protocol w next
    | some f => return .error f
  | .count t next => do
    w.modify (·.count t)
    carryOut protocol w next
  | .exchange limit server q next => do
    match ← exchangeIn protocol w limit server q with
    | .ok reply => carryOut protocol w (next reply)
    | .error f => return .error f
  | .pause d next => do
    IO.sleep (.ofNat (waitMillis (timerMillis d)))
    carryOut protocol w (next true)
  | .sleep d next => do
    IO.sleep (.ofNat (waitMillis (timerMillis d)))
    carryOut protocol w next

/-- Carries out jobs, at most `limit` at once. The results come in the order of the jobs. -/
def carryOutAll (protocol : Protocol) (w : IO.Ref World) (limit : Nat) (jobs : List (Job α)) :
    IO (List (Except Fault α)) := do
  let waiting ← IO.mkRef jobs.zipIdx
  let results ← IO.mkRef (Array.replicate jobs.length (.error ⟨none⟩))
  let worker : IO Unit := do
    repeat
      let some (job, i) ← waiting.modifyGet fun jobs => (jobs.head?, jobs.tail) | return
      let result ← carryOut protocol w job
      results.modify (·.setIfInBounds i result)
  let workers ← (List.range (min limit jobs.length)).mapM fun _ => IO.asTask worker .dedicated
  for task in workers do
    IO.ofExcept task.get
  return (← results.get).toList

/-- Carries out the work of every item. -/
def dispatch {ι : Type} (protocol : Protocol) (c : Checker) (work : ι → Job α) (fallback : ι → CheckError → α)
    (items : List ι) : IO (List α) := do
  let w ← IO.mkRef c.world
  let results ← carryOutAll protocol w (runningLimit c.concurrency) (items.map work)
  return List.zipWith (fun i result => (Slot.ended result).result (fallback i)) items results

def perform (protocol : Protocol) (c : Checker) : Cli.Command → IO Cli.Report
  | .check domains => return .ofOutcomes (← dispatch protocol c c.policy.check Checker.fallback domains)
  | .status => return .ofHealths (← dispatch protocol c c.policy.prober.health (.failed ·.address) c.resolvers)
  | .help => return .usage

end FilterWatch.Live
