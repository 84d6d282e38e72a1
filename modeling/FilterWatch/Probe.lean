import FilterWatch.Address.Server
import FilterWatch.Config
import FilterWatch.Job

/-!
# Probes

A probe is one query to one resolver. `Prober.probe` asks it for a domain as its settings say, `Prober.health`
asks for a well-known domain to see whether it answers at all.
-/

namespace FilterWatch

/-- How probes are made. -/
structure Prober where
  /-- The time limit of an exchange. -/
  timeout : Duration
  /-- The size of answers that queries announce. -/
  payload : UInt16
deriving DecidableEq, Repr

namespace Prober

/-- What a reply of a server comes to: an answer and its round trip, or an error. -/
def verdict (server : String) : Reply → Except CheckError (Dns.Message × Nat)
  | .message m elapsed => .ok (m, elapsed)
  | .failed e => .error (.ofIo server e)
  | .timedOut => .error (.timeout server)
  | .cancelled => .error .cancelled

/-- Sends a query for a record type of a domain, if the domain can be asked for. The timer is that of the time limit. -/
def ask (p : Prober) (domain server : String) (type : RecordType) (timer : Duration → Nat := timerMillis) :
    Job (Except CheckError (Dns.Message × Nat)) :=
  match Dns.Query.ofDomain domain type p.payload with
  | .error e => .done (.error e)
  | .ok q => .exchange (.of timer p.timeout) server q fun reply => .done (verdict server reply)

def probe (p : Prober) (domain : String) (r : Resolver) (timer : Duration → Nat := timerMillis) :
    Job (Except CheckError Dns.Message) := do
  return (← p.ask domain (withDefaultPort r.address) r.recordType timer).map (·.1)

/-- What an answer, or its lack, says about a resolver. -/
def healthOf (r : Resolver) : Except CheckError (Dns.Message × Nat) → Health
  | .ok (m, elapsed) =>
    if m.rcode = Dns.Message.noError then .isOnline r.address elapsed
    else .failed r.address (.unexpectedResponse (withDefaultPort r.address) m.rcode.toNat)
  | .error e => .failed r.address e

def health (p : Prober) (r : Resolver) : Job Health := do
  return healthOf r (← p.ask healthProbeDomain (withDefaultPort r.address) .a)

end Prober
end FilterWatch
