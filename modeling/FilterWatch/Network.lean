import FilterWatch.Dns.Query
import FilterWatch.Job
import FilterWatch.Transport.SystemError

/-!
# The network

What servers do with queries. A network says for each server and query, and for the number of exchanges about the
same name that the server has seen before, what comes back and after how long. `Response.arrival` tells what an
exchange with a time limit makes of it.
-/

namespace FilterWatch

/-- What comes back in the end. -/
inductive Arrival where
  | message (m : Dns.Message)
  | failed (e : IoError)
  | timedOut
  /-- The exchange crashes. -/
  | crashed (f : Fault)
deriving DecidableEq, Repr, Inhabited

/-- What a server does with a query. -/
inductive Response where
  /-- Something comes back after so many milliseconds. -/
  | after (delay : Nat) (what : Arrival)
  /-- Nothing ever comes back. -/
  | silence
deriving DecidableEq, Repr

/-- The response of a server to a query, the `n`-th one about its name. -/
abbrev Network := (server : String) → (query : Dns.Query) → (n : Nat) → Response

/-- After how many milliseconds an exchange with a time limit ends, and how. What comes back at the limit is in time,
and what comes back within a limit whose timer goes off before that is there when the timer goes off. -/
def Response.arrival (limit : Limit) : Response → Nat × Arrival
  | after delay what => if delay ≤ limit.most then (min delay limit.due, what) else (limit.due, .timedOut)
  | silence => (limit.due, .timedOut)

theorem Response.fst_arrival_after (limit : Limit) (delay : Nat) (what : Arrival) :
    ((after delay what).arrival limit).1 = min delay limit.due := by
  rw [arrival]
  split
  · rfl
  · have hle := limit.due_le
    exact (Nat.min_eq_right (by omega)).symm

/-- The failure of sending to a server that no route leads to. -/
def noRoute : IoError := .ofSystem 101

/-- The network of a host that has no route to any server: every exchange fails at once. -/
def Network.unreachable : Network := fun _ _ _ => .after 0 (.failed noRoute)

end FilterWatch
