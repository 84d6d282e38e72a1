import FilterWatch.World

/-!
# Running one job

A slot is the place of one job: the job waits there to be started, or for a reply or for its time to pass, or it has
ended. `Slot.advance` runs a job until it ends or has to wait; `wake` and `abort` end a wait when its time has come
and when the caller cancels. Each of these steps leads to a smaller slot in the relation `Slot.Next`, which is
well-founded (`Slot.next_wellFounded`): no job runs forever.
-/

namespace FilterWatch

/-- The place of a job. -/
inductive Slot (α : Type) where
  /-- Not started. -/
  | queued (job : Job α)
  /-- Waits until `due` for what an exchange brings. -/
  | exchanging (due : Nat) (server : String) (q : Dns.Query) (started : Nat) (arrival : Arrival)
      (next : Reply → Job α)
  /-- Waits until `due`. -/
  | pausing (due : Nat) (next : Bool → Job α)
  /-- Waits until `due`, also when the caller cancels. -/
  | sleeping (due : Nat) (next : Job α)
  | ended (result : Except Fault α)
  /-- Never started because the caller cancelled. -/
  | skipped

namespace Slot

variable {α : Type}

/-- When the wait ends. -/
def due? : Slot α → Option Nat
  | exchanging due .. => some due
  | pausing due _ => some due
  | sleeping due _ => some due
  | _ => none

/-- Whether the job is started and not ended. -/
def isRunning (s : Slot α) : Bool := s.due?.isSome

/-- Whether the job waits for something that ends when the caller cancels. -/
def isCancellable : Slot α → Bool
  | exchanging .. => true
  | pausing .. => true
  | _ => false

/-- Runs a job until it ends or has to wait. -/
def advance (net : Network) : Job α → World → World × Slot α
  | .done a, w => (w, ended (.ok a))
  | .crash f, w => (w, ended (.error f))
  | .resolvers next, w => advance net (next w.registry.resolvers) w
  | .lookup key next, w =>
    match w.lookup key with
    | (w, .ok hit) => advance net (next hit) w
    | (w, .error f) => (w, ended (.error f))
  | .store key o next, w =>
    match w.store key o with
    | (w, none) => advance net next w
    | (w, some f) => (w, ended (.error f))
  | .count t next, w => advance net next (w.count t)
  | .exchange limit server q next, w =>
    if w.cancelled then advance net (next .cancelled) w.probeStarted.probeDropped
    else
      let started := w.now
      let (wait, arrival) := (net server q (w.exchangesWith server q.name)).arrival limit
      let w := w.probeStarted.note (.exchange server q)
      if wait = 0 then
        match w.endExchange server q started arrival with
        | (w, .ok reply) => advance net (next reply) w
        | (w, .error f) => (w, ended (.error f))
      else (w, exchanging (started + wait) server q started arrival next)
  | .pause d next, w =>
    if w.cancelled then advance net (next false) w
    else if timerMillis d = 0 then advance net (next true) w
    else (w, pausing (w.now + timerMillis d) next)
  | .sleep d next, w =>
    if timerMillis d = 0 then advance net next w else (w, sleeping (w.now + timerMillis d) next)

/-- Ends the wait of a job whose time has come. -/
def wake (net : Network) : Slot α → World → World × Slot α
  | exchanging _ server q started arrival next, w =>
    match w.endExchange server q started arrival with
    | (w, .ok reply) => advance net (next reply) w
    | (w, .error f) => (w, ended (.error f))
  | pausing _ next, w => advance net (next true) w
  | sleeping _ next, w => advance net next w
  | s, w => (w, s)

/-- Ends the wait of a job when the caller cancels. -/
def abort (net : Network) : Slot α → World → World × Slot α
  | exchanging _ _ _ _ _ next, w => advance net (next .cancelled) w.probeDropped
  | pausing _ next, w => advance net (next false) w
  | s, w => (w, s)

def start (net : Network) : Slot α → World → World × Slot α
  | queued job, w => advance net job w
  | s, w => (w, s)

/-! ### Every job ends -/

/-- The first slot is what one step may make of the second one. -/
inductive Next (net : Network) : Slot α → Slot α → Prop
  | started (job : Job α) (w : World) : Next net (advance net job w).2 (queued job)
  | skipped (job : Job α) : Next net skipped (queued job)
  | replied {due server q begun arrival} (next : Reply → Job α) (reply : Reply) (w : World) :
    Next net (advance net (next reply) w).2 (exchanging due server q begun arrival next)
  | crashed {due server q begun arrival} (next : Reply → Job α) (f : Fault) :
    Next net (ended (.error f)) (exchanging due server q begun arrival next)
  | passed {due} (next : Bool → Job α) (b : Bool) (w : World) :
    Next net (advance net (next b) w).2 (pausing due next)
  | slept {due} (next : Job α) (w : World) : Next net (advance net next w).2 (sleeping due next)

variable {net : Network}

theorem acc_ended (r : Except Fault α) : Acc (Next net) (ended r) := by
  constructor
  intro s hs
  cases hs

theorem acc_skipped : Acc (Next net) (skipped : Slot α) := by
  constructor
  intro s hs
  cases hs

theorem acc_exchanging {due server q begun arrival} {next : Reply → Job α}
    (h : ∀ reply w, Acc (Next net) (advance net (next reply) w).2) :
    Acc (Next net) (exchanging due server q begun arrival next) := by
  constructor
  intro s hs
  cases hs with
  | replied _ reply w => exact h reply w
  | crashed => exact acc_ended _

theorem acc_pausing {due} {next : Bool → Job α} (h : ∀ b w, Acc (Next net) (advance net (next b) w).2) :
    Acc (Next net) (pausing due next) := by
  constructor
  intro s hs
  cases hs with
  | passed _ b w => exact h b w

theorem acc_sleeping {due} {next : Job α} (h : ∀ w, Acc (Next net) (advance net next w).2) :
    Acc (Next net) (sleeping due next) := by
  constructor
  intro s hs
  cases hs with
  | slept _ w => exact h w

theorem acc_advance (job : Job α) : ∀ w, Acc (Next net) (advance net job w).2 := by
  induction job with
  | done a => exact fun w => acc_ended _
  | crash f => exact fun w => acc_ended _
  | resolvers next ih => exact fun w => ih _ w
  | lookup key next ih =>
    intro w
    rw [advance]
    split
    · exact ih _ _
    · exact acc_ended _
  | store key o next ih =>
    intro w
    rw [advance]
    split
    · exact ih _
    · exact acc_ended _
  | count t next ih => exact fun w => ih _
  | exchange limit server q next ih =>
    intro w
    rw [advance]
    split
    · exact ih _ _
    · dsimp only
      split
      · split
        · exact ih _ _
        · exact acc_ended _
      · exact acc_exchanging ih
  | pause d next ih =>
    intro w
    rw [advance]
    split
    · exact ih _ _
    · split
      · exact ih _ _
      · exact acc_pausing ih
  | sleep d next ih =>
    intro w
    rw [advance]
    split
    · exact ih _
    · exact acc_sleeping ih

/-- No job runs forever. -/
theorem next_wellFounded : WellFounded (Next net : Slot α → Slot α → Prop) := by
  constructor
  intro s
  cases s with
  | queued job =>
    constructor
    intro t ht
    cases ht with
    | started _ w => exact acc_advance job w
    | skipped => exact acc_skipped
  | exchanging => exact acc_exchanging fun _ _ => acc_advance _ _
  | pausing => exact acc_pausing fun _ _ => acc_advance _ _
  | sleeping => exact acc_sleeping fun _ => acc_advance _ _
  | ended r => exact acc_ended r
  | skipped => exact acc_skipped

theorem next_wake {s : Slot α} (h : s.isRunning) (w : World) : Next net (s.wake net w).2 s := by
  cases s with
  | exchanging =>
    simp only [wake]
    split
    · exact .replied _ _ _
    · exact .crashed _ _
  | pausing => exact .passed _ _ _
  | sleeping => exact .slept _ _
  | _ => simp [isRunning, due?] at h

theorem next_abort {s : Slot α} (h : s.isCancellable) (w : World) : Next net (s.abort net w).2 s := by
  cases s with
  | exchanging => exact .replied _ _ _
  | pausing => exact .passed _ _ _
  | _ => simp [isCancellable] at h

end Slot
end FilterWatch
