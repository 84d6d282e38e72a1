import FilterWatch.Proofs.Reload
import FilterWatch.Proofs.Retries
import Mathlib.Algebra.Order.BigOperators.Group.Finset

/-!
# How long checks take

The time that the attempts at a resolver take is the time of their exchanges, each cut off at the time limit, and the
waits before those that follow a failure (`attemptsMillis`). Timers go off at whole milliseconds, so a limit counts as
it is when it is rounded up to them. A check makes attempts at each resolver of its list once at most, which bounds its
time (`Runs.against_le`).
-/

namespace FilterWatch
open Finset

/-! ### Timers -/

def backoffMillis (attempt : Nat) : Nat := min (2 ^ (attempt - 1)) 30 * 1000

theorem shiftLeft_lt (attempt : Nat) : 1 <<< min (attempt - 1) 63 < 2 ^ 64 := by
  rw [Nat.one_shiftLeft]
  exact Nat.pow_lt_pow_right (by decide) (by omega)

theorem backoff_eq (attempt : Nat) : backoff attempt = .ofSeconds (min (2 ^ (attempt - 1)) 30) := by
  have hcut : min (2 ^ min (attempt - 1) 63) 30 = min (2 ^ (attempt - 1)) 30 := by
    rcases Nat.le_total (attempt - 1) 63 with h | h
    · rw [Nat.min_eq_left h]
    · have hlong : 2 ^ 63 ≤ 2 ^ (attempt - 1) := Nat.pow_le_pow_right (by decide) h
      rw [Nat.min_eq_right h]
      omega
  rw [backoff, Nat.one_shiftLeft, ← hcut]
  simp only [maxBackoff, Duration.ofSeconds, Duration.ofNanos, Nat.mul_min_mul_right]

theorem timerMillis_ofMillis {millis : Nat} (h : (Duration.ofMillis millis).nanos < MemoryCache.endOfTime) :
    timerMillis (.ofMillis millis) = millis := by
  rw [timerMillis, if_pos h, Duration.ceilMillis_ofMillis]

theorem timerMillis_backoff (attempt : Nat) : timerMillis (backoff attempt) = backoffMillis attempt := by
  have hmillis : backoff attempt = .ofMillis (backoffMillis attempt) := by
    rw [backoff_eq, Duration.ofSeconds, Duration.ofMillis, backoffMillis, Nat.mul_assoc]
  rw [hmillis]
  refine timerMillis_ofMillis ?_
  simp only [backoffMillis, Duration.nanos_ofMillis, MemoryCache.endOfTime]
  omega

/-! ### The attempts at a resolver -/

def Arrival.fails : Arrival → Bool
  | failed _ | timedOut => true
  | message _ | crashed _ => false

/-- What an attempt comes to when the server does this. -/
def CheckPolicy.resultOf (p : CheckPolicy) (r : Resolver) (resp : Response) : AttemptResult :=
  (resp.arrival p.prober.timeout).2.result r

/-- The milliseconds that the attempts from number `attempt` on take, by what the server does. `waits` says whether the
attempt before failed. -/
def attemptsMillis (limit : Duration) : (attempt : Nat) → (waits : Bool) → List Response → Nat
  | _, _, [] => 0
  | attempt, waits, resp :: rest =>
    (if waits then backoffMillis attempt else 0) + (resp.arrival limit).1 +
      attemptsMillis limit (attempt + 1) (resp.arrival limit).2.fails rest

/-- The longest time that the attempts at a resolver may take. -/
def CheckPolicy.longestMillis (p : CheckPolicy) : Nat :=
  (p.maxRetries + 1) * timerMillis p.prober.timeout + ∑ i ∈ range p.maxRetries, backoffMillis (i + 1)

theorem Response.arrival_le (limit : Duration) (resp : Response) : (resp.arrival limit).1 ≤ timerMillis limit := by
  cases resp with
  | silence => exact Nat.le_refl _
  | after delay what => exact (fst_arrival_after limit delay what).trans_le (Nat.min_le_right ..)

theorem Arrival.error?_result (r : Resolver) (a : Arrival) : (a.result r).error?.isSome = a.fails := by
  cases a with
  | message m =>
    show (AttemptResult.ofMatch (m.carries r.keyword)).error?.isSome = false
    rcases m.carries r.keyword with f | _ | _ <;> rfl
  | failed | timedOut | crashed => rfl

theorem attemptsMillis_le (limit : Duration) (attempt : Nat) (waits : Bool) (responses : List Response) :
    attemptsMillis limit attempt waits responses ≤ (if waits then backoffMillis attempt else 0) +
      responses.length * timerMillis limit + ∑ i ∈ range (responses.length - 1), backoffMillis (attempt + 1 + i) := by
  induction responses generalizing attempt waits with
  | nil => exact Nat.zero_le _
  | cons resp rest ih =>
    have hrest : attemptsMillis limit (attempt + 1) (resp.arrival limit).2.fails rest ≤
        rest.length * timerMillis limit + ∑ i ∈ range rest.length, backoffMillis (attempt + 1 + i) := by
      cases rest with
      | nil => exact Nat.zero_le _
      | cons resp' rest =>
        refine (ih _ _).trans ?_
        have hwait : (if (resp.arrival limit).2.fails then backoffMillis (attempt + 1) else 0) ≤
            backoffMillis (attempt + 1) := by
          split <;> omega
        have hshift : ∀ i, backoffMillis (attempt + 1 + (i + 1)) = backoffMillis (attempt + 1 + 1 + i) :=
          fun i => congrArg backoffMillis (by omega)
        rw [List.length_cons, Nat.add_sub_cancel, sum_range_succ', Nat.add_zero, sum_congr rfl fun i _ => hshift i]
        omega
    have harrival := resp.arrival_le limit
    rw [attemptsMillis, List.length_cons, Nat.add_sub_cancel, Nat.succ_mul]
    omega

theorem Retried.length_le {domain : String} {r : Resolver} {most : Nat} {results : List AttemptResult}
    {x : Except Fault (Except CheckError Outcome)} (h : Retried domain r most results x) : results.length ≤ most := by
  cases h with
  | ended earlier hlt => simpa using Nat.succ_le_of_lt hlt
  | clear hlen => exact hlen.le
  | exhausted earlier hlen => simpa using hlen.le

/-- The attempts from number `attempt` on took surroundings `w` to `w'` while the server did this. -/
structure CheckPolicy.Took (net : Network) (meanwhile : World → World → Prop) (p : CheckPolicy) (r : Resolver)
    (q : Dns.Query) (attempt : Nat) (waits : Bool) (w w' : World) (responses : List Response) : Prop where
  now : w'.now = w.now + attemptsMillis p.prober.timeout attempt waits responses
  next : Undisturbed meanwhile → ∀ (i : Nat) resp, responses[i]? = some resp → resp =
    net (withDefaultPort r.address) q (w.exchangesWith (withDefaultPort r.address) q.name + i)

section
variable {net : Network} {meanwhile : World → World → Prop} {p : CheckPolicy} {domain : String} {r : Resolver}
  {q : Dns.Query} {attempt left : Nat} {clear waits : Bool} {failure : Option CheckError} {w w₁ w' : World}
  {ds : List Deed} {x : Except Fault (Except CheckError Outcome)} {a : AttemptResult} {responses : List Response}

theorem CheckPolicy.Exchanged.resultOf (h : p.Exchanged net meanwhile r q w a w') :
    p.resultOf r (net.responds r q w) = a := h.result

theorem CheckPolicy.Took.nil : p.Took net meanwhile r q attempt waits w w [] := ⟨rfl, by simp⟩

theorem CheckPolicy.Took.cons (hw : p.Exchanged net meanwhile r q w a w₁)
    (h : p.Took net meanwhile r q (attempt + 1) a.error?.isSome w₁ w' responses) :
    p.Took net meanwhile r q attempt false w w' (net.responds r q w :: responses) := by
  refine ⟨?_, fun hmean i resp hi => ?_⟩
  · have hfails : a.error?.isSome = ((net.responds r q w).arrival p.prober.timeout).2.fails := by
      rw [← hw.result, Arrival.error?_result]
    rw [h.now, hw.now, attemptsMillis, ← hfails]
    simp only [Bool.false_eq_true, if_false]
    omega
  · cases i with
    | zero => exact (Option.some.inj hi).symm
    | succ i =>
      rw [h.next hmean i resp hi, hw.count hmean]
      congr 1
      omega

theorem CheckPolicy.Took.pause {w₂ : World}
    (hnow : w₂.now = w.now + backoffMillis attempt)
    (hcount : Undisturbed meanwhile → ∀ server name, w₂.exchangesWith server name = w.exchangesWith server name)
    (h : p.Took net meanwhile r q attempt false w₂ w' responses) (hne : responses ≠ []) :
    p.Took net meanwhile r q attempt true w w' responses := by
  refine ⟨?_, fun hmean i resp hi => ?_⟩
  · cases responses with
    | nil => exact absurd rfl hne
    | cons resp rest =>
      rw [h.now, hnow, attemptsMillis, attemptsMillis]
      simp only [Bool.false_eq_true, if_false, if_true]
      omega
  · rw [h.next hmean i resp hi, hcount hmean]

namespace Job.Runs

theorem exchangeOf_took (h : (p.exchangeOf domain r q attempt clear left).Runs net meanwhile w ds w' x)
    (hcalm : ∀ d ∈ ds, d.isCalm)
    (hleft : ∀ {w₁ ds clear} {failure : Option CheckError},
      (p.attempts domain r (attempt + 1) clear failure left).Runs net meanwhile w₁ ds w' x → (∀ d ∈ ds, d.isCalm) →
      ∃ responses, RetriedFrom domain r clear failure left (responses.map (p.resultOf r)) x ∧
        p.Took net meanwhile r q (attempt + 1) failure.isSome w₁ w' responses) :
    ∃ responses, RetriedFrom domain r clear failure (left + 1) (responses.map (p.resultOf r)) x ∧
      p.Took net meanwhile r q attempt false w w' responses ∧ responses ≠ [] := by
  have hlast : ∀ {a : AttemptResult}, a.goesOn = false → p.Exchanged net meanwhile r q w a w' →
      RetriedFrom domain r clear failure (left + 1) ([net.responds r q w].map (p.resultOf r)) (a.outcome domain r) ∧
        p.Took net meanwhile r q attempt false w w' [net.responds r q w] := by
    intro a ha hw
    refine ⟨?_, .cons hw .nil⟩
    rw [List.map_singleton, hw.resultOf]
    exact .last ha
  cases h.exchangeOf_inv with
  | goesOn _ ha hw h =>
    obtain ⟨rest, hfrom, htook⟩ := hleft h (List.forall_mem_cons.mp hcalm).2
    refine ⟨_ :: rest, ?_, .cons hw htook, List.cons_ne_nil _ _⟩
    rw [List.map_cons, hw.resultOf]
    exact hfrom.cons ha
  | ends _ ha hw => exact ⟨_, (hlast ha hw).1, (hlast ha hw).2, List.cons_ne_nil _ _⟩
  | crashes hw => exact ⟨_, (hlast rfl hw).1, (hlast rfl hw).2, List.cons_ne_nil _ _⟩
  | aborted | withheld => cases (List.forall_mem_cons.mp hcalm).1

theorem attempts_took (hq : Dns.Query.ofDomain domain r.recordType p.prober.payload = .ok q)
    (h : (p.attempts domain r attempt clear failure left).Runs net meanwhile w ds w' x) (hcalm : ∀ d ∈ ds, d.isCalm) :
    ∃ responses, RetriedFrom domain r clear failure left (responses.map (p.resultOf r)) x ∧
      p.Took net meanwhile r q attempt failure.isSome w w' responses := by
  induction left generalizing attempt clear failure w ds with
  | zero =>
    cases h
    exact ⟨[], .spent rfl (by simp), .nil⟩
  | succ left ih =>
    rw [CheckPolicy.attempts_succ hq] at h
    cases failure with
    | none =>
      obtain ⟨responses, hfrom, htook, -⟩ := h.exchangeOf_took hcalm ih
      exact ⟨responses, hfrom, htook⟩
    | some e =>
      cases h with
      | @pause _ w₁ _ _ _ _ _ _ hm ht h =>
        obtain ⟨responses, hfrom, htook, hne⟩ := h.exchangeOf_took (List.forall_mem_cons.mp hcalm).2 ih
        refine ⟨responses, hfrom, htook.pause ?_ (fun hmean server name => ?_) hne⟩
        · rw [← timerMillis_backoff]
          exact Nat.max_eq_right ht
        · exact hmean w w₁ server name hm
      | pauseAborted => cases (List.forall_mem_cons.mp hcalm).1

theorem now_attempts_of_no_query {e : CheckError}
    (he : Dns.Query.ofDomain domain r.recordType p.prober.payload = .error e)
    (h : (p.attempts domain r 0 false none (left + 1)).Runs net meanwhile w ds w' x) : w'.now = w.now := by
  rw [CheckPolicy.attempts_of_no_query he] at h
  cases h
  rfl

/-- The attempts at a resolver end in time. -/
theorem attempts_le (h : (p.attempts domain r 0 false none (p.maxRetries + 1)).Runs net meanwhile w ds w' x)
    (hcalm : ∀ d ∈ ds, d.isCalm) : w'.now ≤ w.now + p.longestMillis := by
  cases hq : Dns.Query.ofDomain domain r.recordType p.prober.payload with
  | error e =>
    rw [h.now_attempts_of_no_query hq]
    exact Nat.le_add_right _ _
  | ok q =>
    obtain ⟨responses, hfrom, htook⟩ := h.attempts_took hq hcalm
    have hlength : responses.length ≤ p.maxRetries + 1 := by simpa using hfrom.retried.length_le
    have hle := attemptsMillis_le p.prober.timeout 0 false responses
    have hexchanges : responses.length * timerMillis p.prober.timeout ≤
        (p.maxRetries + 1) * timerMillis p.prober.timeout := Nat.mul_le_mul_right _ hlength
    have hwaits : ∑ i ∈ range (responses.length - 1), backoffMillis (0 + 1 + i) ≤
        ∑ i ∈ range p.maxRetries, backoffMillis (i + 1) := by
      simp only [Nat.zero_add, Nat.add_comm 1]
      exact sum_le_sum_of_subset (range_subset_range.mpr (by omega))
    rw [htook.now, CheckPolicy.longestMillis]
    simp only [Option.isSome_none, Bool.false_eq_true, if_false] at hle ⊢
    omega

end Job.Runs
end

/-! ### Checks -/

theorem World.now_count (w : World) (t : Tally) : (w.count t).now = w.now := by cases t <;> rfl

theorem World.Intervened.undisturbed (agenda : List AgendaEntry) : Undisturbed (World.Intervened agenda) := by
  intro w w' server name h
  refine h.preserves (P := fun w' => w'.exchangesWith server name = w.exchangesWith server name)
    (fun e _ w' hw => ?_) rfl
  cases e.what with
  | flush => exact (List.countP_cons_of_neg (by simp)).trans hw
  | cancel | upsert | delete | elapse => exact hw

namespace Job.Runs
variable {net : Network} {meanwhile : World → World → Prop} {p : CheckPolicy} {domain : String} {rs : List Resolver}
  {w w' : World} {ds : List Deed} {x : Except Fault Outcome}

theorem now_fail {e : CheckError} (h : (CheckPolicy.fail domain e).Runs net meanwhile w ds w' x) : w'.now = w.now := by
  cases h with
  | count h =>
    cases h
    exact World.now_count _ _

/-- What follows the attempts at a resolver takes the time of the resolvers behind it at most. -/
theorem afterAttemptsAt_le {r : Resolver} {rest : List Resolver} {y : Except CheckError Outcome}
    (h : (p.afterAttemptsAt domain r rest y).Runs net meanwhile w ds w' x) (hcalm : ∀ d ∈ ds, d.isCalm)
    (hrest : ∀ {w₁ ds}, (p.against domain rest).Runs net meanwhile w₁ ds w' x → (∀ d ∈ ds, d.isCalm) →
      w'.now ≤ w₁.now + rest.length * p.longestMillis) : w'.now ≤ w.now + rest.length * p.longestMillis := by
  cases y with
  | ok o =>
    cases h with
    | store hs h =>
      cases h with
      | count h =>
        cases h
        rw [World.now_count, ← congrArg (·.1.now) hs]
        exact Nat.le_add_right _ _
    | storeCrash hs =>
      rw [← congrArg (·.1.now) hs]
      exact Nat.le_add_right _ _
  | error e =>
    simp only [CheckPolicy.afterAttemptsAt] at h
    split at h
    · exact hrest h hcalm
    · rw [now_fail h]
      exact Nat.le_add_right _ _

theorem against_le (h : (p.against domain rs).Runs net meanwhile w ds w' x) (hcalm : ∀ d ∈ ds, d.isCalm) :
    w'.now ≤ w.now + rs.length * p.longestMillis := by
  induction rs generalizing w ds with
  | nil =>
    rw [now_fail h]
    exact Nat.le_add_right _ _
  | cons r rest ih =>
    rw [CheckPolicy.against_cons] at h
    rw [List.length_cons, Nat.succ_mul]
    cases h with
    | @lookup _ w₁ _ hit _ ds _ _ hl h =>
      have htail := (List.forall_mem_cons.mp hcalm).2
      have hlookup : w₁.now = w.now := (congrArg (·.1.now) hl).symm
      cases hit with
      | some o =>
        cases h with
        | count h =>
          cases h
          rw [World.now_count, hlookup]
          exact Nat.le_add_right _ _
      | none =>
        rcases h.bind_inv with ⟨y, w₂, ds₁, ds₂, h₁, h₂, rfl⟩ | ⟨f, h₁, -⟩
        · obtain ⟨hcalm₁, hcalm₂⟩ := List.forall_mem_append.mp htail
          have hattempts := h₁.attempts_le hcalm₁
          have hrest := h₂.afterAttemptsAt_le hcalm₂ ih
          omega
        · have hattempts := h₁.attempts_le htail
          omega
    | lookupCrash hl =>
      rw [← congrArg (·.1.now) hl]
      exact Nat.le_add_right _ _

theorem check_le {raw : String} (h : (p.check raw).Runs net meanwhile w ds w' x) (hcalm : ∀ d ∈ ds, d.isCalm) :
    w'.now ≤ w.now + w.registry.resolvers.length * p.longestMillis := by
  cases hv : isValidDomain (normalize raw) with
  | false =>
    rw [CheckPolicy.check_of_invalid hv] at h
    rw [now_fail h]
    exact Nat.le_add_right _ _
  | true =>
    rw [CheckPolicy.check_of_valid hv] at h
    cases h with
    | resolvers h => exact h.against_le (List.forall_mem_cons.mp hcalm).2

end Job.Runs

/-- What timers make of the durations that they are set to. -/
structure TimersKeep : Prop where
  /-- The number of seconds before attempt `attempt` is never cut off, and it is this one. -/
  backoff : ∀ attempt, 1 <<< min (attempt - 1) 63 < 2 ^ 64 ∧ backoff attempt = .ofSeconds (min (2 ^ (attempt - 1)) 30)
  exact : ∀ millis, (Duration.ofMillis millis).nanos < MemoryCache.endOfTime → timerMillis (.ofMillis millis) = millis
  roundsUp : ∀ d : Duration, d.nanos < MemoryCache.endOfTime →
    d.nanos ≤ timerMillis d * 1000000 ∧ timerMillis d * 1000000 < d.nanos + 1000000
  /-- Durations that the clock cannot show count as thirty years. -/
  beyond : ∀ d : Duration, MemoryCache.endOfTime ≤ d.nanos → timerMillis d = 30 * 365 * 86400 * 1000
  exchange : ∀ (limit : Duration) delay what,
    ((Response.after delay what).arrival limit).1 = min delay (timerMillis limit) ∧
      (Response.silence.arrival limit).1 = timerMillis limit

theorem timersKeep : TimersKeep where
  backoff attempt := ⟨shiftLeft_lt attempt, backoff_eq attempt⟩
  exact _ := timerMillis_ofMillis
  roundsUp d hd := by
    rw [timerMillis, if_pos hd, Duration.ceilMillis]
    omega
  beyond d hd := by
    rw [timerMillis, if_neg (Nat.not_lt.mpr hd)]
    rfl
  exchange limit delay what := ⟨Response.fst_arrival_after limit delay what, rfl⟩

/-- How long a call takes that is not cancelled: the attempts at a resolver take the time of their exchanges, each up to
the time limit, and of the waits before those that follow a failure; a check takes the longest such time for each of its
resolvers at most. -/
theorem calls_take (p : CheckPolicy) (net : Network) (call : Call) (hcall : call.IsCalm) : TimersKeep ∧
    (∀ domain r w,
      let run := runCall net call (p.attempts domain r 0 false none (p.maxRetries + 1)) w
      (∀ q, Dns.Query.ofDomain domain r.recordType p.prober.payload = .ok q → ∃ responses,
        (∀ (i : Nat) resp, responses[i]? = some resp → resp = net (withDefaultPort r.address) q
          (w.exchangesWith (withDefaultPort r.address) q.name + i)) ∧
        Retried domain r (p.maxRetries + 1) (responses.map (p.resultOf r)) run.2 ∧
        run.1.now = w.now + attemptsMillis p.prober.timeout 0 false responses) ∧
      ∀ e, Dns.Query.ofDomain domain r.recordType p.prober.payload = .error e → run.1.now = w.now) ∧
    ∀ c : Checker, c.policy = p → ∀ raw,
      (c.checkOne net call raw).1.world.now ≤ c.world.now + c.resolvers.length * p.longestMillis := by
  refine ⟨timersKeep, fun domain r w => ?_, fun c hp raw => ?_⟩
  · obtain ⟨ds, hruns⟩ := runCall_runs net call (p.attempts domain r 0 false none (p.maxRetries + 1)) w
    have hcalm := hruns.calm (fun _ _ => hcall.cancelled) hcall.1
    refine ⟨fun q hq => ?_, fun e he => (hruns.now_attempts_of_no_query he :)⟩
    obtain ⟨responses, hfrom, htook⟩ := hruns.attempts_took hq hcalm
    exact ⟨responses, htook.next (World.Intervened.undisturbed _), hfrom.retried, htook.now⟩
  · subst hp
    by_cases hne : c.resolvers = []
    · rw [(Checker.calls_of_empty net call hne).1]
      exact Nat.le_add_right _ _
    · obtain ⟨ds, hruns⟩ := runCall_runs net call (c.policy.check raw) c.world
      rw [Checker.checkOne_world hne]
      exact hruns.check_le (hruns.calm (fun _ _ => hcall.cancelled) hcall.1)

/-- A checker that gives the only resolver this long to answer, and makes two more attempts. -/
def Checker.ofTimeout (timeout : Duration) : Checker :=
  .build { Config.default with timeout, maxRetries := 2, resolvers := [⟨"10.0.0.1", "block", .a⟩] } none

theorem calls_take_silence :
    let c := Checker.ofTimeout (.ofSeconds 5)
    Call.IsCalm {} ∧ c.resolvers.length * c.policy.longestMillis = 18000 ∧
      (c.checkOne (fun _ _ _ => .silence) {} "reddit.com").1.world.now ≤
        c.world.now + c.resolvers.length * c.policy.longestMillis ∧
      ∃ responses : List Response, (∀ (i : Nat) resp, responses[i]? = some resp → resp = .silence) ∧
        (runCall (fun _ _ _ => .silence) {} (c.policy.attempts "reddit.com" ⟨"10.0.0.1", "block", .a⟩ 0 false none
          (c.policy.maxRetries + 1)) c.world).1.now =
            c.world.now + attemptsMillis c.policy.prober.timeout 0 false responses := by
  intro c
  have hcall : Call.IsCalm {} := ⟨rfl, by simp⟩
  obtain ⟨-, hattempts, hchecks⟩ := calls_take c.policy (fun _ _ _ => .silence) {} hcall
  obtain ⟨responses, hnext, -, hnow⟩ :=
    (hattempts "reddit.com" ⟨"10.0.0.1", "block", .a⟩ c.world).1 _ (by rfl)
  exact ⟨hcall, by decide +kernel, hchecks c rfl "reddit.com", responses, hnext, hnow⟩

/-- With a time limit of one nanosecond, a check that brings no answer takes longer than the limits and the waits add up
to: each of the three exchanges takes a millisecond. -/
theorem calls_take_whole_millis :
    let c := Checker.ofTimeout ⟨1⟩
    c.world.now = 0 ∧ (c.checkOne (fun _ _ _ => .silence) {} "reddit.com").1.world.now = 3003 ∧
      c.resolvers.length * ((c.policy.maxRetries + 1) * c.policy.prober.timeout.nanos +
        ∑ i ∈ range c.policy.maxRetries, (backoff (i + 1)).nanos) < 3003 * 1000000 := by
  intro c
  have hrun : c.checkOne (fun _ _ _ => .silence) {} "reddit.com" = _ :=
    Checker.checkOne_eq_of_steps (x := .ok (.failed "reddit.com" .allResolversFailed)) (by decide) []
      (by simp [Call.agendaFrom]) 5 rfl (by decide +kernel) (by decide +kernel)
  rw [hrun]
  exact ⟨rfl, by decide +kernel, by decide +kernel⟩

end FilterWatch
