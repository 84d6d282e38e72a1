import FilterWatch.Proofs.Timing

/-!
# How one probe ends

A probe waits for three things at once: what the server sends, the time limit, and the cancellation of its token. The
first of them decides (`Prober.probe_classified`), and what comes back at the limit is in time. However the probe ends,
its place among the probes in flight is given back, and it is counted if it brings an answer.
-/

namespace FilterWatch

/-- The call whose token is cancelled so many milliseconds after its start, after none of them before it, or never. -/
def Call.cancelledAfter : Option Nat → Call
  | none => {}
  | some 0 => { cancelled := true }
  | some (millis + 1) => { agenda := [⟨millis + 1, .cancel⟩] }

/-- The milliseconds after which something comes back. -/
def Response.delay? : Response → Option Nat
  | after delay _ => some delay
  | silence => none

theorem Limit.of_ofMillis {timer : Duration → Nat} {millis : Nat} (h : timer (.ofMillis millis) = millis) :
    Limit.of timer (.ofMillis millis) = .ofMillis millis := by
  simp [Limit.of, Limit.ofMillis, h, Duration.ceilMillis_ofMillis]

/-! ### An exchange by itself -/

def Job.ofExchange {α : Type} (limit : Limit) (server : String) (q : Dns.Query) (f : Reply → α) : Job α :=
  .exchange limit server q fun reply => .done (f reply)

def World.sending (w : World) (server : String) (q : Dns.Query) : World :=
  { w with cancelled := false }.probeStarted.note (.exchange server q)

theorem World.exchangesWith_sending (w : World) (server : String) (q : Dns.Query) :
    (w.sending server q).exchangesWith server q.name = w.exchangesWith server q.name + 1 :=
  exchangesWith_sent (w := { w with cancelled := false })

section
variable {α : Type} {net : Network} {limit : Limit} {server : String} {q : Dns.Query} {f : Reply → α} {w : World}
  {c : Option Nat} {wait : Nat} {arrival : Arrival}

theorem runAlone_of_ended {agenda : List AgendaEntry} {job : Job α} {w' : World} {x : Except Fault α}
    (h : Slot.advance net job w = (w', .ended x)) : runAlone net agenda job w = (w', x) := by
  simp only [runAlone, h]
  rw [Batch.run_of_step_none (Batch.step_of_ended rfl rfl)]

namespace Slot

theorem wake_ofExchange (due started : Nat) :
    (exchanging due server q started arrival fun reply => .done (f reply)).wake net w =
      ((w.endExchange server q started arrival).1, .ended ((w.endExchange server q started arrival).2.map f)) := by
  rw [wake]
  rcases w.endExchange server q started arrival with ⟨w', _ | reply⟩ <;> rfl

variable (ha : (net server q (w.exchangesWith server q.name)).arrival limit = (wait, arrival))
include ha

theorem advance_ofExchange_zero (hw : wait = 0) :
    advance net (.ofExchange limit server q f) { w with cancelled := false } =
      (((w.sending server q).endExchange server q w.now arrival).1,
        .ended (((w.sending server q).endExchange server q w.now arrival).2.map f)) := by
  have hcount : ({ w with cancelled := false } : World).exchangesWith server q.name = w.exchangesWith server q.name :=
    rfl
  simp only [Job.ofExchange, advance, hcount, ha, hw, Bool.false_eq_true, if_false, if_true]
  rw [← World.sending]
  rcases (w.sending server q).endExchange server q w.now arrival with ⟨w', _ | reply⟩ <;> rfl

theorem advance_ofExchange (hw : wait ≠ 0) :
    advance net (.ofExchange limit server q f) { w with cancelled := false } =
      (w.sending server q, .exchanging (w.now + wait) server q w.now arrival fun reply => .done (f reply)) := by
  have hcount : ({ w with cancelled := false } : World).exchangesWith server q.name = w.exchangesWith server q.name :=
    rfl
  simp only [Job.ofExchange, advance, hcount, ha, hw, Bool.false_eq_true, if_false]
  rfl

end Slot

theorem runCall_cancelledBefore : runCall net (.cancelledAfter (some 0)) (.ofExchange limit server q f) w =
    ({ w with cancelled := true }.probeStarted.probeDropped, .ok (f .cancelled)) :=
  runAlone_of_ended (by simp [Job.ofExchange, Slot.advance, Call.cancelledAfter, Call.world])

section
variable (hc : c ≠ some 0)
include hc

theorem Call.world_cancelledAfter : (Call.cancelledAfter c).world w = { w with cancelled := false } := by
  match c, hc with
  | none, _ => rfl
  | some (millis + 1), _ => rfl

theorem Call.agendaFrom_cancelledAfter :
    (Call.cancelledAfter c).agendaFrom w = c.toList.map fun millis => ⟨w.now + millis, .cancel⟩ := by
  match c, hc with
  | none, _ => simp [cancelledAfter, agendaFrom]
  | some (millis + 1), _ => simp [cancelledAfter, agendaFrom]

variable (ha : (net server q (w.exchangesWith server q.name)).arrival limit = (wait, arrival))
include ha

/-- An exchange that the caller does not break off ends with what the server and the limit make of it. -/
theorem runCall_of_arrival (hlate : ∀ millis ∈ c, wait < millis) :
    runCall net (.cancelledAfter c) (.ofExchange limit server q f) w =
      ((((w.sending server q).atTime (w.now + wait)).endExchange server q w.now arrival).1,
        (((w.sending server q).atTime (w.now + wait)).endExchange server q w.now arrival).2.map f) := by
  rw [runCall, Call.world_cancelledAfter hc, Call.agendaFrom_cancelledAfter hc]
  by_cases hw : wait = 0
  · have hnow : (w.sending server q).atTime (w.now + wait) = w.sending server q := by
      rw [hw]
      exact World.atTime_now _
    rw [hnow]
    exact runAlone_of_ended (Slot.advance_ofExchange_zero ha hw)
  · have hagenda : ∀ e ∈ c.toList.map fun millis => (⟨w.now + millis, .cancel⟩ : AgendaEntry),
        w.now + wait < e.time := by
      simp only [List.mem_map, Option.mem_toList]
      rintro _ ⟨millis, hmem, rfl⟩
      exact Nat.add_lt_add_left (hlate millis hmem) _
    have hstep : Batch.step net 1 ⟨w.sending server q,
        [.exchanging (w.now + wait) server q w.now arrival fun reply => .done (f reply)], _⟩ = _ :=
      Batch.step_of_late rfl (fun hx => Bool.false_ne_true hx.1) rfl hagenda
    rw [Slot.wake_ofExchange] at hstep
    simp only [runAlone, Slot.advance_ofExchange ha hw]
    rw [Batch.run_of_step hstep, Batch.run_of_step_none (Batch.step_of_ended rfl rfl)]

theorem runCall_cancelledDuring {millis : Nat} (hmem : millis ∈ c) (hlt : millis < wait) :
    runCall net (.cancelledAfter c) (.ofExchange limit server q f) w =
      ({ (w.sending server q).atTime (w.now + millis) with cancelled := true }.probeDropped, .ok (f .cancelled)) := by
  rw [runCall, Call.world_cancelledAfter hc, Call.agendaFrom_cancelledAfter hc, Option.mem_def.mp hmem]
  have hearly : Batch.step net 1 ⟨w.sending server q,
      [.exchanging (w.now + wait) server q w.now arrival fun reply => .done (f reply)],
      [⟨w.now + millis, .cancel⟩]⟩ = _ :=
    Batch.step_of_early rfl (fun hx => Bool.false_ne_true hx.1) rfl (Nat.add_le_add_left hlt.le _)
  simp only [runAlone, Slot.advance_ofExchange ha (Nat.ne_of_gt (Nat.zero_lt_of_lt hlt)), Option.toList_some,
    List.map_singleton]
  rw [Batch.run_of_step hearly, Batch.run_of_step (Batch.step_of_cancelled ⟨rfl, rfl⟩),
    Batch.run_of_step_none (Batch.step_of_ended rfl rfl)]
  rfl

end
end

/-! ### What becomes of a probe -/

/-- Whether the caller cancels before something comes back and before the timer of the limit goes off. -/
def Response.BrokenOff (limit : Limit) (c : Option Nat) (resp : Response) : Prop :=
  c = some 0 ∨ ∃ millis ∈ c, millis < limit.due ∧ ∀ delay ∈ resp.delay?, millis < delay

def Arrival.probed (server : String) : Arrival → Except Fault (Except CheckError Dns.Message)
  | message m => .ok (.ok m)
  | failed e => .ok (.error (if e.kind = .timedOut then .timeout server else .transport server e))
  | timedOut => .ok (.error (.timeout server))
  | crashed f => .error f

/-- The counters after a probe that was begun in surroundings `w`. -/
structure Prober.Accounted (w : World) (run : World × Except Fault (Except CheckError Dns.Message)) : Prop where
  inFlight : run.1.stats.inFlight = w.stats.inFlight
  answered : ∀ m, run.2 = .ok (.ok m) → run.1.stats.probes = w.stats.probes + 1
  unanswered : (∀ m, run.2 ≠ .ok (.ok m)) → run.1.stats.probes = w.stats.probes

/-- How a probe ends that was begun in surroundings `w`, by what the server does, the limit and the cancellation. -/
structure Prober.Classified (server : String) (q : Dns.Query) (limit : Limit) (c : Option Nat) (resp : Response)
    (w : World) (run : World × Except Fault (Except CheckError Dns.Message)) : Prop where
  cancelled : resp.BrokenOff limit c → run.2 = .ok (.error .cancelled)
  inTime : ¬ resp.BrokenOff limit c → ∀ delay what, resp = .after delay what → delay ≤ limit.most →
    run.2 = what.probed server
  late : ¬ resp.BrokenOff limit c → (∀ delay ∈ resp.delay?, limit.most < delay) → run.2 = .ok (.error (.timeout server))
  withheld : c = some 0 → run.1.journal = w.journal
  sent : c ≠ some 0 → run.1.exchangesWith server q.name = w.exchangesWith server q.name + 1
  accounted : Accounted w run

namespace Prober

/-- What the end of an exchange comes to. -/
def resultOf (server : String) (x : Except Fault Reply) : Except Fault (Except CheckError Dns.Message) :=
  x.map fun reply => (verdict server reply).map (·.1)

theorem probe_eq_ofExchange {p : Prober} {domain : String} {r : Resolver} {q : Dns.Query} {timer : Duration → Nat}
    (hq : Dns.Query.ofDomain domain r.recordType p.payload = .ok q) :
    p.probe domain r timer = .ofExchange (.of timer p.timeout) (withDefaultPort r.address) q fun reply =>
      (verdict (withDefaultPort r.address) reply).map (·.1) := by
  unfold probe ask
  rw [hq]
  rfl

variable {w w₁ : World} {server : String} {q : Dns.Query} {started : Nat}

theorem resultOf_endExchange (w : World) (server : String) (q : Dns.Query) (started : Nat) (a : Arrival) :
    resultOf server (w.endExchange server q started a).2 = a.probed server := by
  cases a with
  | failed e =>
    show Except.ok (Except.error (CheckError.ofIo server e)) = _
    rw [CheckError.ofIo, Arrival.probed]
  | message | timedOut | crashed => rfl

theorem Accounted.of_endExchange (hw₁ : w₁.stats = w.stats.probeStarted) (a : Arrival) :
    Accounted w ((w₁.endExchange server q started a).1, a.probed server) := by
  have hin : w.stats.probeStarted.inFlight - 1 = w.stats.inFlight := by
    simp [Stats.probeStarted, Stats.enter, Stats.raisePeak]
  cases a with
  | message m =>
    refine ⟨?_, fun _ _ => ?_, fun h => absurd rfl (h m)⟩
    · show w₁.stats.inFlight - 1 = _
      rw [hw₁, hin]
    · show w₁.stats.probes + 1 = _
      rw [hw₁]
      rfl
  | failed | timedOut | crashed =>
    refine ⟨?_, fun _ h => (nomatch h), fun _ => ?_⟩
    · show w₁.stats.inFlight - 1 = _
      rw [hw₁, hin]
    · show w₁.stats.probes = _
      rw [hw₁]
      rfl

theorem Accounted.of_dropped (hw₁ : w₁.stats = w.stats.probeStarted) :
    Accounted w (w₁.probeDropped, .ok (.error .cancelled)) := by
  refine ⟨?_, fun _ h => (nomatch h), fun _ => ?_⟩
  · show w₁.stats.inFlight - 1 = _
    rw [hw₁]
    simp [Stats.probeStarted, Stats.enter, Stats.raisePeak]
  · show w₁.stats.probes = _
    rw [hw₁]
    rfl

end Prober

namespace Response
variable {limit : Limit} {resp : Response}

theorem arrival_of_le {delay : Nat} {what : Arrival} (h : delay ≤ limit.most) :
    (after delay what).arrival limit = (min delay limit.due, what) := if_pos h

theorem arrival_of_lt (h : ∀ delay ∈ resp.delay?, limit.most < delay) :
    resp.arrival limit = (limit.due, .timedOut) := by
  cases resp with
  | silence => rfl
  | after delay what => exact if_neg (Nat.not_le.mpr (h delay rfl))

/-- An exchange ends with the limit or with what comes back, whichever is first. -/
theorem lt_arrival_iff {millis : Nat} : millis < (resp.arrival limit).1 ↔
    millis < limit.due ∧ ∀ delay ∈ resp.delay?, millis < delay := by
  cases resp with
  | silence => simp [arrival, delay?]
  | after delay what =>
    rw [fst_arrival_after, Nat.lt_min, and_comm]
    simp [delay?]

theorem arrival_eq_or (resp : Response) (limit : Limit) :
    (resp.arrival limit).1 = limit.due ∨ (resp.arrival limit).1 ∈ resp.delay? := by
  cases resp with
  | silence => exact .inl rfl
  | after delay what =>
    rw [fst_arrival_after]
    rcases Nat.le_total delay limit.due with h | h
    · exact .inr (congrArg some (Nat.min_eq_left h).symm)
    · exact .inl (Nat.min_eq_right h)

end Response

namespace Prober
variable {w w₁ : World} {server : String} {q : Dns.Query} {started wait : Nat} {limit : Limit} {c : Option Nat}
  {resp : Response} {arrival : Arrival}

theorem Classified.of_withheld (hw₁ : w₁.stats = w.stats.probeStarted) (hjournal : w₁.journal = w.journal) :
    Classified server q limit (some 0) resp w (w₁.probeDropped, .ok (.error .cancelled)) where
  cancelled _ := rfl
  inTime h := absurd (.inl rfl) h
  late h := absurd (.inl rfl) h
  withheld _ := hjournal
  sent h := absurd rfl h
  accounted := .of_dropped hw₁

section
variable (hzero : c ≠ some 0) (hstats : w₁.stats = w.stats.probeStarted)
  (hsent : w₁.exchangesWith server q.name = w.exchangesWith server q.name + 1)
include hzero hstats hsent

theorem Classified.of_dropped (hbroken : resp.BrokenOff limit c) :
    Classified server q limit c resp w (w₁.probeDropped, .ok (.error .cancelled)) where
  cancelled _ := rfl
  inTime h := absurd hbroken h
  late h := absurd hbroken h
  withheld h := absurd h hzero
  sent _ := hsent
  accounted := .of_dropped hstats

theorem Classified.of_endExchange (hbroken : ¬ resp.BrokenOff limit c) (ha : resp.arrival limit = (wait, arrival)) :
    Classified server q limit c resp w ((w₁.endExchange server q started arrival).1, arrival.probed server) where
  cancelled h := absurd h hbroken
  inTime _ := by
    rintro delay what rfl hle
    rw [Response.arrival_of_le hle] at ha
    cases ha
    rfl
  late _ hlate := by
    rw [Response.arrival_of_lt hlate] at ha
    cases ha
    rfl
  withheld h := absurd h hzero
  sent _ := by rw [World.exchangesWith_endExchange, hsent]
  accounted := .of_endExchange hstats arrival

end

/-- How a probe ends by the moments at which its token is cancelled, the timer of its limit goes off and something comes
back, if the cancellation falls on none of the others. -/
theorem classified (p : Prober) (timer : Duration → Nat) (net : Network) {domain : String} {r : Resolver}
    (hq : Dns.Query.ofDomain domain r.recordType p.payload = .ok q) {c : Option Nat} (w : World)
    (hresp : net (withDefaultPort r.address) q (w.exchangesWith (withDefaultPort r.address) q.name) = resp)
    (hlimit : Limit.of timer p.timeout = limit)
    (hc : ∀ m ∈ c, m ≠ 0 → m ≠ limit.due ∧ m ∉ resp.delay?) :
    Classified (withDefaultPort r.address) q limit c resp w
      (runCall net (.cancelledAfter c) (p.probe domain r timer) w) := by
  rw [probe_eq_ofExchange hq, hlimit]
  generalize withDefaultPort r.address = server at hresp ⊢
  rcases ha : resp.arrival limit with ⟨wait, arrival⟩
  have hnet : (net server q (w.exchangesWith server q.name)).arrival limit = (wait, arrival) := by rw [hresp, ha]
  by_cases hzero : c = some 0
  · subst hzero
    rw [runCall_cancelledBefore]
    exact .of_withheld rfl rfl
  · by_cases hbroken : resp.BrokenOff limit c
    · obtain ⟨m, hm, hfirst⟩ := hbroken.resolve_left hzero
      have hlt : m < wait := by
        rw [← Response.lt_arrival_iff, ha] at hfirst
        exact hfirst
      rw [runCall_cancelledDuring hzero hnet hm hlt]
      exact .of_dropped hzero rfl (World.exchangesWith_sending ..) hbroken
    · have hlate : ∀ m ∈ c, wait < m := by
        intro m hm
        have hwait : wait = (resp.arrival limit).1 := by rw [ha]
        obtain ⟨hdue, hdelay⟩ := hc m hm fun h => hzero (h ▸ hm)
        have hge : ¬ m < wait := fun h => hbroken (.inr ⟨m, hm, Response.lt_arrival_iff.mp (hwait ▸ h)⟩)
        have hne : m ≠ wait := by
          rintro rfl
          rcases Response.arrival_eq_or resp limit with h | h
          · exact hdue (hwait.trans h)
          · exact hdelay (hwait ▸ h)
        omega
      rw [runCall_of_arrival hzero hnet hlate]
      have hresult := resultOf_endExchange ((w.sending server q).atTime (w.now + wait)) server q w.now arrival
      rw [resultOf] at hresult
      rw [hresult]
      exact .of_endExchange hzero rfl (World.exchangesWith_sending ..) hbroken ha

/-- What becomes of a probe, for a limit and a cancellation in whole milliseconds, when the cancellation falls on
another moment than the limit and than what the server sends. The timer waits as long as it is set to, as those of the
clock do that can be set at all (`timerMillis_ofMillis`). -/
theorem probe_classified (timer : Duration → Nat) (millis : Nat) (htimer : timer (.ofMillis millis) = millis)
    (net : Network) (payload : UInt16) (domain : String) (r : Resolver) (q : Dns.Query)
    (hq : Dns.Query.ofDomain domain r.recordType payload = .ok q) (c : Option Nat) (w : World) :
    let server := withDefaultPort r.address
    let resp := net server q (w.exchangesWith server q.name)
    (∀ m ∈ c, m ≠ 0 → m ≠ millis ∧ m ∉ resp.delay?) →
      Classified server q (.ofMillis millis) c resp w
        (runCall net (.cancelledAfter c) (Prober.probe ⟨.ofMillis millis, payload⟩ domain r timer) w) :=
  fun hc => classified ⟨.ofMillis millis, payload⟩ timer net hq w rfl (Limit.of_ofMillis htimer) hc

end Prober

/-- The surroundings of a prober by itself. -/
def World.quiet : World := { registry := .ofList [], cache := .off }

/-- An answer that comes at the limit is in time; the cancellation a second later is too late. -/
theorem Prober.probe_classified_at_limit :
    let run := runCall (.answeringAfter 5000) (.cancelledAfter (some 6000))
      (Prober.probe ⟨.ofMillis 5000, 1232⟩ "example.com" ⟨"10.0.0.1", "block", .a⟩) .quiet
    (∃ m, run.2 = .ok (.ok m)) ∧ run.1.stats.inFlight = 0 ∧ run.1.stats.probes = 1 := by
  intro run
  obtain ⟨q, hq⟩ : ∃ q, Dns.Query.ofDomain "example.com" .a 1232 = .ok q := ⟨_, by rfl⟩
  have htimer : timerMillis (.ofMillis 5000) = 5000 := timerMillis_ofMillis (by decide)
  have h := probe_classified timerMillis 5000 htimer (.answeringAfter 5000) 1232 "example.com" ⟨"10.0.0.1", "block", .a⟩
    q hq (some 6000) .quiet (by simp [Network.answeringAfter, Response.delay?])
  have hbroken : ¬ (Network.answeringAfter 5000 "10.0.0.1:53" q 0).BrokenOff (.ofMillis 5000) (some 6000) := by
    simp [Response.BrokenOff, Limit.ofMillis]
  have hresult := h.inTime hbroken 5000 _ rfl (Nat.le_refl _)
  have haccounted : Accounted .quiet run := h.accounted
  exact ⟨⟨_, hresult⟩, haccounted.inFlight, haccounted.answered _ hresult⟩

end FilterWatch
