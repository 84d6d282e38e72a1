import FilterWatch.Proofs.Audit
import FilterWatch.Proofs.Errands
import FilterWatch.Proofs.Questions

/-!
# Health reports

A probe for health is an errand: whatever the record type of its resolver, it asks the server once for the addresses of
`google.com.`. So a report has one outcome for each resolver, in the order of the list, and each of them says what the
exchange of its own resolver came to, whatever becomes of the others (`Checker.health_surveyed`).
-/

namespace FilterWatch

/-! ### One outcome -/

/-- What is wrong with a server whose exchange came to this, if anything. -/
def healthError? (server : String) : Except Fault Reply → Option CheckError
  | .ok (.message m _) =>
    if m.rcode = Dns.Message.noError then none else some (.unexpectedResponse server m.rcode.toNat)
  | .ok (.failed e) => some (if e.kind = .timedOut then .timeout server else .transport server e)
  | .ok .timedOut => some (.timeout server)
  | .ok .cancelled => some .cancelled
  | .error f => some (.internalFault (f.text.getD "worker panicked"))

namespace Health
variable {r : Resolver} {x : Except Fault Reply}

/-- What an outcome says of a resolver whose exchange came to `x`. -/
structure Reports (r : Resolver) (x : Except Fault Reply) (h : Health) : Prop where
  resolver : h.resolver = r.address
  online : h.online ↔ ∃ m elapsed, x = .ok (.message m elapsed) ∧ m.rcode = Dns.Message.noError
  error : h.error = healthError? (withDefaultPort r.address) x
  clean : h.error = none ↔ h.online
  latency : ∀ m elapsed, h.online → x = .ok (.message m elapsed) → h.latencyMillis = elapsed
  offline : h.online = false → h.latencyMillis = 0

theorem reports_isOnline {m : Dns.Message} {elapsed : Nat} (hm : m.rcode = Dns.Message.noError) :
    (isOnline r.address elapsed).Reports r (.ok (.message m elapsed)) where
  resolver := rfl
  online := iff_of_true rfl ⟨m, elapsed, rfl, hm⟩
  error := (if_pos hm).symm
  clean := iff_of_true rfl rfl
  latency _ _ _ h := (Reply.message.inj (Except.ok.inj h)).2
  offline h := nomatch h

theorem reports_failed {e : CheckError} (hx : healthError? (withDefaultPort r.address) x = some e) :
    (failed r.address e).Reports r x where
  resolver := rfl
  online := by
    refine iff_of_false nofun ?_
    rintro ⟨m, elapsed, rfl, hm⟩
    cases (if_pos hm).symm.trans hx
  error := hx.symm
  clean := iff_of_false nofun nofun
  latency _ _ h := nomatch h
  offline _ := rfl

end Health

/-! ### One probe -/

namespace Prober
variable {p : Prober} {r : Resolver}

def healthQuery (p : Prober) : Dns.Query :=
  ⟨.ofLabels ["google".toList, "com".toList], .a, max Dns.minPayload p.payload⟩

theorem ascii_healthQuery (p : Prober) : p.healthQuery.name.ascii = "google.com." := by
  show (Dns.Name.ofLabels _).ascii = _
  decide

def healthErrand (p : Prober) (r : Resolver) : Errand Health where
  limit := p.timeout
  server := withDefaultPort r.address
  query := p.healthQuery
  value reply := healthOf r (verdict (withDefaultPort r.address) reply)

theorem health_eq (p : Prober) (r : Resolver) : p.health r = (p.healthErrand r).job := by
  have hvalid : isValidDomain healthProbeDomain := by decide
  have hq : Dns.Query.ofDomain healthProbeDomain .a p.payload = .ok p.healthQuery :=
    (Dns.Query.ofDomain_of_valid hvalid .a p.payload).trans (if_pos (by decide))
  rw [health, ask, hq]
  rfl

/-- The outcome of a probe says what its exchange came to, also when it crashed. -/
theorem reports_healthErrand (p : Prober) (r : Resolver) (x : Except Fault Reply) :
    Health.Reports r x ((Slot.ended (x.map (p.healthErrand r).value)).result (Checker.healthFallback r)) := by
  cases x with
  | error f => exact Health.reports_failed rfl
  | ok reply =>
    show Health.Reports r (.ok reply) (healthOf r (verdict (withDefaultPort r.address) reply))
    cases reply with
    | message m elapsed =>
      rw [verdict, healthOf]
      split
      · exact Health.reports_isOnline ‹_›
      · exact Health.reports_failed (if_neg ‹_›)
    | failed | timedOut | cancelled => exact Health.reports_failed rfl

end Prober

/-! ### The report of a call -/

namespace Checker
variable {c : Checker} {net : Network} {call : Call} {ts : List Turn} {b : Batch Health}

def healthTarget (c : Checker) (r : Resolver) : String × Dns.Query :=
  (withDefaultPort r.address, c.policy.prober.healthQuery)

/-- How many exchanges about the name of the query the server of the resolver at place `i` has seen before its probe:
resolvers with the same server come one after the other, and the others do not matter. -/
def healthNumber (c : Checker) (i : Nat) (r : Resolver) : Nat :=
  c.world.exchangesWith (withDefaultPort r.address) c.policy.prober.healthQuery.name +
    (c.resolvers.take i).countP fun x => withDefaultPort x.address == withDefaultPort r.address

/-- What the exchange of the resolver at place `i` comes to if nobody breaks it off. -/
def healthReply (c : Checker) (net : Network) (i : Nat) (r : Resolver) : Except Fault Reply :=
  (net (withDefaultPort r.address) c.policy.prober.healthQuery (c.healthNumber i r)).reply c.policy.prober.timeout

/-- What a batch of probes for health leaves behind. -/
structure Surveyed (c : Checker) (net : Network) (call : Call) (b : Batch Health) : Prop where
  length : (b.results healthFallback c.resolvers).length = c.resolvers.length
  /-- Each outcome says what the exchange of its resolver came to, or that the caller has cancelled. -/
  reports : ∀ (i : Nat) (r : Resolver) (h : Health), c.resolvers[i]? = some r →
    (b.results healthFallback c.resolvers)[i]? = some h →
      h.Reports r (c.healthReply net i r) ∨ b.world.cancelled = true ∧ h.Reports r (.ok .cancelled)
  sent : ∃ asked, asked <+: c.resolvers ∧ b.world.sent = c.world.sent ++ asked.map c.healthTarget ∧
    (b.world.cancelled = false → asked = c.resolvers)
  calm : call.IsCalm → b.world.cancelled = false
  cache : ∃ flushes, b.world.cache = Cache.flush^[flushes] c.world.cache ∧
    ((∀ e ∈ call.agenda, e.what ≠ .flush) → flushes = 0)
  checks : b.world.stats.checks = c.world.stats.checks
  cached : b.world.stats.cached = c.world.stats.cached
  blocked : b.world.stats.blocked = c.world.stats.blocked
  failed : b.world.stats.failed = c.world.stats.failed

theorem healthBatch_eq (c : Checker) (call : Call) : c.healthBatch call =
    .queue Errand.job (c.resolvers.map c.policy.prober.healthErrand) (call.world c.world)
      (call.agendaFrom c.world) := by
  rw [healthBatch, Batch.queue, Batch.queue, List.map_map]
  simp only [Function.comp_def, Prober.health_eq]

theorem number_healthErrand (i : Nat) (r : Resolver) :
    (c.policy.prober.healthErrand r).number (call.world c.world)
      ((c.resolvers.map c.policy.prober.healthErrand).take i) = c.healthNumber i r := by
  rw [← List.map_take, Errand.number, List.countP_map, List.countP_map, healthNumber]
  refine congrArg (_ + ·) (List.countP_congr fun x _ => ?_)
  simp [isAbout, Errand.target, Prober.healthErrand]

theorem not_isFlush_of_schedule (h : (c.healthBatch call).Schedule net c.limit ts b)
    (hcall : ∀ e ∈ call.agenda, e.what ≠ .flush) : ts.countP (·.isFlush) = 0 := by
  refine List.countP_eq_zero.mpr fun t ht => ?_
  cases t with
  | start | wake | abort | skip => nofun
  | outside e =>
    obtain ⟨e', he', hwhat⟩ := Call.what_of_mem_agendaFrom (h.mem_agenda ht)
    simpa [Turn.isFlush, ← hwhat] using hcall e' he'

theorem surveyed_of_finishes (h : (c.healthBatch call).Finishes net c.limit ts b) : c.Surveyed net call b := by
  obtain ⟨n, hcounted⟩ := (Does.health h).counted
  have herrands := healthBatch_eq c call ▸ h
  have hlength : b.slots.length = c.resolvers.length :=
    herrands.schedule.underway.length.trans (List.length_map _)
  obtain ⟨hsent, hcache⟩ := Prod.mk.inj herrands.schedule.underway.ledger
  constructor
  case length => rw [Batch.results, List.length_zipWith, hlength, Nat.min_self]
  case reports =>
    intro i r o hr ho
    obtain ⟨hi, -⟩ := List.getElem?_eq_some_iff.mp hr
    have hs := List.getElem?_eq_getElem (hlength ▸ hi)
    rw [Batch.getElem?_results hr hs] at ho
    obtain ⟨e, he, hleft⟩ := herrands.errand hs
    rw [List.getElem?_map, hr] at he
    cases he
    cases ho
    rw [number_healthErrand] at hleft
    rcases hleft with hreplied | ⟨hx, hskipped | hbroken⟩
    · rw [hreplied]
      exact .inl (Prober.reports_healthErrand _ r _)
    · rw [hskipped]
      exact .inr ⟨hx, Health.reports_failed rfl⟩
    · rw [hbroken]
      exact .inr ⟨hx, Prober.reports_healthErrand _ r (.ok .cancelled)⟩
  case sent =>
    refine ⟨c.resolvers.take (ts.countP (·.isStart)), List.take_prefix _ _, ?_, fun hcalm => ?_⟩
    · rw [← List.map_take, List.map_map] at hsent
      exact hsent
    · exact List.take_of_length_le (List.length_map _ ▸ herrands.length_le hcalm)
  case calm => exact fun hcall => (h.schedule.preserves Batch.Move.isCalm (Batch.isCalm_queue hcall)).world
  case cache => exact ⟨_, hcache, not_isFlush_of_schedule h.schedule⟩
  case checks => exact hcounted.checks.trans (World.eq_add_zero _).symm
  case cached => exact hcounted.cached.trans (World.eq_add_zero _).symm
  case blocked => exact hcounted.blocked.trans (World.eq_add_zero _).symm
  case failed => exact hcounted.failed.trans (World.eq_add_zero _).symm

/-- A call that probes the resolvers takes one of the schedules of its batch to its end. In all of these schedules each
resolver is asked once at most, for the addresses of `google.com.`, and has the outcome that its own exchange comes
to. -/
theorem health_surveyed (c : Checker) (net : Network) (call : Call) (hne : c.resolvers ≠ []) :
    (∃ ts b, (c.healthBatch call).Finishes net c.limit ts b ∧
      c.health net call = ({ c with world := b.world }, .ok (b.results healthFallback c.resolvers))) ∧
    (c.policy.prober.healthQuery.name.ascii = "google.com." ∧ c.policy.prober.healthQuery.type = .a) ∧
    ∀ ts b, (c.healthBatch call).Finishes net c.limit ts b → c.Surveyed net call b :=
  ⟨health_finishes net call hne, ⟨c.policy.prober.ascii_healthQuery, rfl⟩, fun _ _ h => surveyed_of_finishes h⟩

end Checker

/-- One server answers the first query about a name and refuses the others, one crashes the exchange, and all others
have an extended code for an answer. -/
def Network.unwell : Network := fun server q n =>
  if server = "10.0.0.1:53" then
    if n = 0 then .after 7 (.message (.answering q.question)) else .after 3 (.failed (.ofKind .connectionRefused))
  else if server = "10.0.0.2:5353" then .after 2 (.crashed ⟨some "boom"⟩)
  else .after 5 (.message { Dns.Message.answering q.question with rcode := 16 })

theorem Checker.health_surveyed_unwell :
    let c := Checker.build { Config.default with
      concurrency := 2
      resolvers := [⟨"10.0.0.1", "block", .a⟩, ⟨"10.0.0.1", "", .txt⟩, ⟨"10.0.0.2:5353", "", .a⟩,
        ⟨"10.0.0.3", "", .a⟩] } none
    ∃ w hs, c.health Network.unwell {} = ({ c with world := w }, .ok hs) ∧
      hs.map (·.error) = [none, some (.transport "10.0.0.1:53" (.ofKind .connectionRefused)),
        some (.internalFault "boom"), some (.unexpectedResponse "10.0.0.3:53" 16)] ∧
      w.sent.map Prod.fst = ["10.0.0.1:53", "10.0.0.1:53", "10.0.0.2:5353", "10.0.0.3:53"] := by
  intro c
  obtain ⟨⟨ts, b, hfin, heq⟩, -, hall⟩ := health_surveyed c Network.unwell {} (by decide)
  have hsurveyed := hall ts b hfin
  have hcalm := hsurveyed.calm ⟨rfl, by simp⟩
  have herror : ∀ (i : Nat) (r : Resolver) (h : Health), c.resolvers[i]? = some r →
      (b.results healthFallback c.resolvers)[i]? = some h →
        h.error = healthError? (withDefaultPort r.address) (c.healthReply .unwell i r) := fun i r h hr hh =>
    ((hsurveyed.reports i r h hr hh).resolve_right fun hx => Bool.false_ne_true (hcalm.symm.trans hx.1)).error
  obtain ⟨asked, -, hsent, hasked⟩ := hsurveyed.sent
  have hlength : (b.results healthFallback c.resolvers).length = 4 := hsurveyed.length
  refine ⟨b.world, _, heq, ?_, ?_⟩
  · match b.results healthFallback c.resolvers, hlength, herror with
    | [h₀, h₁, h₂, h₃], _, herror =>
      show [h₀.error, h₁.error, h₂.error, h₃.error] = _
      rw [herror 0 _ h₀ rfl rfl, herror 1 _ h₁ rfl rfl, herror 2 _ h₂ rfl rfl, herror 3 _ h₃ rfl rfl]
      decide
  · rw [hsent, hasked hcalm]
    decide

end FilterWatch
