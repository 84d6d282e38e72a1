import FilterWatch.Proofs.Cancellation
import FilterWatch.Proofs.Deadlines
import FilterWatch.Proofs.Dispatch

/-!
# Batches of errands

An errand is a job that asks one server once. Errands are started in their order, so whatever turns a batch of them
takes, the queries that it has sent are those of its first errands, one of each (`Batch.Schedule.underway`). How many
exchanges about a name a server has seen before the query of an errand depends on the errands in front of it alone, and
so does what the errand ends with, however the exchanges overlap. It is only a cancellation that makes a difference.
-/

namespace FilterWatch

/-! ### What is written down about queries -/

/-- The query that was sent, and the server. -/
def Happening.sent? : Happening → Option (String × Dns.Query)
  | exchange server q => some (server, q)
  | _ => none

def isAbout (server : String) (name : Dns.Name) (x : String × Dns.Query) : Bool :=
  x.1 == server && x.2.name.ascii == name.ascii

namespace World
variable {w w' : World} {server : String} {name : Dns.Name} {q : Dns.Query}

def sent (w : World) : List (String × Dns.Query) := w.journal.reverse.filterMap (·.what.sent?)

/-- What errands could change: the queries that were sent, and the cache. -/
def ledger (w : World) : List (String × Dns.Query) × Cache := (w.sent, w.cache)

theorem exchangesWith_eq (w : World) : w.exchangesWith server name = w.sent.countP (isAbout server name) := by
  rw [sent, List.countP_filterMap, List.countP_reverse, exchangesWith]
  refine List.countP_congr fun e _ => ?_
  cases e.what <;> rfl

theorem ledger_sending : (w.sending server q).ledger = (w.sent ++ [(server, q)], w.cache) := by
  simp [ledger, sent, sending, note, probeStarted, Happening.sent?]

theorem ledger_endExchange {started : Nat} {a : Arrival} :
    (w.endExchange server q started a).1.ledger = w.ledger := by
  cases a with
  | message => simp [ledger, sent, endExchange, note, Happening.sent?]
  | failed | timedOut | crashed => rfl

theorem ledger_apply (i : Intervention) :
    (i.apply w).ledger = (w.sent, if i = .flush then w.cache.flush else w.cache) := by
  cases i with
  | flush => simp [ledger, sent, Intervention.apply, flush, note, Happening.sent?]
  | cancel | upsert | delete | elapse => rfl

end World

/-! ### One errand -/

/-- What an exchange comes to that lasts so many milliseconds. -/
def Arrival.reply (elapsed : Nat) : Arrival → Except Fault Reply
  | message m => .ok (.message m elapsed)
  | failed e => .ok (.failed e)
  | timedOut => .ok .timedOut
  | crashed f => .error f

/-- What an exchange with a time limit comes to if nobody breaks it off. -/
def Response.reply (limit : Limit) (resp : Response) : Except Fault Reply :=
  (resp.arrival limit).2.reply (resp.arrival limit).1

theorem World.snd_endExchange {w : World} {server : String} {q : Dns.Query} {started : Nat} (a : Arrival) :
    (w.endExchange server q started a).2 = a.reply (w.now - started) := by
  cases a <;> rfl

/-- One query to one server, and what is made of the reply. -/
structure Errand (α : Type) where
  limit : Limit
  server : String
  query : Dns.Query
  value : Reply → α

namespace Errand
variable {α : Type} {net : Network} {e : Errand α} {n : Nat} {cancelled sent : Bool} {w w' : World} {s s' : Slot α}

def job (e : Errand α) : Job α := .ofExchange e.limit e.server e.query e.value

def target (e : Errand α) : String × Dns.Query := (e.server, e.query)

/-- How many exchanges about the name of the errand its server has seen since the surroundings `w`, and before, when
the queries of other errands have been sent. -/
def number (w : World) (others : List (Errand α)) (e : Errand α) : Nat :=
  w.exchangesWith e.server e.query.name + (others.map target).countP (isAbout e.server e.query.name)

/-- What the exchange of the errand comes to as the `n`-th one of its server if nobody breaks it off. -/
def reply (net : Network) (n : Nat) (e : Errand α) : Except Fault Reply := (net e.server e.query n).reply e.limit

/-- What may be in the slot of an errand whose query is the `n`-th one of its server, before it was sent and after. -/
inductive Stands (net : Network) (e : Errand α) (n : Nat) (cancelled : Bool) : Bool → Slot α → Prop
  | queued : Stands net e n cancelled false (.queued e.job)
  | skipped (hx : cancelled = true) : Stands net e n cancelled false .skipped
  | waiting {started wait arrival} (ha : (net e.server e.query n).arrival e.limit = (wait, arrival)) :
    Stands net e n cancelled true
      (.exchanging (started + wait) e.server e.query started arrival fun reply => .done (e.value reply))
  | replied : Stands net e n cancelled true (.ended ((e.reply net n).map e.value))
  | brokenOff (hx : cancelled = true) : Stands net e n cancelled true (.ended (.ok (e.value .cancelled)))

theorem Stands.mono {cancelled' : Bool} (h : e.Stands net n cancelled sent s)
    (hx : cancelled = true → cancelled' = true) : e.Stands net n cancelled' sent s := by
  cases h with
  | queued => exact .queued
  | skipped h => exact .skipped (hx h)
  | waiting ha => exact .waiting ha
  | replied => exact .replied
  | brokenOff h => exact .brokenOff (hx h)

theorem Stands.sent_of_calm (h : e.Stands net n cancelled sent s) (hcalm : cancelled = false)
    (hs : s.isQueued = false) : sent = true := by
  cases h with
  | queued => cases hs
  | skipped hx => exact absurd (hcalm.symm.trans hx) Bool.false_ne_true
  | waiting | replied | brokenOff => rfl

theorem reply_of_arrival {wait : Nat} {a : Arrival} (ha : (net e.server e.query n).arrival e.limit = (wait, a)) :
    e.reply net n = a.reply wait := by
  rw [reply, Response.reply, ha]

theorem stands_start (hcalm : w.cancelled = false) (hn : w.exchangesWith e.server e.query.name = n) :
    e.Stands net n cancelled true (Slot.advance net e.job w).2 ∧
      (Slot.advance net e.job w).1.ledger = (w.sent ++ [e.target], w.cache) := by
  have hw : { w with cancelled := false } = w := by rw [← hcalm]
  subst hn
  rcases ha : (net e.server e.query (w.exchangesWith e.server e.query.name)).arrival e.limit with ⟨wait, a⟩
  by_cases hwait : wait = 0
  · have hadvance := Slot.advance_ofExchange_zero (f := e.value) ha hwait
    rw [hw] at hadvance
    have hreply : ((w.sending e.server e.query).endExchange e.server e.query w.now a).2 =
        e.reply net (w.exchangesWith e.server e.query.name) := by
      rw [World.snd_endExchange, reply_of_arrival ha, hwait]
      exact congrArg a.reply (Nat.sub_self _)
    rw [job, hadvance, hreply, World.ledger_endExchange, World.ledger_sending]
    exact ⟨.replied, rfl⟩
  · have hadvance := Slot.advance_ofExchange (f := e.value) ha hwait
    rw [hw] at hadvance
    rw [job, hadvance, World.ledger_sending]
    exact ⟨.waiting ha, rfl⟩

/-- A wait that ends in time ends with the reply. -/
theorem Stands.wake {due : Nat} (h : e.Stands net n cancelled sent s) (hdue : s.due? = some due) (hnow : w.now ≤ due) :
    e.Stands net n cancelled sent (s.wake net (w.atTime due)).2 ∧
      (s.wake net (w.atTime due)).1.ledger = w.ledger := by
  cases h with
  | @waiting started wait a ha =>
    obtain rfl : started + wait = due := Option.some.inj hdue
    have helapsed : (w.atTime (started + wait)).now - started = wait := by
      rw [World.atTime, Nat.max_eq_right hnow, Nat.add_sub_cancel_left]
    rw [Slot.wake_ofExchange, World.snd_endExchange, helapsed, ← reply_of_arrival ha, World.ledger_endExchange]
    exact ⟨.replied, rfl⟩
  | queued | skipped | replied | brokenOff => cases hdue

theorem Stands.abort (h : e.Stands net n cancelled sent s) (hs : s.isCancellable) (hx : cancelled = true) :
    e.Stands net n cancelled sent (s.abort net w).2 ∧ (s.abort net w).1.ledger = w.ledger := by
  cases h with
  | waiting => exact ⟨.brokenOff hx, rfl⟩
  | queued | skipped | replied | brokenOff => cases hs

end Errand

/-! ### Batches of errands -/

def Turn.isStart : Turn → Bool
  | start _ => true
  | _ => false

def Turn.isFlush : Turn → Bool
  | outside e => e.what = .flush
  | _ => false

namespace Errand
variable {α : Type} {net : Network} {e : Errand α} {n : Nat} {sent : Bool} {w w' : World} {s s' : Slot α}

/-- What a turn of an errand does: it sends the query if it starts the errand, and nothing else. -/
theorem Stands.turns {i : Nat} {t : Turn} (h : e.Stands net n w.cancelled sent s) (ht : s.Turns net i t w w' s')
    (hpunctual : ∀ due ∈ s.due?, w.now ≤ due) (hn : t.isStart → w.exchangesWith e.server e.query.name = n) :
    e.Stands net n w.cancelled (t.isStart || sent) s' ∧
      w'.ledger = (w.sent ++ (if t.isStart then [e.target] else []), w.cache) := by
  have hsame : w.ledger = (w.sent ++ [], w.cache) := by rw [List.append_nil]; rfl
  cases ht with
  | start hcalm =>
    cases h
    exact stands_start hcalm (hn rfl)
  | wake hdue =>
    obtain ⟨hstands, hledger⟩ := h.wake hdue (hpunctual _ hdue)
    exact ⟨hstands, hledger.trans hsame⟩
  | abort hs hx =>
    obtain ⟨hstands, hledger⟩ := h.abort hs hx
    exact ⟨hstands, hledger.trans hsame⟩
  | skip hx =>
    cases h
    exact ⟨.skipped hx, hsame⟩

end Errand

namespace Batch
variable {α : Type} {net : Network} {limit : Nat} {es : List (Errand α)} {w₀ : World} {agenda : List AgendaEntry}
  {b c : Batch α} {t : Turn} {ts : List Turn}

theorem Schedule.mem_agenda (h : b.Schedule net limit ts c) {e : AgendaEntry} (he : .outside e ∈ ts) :
    e ∈ b.agenda := by
  induction h with
  | nil => cases he
  | snoc h hmove ih =>
    rcases List.mem_append.mp he with he | he
    · exact ih he
    · obtain rfl := List.mem_singleton.mp he
      cases hmove with
      | outside => exact h.agenda_suffix.subset (.head _)

/-- Where a batch of errands stands after some turns. The errands that were started are the first ones. -/
structure Underway (net : Network) (es : List (Errand α)) (w₀ : World) (ts : List Turn) (b : Batch α) : Prop where
  length : b.slots.length = es.length
  stands : ∀ (i : Nat) (s : Slot α), b.slots[i]? = some s → ∃ e, es[i]? = some e ∧
    e.Stands net (e.number w₀ (es.take i)) b.world.cancelled (decide (i < ts.countP (·.isStart))) s
  ledger : b.world.ledger = (w₀.sent ++ (es.take (ts.countP (·.isStart))).map Errand.target,
    Cache.flush^[ts.countP (·.isFlush)] w₀.cache)

theorem underway_queue : (Batch.queue Errand.job es w₀ agenda).Underway net es w₀ [] where
  length := List.length_map _
  stands i s hs := by
    rw [queue, List.getElem?_map, Option.map_eq_some_iff] at hs
    obtain ⟨e, he, rfl⟩ := hs
    exact ⟨e, he, .queued⟩
  ledger := by simp [World.ledger, queue]

theorem Underway.exchangesWith (h : b.Underway net es w₀ ts) (e : Errand α) :
    b.world.exchangesWith e.server e.query.name = e.number w₀ (es.take (ts.countP (·.isStart))) := by
  have hsent : b.world.sent = w₀.sent ++ (es.take (ts.countP (·.isStart))).map Errand.target :=
    congrArg Prod.fst h.ledger
  rw [World.exchangesWith_eq, hsent, List.countP_append, ← World.exchangesWith_eq, Errand.number]

/-- The errand that is started is the first one that was not. -/
theorem Underway.eq_of_start {i : Nat} (h : b.Underway net es w₀ ts) (hmove : b.Move net limit (.start i) c) :
    ts.countP (·.isStart) = i := by
  generalize hk : ts.countP (·.isStart) = k at h
  cases hmove with
  | @start w pre job post agenda hcalm hroom hfirst =>
    refine Nat.le_antisymm (Nat.le_of_not_lt fun hlt => ?_) (Nat.le_of_not_lt fun hlt => ?_)
    · -- a started one does not wait in the queue
      obtain ⟨e, -, hstands⟩ := h.stands pre.length (.queued job) (by simp)
      rw [hk, decide_eq_true hlt] at hstands
      cases hstands
    · -- all in front of it were started
      obtain ⟨e, -, hstands⟩ := h.stands k pre[k] (by rw [List.getElem?_append_left hlt, List.getElem?_eq_getElem])
      have hsent := hstands.sent_of_calm hcalm (hfirst _ (List.getElem_mem hlt))
      rw [hk, decide_eq_true_iff] at hsent
      exact absurd hsent (Nat.lt_irrefl k)

theorem Underway.outside {e : AgendaEntry} (h : b.Underway net es w₀ ts) (hmove : b.Move net limit (.outside e) c) :
    c.Underway net es w₀ (ts ++ [.outside e]) := by
  have hstart : (ts ++ [Turn.outside e]).countP (·.isStart) = ts.countP (·.isStart) := List.countP_append
  refine ⟨hmove.length_eq.trans h.length, fun i s hs => ?_, ?_⟩
  · rw [hmove.getElem?_of_ne nofun] at hs
    obtain ⟨e', he', hstands⟩ := h.stands i s hs
    exact ⟨e', he', hstart ▸ hstands.mono hmove.cancelled⟩
  · rw [hstart, List.countP_append, List.countP_singleton]
    cases hmove with
    | @outside w slots e rest =>
      obtain ⟨hsent, hcache⟩ : w.sent = _ ∧ w.cache = _ := Prod.mk.inj h.ledger
      rw [World.ledger_apply]
      refine Prod.ext hsent ?_
      show (if e.what = .flush then w.cache.flush else w.cache) = _
      rw [hcache]
      by_cases hflush : e.what = .flush
      · simp [Turn.isFlush, hflush, Function.iterate_succ_apply']
      · simp [Turn.isFlush, hflush]

/-- After a turn the errands that were started are those that were before, and the one that it starts. -/
theorem decide_lt_countP {i : Nat} (hfirst : t.isStart → ts.countP (·.isStart) = i) (j : Nat) :
    decide (j < (ts ++ [t]).countP (·.isStart)) =
      (t.isStart && decide (j = i) || decide (j < ts.countP (·.isStart))) := by
  rw [List.countP_append, List.countP_singleton]
  cases hstart : t.isStart with
  | false => rfl
  | true =>
    rw [hfirst hstart, if_pos rfl, Bool.true_and, ← Bool.decide_or, decide_eq_decide]
    omega

theorem Underway.move (h : b.Underway net es w₀ ts) (hb : b.IsPunctual) (hmove : b.Move net limit t c) :
    c.Underway net es w₀ (ts ++ [t]) := by
  cases ht : t.slot? with
  | none =>
    cases t with
    | outside e => exact h.outside hmove
    | start | wake | abort | skip => cases ht
  | some i =>
    obtain ⟨pre, s, s', post, rfl, hbs, hcs, hturn⟩ := hmove.replaces ht
    obtain ⟨e, he, hstands⟩ := h.stands pre.length s (by simp [hbs])
    have hfirst : t.isStart → ts.countP (·.isStart) = pre.length := by
      intro hstart
      cases t with
      | start => cases ht; exact h.eq_of_start hmove
      | wake | abort | skip | outside => cases hstart
    have hflush : (ts ++ [t]).countP (·.isFlush) = ts.countP (·.isFlush) := by
      cases t with
      | start | wake | abort | skip => simp [Turn.isFlush]
      | outside => cases ht
    obtain ⟨hafter, hledger⟩ := hstands.turns hturn (hb s (by simp [hbs])) fun hstart => by
      rw [h.exchangesWith, hfirst hstart]
    obtain ⟨hsent, hcache⟩ := Prod.mk.inj h.ledger
    refine ⟨hmove.length_eq.trans h.length, fun j x hx => ?_, ?_⟩
    · rw [decide_lt_countP hfirst]
      by_cases hj : j = pre.length
      · obtain rfl : s' = x := by simpa [hcs, hj] using hx
        rw [hj, decide_eq_true rfl, Bool.and_true]
        exact ⟨e, he, hafter.mono hmove.cancelled⟩
      · rw [hmove.getElem?_of_ne (by simpa [ht] using Ne.symm hj)] at hx
        obtain ⟨e', he', hother⟩ := h.stands j x hx
        rw [decide_eq_false hj, Bool.and_false, Bool.false_or]
        exact ⟨e', he', hother.mono hmove.cancelled⟩
    · rw [hledger, hflush, hsent, hcache, List.countP_append, List.countP_singleton]
      refine Prod.ext ?_ rfl
      cases hstart : t.isStart with
      | false => simp
      | true => simp [hfirst hstart, List.take_add_one, he]

theorem Schedule.underway (h : (Batch.queue Errand.job es w₀ agenda).Schedule net limit ts b) :
    b.Underway net es w₀ ts := by
  induction h with
  | nil => exact underway_queue
  | snoc hschedule hmove ih => exact ih.move (hschedule.isPunctual (isPunctual_queue _ _ _ _)) hmove

/-- What an errand leaves behind: the reply to its query, unless the caller has cancelled. -/
theorem Finishes.errand (h : (Batch.queue Errand.job es w₀ agenda).Finishes net limit ts b) {i : Nat} {s : Slot α}
    (hs : b.slots[i]? = some s) : ∃ e, es[i]? = some e ∧
      (s = .ended ((e.reply net (e.number w₀ (es.take i))).map e.value) ∨
        b.world.cancelled = true ∧ (s = .skipped ∨ s = .ended (.ok (e.value .cancelled)))) := by
  obtain ⟨e, he, hstands⟩ := h.schedule.underway.stands i s hs
  have hclosed := h.done s (List.mem_of_getElem? hs)
  refine ⟨e, he, ?_⟩
  generalize decide (i < ts.countP (·.isStart)) = sent at hstands
  cases hstands with
  | queued | waiting => cases hclosed
  | skipped hx => exact .inr ⟨hx, .inl rfl⟩
  | replied => exact .inl rfl
  | brokenOff hx => exact .inr ⟨hx, .inr rfl⟩

theorem Finishes.length_le (h : (Batch.queue Errand.job es w₀ agenda).Finishes net limit ts b)
    (hcalm : b.world.cancelled = false) : es.length ≤ ts.countP (·.isStart) := by
  refine Nat.le_of_not_lt fun hlt => ?_
  have hunderway := h.schedule.underway
  have hs := List.getElem?_eq_getElem (hunderway.length ▸ hlt)
  obtain ⟨e, -, hstands⟩ := hunderway.stands _ _ hs
  have hopen := h.done _ (List.mem_of_getElem? hs)
  have hsent := hstands.sent_of_calm hcalm (Bool.or_eq_false_iff.mp hopen).1
  exact absurd (of_decide_eq_true hsent) (Nat.lt_irrefl _)

end Batch
end FilterWatch
