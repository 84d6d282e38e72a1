import FilterWatch.Proofs.Failover
import FilterWatch.Proofs.Schedule

/-!
# What jobs count

A check counts itself once, at its very end, and it is counted by how it ends: with what the cache brought, or with an
outcome of its own. `Job.Reckons` says this of a job, with what reads of the cache have brought to it so far
(`Slot.finds`). Every turn of such a job adds to the counters what there is to be counted of its result
(`Job.Reckons.turns`); a job that crashes or is skipped has counted nothing.
-/

namespace FilterWatch

/-! ### Counters -/

namespace Tally

def isCheck : Tally → Bool
  | check .. => true
  | cached => false

def isCached : Tally → Bool
  | check .. => false
  | cached => true

def isBlocked : Tally → Bool
  | check blocked _ => blocked
  | cached => false

def isFailed : Tally → Bool
  | check _ failed => failed
  | cached => false

end Tally

def Happening.isAnswer : Happening → Bool
  | answer .. => true
  | _ => false

namespace World

def answers (w : World) : Nat := w.journal.countP (·.what.isAnswer)

/-- From the first surroundings to the second ones these checks were counted and so many responses came, and the
counters know of both. -/
structure Counted (ts : List Tally) (n : Nat) (w w' : World) : Prop where
  checks : w'.stats.checks = w.stats.checks + .ofNat (ts.countP (·.isCheck))
  cached : w'.stats.cached = w.stats.cached + .ofNat (ts.countP (·.isCached))
  blocked : w'.stats.blocked = w.stats.blocked + .ofNat (ts.countP (·.isBlocked))
  failed : w'.stats.failed = w.stats.failed + .ofNat (ts.countP (·.isFailed))
  probes : w'.stats.probes = w.stats.probes + .ofNat n
  answers : w'.answers = w.answers + n

/-- The counters that a snapshot sets back to zero, but for the peak and the time. -/
def totals (w : World) : UInt64 × UInt64 × UInt64 × UInt64 × UInt64 :=
  (w.stats.checks, w.stats.cached, w.stats.blocked, w.stats.failed, w.stats.probes)

theorem eq_add_zero (x : UInt64) : x = x + .ofNat 0 := (UInt64.add_zero x).symm

namespace Counted
variable {w w₁ w' : World} {ts ts' : List Tally} {n n' : Nat}

theorem of_eq (htotals : w'.totals = w.totals) (hanswers : w'.answers = w.answers) : w.Counted [] 0 w' := by
  simp only [totals, Prod.mk.injEq] at htotals
  obtain ⟨hchecks, hcached, hblocked, hfailed, hprobes⟩ := htotals
  exact ⟨hchecks.trans (eq_add_zero _), hcached.trans (eq_add_zero _), hblocked.trans (eq_add_zero _),
    hfailed.trans (eq_add_zero _), hprobes.trans (eq_add_zero _), hanswers⟩

theorem trans (h : w.Counted ts n w₁) (h' : w₁.Counted ts' n' w') : w.Counted (ts ++ ts') (n + n') w' := by
  constructor
  · rw [h'.checks, h.checks, List.countP_append, UInt64.ofNat_add, UInt64.add_assoc]
  · rw [h'.cached, h.cached, List.countP_append, UInt64.ofNat_add, UInt64.add_assoc]
  · rw [h'.blocked, h.blocked, List.countP_append, UInt64.ofNat_add, UInt64.add_assoc]
  · rw [h'.failed, h.failed, List.countP_append, UInt64.ofNat_add, UInt64.add_assoc]
  · rw [h'.probes, h.probes, UInt64.ofNat_add, UInt64.add_assoc]
  · rw [h'.answers, h.answers, Nat.add_assoc]

theorem perm (h : w.Counted ts n w') (hts : ts.Perm ts') : w.Counted ts' n w' := by
  constructor
  · rw [← hts.countP_eq, h.checks]
  · rw [← hts.countP_eq, h.cached]
  · rw [← hts.countP_eq, h.blocked]
  · rw [← hts.countP_eq, h.failed]
  · exact h.probes
  · exact h.answers

end Counted

theorem answers_note (w : World) {what : Happening} (h : what.isAnswer = false) : (w.note what).answers = w.answers :=
  List.countP_cons_of_neg (by simp [h])

theorem counted_lookup (w : World) (key : String) : w.Counted [] 0 (w.lookup key).1 := .of_eq rfl (answers_note _ rfl)

theorem counted_store (w : World) (key : String) (o : Outcome) : w.Counted [] 0 (w.store key o).1 :=
  .of_eq rfl (answers_note _ rfl)

theorem counted_count (w : World) (t : Tally) : w.Counted [t] 0 (w.count t) := by
  cases t with
  | cached => exact ⟨eq_add_zero _, rfl, eq_add_zero _, eq_add_zero _, eq_add_zero _, rfl⟩
  | check blocked failed =>
    refine ⟨rfl, eq_add_zero _, ?_, ?_, eq_add_zero _, rfl⟩
    · cases blocked
      · exact eq_add_zero _
      · rfl
    · cases failed
      · exact eq_add_zero _
      · rfl

/-- However an exchange ends, it counts as a probe exactly when a response came. -/
theorem counted_endExchange (w : World) (server : String) (q : Dns.Query) (started : Nat) (a : Arrival) :
    ∃ n, w.Counted [] n (w.endExchange server q started a).1 := by
  cases a with
  | message m =>
    exact ⟨1, eq_add_zero _, eq_add_zero _, eq_add_zero _, eq_add_zero _, rfl, List.countP_cons_of_pos rfl⟩
  | failed | timedOut | crashed => exact ⟨0, .of_eq rfl rfl⟩

theorem counted_apply (w : World) (i : Intervention) : w.Counted [] 0 (i.apply w) := by
  cases i with
  | flush => exact .of_eq rfl (answers_note _ rfl)
  | cancel | upsert | delete | elapse => exact .of_eq rfl rfl

end World

/-! ### What reads of the cache bring -/

namespace Slot
variable {α : Type} (net : Network)

/-- What reads of the cache bring to a job until it ends or has to wait. -/
def finds : Job α → World → List Outcome
  | .done _, _ | .crash _, _ => []
  | .resolvers next, w => finds (next w.registry.resolvers) w
  | .lookup key next, w =>
    match w.lookup key with
    | (w, .ok none) => finds (next none) w
    | (w, .ok (some o)) => o :: finds (next (some o)) w
    | (_, .error _) => []
  | .store key o next, w =>
    match w.store key o with
    | (w, none) => finds next w
    | (_, some _) => []
  | .count t next, w => finds next (w.count t)
  | .exchange limit server q next, w =>
    if w.cancelled then finds (next .cancelled) w.probeStarted.probeDropped
    else
      let (wait, arrival) := (net server q (w.exchangesWith server q.name)).arrival limit
      if wait = 0 then
        match (w.probeStarted.note (.exchange server q)).endExchange server q w.now arrival with
        | (w, .ok reply) => finds (next reply) w
        | (_, .error _) => []
      else []
  | .pause d next, w =>
    if w.cancelled then finds (next false) w else if timerMillis d = 0 then finds (next true) w else []
  | .sleep d next, w => if timerMillis d = 0 then finds next w else []

/-- What reads of the cache bring to the job in a slot when the slot takes a turn. -/
def brings : Turn → Slot α → World → List Outcome
  | .start _, queued job, w => finds net job w
  | .wake _, exchanging due server q started arrival next, w =>
    match (w.atTime due).endExchange server q started arrival with
    | (w, .ok reply) => finds net (next reply) w
    | (_, .error _) => []
  | .wake _, pausing due next, w => finds net (next true) (w.atTime due)
  | .wake _, sleeping due next, w => finds net next (w.atTime due)
  | .abort _, exchanging _ _ _ _ _ next, w => finds net (next .cancelled) w.probeDropped
  | .abort _, pausing _ next, w => finds net (next false) w
  | _, _, _ => []

end Slot

/-! ### Jobs -/

section
variable {α β : Type}

/-- The job counts nothing but its result: when it ends with `a` and `tally` makes something of that and of what reads
of the cache have brought, then this is what it counts last, and else it counts nothing. -/
inductive Job.Reckons (tally : List Outcome → α → Option Tally) : List Outcome → Job α → Prop
  | done {hits a} (h : tally hits a = none) : Reckons tally hits (.done a)
  | counted {hits a t} (h : tally hits a = some t) : Reckons tally hits (.count t (.done a))
  | crash {hits f} : Reckons tally hits (.crash f)
  | resolvers {hits next} (h : ∀ rs, Reckons tally hits (next rs)) : Reckons tally hits (.resolvers next)
  | lookup {hits key next} (hmiss : Reckons tally hits (next none))
      (hhit : ∀ o, Reckons tally (hits ++ [o]) (next (some o))) : Reckons tally hits (.lookup key next)
  | store {hits key o next} (h : Reckons tally hits next) : Reckons tally hits (.store key o next)
  | exchange {hits limit server q next} (h : ∀ reply, Reckons tally hits (next reply)) :
    Reckons tally hits (.exchange limit server q next)
  | pause {hits d next} (h : ∀ passed, Reckons tally hits (next passed)) : Reckons tally hits (.pause d next)
  | sleep {hits d next} (h : Reckons tally hits next) : Reckons tally hits (.sleep d next)

/-- The job asks nobody but servers, and ends with such a result. -/
inductive Job.IsRemote (Q : α → Prop) : Job α → Prop
  | done {a} (h : Q a) : IsRemote Q (.done a)
  | crash {f} : IsRemote Q (.crash f)
  | exchange {limit server q next} (h : ∀ reply, IsRemote Q (next reply)) : IsRemote Q (.exchange limit server q next)
  | pause {d next} (h : ∀ passed, IsRemote Q (next passed)) : IsRemote Q (.pause d next)

theorem Job.IsRemote.bind {Q : α → Prop} {tally : List Outcome → β → Option Tally} {hits : List Outcome} {j : Job α}
    {f : α → Job β} (hj : j.IsRemote Q) (hf : ∀ a, Q a → (f a).Reckons tally hits) :
    (j.bind f).Reckons tally hits := by
  induction hj with
  | done h => exact hf _ h
  | crash => exact .crash
  | exchange _ ih => exact .exchange ih
  | pause _ ih => exact .pause ih

def Slot.Reckons (tally : List Outcome → α → Option Tally) (hits : List Outcome) : Slot α → Prop
  | queued job => job.Reckons tally hits
  | exchanging _ _ _ _ _ next => ∀ reply, (next reply).Reckons tally hits
  | pausing _ next => ∀ passed, (next passed).Reckons tally hits
  | sleeping _ next => next.Reckons tally hits
  | ended _ | skipped => True

/-- What there is to be counted of what is in a slot. -/
def Slot.tallies (tally : List Outcome → α → Option Tally) (hits : List Outcome) : Slot α → List Tally
  | ended (.ok a) => (tally hits a).toList
  | _ => []

/-- The job in a slot counts nothing but its result, and from the first surroundings to the second ones that and
nothing else was counted. -/
def Slot.Reckoned (tally : List Outcome → α → Option Tally) (hits : List Outcome) (s : Slot α) (w w' : World) : Prop :=
  s.Reckons tally hits ∧ ∃ n, w.Counted (s.tallies tally hits) n w'

end

section
variable {α : Type} {tally : List Outcome → α → Option Tally} {hits : List Outcome} {net : Network}
  {w w₁ w' : World} {job : Job α} {s s' : Slot α} {n : Nat}

theorem Slot.Reckoned.after (hw : w.Counted [] n w₁) (h : s.Reckoned tally hits w₁ w') :
    s.Reckoned tally hits w w' := by
  obtain ⟨hs, m, hm⟩ := h
  exact ⟨hs, n + m, hw.trans hm⟩

theorem Slot.Reckoned.crashed (f : Fault) (hw : w.Counted [] n w') :
    (Slot.ended (.error f) : Slot α).Reckoned tally hits w w' := ⟨trivial, n, hw⟩

/-- A job that counts nothing but its result has counted that when it has ended, and nothing as long as it waits. -/
theorem Job.Reckons.advance (h : job.Reckons tally hits) (w : World) :
    (Slot.advance net job w).2.Reckoned tally (hits ++ Slot.finds net job w) w (Slot.advance net job w).1 := by
  have hrefl : ∀ w : World, w.Counted [] 0 w := fun w => .of_eq rfl rfl
  -- along the job; only its last step counts a check, and what the cache brings on the way goes to `hits`
  induction h generalizing w with
  | done h =>
    refine ⟨trivial, 0, ?_⟩
    rw [Slot.finds, List.append_nil]
    simp only [Slot.advance, Slot.tallies, h]
    exact hrefl w
  | @counted hits a t h =>
    refine ⟨trivial, 0, ?_⟩
    rw [Slot.finds, Slot.finds, List.append_nil]
    simp only [Slot.advance, Slot.tallies, h]
    exact w.counted_count t
  | crash => exact .crashed _ (hrefl w)
  | resolvers _ ih => exact ih _ w
  | @lookup hits key next _ _ ihmiss ihhit =>
    have hlookup := w.counted_lookup key
    rcases hl : w.lookup key with ⟨w₁, f | _ | o⟩
    · simp only [Slot.advance, hl]
      rw [hl] at hlookup
      exact .crashed f hlookup
    · simp only [Slot.advance, Slot.finds, hl]
      rw [hl] at hlookup
      exact .after hlookup (ihmiss w₁)
    · simp only [Slot.advance, Slot.finds, hl]
      rw [hl] at hlookup
      rw [List.append_cons]
      exact .after hlookup (ihhit o w₁)
  | @store hits key o next _ ih =>
    have hstore := w.counted_store key o
    rcases hs : w.store key o with ⟨w₁, _ | f⟩
    · simp only [Slot.advance, Slot.finds, hs]
      rw [hs] at hstore
      exact .after hstore (ih w₁)
    · simp only [Slot.advance, hs]
      rw [hs] at hstore
      exact .crashed f hstore
  | @exchange hits limit server q next hnext ih =>
    have hsent : w.Counted [] 0 (w.probeStarted.note (.exchange server q)) := .of_eq rfl (World.answers_note _ rfl)
    cases hc : w.cancelled with
    | true =>
      simp only [Slot.advance, Slot.finds, hc, if_true]
      have hdropped : w.Counted [] 0 w.probeStarted.probeDropped := .of_eq rfl rfl
      exact .after hdropped (ih .cancelled _)
    | false =>
      rcases ha : (net server q (w.exchangesWith server q.name)).arrival limit with ⟨wait, arrival⟩
      simp only [Slot.advance, Slot.finds, hc, ha, Bool.false_eq_true, if_false]
      by_cases hwait : wait = 0
      · rw [if_pos hwait, if_pos hwait]
        obtain ⟨n, hend⟩ :=
          (w.probeStarted.note (.exchange server q)).counted_endExchange server q w.now arrival
        rcases he : (w.probeStarted.note (.exchange server q)).endExchange server q w.now arrival with
          ⟨w₁, f | reply⟩
        · rw [he] at hend
          exact .crashed f (hsent.trans hend)
        · rw [he] at hend
          exact .after (hsent.trans hend) (ih reply w₁)
      · rw [if_neg hwait, if_neg hwait, List.append_nil]
        exact ⟨hnext, 0, hsent⟩
  | @pause hits d next hnext ih =>
    cases hc : w.cancelled with
    | true =>
      simp only [Slot.advance, Slot.finds, hc, if_true]
      exact ih false w
    | false =>
      simp only [Slot.advance, Slot.finds, hc, Bool.false_eq_true, if_false]
      by_cases hz : timerMillis d = 0
      · rw [if_pos hz, if_pos hz]
        exact ih true w
      · rw [if_neg hz, if_neg hz, List.append_nil]
        exact ⟨hnext, 0, hrefl w⟩
  | @sleep hits d next hnext ih =>
    simp only [Slot.advance, Slot.finds]
    by_cases hz : timerMillis d = 0
    · rw [if_pos hz, if_pos hz]
      exact ih w
    · rw [if_neg hz, if_neg hz, List.append_nil]
      exact ⟨hnext, 0, hrefl w⟩

theorem Slot.Turns.tallies_eq_nil {i : Nat} {t : Turn} (h : Slot.Turns net i t w s w' s') :
    s.tallies tally hits = [] := by
  cases h with
  | start | skip => rfl
  | wake hdue =>
    cases s with
    | ended => cases hdue
    | queued | exchanging | pausing | sleeping | skipped => rfl
  | abort hcancellable =>
    cases s with
    | ended => cases hcancellable
    | queued | exchanging | pausing | sleeping | skipped => rfl

/-- Every turn of a slot counts what there is to be counted of the result that it comes to. -/
theorem Slot.Reckons.turns (hs : s.Reckons tally hits) {i : Nat} {t : Turn} (h : Slot.Turns net i t w s w' s') :
    s'.Reckoned tally (hits ++ s.brings net t w) w w' := by
  cases h with
  | start => exact Job.Reckons.advance hs w
  | skip => exact ⟨trivial, 0, .of_eq rfl rfl⟩
  | @wake _ _ due hdue =>
    have hlater : w.Counted [] 0 (w.atTime due) := .of_eq rfl rfl
    cases s with
    | exchanging due' server q started arrival next =>
      obtain rfl : due' = due := Option.some.inj hdue
      obtain ⟨n, hend⟩ := (w.atTime due').counted_endExchange server q started arrival
      rcases he : (w.atTime due').endExchange server q started arrival with ⟨w₁, f | reply⟩
      · simp only [Slot.wake, he]
        rw [he] at hend
        exact .crashed f (hlater.trans hend)
      · simp only [Slot.wake, Slot.brings, he]
        rw [he] at hend
        exact .after (hlater.trans hend) ((hs reply).advance w₁)
    | pausing due' next =>
      cases hdue
      exact .after hlater ((hs true).advance _)
    | sleeping due' next =>
      cases hdue
      exact .after hlater (Job.Reckons.advance hs _)
    | queued | ended | skipped => cases hdue
  | abort hcancellable =>
    cases s with
    | exchanging due server q started arrival next =>
      have hdropped : w.Counted [] 0 w.probeDropped := .of_eq rfl rfl
      exact .after hdropped ((hs .cancelled).advance _)
    | pausing due next => exact (hs false).advance w
    | queued | sleeping | ended | skipped => cases hcancellable

end

/-! ### Checks and probes -/

/-- What there is to be counted of a check that ends with an outcome: whether a read of the cache has brought it, and
else what it says. -/
def checkTally (hits : List Outcome) (o : Outcome) : Option Tally :=
  some (if o ∈ hits then .cached else .check o.blocked o.error.isSome)

namespace CheckPolicy
variable {p : CheckPolicy} {domain : String} {r : Resolver}

def IsVerdict (x : Except CheckError Outcome) : Prop := ∀ o, x = .ok o → o.error = none

theorem attempts_isRemote {q : Dns.Query} (hq : Dns.Query.ofDomain domain r.recordType p.prober.payload = .ok q)
    (left : Nat) : ∀ attempt clear failure,
      (p.attempts domain r attempt clear failure left).IsRemote IsVerdict := by
  have herror : ∀ e : CheckError, IsVerdict (.error e) := fun e o ho => nomatch ho
  have hverdict : ∀ b, IsVerdict (.ok (.verdict domain r.address b)) := by
    rintro b o ho
    cases ho
    rfl
  induction left with
  | zero =>
    intro attempt clear failure
    refine .done ?_
    cases clear with
    | true => exact hverdict false
    | false => exact herror _
  | succ left ih =>
    intro attempt clear failure
    have hexchange : (p.exchangeOf domain r q attempt clear left).IsRemote IsVerdict := by
      refine .exchange fun reply => ?_
      cases reply with
      | message m elapsed =>
        simp only [afterReply]
        rcases m.carries r.keyword with f | _ | _
        · exact .crash
        · exact ih _ _ _
        · exact .done (hverdict true)
      | failed | timedOut => exact ih _ _ _
      | cancelled => exact .done (herror _)
    rw [attempts_succ hq]
    cases failure with
    | none => exact hexchange
    | some e =>
      refine .pause fun passed => ?_
      cases passed with
      | true => exact hexchange
      | false => exact .done (herror _)

theorem attempts_isRemote_first (left : Nat) : (p.attempts domain r 0 false none (left + 1)).IsRemote IsVerdict := by
  cases hq : Dns.Query.ofDomain domain r.recordType p.prober.payload with
  | ok q => exact attempts_isRemote hq _ _ _ _
  | error e =>
    rw [attempts_of_no_query hq]
    exact .done fun o ho => nomatch ho

theorem fail_reckons (e : CheckError) : (fail domain e).Reckons checkTally [] := .counted rfl

theorem against_reckons (rs : List Resolver) : (p.against domain rs).Reckons checkTally [] := by
  induction rs with
  | nil => exact fail_reckons _
  | cons r rest ih =>
    rw [against_cons]
    -- a hit is counted as one, and what comes of the attempts as a check: the cache has brought nothing before
    refine .lookup ((attempts_isRemote_first _).bind fun x hx => ?_) fun o => .counted (by simp [checkTally])
    cases x with
    | ok o => exact .store (.counted (by simp [checkTally, hx o rfl]))
    | error e =>
      simp only [afterAttemptsAt]
      split
      · exact ih
      · exact fail_reckons e

/-- A check counts itself once, by how it ends. -/
theorem check_reckons (raw : String) : (p.check raw).Reckons checkTally [] := by
  cases hv : isValidDomain (normalize raw) with
  | true =>
    rw [check_of_valid hv]
    exact .resolvers against_reckons
  | false =>
    rw [check_of_invalid hv]
    exact fail_reckons _

end CheckPolicy

theorem Prober.health_reckons (p : Prober) (r : Resolver) : (p.health r).Reckons (fun _ _ => none) [] := by
  unfold health ask
  cases Dns.Query.ofDomain healthProbeDomain .a p.payload with
  | error e => exact .done rfl
  | ok q => exact .exchange fun reply => .done rfl

end FilterWatch
