import FilterWatch.Proofs.CacheKey

/-!
# The retry policy

What the attempts at a resolver come to, said on the list of their results. `Retried` is the policy: the first attempt
that is blocked or that fails for good ends it, and otherwise all attempts are made, and a clear one among them counts
more than the failures around it. `Tries` is what the attempts do: one exchange each, and a pause before each one that
follows a failure. `exchangeOf_inv` says what an attempt can do in a run, and by it every run of the attempts in which
no pause is broken off keeps to both (`Runs.attempts_retriedFrom`).
-/

namespace FilterWatch

/-- What an attempt at a resolver comes to. -/
inductive AttemptResult where
  | blocked
  | clear
  | failed (e : CheckError)
  | crashed (f : Fault)
deriving DecidableEq, Repr

namespace AttemptResult

/-- Whether other attempts may follow. -/
def goesOn : AttemptResult → Bool
  | blocked | crashed _ => false
  | clear => true
  | failed e => e.isRetryable

def isClear : AttemptResult → Bool
  | clear => true
  | _ => false

def error? : AttemptResult → Option CheckError
  | failed e => some e
  | _ => none

/-- What the attempts come to if this one decides. -/
def outcome (domain : String) (r : Resolver) : AttemptResult → Except Fault (Except CheckError Outcome)
  | blocked => .ok (.ok (.verdict domain r.address true))
  | clear => .ok (.ok (.verdict domain r.address false))
  | failed e => .ok (.error e)
  | crashed f => .error f

/-- What an answer means, if the keyword can be looked for. -/
def ofMatch : Except Fault Bool → AttemptResult
  | .ok true => blocked
  | .ok false => clear
  | .error f => crashed f

end AttemptResult

def Reply.result (r : Resolver) : Reply → AttemptResult
  | message m _ => .ofMatch (m.carries r.keyword)
  | failed e => .failed (.ofIo (withDefaultPort r.address) e)
  | timedOut => .failed (.timeout (withDefaultPort r.address))
  | cancelled => .failed .cancelled

def Arrival.result (r : Resolver) : Arrival → AttemptResult
  | message m => .ofMatch (m.carries r.keyword)
  | failed e => .failed (.ofIo (withDefaultPort r.address) e)
  | timedOut => .failed (.timeout (withDefaultPort r.address))
  | crashed f => .crashed f

/-- The deed before an attempt, if the one before failed. -/
def backoffBefore (attempt : Nat) (waits : Bool) : List Deed := if waits then [.pause (backoff attempt) true] else []

/-- The deeds of the attempts from number `attempt` on that come to these results. `waits` says whether the attempt
before failed. -/
inductive Tries (r : Resolver) (q : Dns.Query) :
    (attempt : Nat) → (waits : Bool) → List AttemptResult → List Deed → Prop
  | none {attempt waits} : Tries r q attempt waits [] []
  | sent {attempt waits rest ds} (reply : Reply) (h : Tries r q (attempt + 1) (reply.result r).error?.isSome rest ds) :
    Tries r q attempt waits (reply.result r :: rest)
      (backoffBefore attempt waits ++ .exchange (withDefaultPort r.address) q reply :: ds)
  | broken {attempt waits} (f : Fault) : Tries r q attempt waits [.crashed f] (backoffBefore attempt waits)
  | withheld {attempt waits} : Tries r q attempt waits [.failed .cancelled]
      (backoffBefore attempt waits ++ [.withheld (withDefaultPort r.address) q])

/-- What at most `most` attempts with these results come to. -/
inductive Retried (domain : String) (r : Resolver) (most : Nat) :
    List AttemptResult → Except Fault (Except CheckError Outcome) → Prop
  | ended (earlier : List AttemptResult) {a : AttemptResult} (hlt : earlier.length < most)
      (hearlier : ∀ b ∈ earlier, b.goesOn) (ha : a.goesOn = false) :
    Retried domain r most (earlier ++ [a]) (a.outcome domain r)
  /-- All attempts were made, none of them ended the matter, and one was clear. -/
  | clear {results : List AttemptResult} (hlen : results.length = most) (hall : ∀ a ∈ results, a.goesOn)
      (hsome : .clear ∈ results) :
    Retried domain r most results (.ok (.ok (.verdict domain r.address false)))
  /-- All attempts were made, and all failed: the last error counts. -/
  | exhausted (earlier : List AttemptResult) {e : CheckError} (hlen : earlier.length + 1 = most)
      (hall : ∀ a ∈ earlier ++ [AttemptResult.failed e], ∃ e', a = .failed e' ∧ e'.isRetryable) :
    Retried domain r most (earlier ++ [.failed e]) (.ok (.error e))

/-- What `left` further attempts with these results come to, when `clear` and `failure` are what is kept of the ones
before. -/
inductive RetriedFrom (domain : String) (r : Resolver) (clear : Bool) (failure : Option CheckError) (left : Nat) :
    List AttemptResult → Except Fault (Except CheckError Outcome) → Prop
  | ended {results x} (h : Retried domain r left results x) (hlast : ¬ ∀ a ∈ results, a.goesOn) :
    RetriedFrom domain r clear failure left results x
  | spent {results} (hlen : results.length = left) (hall : ∀ a ∈ results, a.goesOn) :
    RetriedFrom domain r clear failure left results
      (.ok (CheckPolicy.afterAttempts domain r (results.any AttemptResult.isClear || clear)
        (results.getLast?.elim failure AttemptResult.error?)))

section
variable {domain : String} {r : Resolver} {q : Dns.Query} {clear : Bool} {failure : Option CheckError} {left most : Nat}
  {a : AttemptResult} {results : List AttemptResult} {x : Except Fault (Except CheckError Outcome)}

theorem Retried.cons (ha : a.goesOn) (h : Retried domain r left results x) (hlast : ¬ ∀ a ∈ results, a.goesOn) :
    Retried domain r (left + 1) (a :: results) x := by
  cases h with
  | ended earlier hlt hearlier hend =>
    exact .ended (a :: earlier) (Nat.succ_lt_succ hlt) (List.forall_mem_cons.mpr ⟨ha, hearlier⟩) hend
  | clear _ hall => exact absurd hall hlast
  | exhausted earlier _ hall =>
    refine absurd (fun a ha => ?_) hlast
    obtain ⟨e', rfl, he'⟩ := hall a ha
    exact he'

/-- Put in front of further attempts, one that goes on is kept in mind by them. -/
theorem RetriedFrom.cons (ha : a.goesOn) (h : RetriedFrom domain r (a.isClear || clear) a.error? left results x) :
    RetriedFrom domain r clear failure (left + 1) (a :: results) x := by
  cases h with
  | ended h hlast => exact .ended (h.cons ha hlast) fun hall => hlast (List.forall_mem_cons.mp hall).2
  | spent hlen hall =>
    have hkept : (results.getLast?.elim a.error? AttemptResult.error?) =
        (a :: results).getLast?.elim failure AttemptResult.error? := by
      rw [List.getLast?_cons]
      cases results.getLast? <;> rfl
    rw [hkept, Bool.or_left_comm, ← Bool.or_assoc, ← List.any_cons]
    exact .spent (by simp [hlen]) (List.forall_mem_cons.mpr ⟨ha, hall⟩)

theorem RetriedFrom.last (ha : a.goesOn = false) :
    RetriedFrom domain r clear failure (left + 1) [a] (a.outcome domain r) :=
  .ended (.ended [] (Nat.succ_pos left) (by simp) ha) (by simp [ha])

theorem RetriedFrom.retried (h : RetriedFrom domain r false none (most + 1) results x) :
    Retried domain r (most + 1) results x := by
  cases h with
  | ended h => exact h
  | spent hlen hall =>
    rw [Bool.or_false]
    cases hany : results.any AttemptResult.isClear with
    | true =>
      obtain ⟨a, hmem, ha⟩ := List.any_eq_true.mp hany
      cases a with
      | clear => exact .clear hlen hall hmem
      | blocked | failed | crashed => cases ha
    | false =>
      have hfailed : ∀ a ∈ results, ∃ e, a = .failed e ∧ e.isRetryable := by
        intro a hmem
        have hon := hall a hmem
        cases a with
        | blocked | crashed => cases hon
        | clear => exact absurd rfl ((List.any_eq_false.mp hany) _ hmem)
        | failed e => exact ⟨e, rfl, hon⟩
      have hne : results ≠ [] := by
        rintro rfl
        cases hlen
      obtain ⟨e, he, -⟩ := hfailed _ (List.getLast_mem hne)
      have hsplit := List.dropLast_append_getLast hne
      rw [he] at hsplit
      rw [← hsplit] at hlen hfailed ⊢
      rw [List.getLast?_append]
      rw [List.length_append] at hlen
      exact .exhausted _ hlen hfailed

theorem Retried.eq_outcome (h : Retried domain r most results x) (hmem : a ∈ results) (ha : a.goesOn = false) :
    x = a.outcome domain r := by
  have hnot : ∀ {earlier : List AttemptResult}, (∀ b ∈ earlier, b.goesOn) → a ∉ earlier := by
    intro earlier hearlier hmem
    rw [hearlier a hmem] at ha
    cases ha
  cases h with
  | ended earlier _ hearlier =>
    rw [List.mem_append, List.mem_singleton] at hmem
    rw [hmem.resolve_left (hnot hearlier)]
  | clear _ hall => exact absurd hmem (hnot hall)
  | exhausted earlier _ hall =>
    refine absurd hmem (hnot fun b hb => ?_)
    obtain ⟨e', rfl, he'⟩ := hall b hb
    exact he'

theorem Retried.error_mem {e : CheckError} (h : Retried domain r most results (.ok (.error e))) :
    .failed e ∈ results := by
  generalize hx : Except.ok (Except.error e) = x at h
  cases h with
  | @ended earlier a =>
    cases a with
    | failed e' => cases hx; simp
    | blocked | clear | crashed => cases hx
  | clear => cases hx
  | exhausted => cases hx; simp

theorem Tries.exchanges {attempt : Nat} {waits : Bool} {ds : List Deed} (h : Tries r q attempt waits results ds)
    (hsent : ∀ a ∈ results, a ≠ .failed .cancelled ∧ ∀ f, a ≠ .crashed f) :
    ds.countP Deed.isExchange = results.length := by
  induction h with
  | none => rfl
  | @sent attempt waits rest ds reply h ih =>
    have hbefore : (backoffBefore attempt waits).countP Deed.isExchange = 0 := by cases waits <;> rfl
    rw [List.countP_append, hbefore, List.countP_cons_of_pos rfl, ih (List.forall_mem_cons.mp hsent).2,
      List.length_cons, Nat.zero_add]
  | broken f => exact absurd rfl ((hsent _ (.head _)).2 f)
  | withheld => exact absurd rfl (hsent _ (.head _)).1

/-- No attempt fails as a whole check does. -/
theorem Tries.error_ne {attempt : Nat} {waits : Bool} {ds : List Deed} (h : Tries r q attempt waits results ds) :
    AttemptResult.failed .allResolversFailed ∉ results := by
  induction h with
  | none => simp
  | @sent _ _ rest _ reply _ ih =>
    refine List.not_mem_cons_of_ne_of_not_mem ?_ ih
    cases reply with
    | message m elapsed =>
      show _ ≠ AttemptResult.ofMatch (m.carries r.keyword)
      rcases m.carries r.keyword with f | _ | _ <;> nofun
    | failed e =>
      intro he
      have hretry := CheckError.isRetryable_ofIo (withDefaultPort r.address) e
      rw [← AttemptResult.failed.inj he] at hretry
      cases hretry
    | timedOut | cancelled => nofun
  | broken | withheld => simp

end

/-! ### The runs of the attempts -/

/-- What the server of a resolver does with a query that is sent to it now. -/
def Network.responds (net : Network) (r : Resolver) (q : Dns.Query) (w : World) : Response :=
  net (withDefaultPort r.address) q (w.exchangesWith (withDefaultPort r.address) q.name)

/-- Whether nobody else sends queries in what happens meanwhile. -/
def Undisturbed (meanwhile : World → World → Prop) : Prop :=
  ∀ w w' server name, meanwhile w w' → w'.exchangesWith server name = w.exchangesWith server name

/-- The exchange of an attempt that was begun in surroundings `w`, ended in `w'` and came to a result. -/
structure CheckPolicy.Exchanged (net : Network) (meanwhile : World → World → Prop) (p : CheckPolicy) (r : Resolver)
    (q : Dns.Query) (w : World) (a : AttemptResult) (w' : World) : Prop where
  result : ((net.responds r q w).arrival p.prober.timeout).2.result r = a
  now : w'.now = w.now + ((net.responds r q w).arrival p.prober.timeout).1
  count : Undisturbed meanwhile →
    w'.exchangesWith (withDefaultPort r.address) q.name = w.exchangesWith (withDefaultPort r.address) q.name + 1

/-- What the exchange of an attempt and the attempts that are left do in a run. -/
inductive CheckPolicy.AttemptRuns (net : Network) (meanwhile : World → World → Prop) (p : CheckPolicy)
    (domain : String) (r : Resolver) (q : Dns.Query) (attempt : Nat) (clear : Bool) (left : Nat) (w : World) :
    List Deed → World → Except Fault (Except CheckError Outcome) → Prop
  /-- Others may follow, and the attempt leaves them its error, or that it was clear. -/
  | goesOn {reply a w₁ ds w' x} (hreply : reply.result r = a) (ha : a.goesOn)
      (hw : p.Exchanged net meanwhile r q w a w₁)
      (h : (p.attempts domain r (attempt + 1) (a.isClear || clear) a.error? left).Runs net meanwhile w₁ ds w' x) :
    AttemptRuns net meanwhile p domain r q attempt clear left w
      (.exchange (withDefaultPort r.address) q reply :: ds) w' x
  | ends {reply a w'} (hreply : reply.result r = a) (ha : a.goesOn = false)
      (hw : p.Exchanged net meanwhile r q w a w') :
    AttemptRuns net meanwhile p domain r q attempt clear left w [.exchange (withDefaultPort r.address) q reply] w'
      (a.outcome domain r)
  | crashes {f w'} (hw : p.Exchanged net meanwhile r q w (.crashed f) w') :
    AttemptRuns net meanwhile p domain r q attempt clear left w [] w' (.error f)
  | aborted {w'} : AttemptRuns net meanwhile p domain r q attempt clear left w
      [.exchange (withDefaultPort r.address) q .cancelled] w' (.ok (.error .cancelled))
  | withheld {w'} : AttemptRuns net meanwhile p domain r q attempt clear left w
      [.withheld (withDefaultPort r.address) q] w' (.ok (.error .cancelled))

namespace World
variable {w w₁ : World} {server : String} {q : Dns.Query} {started : Nat} {arrival : Arrival}

theorem now_endExchange : (w.endExchange server q started arrival).1.now = w.now := by cases arrival <;> rfl

theorem exchangesWith_endExchange {s : String} {name : Dns.Name} :
    (w.endExchange server q started arrival).1.exchangesWith s name = w.exchangesWith s name := by
  cases arrival with
  | message m => exact List.countP_cons_of_neg (by simp)
  | failed | timedOut | crashed => rfl

theorem exchangesWith_sent :
    (w.probeStarted.note (.exchange server q)).exchangesWith server q.name = w.exchangesWith server q.name + 1 :=
  List.countP_cons_of_pos (by simp)

theorem result_of_reply {reply : Reply} {r : Resolver}
    (h : w.endExchange server q started arrival = (w₁, .ok reply)) : reply.result r = arrival.result r := by
  cases arrival with
  | crashed => cases h
  | message | failed | timedOut => cases h; rfl

theorem result_of_crash {f : Fault} {r : Resolver} (h : w.endExchange server q started arrival = (w₁, .error f)) :
    arrival.result r = .crashed f := by
  cases arrival with
  | crashed => cases h; rfl
  | message | failed | timedOut => cases h

end World

namespace Job.Runs
variable {net : Network} {meanwhile : World → World → Prop} {p : CheckPolicy} {domain : String} {r : Resolver}
  {q : Dns.Query} {w w' : World} {ds : List Deed} {x : Except Fault (Except CheckError Outcome)}

theorem exchanged {w₁ w₂ : World} {wait : Nat} {arrival : Arrival} {y : Except Fault Reply} {a : AttemptResult}
    (ha : (net.responds r q w).arrival p.prober.timeout = (wait, arrival))
    (hm : meanwhile (w.probeStarted.note (.exchange (withDefaultPort r.address) q)) w₁) (ht : w₁.now ≤ w.now + wait)
    (he : (w₁.atTime (w.now + wait)).endExchange (withDefaultPort r.address) q w.now arrival = (w₂, y))
    (hresult : arrival.result r = a) : p.Exchanged net meanwhile r q w a w₂ := by
  obtain rfl : ((w₁.atTime (w.now + wait)).endExchange (withDefaultPort r.address) q w.now arrival).1 = w₂ :=
    congrArg Prod.fst he
  refine ⟨by rw [ha]; exact hresult, ?_, fun hmean => ?_⟩
  · rw [ha, World.now_endExchange]
    exact Nat.max_eq_right ht
  · rw [World.exchangesWith_endExchange, ← World.exchangesWith_sent]
    exact hmean _ w₁ _ _ hm

theorem exchangeOf_inv {attempt left : Nat} {clear : Bool}
    (h : (p.exchangeOf domain r q attempt clear left).Runs net meanwhile w ds w' x) :
    p.AttemptRuns net meanwhile domain r q attempt clear left w ds w' x := by
  unfold CheckPolicy.exchangeOf at h
  cases h with
  | @exchange _ _ _ _ _ _ wait arrival reply _ ds _ _ _ ha hm ht he h =>
    have hw := fun a hresult => exchanged (a := a) ha hm ht he hresult
    have harrival := World.result_of_reply (r := r) he
    cases reply with
    | message m elapsed =>
      have hreply : (Reply.message m elapsed).result r = .ofMatch (m.carries r.keyword) := rfl
      simp only [CheckPolicy.afterReply] at h
      rcases hm : m.carries r.keyword with f | _ | _ <;> rw [hm] at h hreply
      · cases h
        exact .ends hreply rfl (hw _ (harrival.symm.trans hreply))
      · exact .goesOn hreply rfl (hw _ (harrival.symm.trans hreply)) h
      · cases h
        exact .ends hreply rfl (hw _ (harrival.symm.trans hreply))
    | failed e => exact .goesOn rfl (CheckError.isRetryable_ofIo _ e) (hw _ harrival.symm) h
    | timedOut => exact .goesOn rfl rfl (hw _ harrival.symm) h
    | cancelled =>
      cases h
      exact .aborted
  | exchangeCrash _ ha hm ht he => exact .crashes (exchanged ha hm ht he (World.result_of_crash he))
  | exchangeAborted _ _ _ h =>
    cases h
    exact .aborted
  | withheld _ h =>
    cases h
    exact .withheld

theorem exchangeOf_retriedFrom {attempt left : Nat} {clear : Bool} {failure : Option CheckError}
    (h : (p.exchangeOf domain r q attempt clear left).Runs net meanwhile w ds w' x) (hwait : ∀ d, .pause d false ∉ ds)
    (hleft : ∀ {w₁ ds clear} {failure : Option CheckError},
      (p.attempts domain r (attempt + 1) clear failure left).Runs net meanwhile w₁ ds w' x →
      (∀ d, .pause d false ∉ ds) → ∃ results, Tries r q (attempt + 1) failure.isSome results ds ∧
        RetriedFrom domain r clear failure left results x) :
    ∃ results, (∀ waits, Tries r q attempt waits results (backoffBefore attempt waits ++ ds)) ∧
      RetriedFrom domain r clear failure (left + 1) results x := by
  cases h.exchangeOf_inv with
  | @goesOn reply a w₁ ds _ _ hreply ha _ h =>
    obtain ⟨results, htries, hfrom⟩ := hleft h fun d hd => hwait d (.tail _ hd)
    subst hreply
    exact ⟨_, fun waits => .sent reply htries, hfrom.cons ha⟩
  | @ends reply _ _ hreply ha =>
    subst hreply
    exact ⟨_, fun waits => .sent reply .none, .last ha⟩
  | @crashes f =>
    refine ⟨[.crashed f], fun waits => ?_, .last rfl⟩
    rw [List.append_nil]
    exact .broken f
  | aborted => exact ⟨[.failed .cancelled], fun waits => .sent .cancelled .none, .last rfl⟩
  | withheld => exact ⟨[.failed .cancelled], fun waits => .withheld, .last rfl⟩

/-- The attempts keep to the policy if no pause between them is broken off. -/
theorem attempts_retriedFrom (hq : Dns.Query.ofDomain domain r.recordType p.prober.payload = .ok q)
    {attempt left : Nat} {clear : Bool} {failure : Option CheckError}
    (h : (p.attempts domain r attempt clear failure left).Runs net meanwhile w ds w' x)
    (hwait : ∀ d, .pause d false ∉ ds) :
    ∃ results, Tries r q attempt failure.isSome results ds ∧ RetriedFrom domain r clear failure left results x := by
  induction left generalizing attempt clear failure w ds with
  | zero =>
    cases h
    refine ⟨[], .none, ?_⟩
    have hspent : RetriedFrom domain r clear failure 0 [] (.ok (CheckPolicy.afterAttempts domain r clear failure)) :=
      .spent rfl (by simp)
    exact hspent
  | succ left ih =>
    rw [CheckPolicy.attempts_succ hq] at h
    cases failure with
    | none =>
      obtain ⟨results, htries, hfrom⟩ := exchangeOf_retriedFrom h hwait ih
      exact ⟨results, htries false, hfrom⟩
    | some e =>
      cases h with
      | pause _ _ _ h =>
        obtain ⟨results, htries, hfrom⟩ := exchangeOf_retriedFrom h (fun d hd => hwait d (.tail _ hd)) ih
        exact ⟨results, htries true, hfrom⟩
      | pauseAborted => exact absurd (.head _) (hwait (backoff attempt))

end Job.Runs

/-- What all attempts at a resolver do and come to. -/
inductive CheckPolicy.Retries (p : CheckPolicy) (domain : String) (r : Resolver) :
    List Deed → Except Fault (Except CheckError Outcome) → Prop
  | asked {q results ds x} (hq : Dns.Query.ofDomain domain r.recordType p.prober.payload = .ok q)
      (htries : Tries r q 0 false results ds) (hretried : Retried domain r (p.maxRetries + 1) results x)
      (hexchanges : x ≠ .ok (.error .cancelled) → (∀ f, x ≠ .error f) →
        ds.countP Deed.isExchange = results.length) :
    Retries p domain r ds x
  /-- The domain cannot be asked for, and then the first attempt is the last one. -/
  | unasked {e} (hq : Dns.Query.ofDomain domain r.recordType p.prober.payload = .error e) (he : e.isRetryable = false) :
    Retries p domain r [] (.ok (.error e))

theorem CheckPolicy.Retries.ne_allResolversFailed {p : CheckPolicy} {domain : String} {r : Resolver} {ds : List Deed}
    {x : Except Fault (Except CheckError Outcome)} (h : p.Retries domain r ds x) :
    x ≠ .ok (.error .allResolversFailed) := by
  rintro rfl
  cases h with
  | asked _ htries hretried => exact htries.error_ne hretried.error_mem
  | unasked hq => cases Dns.Query.error_of_ofDomain hq

/-- Every call that makes the attempts at a resolver ends with a result, and whatever the network does, the attempts
keep to the policy unless the caller cancels in a pause between them. They never end as if none had been made. -/
theorem CheckPolicy.attempts_retried (p : CheckPolicy) (domain : String) (r : Resolver) :
    let job := p.attempts domain r 0 false none (p.maxRetries + 1)
    (∀ net call w, ∃ ds, job.Runs net (World.Intervened (call.agendaFrom w)) (call.world w) ds
      (runCall net call job w).1 (runCall net call job w).2) ∧
    ∀ net meanwhile w ds w' x, job.Runs net meanwhile w ds w' x → (∀ d, .pause d false ∉ ds) →
      p.Retries domain r ds x ∧ x ≠ .ok (.error .allResolversFailed) := by
  refine ⟨fun net call w => runCall_runs net call _ w, fun net meanwhile w ds w' x h hwait => ?_⟩
  have hretries : p.Retries domain r ds x := by
    cases hq : Dns.Query.ofDomain domain r.recordType p.prober.payload with
    | ok q =>
      obtain ⟨results, htries, hfrom⟩ := h.attempts_retriedFrom hq hwait
      have hretried := hfrom.retried
      refine .asked hq htries hretried fun hcancelled hcrashed => htries.exchanges fun a ha => ⟨?_, ?_⟩
      · rintro rfl
        exact hcancelled (hretried.eq_outcome ha rfl)
      · rintro f rfl
        exact hcrashed f (hretried.eq_outcome ha rfl)
    | error e =>
      have he : e.isRetryable = false := by
        rw [Dns.Query.error_of_ofDomain hq]
        rfl
      rw [CheckPolicy.attempts_of_no_query hq] at h
      cases h
      exact .unasked hq he
  exact ⟨hretries, hretries.ne_allResolversFailed⟩

/-- A network that answers the first two queries about a name without any record, and the others with a text. -/
def Network.changingTo (bytes : List UInt8) : Network := fun s q n =>
  if n < 2 then .after 0 (.message (.answering q.question)) else Network.answeringText bytes s q n

theorem CheckPolicy.attempts_retried_blocked_third :
    let p : CheckPolicy := ⟨⟨.ofSeconds 5, 1232⟩, 5⟩
    let r : Resolver := ⟨"10.0.0.1", "block", .txt⟩
    let net := Network.changingTo "block".toUTF8.toList
    ∃ w', runCall net {} (p.attempts "example.com" r 0 false none (p.maxRetries + 1))
          { registry := {}, cache := .off } = (w', .ok (.ok (.verdict "example.com" "10.0.0.1" true))) ∧
      ∃ q results ds, Tries r q 0 false results ds ∧ results.length = 3 ∧
        Retried "example.com" r 6 results (.ok (.ok (.verdict "example.com" "10.0.0.1" true))) := by
  intro p r net
  have hended : (Slot.advance net (p.attempts "example.com" r 0 false none (p.maxRetries + 1))
      { registry := {}, cache := .off }).2.ended? = some (.ok (.ok (.verdict "example.com" "10.0.0.1" true))) := by
    decide +kernel
  have hsent : (Slot.advance net (p.attempts "example.com" r 0 false none (p.maxRetries + 1))
      { registry := {}, cache := .off }).1.exchanges = 3 := by
    decide +kernel
  have hrun : runAlone net (Call.agendaFrom {} { registry := {}, cache := .off })
      (p.attempts "example.com" r 0 false none (p.maxRetries + 1)) { registry := {}, cache := .off } = _ :=
    runAlone_of_ended? hended
  obtain ⟨hruns, hretried⟩ := attempts_retried p "example.com" r
  obtain ⟨ds, h⟩ := hruns net {} { registry := {}, cache := .off }
  rw [runCall, Call.world, hrun] at h
  generalize (Slot.advance net (p.attempts "example.com" r 0 false none (p.maxRetries + 1))
    { registry := {}, cache := .off }).1 = w' at hrun h hsent
  refine ⟨w', hrun, ?_⟩
  have hcalm : Call.IsCalm {} := ⟨rfl, by simp⟩
  have hwait : ∀ d, .pause d false ∉ ds := fun d hd =>
    Bool.false_ne_true (h.calm (fun _ _ => hcalm.cancelled) rfl _ hd)
  have hcount : ds.countP Deed.isExchange = 3 := by
    rw [h.exchanges fun _ _ => World.Intervened.exchanges, Nat.add_comm] at hsent
    exact hsent
  cases (hretried _ _ _ _ _ _ h hwait).1 with
  | @asked q results _ _ _ htries hends hexchanges =>
    exact ⟨q, results, ds, htries, by rw [← hcount, hexchanges (by simp) (by simp)], hends⟩

end FilterWatch
