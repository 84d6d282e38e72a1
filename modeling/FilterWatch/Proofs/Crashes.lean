import FilterWatch.Network.Script
import FilterWatch.Proofs.Beginning
import FilterWatch.Proofs.Cancellation
import FilterWatch.Proofs.Matching
import FilterWatch.Proofs.Steady

/-!
# How checks crash

A check that was not cancelled takes the course of a failover, or it crashes on the way: `Breakdown` is the resolver
where that happens, either because the matcher crashes on a reply or because the cache crashes when it is told the
verdict. Nothing else crashes a check, as long as the cache can be read and exchanges do not crash by themselves
(`Job.Runs.Tame`, `Runs.check_course`).
-/

namespace FilterWatch

/-! ### Networks -/

namespace Network
variable (net : Network)

/-- Whether exchanges end in messages and failures only. -/
def NeverCrashes : Prop := ∀ server q n delay f, net server q n ≠ .after delay (.crashed f)

/-- Whether a server may send the message. -/
def Sends (m : Dns.Message) : Prop := ∃ server q n delay, net server q n = .after delay (.message m)

variable {net} {server : String} {q : Dns.Query} {n wait : Nat} {limit : Limit}

theorem after_of_arrival {a : Arrival} (h : (net server q n).arrival limit = (wait, a)) (ha : a ≠ .timedOut) :
    ∃ delay, net server q n = .after delay a := by
  cases hr : net server q n with
  | silence =>
    rw [hr] at h
    cases h
    exact absurd rfl ha
  | after delay what =>
    rw [hr, Response.arrival] at h
    split at h
    · cases h
      exact ⟨_, rfl⟩
    · cases h
      exact absurd rfl ha

theorem NeverCrashes.ne_crashed (h : net.NeverCrashes) {f : Fault} :
    (net server q n).arrival limit ≠ (wait, .crashed f) := by
  intro ha
  obtain ⟨delay, hr⟩ := after_of_arrival ha (by simp)
  exact h _ _ _ _ _ hr

end Network

/-! ### Runs without a cancellation -/

namespace Job
variable {net : Network} {meanwhile : World → World → Prop} {α : Type} {w w' : World} {job : Job α} {ds : List Deed}
  {Q C : α → Prop} {a : α}

theorem Quits.runs (hjob : job.Quits C) (h : job.Runs net meanwhile w ds w' (.ok a)) : C a := by
  induction hjob generalizing w ds with
  | done hC => cases h; exact hC
  | count _ ih =>
    cases h with
    | count h => exact ih h

/-- The run of a job that heeds the caller: cancellation has no part in it, or its result says so. What it comes to in
the first case depends on what it finds in the cache. -/
theorem Heeds.runs_of {Kept : Outcome → Prop} (hjob : job.Heeds Kept Q C)
    (h : job.Runs net meanwhile w ds w' (.ok a)) (hds : ∀ key o, .lookup key (some o) ∈ ds → Kept o) :
    (∀ d ∈ ds, d.isCalm) ∧ Q a ∨ C a := by
  have hrest : ∀ {d : Deed} {ds : List Deed}, (∀ key o, .lookup key (some o) ∈ d :: ds → Kept o) →
      ∀ key o, .lookup key (some o) ∈ ds → Kept o := fun hds key o hmem => hds key o (.tail _ hmem)
  have hcons : ∀ {d : Deed} {ds : List Deed}, d.isCalm → (∀ d ∈ ds, d.isCalm) ∧ Q a ∨ C a →
      (∀ d' ∈ d :: ds, d'.isCalm) ∧ Q a ∨ C a :=
    fun hd h => h.imp_left fun ⟨hds, ha⟩ => ⟨List.forall_mem_cons.mpr ⟨hd, hds⟩, ha⟩
  induction hjob generalizing w ds with
  | done hQ => cases h; exact .inl ⟨by simp, hQ⟩
  | crash => cases h
  | resolvers _ ih =>
    cases h with
    | resolvers h => exact hcons rfl (ih _ h (hrest hds))
  | lookup _ _ ihmiss ihhit =>
    cases h with
    | @lookup _ _ _ hit _ _ _ _ _ h =>
      cases hit with
      | none => exact hcons rfl (ihmiss h (hrest hds))
      | some o => exact hcons rfl (ihhit o (hds _ o (.head _)) h (hrest hds))
  | store _ _ ih =>
    cases h with
    | store _ h => exact hcons rfl (ih h (hrest hds))
  | count _ ih =>
    cases h with
    | count h => exact hcons rfl (ih h (hrest hds))
  | exchange hquit _ ih =>
    cases h with
    | @exchange _ _ _ _ _ _ _ _ reply _ _ _ _ _ _ _ _ he h =>
      have hreply := World.ne_cancelled_of_endExchange he
      refine hcons ?_ (ih reply hreply h (hrest hds))
      cases reply with
      | cancelled => exact absurd rfl hreply
      | message | failed | timedOut => rfl
    | exchangeAborted _ _ _ h => exact .inr (hquit.runs h)
    | withheld _ h => exact .inr (hquit.runs h)
  | pause hquit _ ih =>
    cases h with
    | pause _ _ _ h => exact hcons rfl (ih h (hrest hds))
    | pauseAborted _ _ h => exact .inr (hquit.runs h)

theorem Heeds.runs (hjob : job.Heeds (fun _ => True) Q C) (h : job.Runs net meanwhile w ds w' (.ok a)) :
    (∀ d ∈ ds, d.isCalm) ∨ C a :=
  (hjob.runs_of h fun _ _ _ => trivial).imp_left And.left

/-- Surroundings with a property that lasts, in which reads and exchanges do not crash. -/
structure Runs.Tame (net : Network) (meanwhile : World → World → Prop) (P : World → Prop) : Prop where
  kept : World.Kept P
  meanwhile : ∀ w w', meanwhile w w' → P w → P w'
  reads : ∀ w w' key f, P w → w.lookup key ≠ (w', .error f)
  network : net.NeverCrashes

end Job

/-! ### Where a check crashes -/

/-- The replies to at most `most` attempts of which the matcher crashes on the last one. -/
inductive Fatal (net : Network) (keyword : String) (most : Nat) : List Reply → Fault → Prop
  | last (earlier : List Reply) {m : Dns.Message} {elapsed : Nat} {f : Fault} (hlt : earlier.length < most)
      (hearlier : ∀ reply ∈ earlier, reply.fails ∨ reply.Clears keyword) (hsent : net.Sends m)
      (hm : m.carries keyword = .error f) :
    Fatal net keyword most (earlier ++ [.message m elapsed]) f

theorem Fatal.cons {net : Network} {keyword : String} {left : Nat} {reply : Reply} {replies : List Reply} {f : Fault}
    (hreply : reply.fails ∨ reply.Clears keyword) (h : Fatal net keyword left replies f) :
    Fatal net keyword (left + 1) (reply :: replies) f := by
  obtain ⟨earlier, hlt, hearlier, hsent, hm⟩ := h
  exact .last (reply :: earlier) (Nat.succ_lt_succ hlt) (List.forall_mem_cons.mpr ⟨hreply, hearlier⟩) hsent hm

/-- The deeds at the resolver where a check crashes, and the surroundings that it leaves. A write to the cache crashes in
surroundings with a property. -/
inductive Breakdown (net : Network) (P : World → Prop) (p : CheckPolicy) (domain : String) (r : Resolver) :
    List Deed → World → Fault → Prop
  | matching {q : Dns.Query} {replies : List Reply} {w' : World} {f : Fault}
      (hq : Dns.Query.ofDomain domain r.recordType p.prober.payload = .ok q)
      (hf : Fatal net r.keyword (p.maxRetries + 1) replies f) :
    Breakdown net P p domain r
      (.lookup (cacheKey domain r) none :: attemptDeeds (withDefaultPort r.address) q 0 false replies) w' f
  | storing {q : Dns.Query} {replies : List Reply} {b : Bool} {w w' : World} {f : Fault}
      (hq : Dns.Query.ofDomain domain r.recordType p.prober.payload = .ok q)
      (hv : Verdict r.keyword (p.maxRetries + 1) replies b) (hw : P w)
      (hs : w.store (cacheKey domain r) (.verdict domain r.address b) = (w', some f)) :
    Breakdown net P p domain r
      (.lookup (cacheKey domain r) none :: attemptDeeds (withDefaultPort r.address) q 0 false replies) w' f

/-- The course of a check through a list of resolvers up to a crash. -/
inductive Crashing (net : Network) (P : World → Prop) (p : CheckPolicy) (domain : String) (rs : List Resolver) :
    List Deed → World → Fault → Prop
  /-- The check crashes at the resolver with index `i`, and those before it do not decide. -/
  | at (i : Nat) (hi : i < rs.length) (before : List (List Deed)) {last : List Deed} {w' : World} {f : Fault}
      (hbefore : List.Forall₂ (Failing p domain) (rs.take i) before)
      (hlast : Breakdown net P p domain rs[i] last w' f) :
    Crashing net P p domain rs (before.flatten ++ last) w' f

/-- What a check does that finds the resolvers `rs` and is not cancelled, and what it ends with. -/
inductive Course (net : Network) (P : World → Prop) (p : CheckPolicy) (raw : String) (rs : List Resolver) :
    List Deed → World → Except Fault Outcome → Prop
  | failover {ds : List Deed} {w' : World} {o : Outcome} (h : Failover p (normalize raw) rs ds o) :
    Course net P p raw rs (.resolvers rs :: ds) w' (.ok o)
  | crashing {ds : List Deed} {w' : World} {f : Fault} (h : Crashing net P p (normalize raw) rs ds w' f) :
    Course net P p raw rs (.resolvers rs :: ds) w' (.error f)
  | invalid {ds : List Deed} {w' : World} (h : isValidDomain (normalize raw) = false ∨
      ∃ r ∈ rs, ∃ e, Dns.Query.ofDomain (normalize raw) r.recordType p.prober.payload = .error e) :
    Course net P p raw rs ds w' (.ok (.failed (normalize raw) (.invalidInput (normalize raw))))

theorem Crashing.cons {net : Network} {P : World → Prop} {p : CheckPolicy} {domain : String} {r : Resolver}
    {rs : List Resolver} {block ds : List Deed} {w' : World} {f : Fault} (hr : Failing p domain r block)
    (h : Crashing net P p domain rs ds w' f) : Crashing net P p domain (r :: rs) (block ++ ds) w' f := by
  obtain ⟨i, hi, before, hbefore, hlast⟩ := h
  have hi' : i + 1 < (r :: rs).length := Nat.succ_lt_succ hi
  have := Crashing.at (i + 1) hi' (block :: before) (.cons hr hbefore) hlast
  simpa using this

namespace Job.Runs
variable {net : Network} {meanwhile : World → World → Prop} {P : World → Prop} {p : CheckPolicy} {domain : String}
  {r : Resolver} {w w' : World} {ds : List Deed} {f : Fault}

theorem exchangeOf_crash (hnet : net.NeverCrashes) {q : Dns.Query} {attempt left : Nat} {kept : Bool}
    (h : (p.exchangeOf domain r q attempt kept left).Runs net meanwhile w ds w' (.error f))
    (hnext : ∀ {w₂ ds kept} {failure : Option CheckError},
      (p.attempts domain r (attempt + 1) kept failure left).Runs net meanwhile w₂ ds w' (.error f) →
      ∃ rest, ds = attemptDeeds (withDefaultPort r.address) q (attempt + 1) failure.isSome rest ∧
        Fatal net r.keyword left rest f) :
    ∃ reply rest, ds = .exchange (withDefaultPort r.address) q reply ::
        attemptDeeds (withDefaultPort r.address) q (attempt + 1) reply.fails rest ∧
      Fatal net r.keyword (left + 1) (reply :: rest) f := by
  unfold CheckPolicy.exchangeOf at h
  cases h with
  | @exchange _ _ _ _ _ _ _ arrival reply _ ds _ _ hc ha hm ht he h =>
    cases reply with
    | message m elapsed =>
      have hsent : net.Sends m := by
        cases arrival with
        | message m' =>
          obtain rfl : m' = m := World.brings_of_endExchange he
          obtain ⟨delay, hr⟩ := Network.after_of_arrival ha (by simp)
          exact ⟨_, _, _, _, hr⟩
        | failed | timedOut | crashed => cases he
      simp only [CheckPolicy.afterReply] at h
      cases hm : m.carries r.keyword with
      | error g =>
        rw [hm] at h
        cases h
        exact ⟨_, [], rfl, .last [] (Nat.succ_pos _) (by simp) hsent hm⟩
      | ok b =>
        rw [hm] at h
        cases b with
        | true => cases h
        | false =>
          obtain ⟨rest, rfl, hfatal⟩ := hnext h
          exact ⟨_, rest, rfl, hfatal.cons (.inr hm)⟩
    | failed e | timedOut =>
      obtain ⟨rest, rfl, hfatal⟩ := hnext h
      exact ⟨_, rest, rfl, hfatal.cons (.inl rfl)⟩
    | cancelled => cases h
  | exchangeCrash _ ha _ _ he =>
    rw [World.crashed_of_endExchange he] at ha
    exact absurd ha hnet.ne_crashed
  | exchangeAborted _ _ _ h => cases h
  | withheld _ h => cases h

/-- Attempts crash only when the matcher does on the last reply. -/
theorem attempts_crash (hnet : net.NeverCrashes) {q : Dns.Query}
    (hq : Dns.Query.ofDomain domain r.recordType p.prober.payload = .ok q) {attempt : Nat} {kept : Bool}
    {failure : Option CheckError} {left : Nat}
    (h : (p.attempts domain r attempt kept failure left).Runs net meanwhile w ds w' (.error f)) :
    ∃ replies, ds = attemptDeeds (withDefaultPort r.address) q attempt failure.isSome replies ∧
      Fatal net r.keyword left replies f := by
  induction left generalizing attempt kept failure w ds with
  | zero => cases h
  | succ left ih =>
    rw [CheckPolicy.attempts_succ hq] at h
    cases failure with
    | none =>
      obtain ⟨reply, rest, rfl, hfatal⟩ := exchangeOf_crash hnet h ih
      exact ⟨reply :: rest, rfl, hfatal⟩
    | some e =>
      cases h with
      | pause _ _ _ h =>
        obtain ⟨reply, rest, rfl, hfatal⟩ := exchangeOf_crash hnet h ih
        exact ⟨reply :: rest, rfl, hfatal⟩
      | pauseAborted _ _ h => cases h

theorem against_crash (ht : Tame net meanwhile P) (hw : P w) {rs : List Resolver}
    (h : (p.against domain rs).Runs net meanwhile w ds w' (.error f)) : Crashing net P p domain rs ds w' f := by
  have hfail : ∀ {w ds e}, ¬ (CheckPolicy.fail domain e).Runs net meanwhile w ds w' (.error f) := by
    intro w ds e h
    cases h with
    | count h => cases h
  induction rs generalizing w ds with
  | nil => exact absurd h hfail
  | cons r rest ih =>
    have hhere : ∀ {ds}, Breakdown net P p domain r ds w' f → Crashing net P p domain (r :: rest) ds w' f :=
      fun hlast => .at 0 (by simp) [] .nil hlast
    rw [CheckPolicy.against_cons] at h
    cases h with
    | lookupCrash hl => exact absurd hl (ht.reads _ _ _ _ hw)
    | @lookup _ w₁ _ hit _ ds _ _ hl h =>
      have hw₁ : P w₁ := by
        have := ht.kept.lookup (cacheKey domain r) hw
        rwa [hl] at this
      cases hit with
      | some hit =>
        cases h with
        | count h => cases h
      | none =>
        cases hq : Dns.Query.ofDomain domain r.recordType p.prober.payload with
        | error e =>
          rw [CheckPolicy.attempts_of_no_query hq, Dns.Query.error_of_ofDomain hq] at h
          exact absurd h hfail
        | ok q =>
          rcases h.bind_inv with ⟨x, w₂, ds₁, ds₂, h₁, h₂, rfl⟩ | ⟨g, h₁, hg⟩
          · have hw₂ : P w₂ := h₁.keeps ht.kept ht.meanwhile hw₁
            have hheeds : (p.attempts domain r 0 false none (p.maxRetries + 1)).Heeds (fun _ => True) _ _ :=
              CheckPolicy.attempts_heeds_first p.maxRetries
            rcases hheeds.runs h₁ with hcalm | rfl
            · obtain ⟨replies, rfl, hend⟩ := attempts hq h₁ hcalm (by simp) (by simp)
              cases x with
              | ok o =>
                obtain ⟨b, rfl, hv | ⟨-, hk, -⟩⟩ := hend.verdict
                · cases h₂ with
                  | storeCrash hs =>
                    rw [List.append_nil]
                    exact hhere (.storing hq hv hw₂ hs)
                  | store _ h₂ =>
                    cases h₂ with
                    | count h₂ => cases h₂
                · cases hk
              | error e =>
                obtain ⟨he, -, hlen, hall⟩ := hend.all_fail
                simp only [CheckPolicy.afterAttemptsAt, he, if_true] at h₂
                exact (ih hw₂ h₂).cons ⟨q, replies, hq, hlen, hall, rfl⟩
            · exact absurd h₂ hfail
          · cases hg
            obtain ⟨replies, rfl, hfatal⟩ := attempts_crash ht.network hq h₁
            exact hhere (.matching hq hfatal)

/-- Without a cancellation, a check in tame surroundings takes its course. -/
theorem check_course_of_calm (ht : Tame net meanwhile P) (hw : P w) {raw : String} {x : Except Fault Outcome}
    (h : (p.check raw).Runs net meanwhile w ds w' x) (hcalm : ∀ o, x = .ok o → ∀ d ∈ ds, d.isCalm) :
    Course net P p raw w.registry.resolvers ds w' x := by
  cases x with
  | ok o =>
    rcases h.check (hcalm o rfl) with ⟨ds', rfl, hf⟩ | ⟨rfl, hinvalid⟩
    · exact .failover hf
    · exact .invalid hinvalid
  | error f =>
    cases hv : isValidDomain (normalize raw) with
    | false =>
      rw [CheckPolicy.check_of_invalid hv] at h
      cases h with
      | count h => cases h
    | true =>
      rw [CheckPolicy.check_of_valid hv] at h
      cases h with
      | resolvers h => exact .crashing (h.against_crash ht hw)

/-- A check in tame surroundings takes its course, or it was cancelled and says so. -/
theorem check_course (ht : Tame net meanwhile P) (hw : P w) {raw : String} {x : Except Fault Outcome}
    (h : (p.check raw).Runs net meanwhile w ds w' x) :
    Course net P p raw w.registry.resolvers ds w' x ∨ ∃ o, x = .ok o ∧ o.IsCancelled := by
  cases x with
  | ok o =>
    rcases (Checker.check_heeds_any p raw).runs h with hcalm | hcancelled
    · exact .inl (h.check_course_of_calm ht hw fun _ _ => hcalm)
    · exact .inr ⟨o, rfl, hcancelled⟩
  | error f => exact .inl (h.check_course_of_calm ht hw fun _ ho => nomatch ho)

end Job.Runs

/-! ### Caches that come with the checker -/

def Cache.IsStock : Cache → Prop
  | off | memory _ => True
  | plain _ | custom _ => False

namespace Cache.IsStock
variable {c c' : Cache} {key : String} {o : Outcome} {now : Nat} {f : Fault}

theorem get (h : c.IsStock) : (c.get key now).1.IsStock := by
  cases c with
  | off | memory => trivial
  | plain | custom => cases h

theorem set (h : c.IsStock) : (c.set key o now).1.IsStock := by
  cases c with
  | off | memory => trivial
  | plain | custom => cases h

theorem flush (h : c.IsStock) : c.flush.IsStock := by
  cases c with
  | off | memory => trivial
  | plain | custom => cases h

theorem get_ne_error (h : c.IsStock) : c.get key now ≠ (c', .error f) := by
  intro hget
  cases c with
  | off | memory => cases hget
  | plain | custom => cases h

theorem eq_expiryFault (h : c.IsStock) (hset : c.set key o now = (c', some f)) : f = MemoryCache.expiryFault := by
  cases c with
  | off => cases hset
  | memory m =>
    have hfault : (m.set key o now).2 = some f := congrArg Prod.snd hset
    unfold MemoryCache.set at hfault
    split at hfault
    · cases hfault
    · split at hfault
      · cases hfault
      · cases hfault; rfl
  | plain | custom => cases h

end Cache.IsStock

theorem World.kept_isStock : World.Kept (·.cache.IsStock) where
  standing {w w'} h hw := by
    have hcache : w.cache = w'.cache := congrArg (·.2.1) h
    rwa [hcache] at hw
  lookup _ hw := hw.get
  store _ _ hw := hw.set

theorem Intervention.isStock_apply (i : Intervention) {w : World} (hw : w.cache.IsStock) :
    (i.apply w).cache.IsStock := by
  cases i with
  | flush => exact hw.flush
  | cancel | upsert | delete | elapse => exact hw

theorem Cache.IsStock.tame {net : Network} (hnet : net.NeverCrashes) {meanwhile : World → World → Prop}
    (hmean : ∀ w w', meanwhile w w' → w.cache.IsStock → w'.cache.IsStock) :
    Job.Runs.Tame net meanwhile (·.cache.IsStock) where
  kept := World.kept_isStock
  meanwhile := hmean
  reads w w' key f hw hl := by
    have hget : (w.cache.get key w.cacheClock).2 = .error f := congrArg Prod.snd hl
    exact hw.get_ne_error (Prod.ext rfl hget)
  network := hnet

/-- A check with a stock cache crashes only when a server sends a record without a text, or when an outcome would expire
beyond the end of the clock. -/
theorem Course.fault_eq {net : Network} {p : CheckPolicy} {raw : String} {rs : List Resolver} {ds : List Deed}
    {w' : World} {f : Fault} (h : Course net (·.cache.IsStock) p raw rs ds w' (.error f)) :
    (f = Dns.noTextFault ∧ ∃ m, net.Sends m ∧ ∃ r ∈ m.records, r.hasText = false) ∨ f = MemoryCache.expiryFault := by
  cases h with
  | crashing h =>
    obtain ⟨i, hi, before, hbefore, hlast⟩ := h
    cases hlast with
    | matching hq hfatal =>
      obtain ⟨earlier, hlt, hearlier, hsent, hm⟩ := hfatal
      obtain ⟨hf, front, r, back, hrecords, htext, -⟩ := Dns.Message.carries_eq_error.mp hm
      exact .inl ⟨hf, _, hsent, r, by rw [hrecords]; simp, htext⟩
    | storing hq hv hw hs =>
      have hset := congrArg Prod.snd hs
      exact .inr (Cache.IsStock.eq_expiryFault hw (Prod.ext rfl hset))

namespace Checker

/-- The matcher crashes on a message from the wire exactly when it reaches a record without a text among the answers or
the authorities. So with a stock cache, and when no exchange crashes by itself, a check takes the course of a failover up
to a verdict, or up to a reply of that kind, or up to a write that the cache crashes on. The results of calls say which
of these it was. -/
theorem made_course (c : Checker) (net : Network) (call : Call) (hcache : c.world.cache.IsStock)
    (hnet : net.NeverCrashes) :
    (∀ bytes m keyword f, Dns.Wire.decode bytes = some m →
      (m.carries keyword = .error f ↔ f = Dns.noTextFault ∧ ∃ before r after,
        m.answers ++ m.authority = before ++ r :: after ∧ r.hasText = false ∧
          ∀ x ∈ before, x.Passes (Text.lower keyword.toList))) ∧
    (c.resolvers ≠ [] → c.Results net call) ∧
    ∀ raw w ds w' x, c.Made net call raw w ds w' x →
      (Course net (·.cache.IsStock) c.policy raw w.registry.resolvers ds w' x ∨ ∃ o, x = .ok o ∧ o.IsCancelled) ∧
      ∀ f, x = .error f →
        (f = Dns.noTextFault ∧ ∃ m, net.Sends m ∧ ∃ r ∈ m.records, r.hasText = false) ∨
          f = MemoryCache.expiryFault := by
  refine ⟨fun bytes m keyword f h => Dns.Wire.carries_eq_error_of_decode h keyword f, c.results net call,
    fun raw w ds w' x hmade => ?_⟩
  obtain ⟨hw, meanwhile, hmean, hruns⟩ :=
    hmade.runs World.kept_isStock (fun i w => i.isStock_apply) hcache
  have hcourse := hruns.check_course (Cache.IsStock.tame hnet hmean) hw
  refine ⟨hcourse, fun f hf => ?_⟩
  subst hf
  rcases hcourse with hcourse | ⟨o, ho, -⟩
  · exact hcourse.fault_eq
  · cases ho

end Checker

/-- A network where every answer is an extension record without a text. -/
def Network.textless : Network := fun _ q _ => .after 0 (.message (answerWith (.opt [⟨15, [0, 15]⟩]) q.question))

theorem Checker.made_course_textless :
    ((Checker.ofAddresses ["10.0.0.1"]).checkOne .textless {} "Example.COM.").2 = .error (.crash Dns.noTextFault) ∧
    ∃ ds w', Crashing .textless (·.cache.IsStock) (Checker.ofAddresses ["10.0.0.1"]).policy (normalize "Example.COM.")
      (Checker.ofAddresses ["10.0.0.1"]).resolvers ds w' Dns.noTextFault := by
  have hres : ((Checker.ofAddresses ["10.0.0.1"]).checkOne .textless {} "Example.COM.").2 =
      .error (.crash Dns.noTextFault) := by
    rw [checkOne_of_atOnce (by decide) (x := .error (.crash Dns.noTextFault)) (by decide +kernel)]
  obtain ⟨-, hresults, hmade⟩ := made_course (.ofAddresses ["10.0.0.1"]) .textless {} trivial
    (fun _ _ _ _ _ h => nomatch h)
  obtain ⟨ds, w', x, hcheck, hx⟩ := (hresults (by decide)).checkOne "Example.COM."
  refine ⟨hres, ?_⟩
  rw [hres] at hx
  cases x with
  | ok o => cases hx
  | error f =>
    cases hx
    rcases (hmade _ _ _ _ _ hcheck).1 with hcourse | ⟨o, ho, -⟩
    · cases hcourse with
      | crashing h => exact ⟨_, _, h⟩
    · cases ho

end FilterWatch
