import FilterWatch.Proofs.Advance
import FilterWatch.Proofs.Failover
import FilterWatch.Proofs.MemoryCache

/-!
# Jobs that heed the caller

A job heeds the caller if it does nothing more than count and end when an exchange or a pause was broken off, and then
ends with a result that says so (`Job.Quits`). `Job.Heeds` says this of every wait of a job, and of what it does
otherwise: it stores nothing but outcomes that may be kept, and has a result of another kind. Checks and probes heed
the caller (`check_heeds`, `health_heeds`), as long as the cache hands out only what it may keep (`Cache.Hands`).
-/

namespace FilterWatch

/-! ### What caches hand out -/

/-- The outcomes that the cache hands out have a property, as long as those that it is told have it. -/
def Cache.Hands (P : Outcome → Prop) : Cache → Prop
  | .off => True
  | .memory m => m.All fun _ e => P e.outcome
  | .plain c => ∀ e ∈ c.entries, P e.2
  | .custom c => ∀ later, (∀ key o now, .set key o now ∈ later → P o) →
      ∀ key now o, c.answer (later ++ c.calls) key now = .ok (some o) → P o

namespace Cache
variable {P : Outcome → Prop} {c : Cache}

theorem hands_true (c : Cache) : c.Hands fun _ => True := by
  cases c with
  | off => trivial
  | memory => exact fun _ _ _ => trivial
  | plain => exact fun _ _ => trivial
  | custom => exact fun _ _ _ _ _ _ => trivial

theorem Hands.of_get {key : String} {now : Nat} {o : Outcome} (h : c.Hands P)
    (hget : (c.get key now).2 = .ok (some o)) : P o := by
  cases c with
  | off => cases hget
  | memory m =>
    obtain ⟨e, hf, -, rfl⟩ := MemoryCache.get_eq_some.mp (Except.ok.inj hget)
    exact h key e hf
  | plain c =>
    have hlookup : c.entries.lookup key = some o := by
      simp only [Cache.get, PlainCache.get] at hget
      split at hget
      · cases hget
      · exact Except.ok.inj hget
    obtain ⟨before, after, hentries, -⟩ := List.lookup_eq_some_iff.mp hlookup
    exact h (key, o) (by simp [hentries])
  | custom c => exact h [] (by simp) key now o hget

theorem Hands.call {c : CustomCache} (call : CacheCall) (hcall : ∀ key o now, call = .set key o now → P o)
    (h : (custom c).Hands P) : (custom { c with calls := call :: c.calls }).Hands P := by
  intro later hlater key now o hanswer
  refine h (later ++ [call]) (fun k o' t hmem => ?_) key now o ?_
  · rcases List.mem_append.mp hmem with hmem | hmem
    · exact hlater k o' t hmem
    · exact hcall k o' t (List.mem_singleton.mp hmem).symm
  · rwa [List.append_assoc]

theorem Hands.get (key : String) (now : Nat) (h : c.Hands P) : (c.get key now).1.Hands P := by
  cases c with
  | off => trivial
  | memory m => exact MemoryCache.All.get h
  | plain c => exact h
  | custom c => exact h.call _ (by simp)

theorem Hands.set (key : String) {o : Outcome} (now : Nat) (ho : P o) (h : c.Hands P) :
    (c.set key o now).1.Hands P := by
  cases c with
  | off => trivial
  | memory m => exact MemoryCache.All.set h ho
  | plain c =>
    intro e he
    simp only [PlainCache.set] at he
    split at he
    · exact h e he
    · rcases List.mem_cons.mp he with rfl | he
      · exact ho
      · exact h e (List.mem_filter.mp he).1
  | custom c =>
    refine h.call _ fun k o' t hset => ?_
    cases hset
    exact ho

theorem Hands.flush (h : c.Hands P) : c.flush.Hands P := by
  cases c with
  | off => trivial
  | memory m => exact MemoryCache.All.flush
  | plain c => exact fun e he => absurd he List.not_mem_nil
  | custom c => exact h.call _ (by simp)

end Cache

/-! ### Jobs -/

section
variable {α β : Type}

/-- The job counts at most, and ends with such a result. -/
inductive Job.Quits (C : α → Prop) : Job α → Prop
  | done {a} (h : C a) : Quits C (.done a)
  | count {t next} (h : Quits C next) : Quits C (.count t next)

/-- The job quits with a result in `C` when a wait is broken off. Otherwise it stores only what may be kept and ends
with a result in `Q`, if what it finds in the cache may be kept. -/
inductive Job.Heeds (Kept : Outcome → Prop) (Q C : α → Prop) : Job α → Prop
  | done {a} (h : Q a) : Heeds Kept Q C (.done a)
  | crash {f} : Heeds Kept Q C (.crash f)
  | resolvers {next} (h : ∀ rs, Heeds Kept Q C (next rs)) : Heeds Kept Q C (.resolvers next)
  | lookup {key next} (hmiss : Heeds Kept Q C (next none)) (hhit : ∀ o, Kept o → Heeds Kept Q C (next (some o))) :
    Heeds Kept Q C (.lookup key next)
  | store {key o next} (hkept : Kept o) (h : Heeds Kept Q C next) : Heeds Kept Q C (.store key o next)
  | count {t next} (h : Heeds Kept Q C next) : Heeds Kept Q C (.count t next)
  | exchange {limit server q next} (hquit : (next .cancelled).Quits C)
      (h : ∀ reply, reply ≠ .cancelled → Heeds Kept Q C (next reply)) :
    Heeds Kept Q C (.exchange limit server q next)
  | pause {d next} (hquit : (next false).Quits C) (h : Heeds Kept Q C (next true)) : Heeds Kept Q C (.pause d next)

/-- The job stores nothing before its first wait. -/
inductive Job.AsksFirst : Job α → Prop
  | done {a} : AsksFirst (.done a)
  | crash {f} : AsksFirst (.crash f)
  | resolvers {next} (h : ∀ rs, AsksFirst (next rs)) : AsksFirst (.resolvers next)
  | lookup {key next} (h : ∀ hit, AsksFirst (next hit)) : AsksFirst (.lookup key next)
  | count {t next} (h : AsksFirst next) : AsksFirst (.count t next)
  | exchange {limit server q next} : AsksFirst (.exchange limit server q next)
  | pause {d next} : AsksFirst (.pause d next)

theorem Job.Quits.bind {D : α → Prop} {C : β → Prop} {j : Job α} {f : α → Job β} (hj : j.Quits D)
    (hf : ∀ a, D a → (f a).Quits C) : (j.bind f).Quits C := by
  induction hj with
  | done h => exact hf _ h
  | count _ ih => exact .count ih

theorem Job.Heeds.mono {Kept : Outcome → Prop} {Q R C : α → Prop} {j : Job α} (hj : j.Heeds Kept Q C)
    (hQ : ∀ a, Q a → R a) : j.Heeds Kept R C := by
  induction hj with
  | done h => exact .done (hQ _ h)
  | crash => exact .crash
  | resolvers _ ih => exact .resolvers ih
  | lookup _ _ ihmiss ihhit => exact .lookup ihmiss ihhit
  | store hkept _ ih => exact .store hkept ih
  | count _ ih => exact .count ih
  | exchange hq _ ih => exact .exchange hq ih
  | pause hq _ ih => exact .pause hq ih

theorem Job.Heeds.bind {Kept : Outcome → Prop} {R D : α → Prop} {Q C : β → Prop} {j : Job α} {f : α → Job β}
    (hj : j.Heeds Kept R D) (hf : ∀ a, R a → (f a).Heeds Kept Q C) (hquit : ∀ a, D a → (f a).Quits C) :
    (j.bind f).Heeds Kept Q C := by
  induction hj with
  | done h => exact hf _ h
  | crash => exact .crash
  | resolvers _ ih => exact .resolvers ih
  | lookup _ _ ihmiss ihhit => exact .lookup ihmiss ihhit
  | store hkept _ ih => exact .store hkept ih
  | count _ ih => exact .count ih
  | exchange hq _ ih => exact .exchange (hq.bind hquit) ih
  | pause hq _ ih => exact .pause (hq.bind hquit) ih

end

/-! ### Checks and probes -/

theorem CheckError.ofIo_ne_cancelled (server : String) (e : IoError) : ofIo server e ≠ cancelled := by
  unfold ofIo
  split <;> simp

theorem CheckError.ofFault_ne_cancelled (f : Fault) : ofFault f ≠ cancelled := by simp [ofFault]

namespace CheckPolicy
variable {Kept : Outcome → Prop} {p : CheckPolicy} {domain : String} {r : Resolver}

/-- What the attempts at a resolver may come to when they are not broken off: its verdict, or one of three errors. -/
def Settles (domain : String) (r : Resolver) : Except CheckError Outcome → Prop
  | .ok o => ∃ blocked, o = .verdict domain r.address blocked
  | .error e => e.isRetryable ∨ e = .invalidInput domain ∨ e = .allResolversFailed

theorem attempts_heeds {q : Dns.Query} (hq : Dns.Query.ofDomain domain r.recordType p.prober.payload = .ok q)
    (left : Nat) : ∀ attempt clear failure, (∀ e ∈ failure, e.isRetryable) →
      (p.attempts domain r attempt clear failure left).Heeds Kept
        (fun x => Settles domain r x ∧ x ≠ .error (.invalidInput domain)) (· = .error .cancelled) := by
  induction left with
  | zero =>
    intro attempt clear failure hfailure
    refine .done ?_
    cases clear with
    | true => exact ⟨⟨false, rfl⟩, by simp [afterAttempts]⟩
    | false =>
      cases failure with
      | none => exact ⟨.inr (.inr rfl), by simp [afterAttempts]⟩
      | some e =>
        refine ⟨.inl (hfailure e rfl), fun he => ?_⟩
        have hretry := hfailure e rfl
        cases he
        cases hretry
  | succ left ih =>
    intro attempt clear failure hfailure
    have hexchange : (p.exchangeOf domain r q attempt clear left).Heeds Kept
        (fun x => Settles domain r x ∧ x ≠ .error (.invalidInput domain)) (· = .error .cancelled) := by
      refine .exchange (.done rfl) fun reply hreply => ?_
      cases reply with
      | message m elapsed =>
        simp only [afterReply]
        rcases m.carries r.keyword with f | _ | _
        · exact .crash
        · exact ih _ _ _ (by simp)
        · exact .done ⟨⟨true, rfl⟩, by simp⟩
      | failed e => exact ih _ _ _ (by simp [CheckError.isRetryable_ofIo])
      | timedOut => exact ih _ _ _ (by simp [CheckError.isRetryable])
      | cancelled => exact absurd rfl hreply
    rw [attempts_succ hq]
    cases failure with
    | none => exact hexchange
    | some e => exact .pause (.done rfl) hexchange

theorem attempts_heeds_first (left : Nat) :
    (p.attempts domain r 0 false none (left + 1)).Heeds Kept
      (fun x => Settles domain r x ∧ (x = .error (.invalidInput domain) →
        ∃ e, Dns.Query.ofDomain domain r.recordType p.prober.payload = .error e)) (· = .error .cancelled) := by
  cases hq : Dns.Query.ofDomain domain r.recordType p.prober.payload with
  | ok q => exact (attempts_heeds hq _ _ _ _ (by simp)).mono fun x hx => ⟨hx.1, fun h => absurd h hx.2⟩
  | error e =>
    rw [attempts_of_no_query hq]
    refine .done ?_
    rw [Dns.Query.error_of_ofDomain hq]
    exact ⟨.inr (.inl rfl), fun _ => ⟨_, rfl⟩⟩

variable {Q C : Outcome → Prop}

theorem against_heeds_of {rs : List Resolver} (hverdict : ∀ r ∈ rs, ∀ b, Kept (.verdict domain r.address b))
    (hQ : ∀ o, Kept o → Q o) (hinvalid : ∀ r ∈ rs, ∀ e, Dns.Query.ofDomain domain r.recordType p.prober.payload =
      .error e → Q (.failed domain (.invalidInput domain)))
    (hexhausted : Q (.failed domain .allResolversFailed)) (hC : C (.failed domain .cancelled)) :
    (p.against domain rs).Heeds Kept Q C := by
  induction rs with
  | nil => exact .count (.done hexhausted)
  | cons r rest ih =>
    obtain ⟨hr, hrest⟩ := List.forall_mem_cons.mp hverdict
    obtain ⟨hinvalidHere, hinvalidRest⟩ := List.forall_mem_cons.mp hinvalid
    rw [against_cons]
    refine .lookup ((attempts_heeds_first _).bind (fun x hx => ?_) fun x hx => ?_) fun o ho => .count (.done (hQ o ho))
    · obtain ⟨hx, hquery⟩ := hx
      cases x with
      | ok o =>
        obtain ⟨b, rfl⟩ := hx
        exact .store (hr b) (.count (.done (hQ _ (hr b))))
      | error e =>
        simp only [afterAttemptsAt]
        split
        · exact ih hrest hinvalidRest
        · rename_i hfinal
          rcases hx with hx | rfl | rfl
          · exact absurd hx hfinal
          · obtain ⟨e, he⟩ := hquery rfl
            exact .count (.done (hinvalidHere e he))
          · exact .count (.done hexhausted)
    · subst hx
      exact .count (.done hC)

theorem against_heeds {rs : List Resolver} (hverdict : ∀ r ∈ rs, ∀ b, Kept (.verdict domain r.address b))
    (hQ : ∀ o, Kept o → Q o) (hinvalid : Q (.failed domain (.invalidInput domain)))
    (hexhausted : Q (.failed domain .allResolversFailed)) (hC : C (.failed domain .cancelled)) :
    (p.against domain rs).Heeds Kept Q C :=
  against_heeds_of hverdict hQ (fun _ _ _ _ => hinvalid) hexhausted hC

theorem check_heeds (hverdict : ∀ d address b, Kept (.verdict d address b)) (hQ : ∀ o, Kept o → Q o)
    (hfail : ∀ d e, e ≠ .cancelled → Q (.failed d e)) (hC : ∀ d, C (.failed d .cancelled)) (raw : String) :
    (p.check raw).Heeds Kept Q C := by
  cases hv : isValidDomain (normalize raw) with
  | true =>
    rw [check_of_valid hv]
    exact .resolvers fun rs => against_heeds (fun r _ => hverdict _ r.address) hQ (hfail _ _ (by simp))
      (hfail _ _ (by simp)) (hC _)
  | false =>
    rw [check_of_invalid hv]
    exact .count (.done (hfail _ _ (by simp)))

theorem against_asksFirst (rs : List Resolver) : (p.against domain rs).AsksFirst := by
  induction rs with
  | nil => exact .count .done
  | cons r rest ih =>
    rw [against_cons]
    refine .lookup fun hit => ?_
    cases hit with
    | some o => exact .count .done
    | none =>
      cases hq : Dns.Query.ofDomain domain r.recordType p.prober.payload with
      | ok q =>
        rw [attempts_succ hq]
        exact .exchange
      | error e =>
        rw [attempts_of_no_query hq, Dns.Query.error_of_ofDomain hq]
        exact .count .done

theorem check_asksFirst (raw : String) : (p.check raw).AsksFirst := by
  cases hv : isValidDomain (normalize raw) with
  | true =>
    rw [check_of_valid hv]
    exact .resolvers against_asksFirst
  | false =>
    rw [check_of_invalid hv]
    exact .count .done

end CheckPolicy

theorem Prober.health_heeds (Kept : Outcome → Prop) (p : Prober) (r : Resolver) :
    (p.health r).Heeds Kept (fun h => h.error ≠ some .cancelled) (fun h => h.error = some .cancelled) := by
  unfold health ask
  cases hq : Dns.Query.ofDomain healthProbeDomain .a p.payload with
  | error e =>
    rw [Dns.Query.error_of_ofDomain hq]
    exact .done (by simp [healthOf, Health.failed])
  | ok q =>
    refine .exchange (.done rfl) fun reply hreply => .done ?_
    cases reply with
    | message m elapsed =>
      simp only [verdict, healthOf]
      split <;> simp [Health.isOnline, Health.failed]
    | failed e => simpa [verdict, healthOf, Health.failed] using CheckError.ofIo_ne_cancelled _ _
    | timedOut => simp [verdict, healthOf, Health.failed]
    | cancelled => exact absurd rfl hreply

end FilterWatch
