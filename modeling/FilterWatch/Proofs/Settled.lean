import FilterWatch.Proofs.CacheKey
import FilterWatch.Proofs.Steady

/-!
# Checks with a stationary network

A network is stationary when what comes of an exchange depends on the server and on the question only. With such a
network the attempts at a resolver come to the same every time (`settledAt`), and so does a whole check
(`settledCheck`): neither says anything of a cache. `check_yields` is the main statement: a check ends with its settled
outcome in steady surroundings whose cache keeps settled verdicts, as long as no keyword has a colon. So it is with
the cache or without, and what it stores is settled again.
-/

namespace FilterWatch

/-- What comes of an exchange within a time limit depends on the server, the name and the type only. -/
def Network.Stationary (net : Network) (limit : Duration) : Prop :=
  ∀ server q q' n n', q.name = q'.name → q.type = q'.type →
    ((net server q n).arrival limit).2 = ((net server q' n').arrival limit).2

/-- A network where one server fails and every other query is answered without any record. -/
def Network.failing (server : String) : Network := fun s q _ =>
  if s = server then .after 7 (.failed noRoute) else .after 3 (.message (.answering q.question))

theorem Network.stationary_failing (server : String) (limit : Duration) : (failing server).Stationary limit := by
  intro s q q' n n' hname htype
  have hquestion : q.question = q'.question := by rw [Dns.Query.question, hname, htype]; rfl
  simp only [failing]
  split
  · rfl
  · rw [hquestion]

namespace CheckPolicy

/-- What attempts come to that all have this arrival. -/
def settledBy (domain : String) (r : Resolver) : Arrival → Except Fault (Except CheckError Outcome)
  | .message m => (m.carries r.keyword).map fun b => .ok (.verdict domain r.address b)
  | .failed e => .ok (.error (.ofIo (withDefaultPort r.address) e))
  | .timedOut => .ok (.error (.timeout (withDefaultPort r.address)))
  | .crashed f => .error f

/-- What the attempts at a resolver come to when every exchange brings what the first one brings. -/
def settledAt (p : CheckPolicy) (net : Network) (domain : String) (r : Resolver) :
    Except Fault (Except CheckError Outcome) :=
  match Dns.Query.ofDomain domain r.recordType p.prober.payload with
  | .error e => .ok (.error e)
  | .ok q => settledBy domain r ((net (withDefaultPort r.address) q 0).arrival p.prober.timeout).2

/-- What a check comes to against resolvers in failover order. -/
def settledAgainst (p : CheckPolicy) (net : Network) (domain : String) : List Resolver → Except Fault Outcome
  | [] => .ok (.failed domain .allResolversFailed)
  | r :: rest =>
    match p.settledAt net domain r with
    | .error f => .error f
    | .ok (.ok o) => .ok o
    | .ok (.error e) => if e.isRetryable then settledAgainst p net domain rest else .ok (.failed domain e)

def settledCheck (p : CheckPolicy) (net : Network) (rs : List Resolver) (raw : String) : Except Fault Outcome :=
  if isValidDomain (normalize raw) then p.settledAgainst net (normalize raw) rs
  else .ok (.failed (normalize raw) (.invalidInput (normalize raw)))

/-- An outcome under a key is settled if it is what the attempts come to for every domain and resolver with this key,
colons in keywords aside. -/
def IsSettled (p : CheckPolicy) (net : Network) (key : String) (o : Outcome) : Prop :=
  ∀ domain r, isValidDomain domain → ':' ∉ r.keyword.toList → cacheKey domain r = key →
    p.settledAt net domain r = .ok (.ok o)

variable {p : CheckPolicy} {net : Network} {domain : String} {r : Resolver}

/-- A verdict on a domain is settled under the key of the domain, for no other one has this key. -/
theorem isSettled_cacheKey (hd : isValidDomain domain) (hk : ':' ∉ r.keyword.toList) {o : Outcome}
    (h : p.settledAt net domain r = .ok (.ok o)) : p.IsSettled net (cacheKey domain r) o := by
  intro domain' r' hd' hk' hkey
  obtain ⟨rfl, rfl⟩ := eq_of_cacheKey_eq hd' hd hk' hk hkey
  exact h

section
variable {Kept : String → Outcome → Prop} {rs : List Resolver} {q : Dns.Query} {a : Arrival}

theorem exchangeOf_yields (ha : ∀ n, ((net (withDefaultPort r.address) q n).arrival p.prober.timeout).2 = a)
    {attempt left : Nat} {kept : Bool} {x : Except Fault (Except CheckError Outcome)}
    (hnext : ∀ reply, a.Brings reply → (p.afterReply domain r attempt kept left reply).Yields net Kept rs x)
    (hcrash : ∀ f, a = .crashed f → x = .error f) :
    (p.exchangeOf domain r q attempt kept left).Yields net Kept rs x := by
  refine .exchange (fun n reply hreply => hnext reply ?_) fun n f hf => hcrash f ?_
  · rwa [ha n] at hreply
  · rwa [ha n] at hf

theorem attempts_yields_clear (hq : Dns.Query.ofDomain domain r.recordType p.prober.payload = .ok q)
    {m : Dns.Message} (ha : ∀ n, ((net (withDefaultPort r.address) q n).arrival p.prober.timeout).2 = .message m)
    (hm : m.carries r.keyword = .ok false) (left : Nat) : ∀ attempt,
    (p.attempts domain r attempt true none left).Yields net Kept rs (.ok (.ok (.verdict domain r.address false))) := by
  induction left with
  | zero => exact fun _ => .done
  | succ left ih =>
    intro attempt
    rw [attempts_succ hq]
    refine exchangeOf_yields ha (fun reply hreply => ?_) (by simp)
    cases reply with
    | message m' elapsed =>
      cases hreply
      simp only [afterReply, hm]
      exact ih (attempt + 1)
    | failed | timedOut | cancelled => cases hreply

theorem attempts_yields_failed (hq : Dns.Query.ofDomain domain r.recordType p.prober.payload = .ok q)
    (ha : ∀ n, ((net (withDefaultPort r.address) q n).arrival p.prober.timeout).2 = a) {e : CheckError}
    (hnext : ∀ reply, a.Brings reply → ∀ attempt left,
      p.afterReply domain r attempt false left reply = p.attempts domain r (attempt + 1) false (some e) left)
    (hcrash : ∀ f, a ≠ .crashed f) (left : Nat) : ∀ attempt failure, (left = 0 → failure = some e) →
    (p.attempts domain r attempt false failure left).Yields net Kept rs (.ok (.error e)) := by
  induction left with
  | zero =>
    intro attempt failure hfailure
    rw [hfailure rfl]
    exact .done
  | succ left ih =>
    intro attempt failure _
    have hyields : (p.exchangeOf domain r q attempt false left).Yields net Kept rs (.ok (.error e)) := by
      refine exchangeOf_yields ha (fun reply hreply => ?_) fun f hf => absurd hf (hcrash f)
      rw [hnext reply hreply]
      exact ih (attempt + 1) (some e) fun _ => rfl
    rw [attempts_succ hq]
    cases failure with
    | none => exact hyields
    | some e' => exact .pause hyields

theorem attempts_yields_settledBy (hq : Dns.Query.ofDomain domain r.recordType p.prober.payload = .ok q)
    (ha : ∀ n, ((net (withDefaultPort r.address) q n).arrival p.prober.timeout).2 = a) (left : Nat) :
    (p.attempts domain r 0 false none (left + 1)).Yields net Kept rs (settledBy domain r a) := by
  cases a with
  | message m =>
    rw [attempts_succ hq]
    refine exchangeOf_yields ha (fun reply hreply => ?_) (by simp)
    cases reply with
    | message m' elapsed =>
      cases hreply
      simp only [afterReply, settledBy]
      rcases hm : m.carries r.keyword with f | _ | _
      · exact .crash
      · exact attempts_yields_clear hq ha hm _ _
      · exact .done
    | failed | timedOut | cancelled => cases hreply
  | failed e =>
    refine attempts_yields_failed hq ha (fun reply hreply => ?_) (by simp) _ _ _ (by simp)
    cases reply with
    | failed e' => cases hreply; exact fun _ _ => rfl
    | message | timedOut | cancelled => cases hreply
  | timedOut =>
    refine attempts_yields_failed hq ha (fun reply hreply => ?_) (by simp) _ _ _ (by simp)
    cases reply with
    | timedOut => exact fun _ _ => rfl
    | message | failed | cancelled => cases hreply
  | crashed f =>
    rw [attempts_succ hq]
    refine exchangeOf_yields ha (fun reply hreply => ?_) fun f' hf => ?_
    · cases reply <;> cases hreply
    · cases hf; rfl

theorem attempts_yields (hnet : net.Stationary p.prober.timeout) :
    (p.attempts domain r 0 false none (p.maxRetries + 1)).Yields net Kept rs (p.settledAt net domain r) := by
  unfold settledAt
  cases hq : Dns.Query.ofDomain domain r.recordType p.prober.payload with
  | error e => rw [attempts_of_no_query hq]; exact .done
  | ok q => exact attempts_yields_settledBy hq (fun n => hnet _ q q n 0 rfl rfl) _

end

/-- A check against resolvers ends with `x`, if it comes to that without a cache and each outcome that may be kept under
the key of a resolver is `x` or what the resolver comes to. -/
theorem against_yields_of (hnet : net.Stationary p.prober.timeout) {Kept : String → Outcome → Prop}
    {current rs : List Resolver} {x : Except Fault Outcome} (hx : p.settledAgainst net domain rs = x)
    (hhit : ∀ r ∈ rs, ∀ o, Kept (cacheKey domain r) o → x = .ok o ∨ p.settledAt net domain r = .ok (.ok o))
    (hstore : ∀ r ∈ rs, ∀ o, p.settledAt net domain r = .ok (.ok o) → x = .ok o → Kept (cacheKey domain r) o) :
    (p.against domain rs).Yields net Kept current x := by
  induction rs with
  | nil =>
    subst hx
    exact .count .done
  | cons r rest ih =>
    obtain ⟨hhit, hhits⟩ := List.forall_mem_cons.mp hhit
    obtain ⟨hstore, hstores⟩ := List.forall_mem_cons.mp hstore
    rw [settledAgainst] at hx
    -- an entry that is found is the outcome, so the check ends alike with it and without it
    rw [against_cons]
    refine .lookup ((attempts_yields hnet).bind (fun a ha => ?_) (fun f hf => ?_)) fun o ho => ?_
    · rw [ha] at hx
      cases a with
      | ok o =>
        subst hx
        exact .store (hstore o ha rfl) (.count .done)
      | error e =>
        simp only [afterAttemptsAt]
        split
        · rename_i he
          exact ih (by simpa only [he, if_true] using hx) hhits hstores
        · rename_i he
          simp only [he] at hx
          subst hx
          exact .count .done
    · rw [hf] at hx
      exact hx.symm
    · rcases hhit o ho with rfl | hat
      · exact .count .done
      · rw [hat] at hx
        subst hx
        exact .count .done

theorem against_yields (hnet : net.Stationary p.prober.timeout) (hd : isValidDomain domain)
    {current rs : List Resolver} (hk : ∀ r ∈ rs, ':' ∉ r.keyword.toList) :
    (p.against domain rs).Yields net (p.IsSettled net) current (p.settledAgainst net domain rs) :=
  against_yields_of hnet rfl (fun r hr _ ho => .inr (ho domain r hd (hk r hr) rfl))
    fun r hr _ h _ => isSettled_cacheKey hd (hk r hr) h

/-- A check ends with what it comes to, whichever settled verdicts it finds in the cache. -/
theorem check_yields (hnet : net.Stationary p.prober.timeout) {rs : List Resolver}
    (hk : ∀ r ∈ rs, ':' ∉ r.keyword.toList) (raw : String) :
    (p.check raw).Yields net (p.IsSettled net) rs (p.settledCheck net rs raw) := by
  unfold settledCheck
  cases hv : isValidDomain (normalize raw) with
  | true =>
    rw [check_of_valid hv]
    exact .resolvers (against_yields hnet hv hk)
  | false =>
    rw [check_of_invalid hv]
    exact .count .done

end CheckPolicy
end FilterWatch
