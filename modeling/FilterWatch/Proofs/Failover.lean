import FilterWatch.Proofs.Attempts
import FilterWatch.Proofs.Course
import Mathlib.Data.List.Forall2

/-!
# Failover

The course of a check through the list of resolvers. At each resolver the cache is asked first. `Failing` is a
resolver whose entry is missing and whose attempts all fail; `Deciding` is one whose entry is found or whose attempts
reach a verdict, which is then stored. `Failover` puts them in order: a check is decided by the first resolver that is
not failing, and nothing is done about the resolvers behind it. Every check of one domain that is not cancelled and
does not crash takes such a course.
-/

namespace FilterWatch

/-- The deeds at a resolver that does not decide a check. -/
def Failing (p : CheckPolicy) (domain : String) (r : Resolver) (ds : List Deed) : Prop :=
  ∃ q replies, Dns.Query.ofDomain domain r.recordType p.prober.payload = .ok q ∧
    replies.length = p.maxRetries + 1 ∧ (∀ reply ∈ replies, reply.fails) ∧
    ds = .lookup (cacheKey domain r) none :: attemptDeeds (withDefaultPort r.address) q 0 false replies

/-- The deeds at the resolver that decides a check, and the outcome. -/
inductive Deciding (p : CheckPolicy) (domain : String) (r : Resolver) : List Deed → Outcome → Prop
  | hit (o : Outcome) : Deciding p domain r [.lookup (cacheKey domain r) (some o), .count .cached] o
  | verdict {q : Dns.Query} {replies : List Reply} {b : Bool}
      (hq : Dns.Query.ofDomain domain r.recordType p.prober.payload = .ok q)
      (hv : Verdict r.keyword (p.maxRetries + 1) replies b) :
    Deciding p domain r
      (.lookup (cacheKey domain r) none :: attemptDeeds (withDefaultPort r.address) q 0 false replies ++
        [.store (cacheKey domain r) (.verdict domain r.address b), .count (.check b false)])
      (.verdict domain r.address b)

/-- The course of a check through a list of resolvers, and the outcome. -/
inductive Failover (p : CheckPolicy) (domain : String) (rs : List Resolver) : List Deed → Outcome → Prop
  | decided (i : Nat) (hi : i < rs.length) (before : List (List Deed)) {last : List Deed} {o : Outcome}
      (hbefore : List.Forall₂ (Failing p domain) (rs.take i) before) (hlast : Deciding p domain rs[i] last o) :
    Failover p domain rs (before.flatten ++ last) o
  | exhausted (all : List (List Deed)) (hall : List.Forall₂ (Failing p domain) rs all) :
    Failover p domain rs (all.flatten ++ [.count (.check false true)]) (.failed domain .allResolversFailed)

theorem Failover.cons {p : CheckPolicy} {domain : String} {r : Resolver} {rs : List Resolver} {block ds : List Deed}
    {o : Outcome} (hr : Failing p domain r block) (h : Failover p domain rs ds o) :
    Failover p domain (r :: rs) (block ++ ds) o := by
  cases h with
  | @decided i hi before last _ hbefore hlast =>
    have hi' : i + 1 < (r :: rs).length := Nat.succ_lt_succ hi
    have := Failover.decided (i + 1) hi' (block :: before) (.cons hr hbefore) hlast
    simpa using this
  | exhausted all hall =>
    have := Failover.exhausted (block :: all) (.cons hr hall)
    simpa using this

namespace CheckPolicy
variable {p : CheckPolicy} {domain : String} {r : Resolver} {rest : List Resolver}

/-- How a check goes on after the attempts at a resolver. -/
def afterAttemptsAt (p : CheckPolicy) (domain : String) (r : Resolver) (rest : List Resolver) :
    Except CheckError Outcome → Job Outcome
  | .ok o => .store (cacheKey domain r) o (.count (.check o.blocked false) (.done o))
  | .error e => if e.isRetryable then p.against domain rest else fail domain e

theorem against_cons : p.against domain (r :: rest) = .lookup (cacheKey domain r) fun
    | some o => .count .cached (.done o)
    | none => (p.attempts domain r 0 false none (p.maxRetries + 1)).bind (p.afterAttemptsAt domain r rest) := rfl

theorem check_of_valid {raw : String} (h : isValidDomain (normalize raw)) :
    p.check raw = .resolvers (p.against (normalize raw)) := by
  unfold check
  simp only [h, Bool.not_true, Bool.false_eq_true, if_false]
  rfl

theorem check_of_invalid {raw : String} (h : isValidDomain (normalize raw) = false) :
    p.check raw = fail (normalize raw) (.invalidInput (normalize raw)) := by
  unfold check
  simp only [h, Bool.not_false, if_true]

end CheckPolicy

namespace Job.Runs
variable {net : Network} {meanwhile : World → World → Prop} {p : CheckPolicy} {domain : String} {w w' : World}
  {ds : List Deed} {o : Outcome}

theorem fail_inv {e : CheckError} (h : (CheckPolicy.fail domain e).Runs net meanwhile w ds w' (.ok o)) :
    ds = [.count (.check false true)] ∧ o = .failed domain e := by
  cases h with
  | count h => cases h; exact ⟨rfl, rfl⟩

/-- What a check does at one resolver, when there is no cancellation and the domain can be asked for: the resolver
decides, or it fails and the check goes on with the others. -/
theorem against_cons {r : Resolver} {rest : List Resolver} {q : Dns.Query}
    (hq : Dns.Query.ofDomain domain r.recordType p.prober.payload = .ok q)
    (h : (p.against domain (r :: rest)).Runs net meanwhile w ds w' (.ok o)) (hcalm : ∀ d ∈ ds, d.isCalm) :
    Deciding p domain r ds o ∨ ∃ block ds' w₁, ds = block ++ ds' ∧ Failing p domain r block ∧
      (p.against domain rest).Runs net meanwhile w₁ ds' w' (.ok o) := by
  rw [CheckPolicy.against_cons] at h
  cases h with
  | @lookup _ w₁ _ hit _ ds _ _ _ h =>
    have htail := (List.forall_mem_cons.mp hcalm).2
    cases hit with
    | some hit =>
      cases h with
      | count h => cases h; exact .inl (.hit o)
    | none =>
      obtain ⟨x, w₂, ds₁, ds₂, h₁, h₂, rfl⟩ := h.bind_ok
      obtain ⟨replies, rfl, hend⟩ := attempts hq h₁ (fun d hd => htail d (List.mem_append_left _ hd))
        (by simp) (by simp)
      cases x with
      | ok o' =>
        obtain ⟨b, rfl, hv | ⟨-, hk, -⟩⟩ := hend.verdict
        · cases h₂ with
          | store _ h₂ =>
            cases h₂ with
            | count h₂ => cases h₂; exact .inl (.verdict hq hv)
        · cases hk
      | error e =>
        obtain ⟨he, -, hlen, hall⟩ := hend.all_fail
        simp only [CheckPolicy.afterAttemptsAt, he, if_true] at h₂
        exact .inr ⟨_, ds₂, w₂, rfl, ⟨q, replies, hq, hlen, hall, rfl⟩, h₂⟩

theorem against_cons_of_no_query {r : Resolver} {rest : List Resolver} {e : CheckError}
    (he : Dns.Query.ofDomain domain r.recordType p.prober.payload = .error e)
    (h : (p.against domain (r :: rest)).Runs net meanwhile w ds w' (.ok o)) :
    Deciding p domain r ds o ∨ o = .failed domain e := by
  rw [CheckPolicy.against_cons] at h
  cases h with
  | @lookup _ w₁ _ hit _ ds _ _ _ h =>
    cases hit with
    | some hit =>
      cases h with
      | count h => cases h; exact .inl (.hit o)
    | none =>
      have hfinal : e.isRetryable = false := by rw [Dns.Query.error_of_ofDomain he]; rfl
      rw [CheckPolicy.attempts_of_no_query he] at h
      simp only [bind, CheckPolicy.afterAttemptsAt, hfinal, Bool.false_eq_true, if_false] at h
      exact .inr (fail_inv h).2

/-- Without cancellation, a check against resolvers takes the course of a failover, unless the domain cannot be
asked for. -/
theorem against {rs : List Resolver} (h : (p.against domain rs).Runs net meanwhile w ds w' (.ok o))
    (hcalm : ∀ d ∈ ds, d.isCalm) : Failover p domain rs ds o ∨
      ∃ r ∈ rs, ∃ e, Dns.Query.ofDomain domain r.recordType p.prober.payload = .error e ∧ o = .failed domain e := by
  induction rs generalizing w ds with
  | nil =>
    obtain ⟨rfl, rfl⟩ := fail_inv h
    exact .inl (.exhausted [] .nil)
  | cons r rest ih =>
    have hdecided : Deciding p domain r ds o → Failover p domain (r :: rest) ds o :=
      fun hlast => .decided 0 (by simp) [] .nil hlast
    cases hq : Dns.Query.ofDomain domain r.recordType p.prober.payload with
    | error e =>
      rcases against_cons_of_no_query hq h with hlast | rfl
      · exact .inl (hdecided hlast)
      · exact .inr ⟨r, .head _, e, hq, rfl⟩
    | ok q =>
      rcases against_cons hq h hcalm with hlast | ⟨block, ds', w₁, rfl, hblock, h'⟩
      · exact .inl (hdecided hlast)
      · rcases ih h' (fun d hd => hcalm d (List.mem_append_right _ hd)) with hf | ⟨r', hr', hfail⟩
        · exact .inl (hf.cons hblock)
        · exact .inr ⟨r', .tail _ hr', hfail⟩

theorem check {raw : String} (h : (p.check raw).Runs net meanwhile w ds w' (.ok o)) (hcalm : ∀ d ∈ ds, d.isCalm) :
    (∃ ds', ds = .resolvers w.registry.resolvers :: ds' ∧
      Failover p (normalize raw) w.registry.resolvers ds' o) ∨
    o = .failed (normalize raw) (.invalidInput (normalize raw)) ∧ (isValidDomain (normalize raw) = false ∨
      ∃ r ∈ w.registry.resolvers, ∃ e,
        Dns.Query.ofDomain (normalize raw) r.recordType p.prober.payload = .error e) := by
  cases hv : isValidDomain (normalize raw) with
  | false =>
    rw [CheckPolicy.check_of_invalid hv] at h
    exact .inr ⟨h.fail_inv.2, .inl rfl⟩
  | true =>
    rw [CheckPolicy.check_of_valid hv] at h
    cases h with
    | resolvers h =>
      rcases h.against (List.forall_mem_cons.mp hcalm).2 with hf | ⟨r, hr, e, he, ho⟩
      · exact .inl ⟨_, rfl, hf⟩
      · rw [Dns.Query.error_of_ofDomain he] at ho
        exact .inr ⟨ho, .inr ⟨r, hr, e, he⟩⟩

end Job.Runs

/-! ### Checks of one domain -/

section
variable {c : Checker} {net : Network} {call : Call} {raw : String}

theorem Checker.checkOne_eq (h : c.resolvers ≠ []) : c.checkOne net call raw =
    ({ c with world := (runCall net call (c.policy.check raw) c.world).1 },
      (runCall net call (c.policy.check raw) c.world).2.mapError .crash) := by
  simp only [checkOne, isEmpty_of_ne h, Bool.false_eq_true, if_false]

theorem Checker.checkOne_world (h : c.resolvers ≠ []) :
    (c.checkOne net call raw).1.world = (runCall net call (c.policy.check raw) c.world).1 := by
  rw [checkOne_eq h]

theorem Checker.checkOne_eq_ok (h : c.resolvers ≠ []) {o : Outcome} :
    (c.checkOne net call raw).2 = .ok o ↔ (runCall net call (c.policy.check raw) c.world).2 = .ok o := by
  rw [checkOne_eq h]
  cases (runCall net call (c.policy.check raw) c.world).2 <;> simp [Except.mapError]

theorem Checker.resolvers_ne_nil {o : Outcome} (h : (c.checkOne net call raw).2 = .ok o) : c.resolvers ≠ [] := by
  intro hne
  rw [(calls_of_empty net call hne).1] at h
  cases h

theorem Checker.checkOne_runs {o : Outcome} (h : (c.checkOne net call raw).2 = .ok o) : ∃ ds,
    (c.policy.check raw).Runs net (World.Intervened (call.agendaFrom c.world)) (call.world c.world) ds
      (c.checkOne net call raw).1.world (.ok o) := by
  have hne := resolvers_ne_nil h
  obtain ⟨ds, hruns⟩ := runCall_runs net call (c.policy.check raw) c.world
  rw [(checkOne_eq_ok hne).mp h] at hruns
  rw [checkOne_world hne]
  exact ⟨ds, hruns⟩

theorem Checker.checkOne_inv (hcall : call.IsCalm) {o : Outcome} (h : (c.checkOne net call raw).2 = .ok o) :
    (∃ ds, (c.policy.check raw).Runs net (World.Intervened (call.agendaFrom c.world)) (call.world c.world)
        (.resolvers c.resolvers :: ds) (c.checkOne net call raw).1.world (.ok o) ∧
      Failover c.policy (normalize raw) c.resolvers ds o) ∨
    o = .failed (normalize raw) (.invalidInput (normalize raw)) ∧ (isValidDomain (normalize raw) = false ∨
      ∃ r ∈ c.resolvers, ∃ e,
        Dns.Query.ofDomain (normalize raw) r.recordType c.policy.prober.payload = .error e) := by
  obtain ⟨ds, hruns⟩ := checkOne_runs h
  rcases hruns.check (hruns.calm (fun _ _ => hcall.cancelled) hcall.1) with ⟨ds', rfl, hf⟩ | hinvalid
  · exact .inl ⟨ds', hruns, hf⟩
  · exact .inr hinvalid

/-- A check that never waits: the checker after it, and its result. -/
def Checker.atOnce (c : Checker) (net : Network) (call : Call) (raw : String) :
    Checker × Option (Except CallFailure Outcome) :=
  ({ c with world := (Slot.advance net (c.policy.check raw) (call.world c.world)).1 },
    (Slot.advance net (c.policy.check raw) (call.world c.world)).2.ended?.map (·.mapError .crash))

theorem Checker.checkOne_of_atOnce (hne : c.resolvers ≠ []) {x : Except CallFailure Outcome}
    (h : (c.atOnce net call raw).2 = some x) : c.checkOne net call raw = ((c.atOnce net call raw).1, x) := by
  simp only [atOnce, Option.map_eq_some_iff] at h
  obtain ⟨y, hy, rfl⟩ := h
  rw [checkOne_eq hne, runCall, runAlone_of_ended? hy, atOnce]

/-- A check of one domain is decided by the first resolver whose entry is found in the cache or whose attempts reach
a verdict: those before it were looked up once and failed in all their attempts, only a fresh verdict is stored, and
nothing is done about those behind it. -/
theorem checkOne_failover (c : Checker) (net : Network) (call : Call) (raw : String) (hne : c.resolvers ≠ [])
    (hvalid : isValidDomain (normalize raw))
    (hquery : ∀ r ∈ c.resolvers, ∃ q,
      Dns.Query.ofDomain (normalize raw) r.recordType c.policy.prober.payload = .ok q)
    (hcall : call.IsCalm) (hcrash : ∀ f, (c.checkOne net call raw).2 ≠ .error (.crash f)) :
    ∃ o ds, (c.checkOne net call raw).2 = .ok o ∧
      (c.policy.check raw).Runs net (World.Intervened (call.agendaFrom c.world)) (call.world c.world)
        (.resolvers c.resolvers :: ds) (c.checkOne net call raw).1.world (.ok o) ∧
      Failover c.policy (normalize raw) c.resolvers ds o := by
  obtain ⟨o, ho⟩ : ∃ o, (c.checkOne net call raw).2 = .ok o := by
    cases hx : (runCall net call (c.policy.check raw) c.world).2 with
    | ok o => exact ⟨o, (Checker.checkOne_eq_ok hne).mpr hx⟩
    | error f =>
      rw [Checker.checkOne_eq hne] at hcrash
      exact absurd (by simp only [hx]; rfl) (hcrash f)
  rcases Checker.checkOne_inv hcall ho with ⟨ds, hruns, hf⟩ | ⟨-, hi | ⟨r, hr, e, he⟩⟩
  · exact ⟨o, ds, ho, hruns, hf⟩
  · rw [hvalid] at hi; cases hi
  · obtain ⟨q, hq⟩ := hquery r hr
    rw [hq] at he; cases he

end

/-- A network where the first exchange about a name fails with one server, and every other query is answered at once
without any record. -/
def Network.failingFirst (server : String) : Network := fun s q n =>
  if s = server ∧ n = 0 then .after 0 (.failed noRoute) else .after 0 (.message (.answering q.question))

/-- A checker that makes one attempt at each of the resolvers with these addresses. -/
def Checker.ofAddresses (addresses : List String) : Checker :=
  .build { Config.default with maxRetries := 0, resolvers := addresses.map fun a => ⟨a, "block", .a⟩ } none

theorem checkOne_failover_second :
    ((Checker.ofAddresses ["10.0.0.1", "10.0.0.2"]).checkOne (.failingFirst "10.0.0.1:53") {} "Example.COM.").2 =
      .ok (.verdict "example.com" "10.0.0.2" false) ∧
    ∃ ds, Failover (Checker.ofAddresses ["10.0.0.1", "10.0.0.2"]).policy (normalize "Example.COM.")
      (Checker.ofAddresses ["10.0.0.1", "10.0.0.2"]).resolvers ds (.verdict "example.com" "10.0.0.2" false) := by
  have hres :
      ((Checker.ofAddresses ["10.0.0.1", "10.0.0.2"]).checkOne (.failingFirst "10.0.0.1:53") {} "Example.COM.").2 =
        .ok (.verdict "example.com" "10.0.0.2" false) := by
    rw [Checker.checkOne_of_atOnce (by decide) (x := .ok (.verdict "example.com" "10.0.0.2" false))
      (by decide +kernel)]
  have hquery : ∀ r ∈ (Checker.ofAddresses ["10.0.0.1", "10.0.0.2"]).resolvers, ∃ q,
      Dns.Query.ofDomain (normalize "Example.COM.") r.recordType
        (Checker.ofAddresses ["10.0.0.1", "10.0.0.2"]).policy.prober.payload = .ok q := by
    intro r hr
    obtain ⟨address, -, rfl⟩ := List.mem_map.mp hr
    exact ⟨_, by rfl⟩
  obtain ⟨o, ds, ho, -, hf⟩ := checkOne_failover (.ofAddresses ["10.0.0.1", "10.0.0.2"])
    (.failingFirst "10.0.0.1:53") {} "Example.COM." (by decide) (by decide +kernel) hquery ⟨rfl, by simp⟩
    (by rw [hres]; simp)
  rw [hres] at ho
  cases ho
  exact ⟨hres, ds, hf⟩

end FilterWatch
