import FilterWatch.Proofs.Settled

/-!
# Many checks and single ones

With a stationary network and a cache that is empty at first, many domains checked in one call have the outcomes that
they have when each of them is checked by itself. The checks share the cache and take their turns in any order, so one
of them may find what another one has stored. `IsSettledFor` is what any of them can find there: the outcome that the
check of the domain comes to without a cache. Two resolvers of the list may even share a key, for an entry that is
found at the first of them is what the check would come to at the second one.
-/

namespace FilterWatch

/-- A cache that keeps nothing so far, and works until the moment `t` at least. -/
def Cache.IsFresh (t : Nat) : Cache → Prop
  | .off => True
  | .memory m => m.poisoned = false ∧ m.entries = [] ∧ t + m.ttl.nanos < MemoryCache.endOfTime
  | .plain _ | .custom _ => False

theorem Cache.IsFresh.keeps {Kept : String → Outcome → Prop} {t : Nat} {c : Cache} (h : c.IsFresh t) :
    c.Keeps Kept t := by
  cases c with
  | off => trivial
  | memory m =>
    obtain ⟨hp, hempty, ht⟩ := h
    refine ⟨hp, ht, fun key e hf => ?_⟩
    rw [MemoryCache.find?, hp, hempty] at hf
    cases hf
  | plain | custom => cases h

namespace CheckPolicy
variable {p : CheckPolicy} {net : Network} {rs : List Resolver}

/-- An outcome under a key is what checks come to against these resolvers, for every domain that the key is made of. -/
def IsSettledFor (p : CheckPolicy) (net : Network) (rs : List Resolver) (key : String) (o : Outcome) : Prop :=
  ∀ domain r, isValidDomain domain → r ∈ rs → cacheKey domain r = key → p.settledAgainst net domain rs = .ok o

theorem isSettledFor_cacheKey {domain : String} {r : Resolver} (hd : isValidDomain domain) {o : Outcome}
    (h : p.settledAgainst net domain rs = .ok o) : p.IsSettledFor net rs (cacheKey domain r) o := by
  intro domain' r' hd' _ hkey
  obtain ⟨rfl, -⟩ := (cacheKey_eq_cacheKey hd' hd).mp hkey
  exact h

theorem check_yields_for (hnet : net.Stationary p.prober.timeout) (raw : String) :
    (p.check raw).Yields net (p.IsSettledFor net rs) rs (p.settledCheck net rs raw) := by
  unfold settledCheck
  cases hv : isValidDomain (normalize raw) with
  | true =>
    rw [check_of_valid hv]
    exact .resolvers (against_yields_of hnet rfl (fun r hr o ho => .inl (ho (normalize raw) r hv hr rfl))
      fun _ _ _ _ h => isSettledFor_cacheKey hv h)
  | false =>
    rw [check_of_invalid hv]
    exact .count .done

end CheckPolicy

namespace Checker

/-- The outcome of a domain in a batch, when a check of it by itself has this result. -/
def outcomeOf (domain : String) : Except CallFailure Outcome → Outcome
  | .ok o => o
  | .error (.error e) => fallback domain e
  | .error (.crash f) => fallback domain (.ofFault f)

variable {c : Checker} {net : Network} {call : Call}

/-- The surroundings of a checker before a call. The call has its own token. -/
def atRest (c : Checker) : World := { c.world with cancelled := false }

theorem steady_of_isFresh {Kept : String → Outcome → Prop}
    (hcache : c.world.cache.IsFresh (c.world.cacheClock + call.elapsed)) :
    c.atRest.Steady Kept c.resolvers (call.elapsed + 0) :=
  ⟨rfl, rfl, hcache.keeps⟩

theorem checkOne_settled (hne : c.resolvers ≠ []) (hnet : net.Stationary c.policy.prober.timeout)
    (hcall : call.IsQuiet) (hcache : c.world.cache.IsFresh (c.world.cacheClock + call.elapsed)) (domain : String) :
    (c.checkOne net call domain).2 = (c.policy.settledCheck net c.resolvers domain).mapError .crash := by
  have hrest : runCall net call (c.policy.check domain) c.world = runCall net call (c.policy.check domain) c.atRest :=
    rfl
  have hres := (runCall_steady (CheckPolicy.check_yields_for hnet domain) hcall (steady_of_isFresh hcache)).2
  rw [checkOne_eq hne, hrest, hres]

/-- Checked in one call, domains have the outcomes that they have when each of them is checked by itself by a fresh
checker: in every order of turns, and however many checks run at once. -/
theorem checkMany_eq_map_checkOne (c single : Checker) (net : Network) (call call' : Call) (domains : List String)
    (hne : c.resolvers ≠ []) (hnet : net.Stationary c.policy.prober.timeout) (hcall : call.IsQuiet)
    (hcache : c.world.cache.IsFresh (c.world.cacheClock + call.elapsed)) (hpolicy : single.policy = c.policy)
    (hresolvers : single.resolvers = c.resolvers) (hcall' : call'.IsQuiet)
    (hcache' : single.world.cache.IsFresh (single.world.cacheClock + call'.elapsed)) :
    (c.checkMany net call domains).2 = .ok (domains.map fun d => outcomeOf d (single.checkOne net call' d).2) ∧
      ∀ limit ts b, (c.manyBatch call domains).Finishes net limit ts b →
        b.results fallback domains = domains.map fun d => outcomeOf d (single.checkOne net call' d).2 := by
  have hevery : ∀ limit ts b, (c.manyBatch call domains).Finishes net limit ts b →
      b.results fallback domains = domains.map fun d => outcomeOf d (single.checkOne net call' d).2 := by
    intro limit ts b h
    have hrest : c.manyBatch call domains =
      .queue c.policy.check domains (call.world c.atRest) (call.agendaFrom c.atRest) := rfl
    rw [hrest] at h
    have hwork : ∀ d, (c.policy.check d).Yields net (c.policy.IsSettledFor net c.resolvers) c.resolvers
        (c.policy.settledCheck net c.resolvers d) := CheckPolicy.check_yields_for hnet
    rw [(h.steady hwork hcall fallback (steady_of_isFresh hcache)).2]
    refine List.map_congr_left fun d _ => ?_
    rw [checkOne_settled (hresolvers ▸ hne) (hpolicy ▸ hnet) hcall' hcache', hpolicy, hresolvers]
    cases c.policy.settledCheck net c.resolvers d <;> rfl
  obtain ⟨ts, b, hfin, heq⟩ := checkMany_finishes net call hne domains
  rw [heq]
  exact ⟨congrArg _ (hevery _ ts b hfin), hevery⟩

theorem checkMany_eq_map_checkOne_repeated :
    let config := { Config.default with resolvers := [⟨"10.0.0.1", "block", .a⟩, ⟨"10.0.0.2", "block", .a⟩] }
    let domains := ["example.com", "x", "Example.COM."]
    ((Checker.build { config with concurrency := 2 } (some (.memory { ttl := .ofSeconds 11 }))).checkMany
      (.failing "10.0.0.1:53") { agenda := [⟨5, .elapse (.ofSeconds 2)⟩] } domains).2 =
        .ok (domains.map fun d =>
          outcomeOf d ((Checker.build config (some .off)).checkOne (.failing "10.0.0.1:53") {} d).2) := by
  intro config domains
  refine (checkMany_eq_map_checkOne (.build { config with concurrency := 2 } (some (.memory { ttl := .ofSeconds 11 })))
    (.build config (some .off)) _ _ _ _ (by decide) (Network.stationary_failing _ _) ⟨rfl, fun e he => ?_⟩
    ⟨rfl, rfl, by decide⟩ rfl rfl ⟨rfl, by simp⟩ trivial).1
  rw [List.mem_singleton.mp he]
  trivial

end Checker
end FilterWatch
