import FilterWatch.Proofs.CacheKey
import FilterWatch.Proofs.Expiry
import FilterWatch.Proofs.Provenance

/-!
# Resolvers with new settings

A key tells the settings apart that one address has had (`eq_of_cacheKey_eq_of_address_eq`), also when a keyword looks
like the end of a key. So whatever was placed and deleted, a read of the cache for a resolver brings no verdict that was
come to with other settings of its address, nor one about another domain.
-/

namespace FilterWatch.Checker
variable {c₀ c : Checker} {net : Network} {call : Call} {domain : String} {r : Resolver} {o : Outcome} {w : World}

/-- On the way to the surroundings the cache was told this verdict for the domain and the resolver. All checks that have
told it so were of the domain, and one that has asked at the address of the resolver has asked with its settings. -/
structure Belongs (c₀ : Checker) (w : World) (domain : String) (r : Resolver) (o : Outcome) : Prop where
  told : ∃ raw w₀ r' blocked es e older, e.what = .store (cacheKey domain r) o ∧
    c₀.Stores w raw w₀ r' blocked es e older
  same : ∀ raw w₀ r' blocked es e older, e.what = .store (cacheKey domain r) o →
    c₀.Stores w raw w₀ r' blocked es e older → normalize raw = domain ∧ o.domain = domain ∧
      (r'.address = r.address → r' = r)

theorem Stores.belongs {raw : String} {w₀ : World} {r' : Resolver} {blocked : Bool} {es older : List Event} {e : Event}
    (h : c₀.Stores w raw w₀ r' blocked es e older) (hwhat : e.what = .store (cacheKey domain r) o)
    (hvalid : isValidDomain domain) : c₀.Belongs w domain r o := by
  refine ⟨⟨raw, w₀, r', blocked, es, e, older, hwhat, h⟩, fun raw w₀ r' blocked es e older hwhat h => ?_⟩
  rw [h.what, Happening.store.injEq] at hwhat
  obtain ⟨hkey, rfl⟩ := hwhat
  have hdomain := ((cacheKey_eq_cacheKey h.valid hvalid).mp hkey).1
  exact ⟨hdomain, hdomain, fun ha => (eq_of_cacheKey_eq_of_address_eq h.valid hvalid ha hkey).2⟩

/-- Reads of the cache bring verdicts that belong to the domain and the resolver: at any moment in the use of a checker,
and when a check has its outcome from the cache. -/
structure ReadsItsOwn (c₀ c : Checker) (net : Network) (call : Call) : Prop where
  read : ∀ w, c.Passes w → ∀ domain r o, isValidDomain domain → (w.lookup (cacheKey domain r)).2 = .ok (some o) →
    c₀.Belongs w domain r o
  checked : ∀ raw w₀ es w o, c.Checked net call raw w₀ es w (.ok o) → o.IsFromCache es → isValidDomain (normalize raw) ∧
    ∃ r ∈ w₀.registry.resolvers, (∃ t found rest, es = ⟨t, .lookup (cacheKey (normalize raw) r) found⟩ :: rest) ∧
      c₀.Belongs w (normalize raw) r o

theorem readsItsOwn (hbacked : c.world.Backed) (hvouches : ∀ w, c.Passes w → c₀.Vouches w) :
    c₀.ReadsItsOwn c net call where
  read w hw domain r o hvalid hfound := by
    obtain ⟨newer, time, older, hJ, -⟩ := (hw.lasting World.lasting_backed hbacked).of_lookup hfound
    obtain ⟨raw, w₀, r', blocked, es, hstores⟩ := hvouches w hw newer _ older hJ rfl
    exact (hstores w rfl).belongs rfl hvalid
  checked raw w₀ es w o h ho := by
    obtain ⟨hvalid, r, hr, t, found, rest, hes, hbrings⟩ := (h.ends World.lasting_backed hbacked).found ho
    obtain ⟨-, e, older, -, -, hwhat, raw', w₀', r', blocked, es', hstores⟩ := (hvouches w h.passes).source hbrings
    exact ⟨hvalid, r, hr, ⟨t, found, rest, hes⟩, hstores.belongs hwhat hvalid⟩

/-- Whatever was done with a checker before, in particular to its resolvers, a read of the cache brings no verdict that
was come to with another keyword or another record type of the same address, nor one about another domain. It is taken
for granted that a cache of the caller's own starts empty and does not hand out what it was never told. -/
theorem readsItsOwn_of_used (config : Config) (cache : Option Cache) (hcache : ∀ k ∈ cache, k.IsUnused) (c : Checker)
    (hc : (Checker.build config cache).Used c) (net : Network) (call : Call) :
    (c.resolvers ≠ [] → c.Answers net call) ∧ (Checker.build config cache).ReadsItsOwn c net call :=
  ⟨answers net call, readsItsOwn (backed_of_used hcache hc) fun _ hw => hw.vouches_build hc⟩

/-- A checker of one resolver whose keyword looks like the end of a key. -/
def keywordLikeKey : Checker :=
  .build { Config.default with maxRetries := 0, resolvers := [⟨"10.0.0.1", "block:1", .a⟩] } none

/-- Between two checks of one domain the resolver gets another keyword. -/
def rechecked : Checker :=
  ((((keywordLikeKey.checkOne .answering {} "example.com").1.upsert [⟨"10.0.0.1", "block", .a⟩]).checkOne .answering {}
    "example.com").1)

theorem rechecked_eq : rechecked = ((((keywordLikeKey.atOnce .answering {} "example.com").1.upsert
    [⟨"10.0.0.1", "block", .a⟩]).atOnce .answering {} "example.com").1) := by
  have hfirst : keywordLikeKey.checkOne .answering {} "example.com" =
      (_, .ok (.verdict "example.com" "10.0.0.1" false)) := checkOne_of_atOnce (by decide) (by decide +kernel)
  rw [rechecked, hfirst, checkOne_of_atOnce (x := .ok (.verdict "example.com" "10.0.0.1" false)) (by decide +kernel)
    (by decide +kernel)]

theorem readsItsOwn_of_used_rechecked : rechecked.world.exchanges = 2 ∧
    keywordLikeKey.Belongs rechecked.world "example.com" ⟨"10.0.0.1", "block", .a⟩
      (.verdict "example.com" "10.0.0.1" false) := by
  have hfirst := used_checkOne keywordLikeKey .answering {} "example.com"
  have hused : keywordLikeKey.Used rechecked := (hfirst.tail (.upsert _)).trans (used_checkOne _ _ _ _)
  obtain ⟨-, hreads⟩ := readsItsOwn_of_used _ none (by simp) rechecked hused .answering {}
  refine ⟨by rw [rechecked_eq]; decide +kernel, hreads.read _ .idle _ _ _ (by decide +kernel) ?_⟩
  rw [rechecked_eq]
  decide +kernel

end FilterWatch.Checker
