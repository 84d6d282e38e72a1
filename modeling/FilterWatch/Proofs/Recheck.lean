import FilterWatch.Proofs.Failover
import FilterWatch.Proofs.MemoryCache

/-!
# Checking a domain again

What the built-in cache spares a second check of a domain. Along a check the cache lacks the entry of every resolver
that was asked in vain, and at its end it holds the outcome under the key of the resolver that decided. A second check
begins at the first resolver of the list all the same, so it is spared the network exactly when the deciding resolver
shares the key of the first one.
-/

namespace FilterWatch

/-- The built-in cache works. It has no entry that `m` does not have, and none under these keys. -/
def World.Within (w : World) (m : MemoryCache) (keys : List String) : Prop :=
  ∃ m', w.cache = .memory m' ∧ m'.poisoned = false ∧ m'.ttl = m.ttl ∧
    m'.All fun key e => m.find? key = some e ∧ key ∉ keys

def World.Lacks (w : World) (key : String) : Prop :=
  ∃ m, w.cache = .memory m ∧ m.poisoned = false ∧ m.find? key = none

def World.Holds (w : World) (key : String) (e : CacheEntry) : Prop :=
  ∃ m, w.cache = .memory m ∧ m.poisoned = false ∧ m.find? key = some e

namespace World.Within
variable {w w₁ : World} {m : MemoryCache} {keys : List String} {key : String} {o : Outcome}

theorem of_standing (h : w.standing = w₁.standing) (hw : w.Within m keys) : w₁.Within m keys := by
  obtain ⟨m', hm', hrest⟩ := hw
  exact ⟨m', (congrArg (·.2.1) h).symm.trans hm', hrest⟩

theorem lacks (hw : w.Within m keys) : ∀ key ∈ keys, w.Lacks key := by
  intro key hkey
  obtain ⟨m', hm', hp, -, hall⟩ := hw
  refine ⟨m', hm', hp, ?_⟩
  cases hf : m'.find? key with
  | none => rfl
  | some e => exact absurd hkey (hall key e hf).2

theorem lookup {hit : Option Outcome} (h : w.lookup key = (w₁, .ok hit)) (hw : w.Within m keys) :
    w₁.Within m keys := by
  obtain ⟨m', hm', hp, ht, hall⟩ := hw
  simp only [World.lookup, hm', Cache.get, Prod.mk.injEq] at h
  obtain ⟨rfl, -⟩ := h
  exact ⟨_, rfl, by rw [MemoryCache.poisoned_get, hp], by rw [MemoryCache.ttl_get, ht], hall.get⟩

theorem miss (h : w.lookup key = (w₁, .ok none)) (hw : w.Within m keys) : w₁.Within m (key :: keys) := by
  obtain ⟨m', hm', hp, ht, hall⟩ := hw
  simp only [World.lookup, hm', Cache.get, Prod.mk.injEq, Except.ok.injEq] at h
  obtain ⟨rfl, hnone⟩ := h
  refine ⟨_, rfl, by rw [MemoryCache.poisoned_get, hp], by rw [MemoryCache.ttl_get, ht], fun k e hf => ?_⟩
  obtain ⟨hle, hk⟩ := hall.get k e hf
  refine ⟨hle, List.not_mem_cons_of_ne_of_not_mem ?_ hk⟩
  rintro rfl
  rw [MemoryCache.find?_get_self hnone] at hf
  cases hf

theorem intervened {agenda : List AgendaEntry} (h : World.Intervened agenda w w₁) (hw : w.Within m keys) :
    w₁.Within m keys := by
  refine h.preserves (P := (Within · m keys)) (fun e _ w hw => ?_) hw
  obtain ⟨m', hm', hp, ht, hall⟩ := hw
  cases e.what with
  | flush =>
    refine ⟨m'.flush, by simp [Intervention.apply, World.flush, note, atTime, hm', Cache.flush], ?_, ?_, .flush⟩
    · rw [MemoryCache.poisoned_flush, hp]
    · rw [MemoryCache.ttl_flush, ht]
  | cancel | upsert | delete | elapse => exact ⟨m', hm', hp, ht, hall⟩

theorem store (h : w.store key o = (w₁, none)) (hw : w.Within m keys) :
    w₁.Holds key ⟨o, w₁.cacheClock + m.ttl.nanos⟩ ∧ ∀ k ∈ keys, k ≠ key → w₁.Lacks k := by
  have hlacks := hw.lacks
  obtain ⟨m', hm', hp, ht, -⟩ := hw
  simp only [World.store, hm', Cache.set, Prod.mk.injEq] at h
  obtain ⟨rfl, hok⟩ := h
  refine ⟨⟨_, rfl, MemoryCache.poisoned_set hp hok, ?_⟩, fun k hk hne => ?_⟩
  · rw [MemoryCache.find?_set hp hok, if_pos rfl, ← ht]; rfl
  · obtain ⟨m₀, hm₀, -, hnone⟩ := hlacks k hk
    cases hm'.symm.trans hm₀
    exact ⟨_, rfl, MemoryCache.poisoned_set hp hok, by rw [MemoryCache.find?_set hp hok, if_neg hne, hnone]⟩

theorem hit (h : w.lookup key = (w₁, .ok (some o))) (hw : w.Within m keys) :
    ∃ e, e.outcome = o ∧ m.find? key = some e ∧ w₁.Holds key e := by
  obtain ⟨m', hm', hp, -, hall⟩ := hw
  simp only [World.lookup, hm', Cache.get, Prod.mk.injEq, Except.ok.injEq] at h
  obtain ⟨rfl, hok⟩ := h
  obtain ⟨e, hf, -, ho⟩ := MemoryCache.get_eq_some.mp hok
  have hget : (m'.get key w.cacheClock).1 = m' := by
    rcases MemoryCache.get_fst m' key w.cacheClock with h | ⟨h, -⟩
    · exact h
    · rw [h] at hok; cases hok
  exact ⟨e, ho, (hall key e hf).1, m', by simp [note, hget], hp, hf⟩

end World.Within

/-! ### The end of a check -/

def Deed.isStore : Deed → Bool
  | store .. => true
  | _ => false

theorem isStore_of_mem_attemptDeeds {server : String} {q : Dns.Query} {attempt : Nat} {waits : Bool}
    {replies : List Reply} {d : Deed} (h : d ∈ attemptDeeds server q attempt waits replies) : d.isStore = false := by
  induction replies generalizing attempt waits with
  | nil => cases h
  | cons reply rest ih =>
    rcases List.mem_append.mp h with h | h
    · cases waits <;> simp at h
      rw [h]; rfl
    · rcases List.mem_cons.mp h with rfl | h
      · rfl
      · exact ih h

theorem Failing.isStore {p : CheckPolicy} {domain : String} {r : Resolver} {ds : List Deed}
    (h : Failing p domain r ds) {d : Deed} (hd : d ∈ ds) : d.isStore = false := by
  obtain ⟨q, replies, -, -, -, rfl⟩ := h
  rcases List.mem_cons.mp hd with rfl | hd
  · rfl
  · exact isStore_of_mem_attemptDeeds hd

theorem isStore_of_mem_flatten {p : CheckPolicy} {domain : String} {rs : List Resolver} {before : List (List Deed)}
    (h : List.Forall₂ (Failing p domain) rs before) : ∀ d ∈ before.flatten, d.isStore = false := by
  induction h with
  | nil => simp
  | cons hr _ ih =>
    intro d hd
    rcases List.mem_append.mp hd with hd | hd
    · exact hr.isStore hd
    · exact ih d hd

namespace Job.Runs
variable {net : Network} {agenda : List AgendaEntry} {α : Type} {w w' : World} {job : Job α} {ds ds₂ : List Deed}
  {m : MemoryCache} {keys : List String}

theorem within (ds₁ : List Deed) {x : Except Fault α}
    (h : job.Runs net (World.Intervened agenda) w (ds₁ ++ ds₂) w' x)
    (hds : ∀ d ∈ ds₁, d.isStore = false) (hw : w.Within m keys) :
    ∃ w₁, ∃ job₁ : Job α, w₁.Within m keys ∧ job₁.Runs net (World.Intervened agenda) w₁ ds₂ w' x := by
  refine h.cut (P := (World.Within · m keys)) (D := (Deed.isStore · = false)) hds (fun _ _ => World.Within.of_standing)
    (fun _ _ => World.Within.intervened) (fun _ _ _ _ _ => World.Within.lookup) ?_ hw
  intro _ _ _ _ hstore
  cases hstore

/-- When a check is decided, the deciding key has the outcome, and what was missing under other keys still is. -/
theorem deciding {p : CheckPolicy} {domain : String} {r : Resolver} {o : Outcome} {a : α}
    (hlast : Deciding p domain r ds o) (h : job.Runs net (World.Intervened agenda) w ds w' (.ok a))
    (hw : w.Within m keys) :
    (∃ e, e.outcome = o ∧ w'.Holds (cacheKey domain r) e ∧
      (e.expires = w'.cacheClock + m.ttl.nanos ∨ m.find? (cacheKey domain r) = some e)) ∧
    ∀ k ∈ keys, k ≠ cacheKey domain r → w'.Lacks k := by
  cases hlast with
  | hit =>
    obtain ⟨w₁, job₁, hl, h⟩ := h.cons_lookup
    obtain ⟨job₂, h⟩ := h.cons_count
    obtain ⟨e, ho, hold, m', hm', hholds⟩ := hw.hit hl
    cases h.eq_of_no_deeds
    exact ⟨⟨e, ho, ⟨m', hm', hholds⟩, .inr hold⟩, fun k hk _ => (hw.lookup hl).lacks k hk⟩
  | @verdict q replies b =>
    have hds : ∀ d ∈ Deed.lookup (cacheKey domain r) none ::
        attemptDeeds (withDefaultPort r.address) q 0 false replies, d.isStore = false :=
      List.forall_mem_cons.mpr ⟨rfl, fun d => isStore_of_mem_attemptDeeds⟩
    obtain ⟨w₁, job₁, hw₁, h⟩ := within (_ :: _) h hds hw
    obtain ⟨w₂, job₂, hs, h⟩ := h.cons_store
    obtain ⟨job₃, h⟩ := h.cons_count
    obtain ⟨⟨m', hm', hholds⟩, hlacks⟩ := hw₁.store hs
    cases h.eq_of_no_deeds
    exact ⟨⟨_, rfl, ⟨m', hm', hholds⟩, .inl rfl⟩, hlacks⟩

theorem decided {p : CheckPolicy} {domain : String} {rs : List Resolver} {i : Nat} (hi : i < rs.length)
    {before : List (List Deed)} {o : Outcome} {a : α} (hbefore : List.Forall₂ (Failing p domain) (rs.take i) before)
    (hlast : Deciding p domain rs[i] ds o)
    (h : job.Runs net (World.Intervened agenda) w (before.flatten ++ ds) w' (.ok a)) (hw : w.Within m []) :
    (∃ e, e.outcome = o ∧ w'.Holds (cacheKey domain rs[i]) e ∧
      (e.expires = w'.cacheClock + m.ttl.nanos ∨ m.find? (cacheKey domain rs[i]) = some e)) ∧
    ∀ r ∈ rs.head?, cacheKey domain r ≠ cacheKey domain rs[i] → w'.Lacks (cacheKey domain r) := by
  cases rs with
  | nil => cases hi
  | cons r rest =>
    cases i with
    | zero =>
      cases hbefore
      refine ⟨(deciding hlast h hw).1, fun r' hr' hne => ?_⟩
      cases hr'
      exact absurd rfl hne
    | succ i =>
      -- the first resolver was looked up in vain, and nothing is stored before the deciding one
      obtain ⟨block, before, ⟨q, replies, -, -, -, rfl⟩, hrest, rfl⟩ := List.forall₂_cons_left_iff.mp hbefore
      obtain ⟨w₁, job₁, hl, h⟩ := h.cons_lookup
      have hds : ∀ d ∈ attemptDeeds (withDefaultPort r.address) q 0 false replies ++ before.flatten,
          d.isStore = false := by
        intro d hd
        rcases List.mem_append.mp hd with hd | hd
        · exact isStore_of_mem_attemptDeeds hd
        · exact isStore_of_mem_flatten hrest d hd
      obtain ⟨w₂, job₂, hw₂, h⟩ := within (_ ++ _) h hds (hw.miss hl)
      obtain ⟨hholds, hlacks⟩ := deciding hlast h hw₂
      refine ⟨hholds, fun r' hr' hne => ?_⟩
      cases hr'
      exact hlacks _ (.head _) hne

end Job.Runs

/-! ### Two checks -/

theorem countP_isExchange_attemptDeeds (server : String) (q : Dns.Query) (replies : List Reply) :
    ∀ attempt waits, (attemptDeeds server q attempt waits replies).countP Deed.isExchange = replies.length := by
  induction replies with
  | nil => exact fun _ _ => rfl
  | cons reply rest ih =>
    intro attempt waits
    rw [attemptDeeds, List.countP_append, List.countP_cons_of_pos rfl, ih]
    cases waits <;> simp [Deed.isExchange]

theorem Verdict.length_pos {keyword : String} {most : Nat} {replies : List Reply} {b : Bool}
    (h : Verdict keyword (most + 1) replies b) : 0 < replies.length := by
  cases h with
  | blocked earlier => simp
  | clear hlen => omega

/-- Either the first resolver has an entry, or a check sends a query. -/
theorem Failover.sends {p : CheckPolicy} {domain : String} {r : Resolver} {rest : List Resolver} {ds : List Deed}
    {o : Outcome} (h : Failover p domain (r :: rest) ds o) :
    (∃ o ds', ds = .lookup (cacheKey domain r) (some o) :: ds') ∨ 0 < ds.countP Deed.isExchange := by
  have hfailing : ∀ {block}, Failing p domain r block → 0 < block.countP Deed.isExchange := by
    rintro _ ⟨q, replies, -, hlen, -, rfl⟩
    rw [List.countP_cons, countP_isExchange_attemptDeeds]
    omega
  cases h with
  | @decided i hi before last _ hbefore hlast =>
    cases i with
    | zero =>
      cases hbefore
      cases hlast with
      | hit o => exact .inl ⟨o, _, rfl⟩
      | verdict hq hv =>
        have := hv.length_pos
        refine .inr ?_
        simp only [List.flatten_nil, List.nil_append, List.countP_append, List.countP_cons,
          countP_isExchange_attemptDeeds]
        omega
    | succ i =>
      obtain ⟨block, before, hblock, -, rfl⟩ := List.forall₂_cons_left_iff.mp hbefore
      have := hfailing hblock
      simp only [List.flatten_cons, List.countP_append]
      omega
  | exhausted all hall =>
    obtain ⟨block, all, hblock, -, rfl⟩ := List.forall₂_cons_left_iff.mp hall
    have := hfailing hblock
    simp only [List.flatten_cons, List.countP_append]
    omega

namespace Checker

/-- The resolver with index `i` decided a check with an outcome: it had an entry or came to a verdict, and those before
it did not. -/
def DecidedAt (c : Checker) (net : Network) (call : Call) (raw : String) (i : Nat) (o : Outcome) : Prop :=
  ∃ hi : i < c.resolvers.length, ∃ before last,
    (c.policy.check raw).Runs net (World.Intervened (call.agendaFrom c.world)) (call.world c.world)
      (.resolvers c.resolvers :: (before.flatten ++ last)) (c.checkOne net call raw).1.world (.ok o) ∧
    List.Forall₂ (Failing c.policy (normalize raw)) (c.resolvers.take i) before ∧
    Deciding c.policy (normalize raw) c.resolvers[i] last o

variable {c : Checker} {net : Network} {call : Call} {raw : String} {o : Outcome}

theorem isValidDomain_of_checkOne (h : (c.checkOne net call raw).2 = .ok o) (herr : o.error = none) :
    isValidDomain (normalize raw) := by
  cases hv : isValidDomain (normalize raw) with
  | true => rfl
  | false =>
    obtain ⟨ds, hruns⟩ := checkOne_runs h
    rw [CheckPolicy.check_of_invalid hv] at hruns
    rw [hruns.fail_inv.2] at herr
    cases herr

theorem decidedAt (hcall : call.IsCalm) (h : (c.checkOne net call raw).2 = .ok o) (herr : o.error = none) :
    ∃ i, c.DecidedAt net call raw i o := by
  rcases checkOne_inv hcall h with ⟨ds, hruns, hf⟩ | ⟨rfl, -⟩
  · cases hf with
    | decided i hi before hbefore hlast => exact ⟨i, hi, before, _, hruns, hbefore, hlast⟩
    | exhausted => cases herr
  · cases herr

/-- A check whose first resolver has a live entry takes its outcome and sends nothing. -/
theorem checkOne_of_holds {r : Resolver} (hr : r ∈ c.resolvers.head?) (hvalid : isValidDomain (normalize raw))
    {e : CacheEntry} (he : c.world.Holds (cacheKey (normalize raw) r) e) (hlive : c.world.cacheClock < e.expires) :
    (c.checkOne net call raw).2 = .ok e.outcome ∧
      (c.checkOne net call raw).1.world.exchanges = c.world.exchanges := by
  obtain ⟨rest, hrs⟩ := List.head?_eq_some_iff.mp hr
  have hlookup : ((call.world c.world).lookup (cacheKey (normalize raw) r)).2 = .ok (some e.outcome) := by
    obtain ⟨m, hm, -, hf⟩ := he
    simp only [World.lookup, Call.world, hm, Cache.get]
    rw [MemoryCache.get_eq_some.mpr ⟨e, hf, hlive, rfl⟩]
  have hadvance : Slot.advance net (c.policy.check raw) (call.world c.world) =
      (((call.world c.world).lookup (cacheKey (normalize raw) r)).1.count .cached, .ended (.ok e.outcome)) := by
    have hreg : (call.world c.world).registry.resolvers = r :: rest := hrs
    rw [CheckPolicy.check_of_valid hvalid, Slot.advance, hreg, CheckPolicy.against_cons, Slot.advance]
    rcases hl : (call.world c.world).lookup (cacheKey (normalize raw) r) with ⟨w, x⟩
    rw [hl] at hlookup
    cases hlookup
    rfl
  rw [checkOne_of_atOnce (by rw [hrs]; simp) (x := .ok e.outcome) (by simp only [atOnce, hadvance]; rfl)]
  refine ⟨rfl, ?_⟩
  simp only [atOnce, hadvance]
  rw [World.exchanges_count, World.exchanges_lookup]
  rfl

theorem exchanges_lt_of_lacks (hcall : call.IsCalm) (h : (c.checkOne net call raw).2 = .ok o) (herr : o.error = none)
    {r : Resolver} (hr : r ∈ c.resolvers.head?) (hlacks : c.world.Lacks (cacheKey (normalize raw) r)) :
    c.world.exchanges < (c.checkOne net call raw).1.world.exchanges := by
  obtain ⟨rest, hrs⟩ := List.head?_eq_some_iff.mp hr
  rcases checkOne_inv hcall h with ⟨ds, hruns, hf⟩ | ⟨rfl, -⟩
  · have hcount := hruns.exchanges fun _ _ => World.Intervened.exchanges
    rw [List.countP_cons_of_neg (by simp [Deed.isExchange])] at hcount
    rw [hrs] at hf
    rcases hf.sends with ⟨o', ds', rfl⟩ | hsends
    · obtain ⟨job₁, h₁⟩ := hruns.cons_resolvers
      obtain ⟨w₁, job₂, hl, -⟩ := h₁.cons_lookup
      obtain ⟨m, hm, -, hf⟩ := hlacks
      simp only [World.lookup, Call.world, hm, Cache.get, Prod.mk.injEq, Except.ok.injEq] at hl
      obtain ⟨e, he, -⟩ := MemoryCache.get_eq_some.mp hl.2
      rw [hf] at he; cases he
    · have : (call.world c.world).exchanges = c.world.exchanges := rfl
      omega
  · cases herr

/-- Checking a domain again without a change of the resolvers in between: while the entry of the first outcome is live,
the second check takes that outcome and sends nothing exactly when the resolver that decided has the cache key of the
first resolver in the list. -/
theorem checkOne_again (c : Checker) (net : Network) (call call' : Call) (raw : String) (m : MemoryCache) (o : Outcome)
    (gap : Duration) (hcache : c.world.cache = .memory m) (hpoisoned : m.poisoned = false) (hcall : call.IsCalm)
    (hcall' : call'.IsCalm) (hres : (c.checkOne net call raw).2 = .ok o) (herr : o.error = none)
    (hrs : (c.checkOne net call raw).1.resolvers = c.resolvers) :
    ∃ (i : Nat) (hi : i < c.resolvers.length) (first : Resolver) (e : CacheEntry), c.DecidedAt net call raw i o ∧
      first ∈ c.resolvers.head? ∧ e.outcome = o ∧
      (c.checkOne net call raw).1.world.Holds (cacheKey (normalize raw) c.resolvers[i]) e ∧
      (e.expires = (c.checkOne net call raw).1.world.cacheClock + m.ttl.nanos ∨
        m.find? (cacheKey (normalize raw) c.resolvers[i]) = some e) ∧
      ((c.checkOne net call raw).1.world.cacheClock + gap.nanos < e.expires →
        ((((c.checkOne net call raw).1.afterReal gap).checkOne net call' raw).2 = .ok o ∧
          (((c.checkOne net call raw).1.afterReal gap).checkOne net call' raw).1.world.exchanges =
            (c.checkOne net call raw).1.world.exchanges ↔
          cacheKey (normalize raw) c.resolvers[i] = cacheKey (normalize raw) first)) := by
  obtain ⟨i, hdec⟩ := decidedAt hcall hres herr
  obtain ⟨hi, before, last, hruns, hbefore, hlast⟩ := hdec
  obtain ⟨first, hfirst⟩ : ∃ first, first ∈ c.resolvers.head? :=
    ⟨c.resolvers[0], by rw [List.head?_eq_getElem?]; simp [Nat.zero_lt_of_lt hi]⟩
  obtain ⟨job₁, hrest⟩ := hruns.cons_resolvers
  obtain ⟨⟨e, ho, hholds, hexp⟩, hlacks⟩ :=
    Job.Runs.decided hi hbefore hlast hrest ⟨m, hcache, hpoisoned, rfl, fun _ _ hf => ⟨hf, by simp⟩⟩
  refine ⟨i, hi, first, e, ⟨hi, before, last, hruns, hbefore, hlast⟩, hfirst, ho, hholds, hexp, fun hlive => ?_⟩
  have hfirst' : first ∈ ((c.checkOne net call raw).1.afterReal gap).resolvers.head? := by
    show first ∈ (c.checkOne net call raw).1.resolvers.head?
    rw [hrs]; exact hfirst
  constructor
  · rintro ⟨hres', hexch⟩
    by_contra hne
    have hlt := exchanges_lt_of_lacks hcall' hres' herr hfirst' (hlacks first hfirst (Ne.symm hne))
    rw [hexch] at hlt
    exact Nat.lt_irrefl _ hlt
  · intro hkey
    have hvalid := isValidDomain_of_checkOne hres herr
    rw [hkey] at hholds
    rw [← ho]
    exact checkOne_of_holds hfirst' hvalid hholds hlive

theorem checkOne_again_alone :
    let c := Checker.ofAddresses ["10.0.0.1"]
    let first := c.checkOne (.failingFirst "10.0.0.2:53") {} "Example.COM."
    let second := (first.1.afterReal (.ofSeconds 299)).checkOne (.failingFirst "10.0.0.2:53") {} "Example.COM."
    first.2 = .ok (.verdict "example.com" "10.0.0.1" false) ∧
      second.2 = .ok (.verdict "example.com" "10.0.0.1" false) ∧
      second.1.world.exchanges = first.1.world.exchanges := by
  intro c first second
  have hfirst : first = ((c.atOnce (.failingFirst "10.0.0.2:53") {} "Example.COM.").1,
      .ok (.verdict "example.com" "10.0.0.1" false)) := checkOne_of_atOnce (by decide) (by decide +kernel)
  have hres : first.2 = .ok (.verdict "example.com" "10.0.0.1" false) := by rw [hfirst]
  have hrs : first.1.resolvers = c.resolvers := by
    rw [hfirst]
    decide +kernel
  have hagain := checkOne_again c (.failingFirst "10.0.0.2:53") {} {} "Example.COM." { ttl := defaultCacheTtl } _
    (.ofSeconds 299) rfl rfl ⟨rfl, by simp⟩ ⟨rfl, by simp⟩ hres rfl hrs
  have hdef : c.checkOne (.failingFirst "10.0.0.2:53") {} "Example.COM." = first := rfl
  rw [hdef] at hagain
  clear_value first
  obtain ⟨i, hi, r, e, -, hr, -, -, hexp, hsecond⟩ := hagain
  have hkey : cacheKey (normalize "Example.COM.") c.resolvers[i] = cacheKey (normalize "Example.COM.") r := by
    have hi' : i = 0 := Nat.lt_one_iff.mp hi
    subst hi'
    cases hr; rfl
  have hlive : first.1.world.cacheClock + (Duration.ofSeconds 299).nanos < e.expires := by
    rcases hexp with hexp | hexp
    · rw [hexp]
      exact Nat.add_lt_add_left (by decide) _
    · cases hexp
  exact ⟨hres, (hsecond hlive).mpr hkey⟩

/-- A second check asks the first resolver again when another one decided the first check, and so it may have another
outcome. -/
theorem checkOne_again_asks :
    let c := Checker.ofAddresses ["10.0.0.1", "10.0.0.2"]
    let first := c.checkOne (.failingFirst "10.0.0.1:53") {} "Example.COM."
    let second := first.1.checkOne (.failingFirst "10.0.0.1:53") {} "Example.COM."
    first.2 = .ok (.verdict "example.com" "10.0.0.2" false) ∧
      second.2 = .ok (.verdict "example.com" "10.0.0.1" false) ∧
      second.1.world.exchanges = first.1.world.exchanges + 1 := by
  intro c first second
  have hfirst : first = ((c.atOnce (.failingFirst "10.0.0.1:53") {} "Example.COM.").1,
      .ok (.verdict "example.com" "10.0.0.2" false)) := checkOne_of_atOnce (by decide) (by decide +kernel)
  have hsecond : second = ((first.1.atOnce (.failingFirst "10.0.0.1:53") {} "Example.COM.").1,
      .ok (.verdict "example.com" "10.0.0.1" false)) := by
    show first.1.checkOne _ _ _ = _
    rw [hfirst]
    exact checkOne_of_atOnce (by decide +kernel) (by decide +kernel)
  refine ⟨by rw [hfirst], by rw [hsecond], ?_⟩
  rw [hsecond, hfirst]
  decide +kernel

end Checker
end FilterWatch
