import FilterWatch.Proofs.Recheck
import FilterWatch.Proofs.Reload

/-!
# When all resolvers have failed

What stands behind an outcome that says that all resolvers failed. No cache entry is served for it, every resolver of
the list that the check was started with was sent one query for each attempt, and every one of these exchanges failed
(`Exhausted`). A check of one domain has resolvers to begin with. The list of an item of many may be empty when its
turn comes, but only because a deletion during the call has emptied it (`Turn.EmptiedBy`), and then the item says the
same without an exchange.
-/

namespace FilterWatch

/-! ### Attempts in vain -/

/-- An exchange of a check, with what came of it. -/
structure Attempt where
  server : String
  query : Dns.Query
  reply : Reply

def Deed.attempt? : Deed → Option Attempt
  | .exchange server q reply => some ⟨server, q, reply⟩
  | _ => none

/-- The exchange came to no answer: the time limit passed, or it failed otherwise. -/
def Attempt.HasFailed (a : Attempt) : Prop :=
  Prober.verdict a.server a.reply = .error (.timeout a.server) ∨
    ∃ cause, Prober.verdict a.server a.reply = .error (.transport a.server cause)

/-- A resolver got one query about the domain for each attempt, and every exchange failed. -/
structure InVain (p : CheckPolicy) (domain : String) (r : Resolver) (attempts : List Attempt) : Prop where
  count : attempts.length = p.maxRetries + 1
  asked : ∀ a ∈ attempts, a.server = withDefaultPort r.address ∧
    Dns.Query.ofDomain domain r.recordType p.prober.payload = .ok a.query
  failed : ∀ a ∈ attempts, a.HasFailed

theorem Deed.isSome_attempt? (d : Deed) : d.attempt?.isSome = d.isExchange := by cases d <;> rfl

theorem Attempt.hasFailed_of_fails {server : String} {q : Dns.Query} {reply : Reply} (h : reply.fails) :
    Attempt.HasFailed ⟨server, q, reply⟩ := by
  cases reply with
  | message | cancelled => cases h
  | timedOut => exact .inl rfl
  | failed e =>
    by_cases he : e.kind = .timedOut
    · exact .inl (congrArg Except.error (if_pos he))
    · exact .inr ⟨e, congrArg Except.error (if_neg he)⟩

theorem filterMap_attempt?_attemptDeeds (server : String) (q : Dns.Query) (replies : List Reply) :
    ∀ attempt waits, (attemptDeeds server q attempt waits replies).filterMap Deed.attempt? =
      replies.map fun reply => ⟨server, q, reply⟩ := by
  induction replies with
  | nil => exact fun _ _ => rfl
  | cons reply rest ih =>
    intro attempt waits
    have hpause : (if waits then [Deed.pause (backoff attempt) true] else []).filterMap Deed.attempt? = [] := by
      cases waits <;> rfl
    rw [attemptDeeds, List.filterMap_append, hpause]
    exact congrArg (_ :: ·) (ih _ _)

theorem Failing.inVain {p : CheckPolicy} {domain : String} {r : Resolver} {block : List Deed}
    (h : Failing p domain r block) : InVain p domain r (block.filterMap Deed.attempt?) := by
  obtain ⟨q, replies, hq, hlen, hfails, rfl⟩ := h
  have hattempts := filterMap_attempt?_attemptDeeds (withDefaultPort r.address) q replies 0 false
  rw [List.filterMap_cons_none rfl, hattempts]
  refine ⟨by rw [List.length_map, hlen], fun a ha => ?_, fun a ha => ?_⟩
  · obtain ⟨reply, -, rfl⟩ := List.mem_map.mp ha
    exact ⟨rfl, hq⟩
  · obtain ⟨reply, hreply, rfl⟩ := List.mem_map.mp ha
    exact Attempt.hasFailed_of_fails (hfails reply hreply)

theorem inVain_of_failing {p : CheckPolicy} {domain : String} {rs : List Resolver} {blocks : List (List Deed)}
    (h : List.Forall₂ (Failing p domain) rs blocks) : ∃ attempts, List.Forall₂ (InVain p domain) rs attempts ∧
      blocks.flatten.filterMap Deed.attempt? = attempts.flatten := by
  induction h with
  | nil => exact ⟨[], .nil, rfl⟩
  | @cons r block rs blocks hr _ ih =>
    obtain ⟨attempts, hall, hflatten⟩ := ih
    refine ⟨block.filterMap Deed.attempt? :: attempts, .cons hr.inVain hall, ?_⟩
    rw [List.flatten_cons, List.filterMap_append, hflatten, List.flatten_cons]

theorem length_flatten_of_inVain {p : CheckPolicy} {domain : String} {rs : List Resolver}
    {attempts : List (List Attempt)} (h : List.Forall₂ (InVain p domain) rs attempts) :
    attempts.flatten.length = rs.length * (p.maxRetries + 1) := by
  induction h with
  | nil => exact (Nat.zero_mul _).symm
  | cons hr _ ih =>
    rw [List.flatten_cons, List.length_append, hr.count, ih, List.length_cons, Nat.succ_mul, Nat.add_comm]

/-! ### Checks that say so -/

def Outcome.SaysExhausted (o : Outcome) : Prop := o.error = some .allResolversFailed

theorem Outcome.not_saysExhausted_verdict (domain address : String) (blocked : Bool) :
    ¬ (Outcome.verdict domain address blocked).SaysExhausted := by
  simp [SaysExhausted, verdict]

/-- What a check with these resolvers has done that says that all of them failed: it has found no entry for any of them,
its exchanges were the attempts at the resolvers in their order, and they were all in vain. -/
structure Exhausted (p : CheckPolicy) (domain : String) (rs : List Resolver) (ds : List Deed) (o : Outcome) :
    Prop where
  outcome : o = .failed domain .allResolversFailed
  course : ∃ blocks, List.Forall₂ (Failing p domain) rs blocks ∧
    ds = .resolvers rs :: (blocks.flatten ++ [.count (.check false true)])
  attempts : ∃ attempts, List.Forall₂ (InVain p domain) rs attempts ∧
    ds.filterMap Deed.attempt? = attempts.flatten

theorem Exhausted.of_failing {p : CheckPolicy} {domain : String} {rs : List Resolver} {blocks : List (List Deed)}
    (h : List.Forall₂ (Failing p domain) rs blocks) :
    Exhausted p domain rs (.resolvers rs :: (blocks.flatten ++ [.count (.check false true)]))
      (.failed domain .allResolversFailed) := by
  obtain ⟨attempts, hall, hflatten⟩ := inVain_of_failing h
  refine ⟨rfl, ⟨blocks, h, rfl⟩, attempts, hall, ?_⟩
  rw [List.filterMap_cons_none rfl, List.filterMap_append, hflatten]
  exact List.append_nil _

theorem Exhausted.countP_isExchange {p : CheckPolicy} {domain : String} {rs : List Resolver} {ds : List Deed}
    {o : Outcome} (h : Exhausted p domain rs ds o) : ds.countP Deed.isExchange = rs.length * (p.maxRetries + 1) := by
  obtain ⟨attempts, hall, hattempts⟩ := h.attempts
  have hcount := congrArg List.length hattempts
  rw [List.length_filterMap_eq_countP, length_flatten_of_inVain hall] at hcount
  rw [← hcount]
  exact List.countP_congr fun d _ => by rw [Deed.isSome_attempt?]

namespace Job.Runs
variable {net : Network} {meanwhile : World → World → Prop} {p : CheckPolicy} {raw : String} {w w' : World}
  {ds : List Deed} {o : Outcome} {x : Except Fault Outcome}

theorem found {α : Type} {P : Outcome → Prop} {job : Job α} {ds₁ ds₂ : List Deed} {key : String} {y : Except Fault α}
    (h : job.Runs net meanwhile w (ds₁ ++ .lookup key (some o) :: ds₂) w' y)
    (hstore : ∀ d ∈ ds₁, d.isStore = false)
    (hmean : ∀ w w', meanwhile w w' → w.cache.Hands P → w'.cache.Hands P) (hw : w.cache.Hands P) : P o := by
  have hstanding : ∀ w w' : World, w.standing = w'.standing → w.cache.Hands P → w'.cache.Hands P := by
    intro w w' heq hw
    have hcache : w.cache = w'.cache := congrArg (·.2.1) heq
    rwa [← hcache]
  have hlookup : ∀ (w w₁ : World) key hit, w.lookup key = (w₁, .ok hit) → w.cache.Hands P → w₁.cache.Hands P := by
    intro w w₁ key hit hl hw
    obtain rfl := congrArg Prod.fst hl
    exact World.hands_lookup key hw
  obtain ⟨w₁, job₁, hw₁, hrest⟩ := h.cut (P := fun w => w.cache.Hands P) (D := fun d => d.isStore = false) hstore
    hstanding hmean (fun _ _ _ _ _ => hlookup _ _ _ _) (fun _ _ _ _ hd => nomatch hd) hw
  obtain ⟨w₂, job₂, hl, -⟩ := hrest.cons_lookup
  exact hw₁.of_get (congrArg Prod.snd hl)

/-- A check that says that all resolvers failed has asked all of them in vain, unless the cache has said so. -/
theorem exhausted (hmean : ∀ w w', meanwhile w w' →
      w.cache.Hands (¬ ·.SaysExhausted) → w'.cache.Hands (¬ ·.SaysExhausted))
    (hw : w.cache.Hands (¬ ·.SaysExhausted)) (h : (p.check raw).Runs net meanwhile w ds w' (.ok o))
    (ho : o.SaysExhausted) : Exhausted p (normalize raw) w.registry.resolvers ds o := by
  rcases (Checker.check_heeds_any p raw).runs h with hcalm | hcancelled
  · rcases h.check hcalm with ⟨ds', rfl, hf⟩ | ⟨rfl, -⟩
    · cases hf with
      | exhausted blocks hblocks => exact .of_failing hblocks
      | decided i hi before hbefore hlast =>
        cases hlast with
        | verdict => exact absurd ho (Outcome.not_saysExhausted_verdict _ _ _)
        | hit =>
          have hstore : ∀ d ∈ Deed.resolvers w.registry.resolvers :: before.flatten, d.isStore = false :=
            List.forall_mem_cons.mpr ⟨rfl, isStore_of_mem_flatten hbefore⟩
          rw [← List.cons_append] at h
          exact absurd ho (h.found hstore hmean hw)
    · cases ho
  · exact absurd (ho.symm.trans hcancelled) (by simp)

theorem check_of_no_resolvers (hvalid : isValidDomain (normalize raw)) (hrs : w.registry.resolvers = [])
    (h : (p.check raw).Runs net meanwhile w ds w' x) :
    x = .ok (.failed (normalize raw) .allResolversFailed) ∧ ds = [.resolvers [], .count (.check false true)] := by
  rw [CheckPolicy.check_of_valid hvalid] at h
  cases h with
  | resolvers h =>
    rw [hrs] at h ⊢
    cases h with
    | count h =>
      cases h
      exact ⟨rfl, rfl⟩

end Job.Runs

/-! ### Lists that become empty -/

def Turn.isDelete : Turn → Bool
  | .outside ⟨_, .delete _⟩ => true
  | _ => false

theorem Turn.isDelete_of_reload {t : Turn} {rs : List Resolver} (hrs : rs ≠ []) (h : t.reload rs = []) :
    t.isDelete := by
  cases t with
  | outside e =>
    obtain ⟨time, what⟩ := e
    cases what with
    | delete => rfl
    | upsert incoming => exact absurd h (Registry.placeAll_ne_nil hrs incoming)
    | cancel | flush | elapse => exact absurd h hrs
  | start | wake | abort | skip => exact absurd h hrs

/-- Among the turns there is a deletion that leaves nothing of the list of that moment. -/
def Turn.EmptiedBy (rs : List Resolver) (ts : List Turn) : Prop :=
  ∃ front t back, ts = front ++ t :: back ∧ t.isDelete ∧ front.foldl Turn.reload rs ≠ [] ∧
    t.reload (front.foldl Turn.reload rs) = []

theorem Turn.emptiedBy_of_foldl {rs : List Resolver} {ts : List Turn} (hrs : rs ≠ [])
    (h : ts.foldl Turn.reload rs = []) : EmptiedBy rs ts := by
  induction ts generalizing rs with
  | nil => exact absurd h hrs
  | cons t ts ih =>
    by_cases ht : t.reload rs = []
    · exact ⟨[], t, ts, rfl, isDelete_of_reload hrs ht, hrs, ht⟩
    · obtain ⟨front, t', back, rfl, hdelete, hbefore, hafter⟩ := ih ht h
      exact ⟨t :: front, t', back, rfl, hdelete, hbefore, hafter⟩

/-! ### The outcomes of a call -/

namespace Checker
variable {c : Checker} {net : Network} {call : Call} {raw : String}

/-- An outcome of a check that was started in surroundings `w` with this version of the resolver list; what came after
its end has led to `w'`. It says that all resolvers failed only if they were all asked in vain, and always when there
were none. That is so of every run that comes to the outcome. -/
structure Accounts (net : Network) (meanwhile : World → World → Prop) (p : CheckPolicy) (raw : String)
    (version : List Resolver) (w w' : World) (o : Outcome) : Prop where
  current : w.registry.resolvers = version
  made : ∃ ds w₁ x, (p.check raw).Runs net meanwhile w ds w₁ x ∧ meanwhile w₁ w' ∧
    o = (Slot.ended x).result (fallback raw)
  exhausted : o.SaysExhausted → ∀ ds w₁ x, (p.check raw).Runs net meanwhile w ds w₁ x →
    o = (Slot.ended x).result (fallback raw) → Exhausted p (normalize raw) version ds o
  unasked : version = [] → isValidDomain (normalize raw) →
    o = .failed (normalize raw) .allResolversFailed ∧
      ∀ ds w₁ x, (p.check raw).Runs net meanwhile w ds w₁ x → ds = [.resolvers [], .count (.check false true)]

theorem Accounts.of_runs {meanwhile : World → World → Prop} {p : CheckPolicy} {w w₁ w' : World} {ds : List Deed}
    {x : Except Fault Outcome} (hmean : ∀ w w', meanwhile w w' →
      w.cache.Hands (¬ ·.SaysExhausted) → w'.cache.Hands (¬ ·.SaysExhausted))
    (hw : w.cache.Hands (¬ ·.SaysExhausted)) (h : (p.check raw).Runs net meanwhile w ds w₁ x) (hm : meanwhile w₁ w') :
    Accounts net meanwhile p raw w.registry.resolvers w w' ((Slot.ended x).result (fallback raw)) where
  current := rfl
  made := ⟨ds, w₁, x, h, hm, rfl⟩
  exhausted ho ds₂ w₂ y hy heq := by
    rw [heq] at ho ⊢
    cases y with
    | ok o => exact hy.exhausted hmean hw ho
    | error f => cases ho
  unasked hrs hvalid := by
    obtain ⟨rfl, -⟩ := h.check_of_no_resolvers hvalid hrs
    exact ⟨rfl, fun _ _ _ hy => (hy.check_of_no_resolvers hvalid hrs).2⟩

/-- What the outcomes of a call mean that say that all resolvers failed. -/
structure Exhausts (c : Checker) (net : Network) (call : Call) : Prop where
  /-- In every schedule, the outcome of an item accounts for the version of the list at the start of the item, and that
  version is empty only if a deletion before the start has emptied the list. -/
  checkMany : ∀ raws limit ts b, (c.manyBatch call raws).Finishes net limit ts b → ∀ (i : Nat) raw o,
    raws[i]? = some raw → (b.results fallback raws)[i]? = some o → o = .failed raw .cancelled ∨
      ∃ before later b₀, ts = before ++ .start i :: later ∧ (c.manyBatch call raws).Schedule net limit before b₀ ∧
        Accounts net ((c.manyBatch call raws).Meanwhile net limit i) c.policy raw
          (before.foldl Turn.reload c.resolvers) b₀.world b.world o ∧
        (c.resolvers ≠ [] → before.foldl Turn.reload c.resolvers = [] → Turn.EmptiedBy c.resolvers before)
  /-- In every schedule of a check of one domain, the outcome accounts for the list at the beginning of the call. -/
  checkOne : ∀ raw ts b o, (c.oneBatch net call raw).Finishes net 1 ts b → b.slots = [.ended (.ok o)] →
    Accounts net (World.Intervened (call.agendaFrom c.world)) c.policy raw c.resolvers (call.world c.world)
      b.world o ∧
    (o.SaysExhausted → b.world.exchanges = c.world.exchanges + c.resolvers.length * (c.policy.maxRetries + 1))

theorem accounts_checkMany (hc : c.world.cache.Hands (¬ ·.SaysExhausted)) {raws : List String} {limit : Nat}
    {ts : List Turn} {b : Batch Outcome} (h : (c.manyBatch call raws).Finishes net limit ts b) {i : Nat} {o : Outcome}
    (hraw : raws[i]? = some raw) (ho : (b.results fallback raws)[i]? = some o) : o = .failed raw .cancelled ∨
      ∃ before later b₀, ts = before ++ .start i :: later ∧ (c.manyBatch call raws).Schedule net limit before b₀ ∧
        Accounts net ((c.manyBatch call raws).Meanwhile net limit i) c.policy raw
          (before.foldl Turn.reload c.resolvers) b₀.world b.world o := by
  rcases h.began hraw with hskipped | ⟨x, before, b₀, hx, hbegan⟩
  · rw [Batch.getElem?_results hraw hskipped] at ho
    exact .inl (Option.some.inj ho).symm
  · rw [Batch.getElem?_results hraw hx] at ho
    obtain rfl := Option.some.inj ho
    obtain ⟨later, hlater⟩ := hbegan.turns
    obtain ⟨ds, w₁, hruns, hm⟩ := hbegan.runs
    have hversion : b₀.world.registry.resolvers = before.foldl Turn.reload c.resolvers := hbegan.schedule.resolvers
    have hheeds : (c.manyBatch call raws).Heeds (¬ ·.SaysExhausted) (fun _ => True) Outcome.IsCancelled :=
      Batch.heeds_queue (check_heeds_kept Outcome.not_saysExhausted_verdict c.policy) (hands_call hc call) _
    have hhands : ∀ ts b, (c.manyBatch call raws).Schedule net limit ts b →
        b.world.cache.Hands (¬ ·.SaysExhausted) := fun _ _ hsched => (hsched.heeds hheeds).cache
    refine .inr ⟨before, later, b₀, hlater, hbegan.schedule, ?_⟩
    rw [← hversion]
    refine .of_runs (fun w w' hm hw => ?_) (hhands _ _ hbegan.schedule) hruns hm
    exact hm.holds (P := fun w => w.cache.Hands (¬ ·.SaysExhausted)) hhands hw

theorem accounts_checkOne (hc : c.world.cache.Hands (¬ ·.SaysExhausted)) {ts : List Turn} {b : Batch Outcome}
    {o : Outcome} (h : (c.oneBatch net call raw).Finishes net 1 ts b) (ho : b.slots = [.ended (.ok o)]) :
    Accounts net (World.Intervened (call.agendaFrom c.world)) c.policy raw c.resolvers (call.world c.world)
      b.world o ∧
    (o.SaysExhausted → b.world.exchanges = c.world.exchanges + c.resolvers.length * (c.policy.maxRetries + 1)) := by
  obtain ⟨x, ds, hslots, hruns⟩ := h.runs
  rw [ho] at hslots
  cases hslots
  have hmean : ∀ w w', World.Intervened (call.agendaFrom c.world) w w' →
      w.cache.Hands (¬ ·.SaysExhausted) → w'.cache.Hands (¬ ·.SaysExhausted) := fun w w' hm hw =>
    hm.preserves (P := fun w => w.cache.Hands (¬ ·.SaysExhausted)) (fun e _ w hw => World.hands_apply e.what hw) hw
  refine ⟨.of_runs hmean (hands_call hc call) hruns .refl, fun ho' => ?_⟩
  have hexhausted := hruns.exhausted hmean (hands_call hc call) ho'
  rw [hruns.exchanges fun _ _ => World.Intervened.exchanges, hexhausted.countP_isExchange]
  rfl

/-- Whatever was done with a checker before, an outcome of its calls says that all resolvers failed only if each resolver
of the list at the start of its check was sent one query for each attempt and all of them failed. A check of one domain
has resolvers then. An item of many may have none, when a deletion during the call has emptied the list before its
start: it says so without an exchange, where a call that finds the list empty says that there are no resolvers. It is
taken for granted that a cache of the caller's own does not hand out what it was never told. -/
theorem exhausts (config : Config) (cache : Option Cache) (hcache : ∀ k ∈ cache, k.Hands (¬ ·.SaysExhausted))
    (c : Checker) (hc : (Checker.build config cache).Used c) (net : Network) (call : Call) :
    (c.resolvers = [] →
      (∀ raw, c.checkOne net call raw = (c, .error (.error .noResolversConfigured))) ∧
      ∀ raws, c.checkMany net call raws = (c, .error .noResolversConfigured)) ∧
    (c.resolvers ≠ [] →
      (∀ raws, ∃ ts b, (c.manyBatch call raws).Finishes net c.limit ts b ∧
        c.checkMany net call raws = ({ c with world := b.world }, .ok (b.results fallback raws))) ∧
      ∀ raw, ∃ ts b x, (c.oneBatch net call raw).Finishes net 1 ts b ∧ b.slots = [.ended x] ∧
        c.checkOne net call raw = ({ c with world := b.world }, x.mapError .crash)) ∧
    c.Exhausts net call := by
  have hhands : c.world.cache.Hands (¬ ·.SaysExhausted) :=
    hc.hands_kept Outcome.not_saysExhausted_verdict (hands_build hcache)
  refine ⟨fun hempty => ?_, fun hne => ⟨checkMany_finishes net call hne, checkOne_finishes net call hne⟩, ?_, ?_⟩
  · obtain ⟨hone, hmany, -⟩ := calls_of_empty net call hempty
    exact ⟨hone, hmany⟩
  · intro raws limit ts b h i raw o hraw ho
    refine (accounts_checkMany hhands h hraw ho).imp_right ?_
    rintro ⟨before, later, b₀, hts, hsched, haccounts⟩
    exact ⟨before, later, b₀, hts, hsched, haccounts, Turn.emptiedBy_of_foldl⟩
  · exact fun raw ts b o h ho => accounts_checkOne hhands h ho

theorem checkMany_of_steps (hne : c.resolvers ≠ []) {raws : List String} (agenda : List AgendaEntry)
    (hagenda : call.agendaFrom c.world = agenda) (n : Nat) {b : Batch Outcome}
    (hb : (Batch.queue c.policy.check raws (call.world c.world) agenda).steps net c.limit n = b)
    (hstop : (b.step net c.limit).isNone) :
    c.checkMany net call raws = ({ c with world := b.world }, .ok (b.results fallback raws)) := by
  have hrun : (Batch.queue c.policy.check raws (call.world c.world) agenda).run net c.limit = b := by
    rw [Batch.run_eq_steps n (by rw [hb]; exact hstop), hb]
  have hdispatch : dispatch net c.concurrency agenda c.policy.check fallback raws (call.world c.world) =
      (b.world, b.results fallback raws) := by
    rw [← hrun]
    rfl
  simp only [checkMany, isEmpty_of_ne hne, Bool.false_eq_true, if_false, hagenda, hdispatch]

/-- A checker that makes one check at a time, and one attempt at one resolver. -/
def oneByOne : Checker :=
  .build { Config.default with maxRetries := 0, concurrency := 1, resolvers := [⟨"10.0.0.1", "internetpositif", .a⟩] }
    none

/-- The only resolver is deleted during the first of two checks. The second one says that all resolvers failed, and there
was one exchange in all: that of the first one. -/
theorem exhausts_unasked :
    let call : Call := { agenda := [⟨5, .delete ["10.0.0.1"]⟩] }
    let c := oneByOne.checkMany (.answeringAfter 10) call ["reddit.com", "example.com"]
    c.2 = .ok [.verdict "reddit.com" "10.0.0.1" false, .failed "example.com" .allResolversFailed] ∧
      c.1.world.exchanges = 1 := by
  intro call c
  have hagenda : call.agendaFrom oneByOne.world = [⟨5, .delete ["10.0.0.1"]⟩] := by
    simp [call, Call.agendaFrom, oneByOne, build]
  have hc : c = _ := checkMany_of_steps (by decide) _ hagenda 5 rfl (by decide +kernel)
  rw [hc]
  decide +kernel

theorem exhausts_silence :
    let c := ofAddresses ["10.0.0.1"]
    (c.checkOne (fun _ _ _ => .silence) {} "Example.com").2 = .ok (.failed "example.com" .allResolversFailed) ∧
      ∃ ds, Exhausted c.policy (normalize "Example.com") c.resolvers ds
        (.failed "example.com" .allResolversFailed) := by
  intro c
  have hne : c.resolvers ≠ [] := by decide
  have hres : (c.checkOne (fun _ _ _ => .silence) {} "Example.com").2 =
      .ok (.failed "example.com" .allResolversFailed) := by
    refine checkOne_of_steps (x := .ok (.failed "example.com" .allResolversFailed)) hne [] ?_ 2 rfl ?_ ?_
    · simp [Call.agendaFrom]
    · decide +kernel
    · decide +kernel
  obtain ⟨-, hfinishes, hexhausts⟩ := exhausts _ none (by simp) c .refl (fun _ _ _ => .silence) {}
  obtain ⟨ts, b, x, hfin, hslots, heq⟩ := (hfinishes hne).2 "Example.com"
  refine ⟨hres, ?_⟩
  rw [heq] at hres
  cases x with
  | error f => cases hres
  | ok o =>
    cases hres
    have haccounts := (hexhausts.checkOne _ ts b _ hfin hslots).1
    obtain ⟨ds, w', x, hruns, -, hx⟩ := haccounts.made
    exact ⟨ds, haccounts.exhausted rfl ds w' x hruns hx⟩

end Checker
end FilterWatch
