import FilterWatch.Proofs.Keeping
import FilterWatch.Proofs.Records

/-!
# Where verdicts come from

Every entry of the journal that tells the cache an outcome was made by a check: it was started with a list that has the
resolver, it has sent a query to it, and its verdict was the last thing that it wrote (`Checker.Stores`). This holds as
long as a checker is used, and in the middle of its calls (`Checker.Passes`). So a verdict that a check has from the
cache leads back to the check that came to it (`Checker.CheckedAs.found`, `Checker.Vouches.source`).
-/

namespace FilterWatch

/-! ### What checks tell the cache -/

namespace CheckPolicy
variable {p : CheckPolicy} {domain key : String} {rs : List Resolver} {R : Cache.Replies} {hs pre post : List Happening}
  {x : Except Fault Outcome} {o : Outcome}

/-- What a check that tells the cache `o` has done before, `pre`, and what it comes to. -/
structure Tells (p : CheckPolicy) (domain : String) (rs : List Resolver) (R : Cache.Replies) (pre : List Happening)
    (key : String) (o : Outcome) (x : Except Fault Outcome) (r : Resolver) (blocked : Bool) : Prop where
  listed : r ∈ rs
  valid : isValidDomain domain
  key_eq : key = cacheKey domain r
  verdict : o = .verdict domain r.address blocked
  asked : ∃ q, Dns.Query.ofDomain domain r.recordType p.prober.payload = .ok q ∧
    .exchange (withDefaultPort r.address) q ∈ pre
  first : ∀ h ∈ pre, h.isStore = false
  result : x = .ok o ∨ ∃ f, x = .error f ∧ R.refuses key o f

theorem Ends.tells (h : Ends p domain rs R (pre ++ .store key o :: post) x) :
    post = [] ∧ ∃ r blocked, Tells p domain rs R pre key o x r blocked := by
  have hmem : .store key o ∈ pre ++ .store key o :: post := by simp
  generalize hhs : pre ++ .store key o :: post = hs at h hmem
  cases h with
  | hit _ _ hnone =>
    rcases List.mem_append.mp hmem with hmem | hmem
    · cases hnone _ hmem
    · simp at hmem
  | failed hnone => cases hnone _ hmem
  | @stored hs r b q _ hvalid hr hnone hq hasked hx =>
    rcases List.eq_nil_or_concat post with rfl | ⟨post, y, rfl⟩
    · obtain ⟨rfl, htail⟩ := List.append_inj' hhs rfl
      simp only [List.cons.injEq, Happening.store.injEq, and_true] at htail
      obtain ⟨rfl, rfl⟩ := htail
      exact ⟨rfl, r, b, hr, hvalid, rfl, rfl, ⟨q, hq, hasked⟩, hnone, hx⟩
    · rw [List.concat_eq_append, ← List.cons_append, ← List.append_assoc] at hhs
      obtain ⟨rfl, -⟩ := List.append_inj' hhs rfl
      cases hnone (.store key o) (by simp)

/-- A check with a verdict that tells the cache nothing ends with a read of the cache. -/
theorem Ends.found (h : Ends p domain rs R hs (.ok o)) (ho : o.error = none) (hnone : ∀ h ∈ hs, h.isStore = false) :
    isValidDomain domain ∧ ∃ r ∈ rs, ∃ front found, hs = front ++ [.lookup (cacheKey domain r) found] ∧
      R.brings (cacheKey domain r) o := by
  generalize hx : Except.ok o = x at h
  cases h with
  | hit hvalid hr _ hhit =>
    cases hx
    exact ⟨hvalid, _, hr, _, _, rfl, hhit⟩
  | @stored _ r b => cases hnone (.store (cacheKey domain r) (.verdict domain r.address b)) (by simp)
  | failed _ hfailed =>
    obtain ⟨e, rfl⟩ := hfailed o hx.symm
    cases ho

end CheckPolicy

theorem Prober.health_trace {p : Prober} {r : Resolver} {rs : List Resolver} {R : Cache.Replies} {hs : List Happening}
    {x : Except Fault Health} (h : ((p.health r).given rs).Trace R hs x) : ∀ h ∈ hs, h.isMessage := by
  rw [health, ask] at h
  cases hq : Dns.Query.ofDomain healthProbeDomain .a p.payload with
  | error e =>
    rw [hq] at h
    cases h
    simp
  | ok q =>
    rw [hq] at h
    cases h with
    | withheld h | answered h | unanswered _ h =>
      cases h
      simp [Happening.isMessage]
    | exchangeCrash => simp [Happening.isMessage]

/-! ### Entries that tell the cache something -/

theorem Event.older_of_store {new J newer older : List Event} {e : Event} (h : newer ++ e :: older = new ++ J)
    (he : e.what.isStore) (hnew : ∀ e' ∈ new, e'.what.isStore = false) : ∃ front, J = front ++ e :: older := by
  rcases List.append_eq_append_iff.mp h with ⟨added, rfl, hrest⟩ | ⟨front, -, hrest⟩
  · cases added with
    | nil => exact ⟨[], hrest.symm⟩
    | cons e' added =>
      obtain ⟨rfl, -⟩ := List.cons.inj hrest
      simp [hnew e (by simp)] at he
  · exact ⟨front, hrest⟩

namespace Batch
variable {α ι : Type} {net : Network} {limit i : Nat} {start b : Batch α} {work : ι → Job α} {items : List ι}
  {w : World} {agenda : List AgendaEntry} {job : Job α} {e : Event} {older newer front es : List Event} {s : Slot α}
  {ts ts₀ : List Turn} {b₀ : Batch α}

theorem Authors.exists_trace (h : Authors net limit start i job e older ts b s front es ts₀ b₀) :
    ∃ R hs x, (job.given b₀.world.registry.resolvers).Trace R (Event.story (front ++ e :: es) ++ hs) x := by
  obtain ⟨hs, x, htrace⟩ := Slot.exists_trace _ h.recorded.started
  exact ⟨_, hs, x, h.recorded.trace hs x htrace⟩

/-- An entry that tells the cache something was there before the work, or it was made by the job of an item. -/
theorem Schedule.author_of_store (h : (Batch.queue work items w agenda).Schedule net limit ts b)
    (hJ : b.world.journal = newer ++ e :: older) (he : e.what.isStore) : (∃ front, w.journal = front ++ e :: older) ∨
      ∃ (i : Nat) (item : ι) (ts' : List Turn) (b' : Batch α) (s : Slot α) (front es : List Event) (ts₀ : List Turn)
        (b₀ : Batch α), items[i]? = some item ∧ (∃ us, b'.Schedule net limit us b) ∧
        Authors net limit (.queue work items w agenda) i (work item) e older ts' b' s front es ts₀ b₀ := by
  have hqueued : ∀ s ∈ (Batch.queue work items w agenda).slots, s.isQueued := by
    intro s hs
    obtain ⟨item, -, rfl⟩ := List.mem_map.mp hs
    rfl
  rcases h.authored hqueued hJ with hfront | hflush | ⟨i, job, ts', b', s, front, es, ts₀, b₀, hi, hus, hauthors⟩
  · exact .inl hfront
  · rw [hflush] at he
    cases he
  · rw [queue, List.getElem?_map, Option.map_eq_some_iff] at hi
    obtain ⟨item, hitem, hjob⟩ := hi
    obtain rfl := Slot.queued.inj hjob
    exact .inr ⟨i, item, ts', b', s, front, es, ts₀, b₀, hitem, hus, hauthors⟩

end Batch

/-! ### All along the use of a checker -/

namespace Checker

/-- The surroundings at a moment in the use of a checker: between two calls, or in the middle of one. -/
inductive Passes (c : Checker) : World → Prop
  | idle : Passes c c.world
  | checkOne {net call raw ts b} (h : (c.oneBatch net call raw).Schedule net 1 ts b) : Passes c b.world
  | checkMany {net call raws limit ts b} (h : (c.manyBatch call raws).Schedule net limit ts b) : Passes c b.world
  | health {net call limit ts b} (h : (c.healthBatch call).Schedule net limit ts b) : Passes c b.world

/-- From a batch of a call the use of the checker goes on to surroundings: within the call, or after it. -/
inductive GoesOn (net : Network) (limit : Nat) (c : Checker) (b : Batch Outcome) : World → Prop
  | within {ts d} (h : b.Schedule net limit ts d) : GoesOn net limit c b d.world
  | after {ts d c' w} (h : b.Finishes net limit ts d) (hused : Used { c with world := d.world } c') (hw : c'.Passes w) :
    GoesOn net limit c b w

/-- A check that was started on the way to the surroundings `w`: the surroundings that it was started in, what it has
written into the journal since, and the surroundings that it has come to. -/
inductive OnTheWay (c₀ : Checker) (w : World) (raw : String) : World → List Event → World → Prop
  | item {c net call limit raws ts b i s es ts₀ b₀} (hc : c₀.Used c) (hraw : raws[i]? = some raw)
      (hs : b.slots[i]? = some s)
      (hbegan : Batch.Began net limit (c.manyBatch call raws) i (c.policy.check raw) ts b.world s ts₀ b₀)
      (hwrote : Batch.Wrote net limit (c.manyBatch call raws) i ts b es) (hw : GoesOn net limit c b w) :
    OnTheWay c₀ w raw b₀.world es b.world

variable {c₀ c c' : Checker} {net : Network} {call : Call} {limit : Nat} {raw : String} {raws : List String}
  {ts : List Turn} {b : Batch Outcome} {w : World} {P : World → Prop}

theorem Passes.lasting (hP : World.Lasting P) (hc : P c.world) (h : c.Passes w) : P w := by
  cases h with
  | idle => exact hc
  | @checkOne net call raw ts b h =>
    refine h.lasting hP ?_
    rw [world_oneBatch]
    exact hP.advances (Slot.advances _ _ _) (lasting_call hP hc call)
  | checkMany h | health h => exact h.lasting hP (lasting_call hP hc _)

theorem Use.lasting (hP : World.Lasting P) (h : Use c c') (hc : P c.world) : P c'.world := by
  cases h with
  | checkOne h => exact (Passes.checkOne h.schedule).lasting hP hc
  | checkMany h => exact (Passes.checkMany h.schedule).lasting hP hc
  | health h => exact (Passes.health h.schedule).lasting hP hc
  | flush => exact hP.flush hc
  | upsert | delete | snapshot | elapse => exact hP.aside hc rfl (.of_eq rfl)

theorem Used.lasting (hP : World.Lasting P) (h : c.Used c') (hc : P c.world) : P c'.world := by
  induction h with
  | refl => exact hc
  | tail _ huse ih => exact huse.lasting hP ih

theorem Used.policy_eq (h : c.Used c') : c'.policy = c.policy := by
  induction h with
  | refl => rfl
  | tail _ huse ih =>
    rw [← ih]
    cases huse <;> rfl

/-! ### Checks that tell the cache a verdict -/

/-- On the way to the surroundings `w`, a check that was started in `w₀` and that has written `es` since tells the cache
its verdict for a resolver. The entry `e` stands on top of `older` in the journal. -/
structure Stores (c₀ : Checker) (w : World) (raw : String) (w₀ : World) (r : Resolver) (blocked : Bool)
    (es : List Event) (e : Event) (older : List Event) : Prop where
  made : ∃ w', c₀.OnTheWay w raw w₀ (e :: es) w' ∧ w'.journal = e :: older
  since : ∃ seg, older = seg ++ w₀.journal ∧ es.Sublist seg
  listed : r ∈ w₀.registry.resolvers
  valid : isValidDomain (normalize raw)
  what : e.what = .store (cacheKey (normalize raw) r) (.verdict (normalize raw) r.address blocked)
  asked : ∃ q, Dns.Query.ofDomain (normalize raw) r.recordType c₀.policy.prober.payload = .ok q ∧
    ∃ e' ∈ es, e'.what = .exchange (withDefaultPort r.address) q

/-- The entry `e` is that of a check, whichever of these surroundings the use of the checker has gone on to. -/
def Vouched (c₀ : Checker) (later : World → Prop) (e : Event) (older : List Event) : Prop :=
  ∃ raw w₀ r blocked es, ∀ w, later w → c₀.Stores w raw w₀ r blocked es e older

/-- All that the cache was told on the way to the surroundings, by their journal, are verdicts of checks. -/
def Vouches (c₀ : Checker) (w : World) : Prop :=
  ∀ newer e older, w.journal = newer ++ e :: older → e.what.isStore → c₀.Vouched (· = w) e older

theorem Vouched.mono {later later' : World → Prop} {e : Event} {older : List Event} (h : c₀.Vouched later e older)
    (hlater : ∀ w, later' w → later w) : c₀.Vouched later' e older := by
  obtain ⟨raw, w₀, r, blocked, es, hstores⟩ := h
  exact ⟨raw, w₀, r, blocked, es, fun w hw => hstores w (hlater w hw)⟩

theorem GoesOn.of_schedule {d : Batch Outcome} (h : b.Schedule net limit ts d) (hw : GoesOn net limit c d w) :
    GoesOn net limit c b w := by
  cases hw with
  | within h' => exact .within (h.trans h')
  | after h' hused hw => exact .after ⟨h.trans h'.schedule, h'.done⟩ hused hw

theorem stores_of_authors {i : Nat} {e : Event} {older front es : List Event} {s : Slot Outcome} {ts₀ : List Turn}
    {b₀ : Batch Outcome} (hc : c₀.Used c) (hraw : raws[i]? = some raw)
    (h : Batch.Authors net limit (c.manyBatch call raws) i (c.policy.check raw) e older ts b s front es ts₀ b₀)
    (he : e.what.isStore) :
    ∃ r blocked, ∀ w, GoesOn net limit c b w → c₀.Stores w raw b₀.world r blocked es e older := by
  cases hwhat : e.what with
  | exchange | answer | lookup | flush => rw [hwhat] at he; cases he
  | store key o =>
    obtain ⟨R, hs, x, htrace⟩ := h.exists_trace
    have hends := CheckPolicy.check_ends htrace
    rw [Event.story_append, Event.story_cons, hwhat, List.append_assoc, List.append_assoc,
      List.singleton_append] at hends
    obtain ⟨hpost, r, blocked, htells⟩ := hends.tells
    -- the check has ended with this entry
    obtain rfl : front = [] := by simpa [Event.story] using (List.append_eq_nil_iff.mp hpost).1
    obtain ⟨q, hq, hasked⟩ := htells.asked
    refine ⟨r, blocked, fun w hw => ⟨⟨b.world, .item hc hraw h.slot h.recorded.began h.wrote hw, h.journal⟩, h.since,
      htells.listed, htells.valid, ?_, q, ?_, Event.mem_story.mp hasked⟩⟩
    · rw [hwhat, htells.key_eq, htells.verdict]
    · rwa [← hc.policy_eq]

/-- What the cache was told in a call of many, it was told before the call or by a check of the call. -/
theorem told_manyBatch {newer older : List Event} {e : Event} (hc : c₀.Used c)
    (h : (c.manyBatch call raws).Schedule net limit ts b) (hJ : b.world.journal = newer ++ e :: older)
    (he : e.what.isStore) :
    (∃ front, c.world.journal = front ++ e :: older) ∨ c₀.Vouched (GoesOn net limit c b) e older := by
  refine (h.author_of_store hJ he).imp_right ?_
  rintro ⟨i, raw, ts', b', s, front, es, ts₀, b₀, hraw, ⟨us, hus⟩, hauthors⟩
  obtain ⟨r, blocked, hstores⟩ := stores_of_authors hc hraw hauthors he
  exact ⟨raw, _, r, blocked, es, fun w hw => hstores w (hw.of_schedule hus)⟩

theorem told_oneBatch {newer older : List Event} {e : Event} (hc : c₀.Used c)
    (h : (c.oneBatch net call raw).Schedule net 1 ts b) (hJ : b.world.journal = newer ++ e :: older)
    (he : e.what.isStore) :
    (∃ front, c.world.journal = front ++ e :: older) ∨ c₀.Vouched (GoesOn net 1 c b) e older := by
  cases hcall : call.cancelled with
  | true =>
    obtain ⟨new, hnew, hlookups⟩ := (oneBatch_cancelled hcall h).2
    refine .inl (Event.older_of_store (hJ.symm.trans hnew) he fun e' he' => ?_)
    obtain ⟨key, found, hwhat⟩ := hlookups e' he'
    rw [hwhat]
    rfl
  | false =>
    have hqueue : (c.manyBatch call [raw]).Schedule net 1 (.start 0 :: ts) b :=
      Batch.Schedule.of_alone c.policy.check h hcall
    exact told_manyBatch hc hqueue hJ he

theorem told_healthBatch {b : Batch Health} {newer older : List Event} {e : Event}
    (h : (c.healthBatch call).Schedule net limit ts b) (hJ : b.world.journal = newer ++ e :: older)
    (he : e.what.isStore) : ∃ front, c.world.journal = front ++ e :: older := by
  refine (h.author_of_store hJ he).resolve_right ?_
  rintro ⟨i, r, ts', b', s, front, es, ts₀, b₀, -, -, hauthors⟩
  obtain ⟨R, hs, x, htrace⟩ := hauthors.exists_trace
  have hmem : e.what ∈ Event.story (front ++ e :: es) ++ hs :=
    List.mem_append_left _ (Event.mem_story.mpr ⟨e, by simp, rfl⟩)
  rw [Happening.isStore_of_isMessage (Prober.health_trace htrace _ hmem)] at he
  cases he

/-- The use of the checker has gone on to these surroundings. -/
def Later (c : Checker) (w : World) : Prop := ∃ c', c.Used c' ∧ c'.Passes w

theorem Later.of_use (h : Use c c') (hw : c'.Later w) : c.Later w := by
  obtain ⟨c'', hused, hw⟩ := hw
  exact ⟨c'', .head h hused, hw⟩

theorem Later.goesOn (h : Batch.IsDone b) (hw : Later { c with world := b.world } w) : GoesOn net limit c b w := by
  obtain ⟨c', hused, hw⟩ := hw
  exact .after ⟨.nil, h⟩ hused hw

theorem Used.vouched {newer older : List Event} {e : Event} (h : c₀.Used c) (h₀ : c₀.world.journal = [])
    (hJ : c.world.journal = newer ++ e :: older) (he : e.what.isStore) : c₀.Vouched c.Later e older := by
  induction h generalizing newer with
  | refl => simp [h₀] at hJ
  | @tail c c' hc huse ih =>
    have hbefore : (∃ front, c.world.journal = front ++ e :: older) → c₀.Vouched c'.Later e older := by
      rintro ⟨front, hfront⟩
      exact (ih hfront).mono fun w => Later.of_use huse
    cases huse with
    | checkOne h =>
      exact (told_oneBatch hc h.schedule hJ he).elim hbefore fun hnew => hnew.mono fun w => Later.goesOn h.done
    | checkMany h =>
      exact (told_manyBatch hc h.schedule hJ he).elim hbefore fun hnew => hnew.mono fun w => Later.goesOn h.done
    | health h => exact hbefore (told_healthBatch h.schedule hJ he)
    | flush => exact hbefore (@Event.older_of_store [_] _ _ _ _ hJ.symm he (by simp [Happening.isStore]))
    | upsert | delete | snapshot | elapse => exact hbefore ⟨newer, hJ⟩

theorem Passes.vouches (hc : c₀.Used c) (h₀ : c₀.world.journal = []) (h : c.Passes w) : c₀.Vouches w := by
  intro newer e older hJ he
  have hbefore : (∃ front, c.world.journal = front ++ e :: older) → c₀.Vouched (· = w) e older := by
    rintro ⟨front, hfront⟩
    refine (hc.vouched h₀ hfront he).mono ?_
    rintro _ rfl
    exact ⟨c, .refl, h⟩
  have hnow : ∀ {net limit} {b : Batch Outcome}, c₀.Vouched (GoesOn net limit c b) e older →
      c₀.Vouched (· = b.world) e older := by
    intro net limit b hnew
    refine hnew.mono ?_
    rintro _ rfl
    exact .within .nil
  cases h with
  | idle => exact hbefore ⟨newer, hJ⟩
  | checkOne h => exact (told_oneBatch hc h hJ he).elim hbefore hnow
  | checkMany h => exact (told_manyBatch hc h hJ he).elim hbefore hnow
  | health h => exact hbefore (told_healthBatch h hJ he)

/-! ### What reads of the cache bring -/

/-- What a read of the cache brings a check has told it, and the cache was not flushed in between. -/
theorem Vouches.source {J₀ : List Event} {key : String} {o : Outcome} (h : c₀.Vouches w)
    (hread : (World.replies (World.Since World.Backed J₀) w.journal).brings key o) :
    ∃ newer e older, J₀ <:+ newer ++ e :: older ∧ (∀ e' ∈ newer, e'.isFlush = false) ∧ e.what = .store key o ∧
      ∃ raw w₀ r blocked es, c₀.Stores w raw w₀ r blocked es e older := by
  obtain ⟨w₁, ⟨hbacked, hsince⟩, hread, hfound⟩ := hread
  obtain ⟨newer, time, older, hw₁, hnone⟩ := hbacked.of_lookup hfound
  obtain ⟨front, hfront⟩ := (List.suffix_cons _ _).trans hread
  rw [hw₁, ← List.append_assoc] at hfront
  obtain ⟨raw, w₀, r, blocked, es, hstores⟩ := h _ _ _ hfront.symm rfl
  exact ⟨newer, _, older, hw₁ ▸ hsince, hnone rfl, rfl, raw, w₀, r, blocked, es, hstores w rfl⟩

theorem Checked.passes {w₀ : World} {es : List Event} {x : Except Fault Outcome}
    (h : c.Checked net call raw w₀ es w x) : c.Passes w := by
  cases h with
  | item h => exact .checkMany h.schedule
  | cancelled _ h => exact .checkOne h.schedule

section
variable {config : Config} {cache : Option Cache}

theorem backed_of_used (hcache : ∀ k ∈ cache, k.IsUnused) (hc : (build config cache).Used c) : c.world.Backed :=
  hc.lasting World.lasting_backed (backed_build hcache)

theorem Passes.vouches_build (hc : (build config cache).Used c) (h : c.Passes w) : (build config cache).Vouches w :=
  h.vouches hc rfl

end
end Checker

/-- A check has this outcome from the cache: it has a verdict, and it has told the cache nothing. -/
structure Outcome.IsFromCache (es : List Event) (o : Outcome) : Prop where
  verdict : o.error = none
  untold : ∀ e ∈ es, e.what.isStore = false

theorem Checker.CheckedAs.found {P : World → Prop} {p : CheckPolicy} {raw : String} {w₀ w : World} {es : List Event}
    {o : Outcome} (h : CheckedAs P p raw w₀ es w (.ok o)) (ho : o.IsFromCache es) :
    isValidDomain (normalize raw) ∧ ∃ r ∈ w₀.registry.resolvers, ∃ time found rest,
      es = ⟨time, .lookup (cacheKey (normalize raw) r) found⟩ :: rest ∧
      (World.replies (World.Since P w₀.journal) w.journal).brings (cacheKey (normalize raw) r) o := by
  obtain ⟨hvalid, r, hr, front, found, hstory, hbrings⟩ :=
    h.ends.found ho.verdict (Event.forall_story.mpr ho.untold)
  obtain ⟨time, rest, rfl, -⟩ := Event.eq_cons_of_story hstory
  exact ⟨hvalid, r, hr, time, found, rest, rfl, hbrings⟩

/-- A check of one domain that has a verdict has it from the cache, if none of the new entries tells the cache
anything. -/
theorem Checker.fromCache_of_checkOne {c : Checker} {net : Network} {call : Call} {raw : String} {o : Outcome}
    {new : List Event} (h : (c.checkOne net call raw).2 = .ok o) (ho : o.error = none)
    (hnew : (c.checkOne net call raw).1.world.journal = new ++ c.world.journal)
    (hnone : ∀ e ∈ new, e.what.isStore = false) :
    ∃ es w, c.Checked net call raw (call.world c.world) es w (.ok o) ∧ o.IsFromCache es := by
  obtain ⟨es, hchecked⟩ := checked_of_checkOne h
  obtain ⟨seg, hseg, hsub⟩ := (hchecked.ends World.lasting_true trivial).since
  obtain rfl : new = seg := List.append_cancel_right (hnew.symm.trans hseg)
  exact ⟨es, _, hchecked, ho, fun e he => hnone e (hsub.subset he)⟩

end FilterWatch
