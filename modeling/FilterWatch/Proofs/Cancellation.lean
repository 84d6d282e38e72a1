import FilterWatch.Proofs.Course
import FilterWatch.Proofs.Stopping

/-!
# Cancelled calls

What the calls of a checker make of their token. In every schedule of its batch a call obeys a cancellation
(`Batch.Obeys`): its results are there without delay, and those of jobs that had not ended say that they were cancelled.
Without a cancellation no result says so.
-/

namespace FilterWatch

/-! ### The agenda of a call -/

namespace Call
variable (call : Call) (w : World)

theorem sorted_agendaFrom : (call.agendaFrom w).Pairwise (·.time ≤ ·.time) := by
  have h := @List.pairwise_mergeSort _ (fun a b : AgendaEntry => decide (a.time ≤ b.time))
    (fun a b c hab hbc => by simp only [decide_eq_true_eq] at *; omega)
    (fun a b => by simp only [Bool.or_eq_true, decide_eq_true_eq]; omega)
    (call.agenda.map fun e => { e with time := w.now + e.time })
  exact h.imp fun hab => by simpa using hab

theorem le_of_mem_agendaFrom {e : AgendaEntry} (h : e ∈ call.agendaFrom w) : w.now ≤ e.time := by
  obtain ⟨e', -, rfl⟩ := List.mem_map.mp (List.mem_mergeSort.mp h)
  exact Nat.le_add_right _ _

end Call

/-! ### The results of a call -/

namespace Batch
variable {α ι : Type} {net : Network} {limit : Nat} {Kept : Outcome → Prop} {Q C : α → Prop} {b c d : Batch α}
  {t : Turn} {ts : List Turn} {work : ι → Job α} {items : List ι} {w : World} {call : Call} {job : Job α}

theorem heeds_queue (hwork : ∀ i, (work i).Heeds Kept Q C) (hw : w.cache.Hands Kept) (agenda : List AgendaEntry) :
    (Batch.queue work items w agenda).Heeds Kept Q C := by
  refine ⟨hw, fun s hs => ?_, fun _ s hs => ?_⟩
  · obtain ⟨i, -, rfl⟩ := List.mem_map.mp hs
    exact hwork i
  · obtain ⟨i, -, rfl⟩ := List.mem_map.mp hs
    trivial

theorem heeds_alone (hjob : job.Heeds Kept Q C) (hw : w.cache.Hands Kept) (agenda : List AgendaEntry) :
    (Batch.alone net job w agenda).Heeds Kept Q C := by
  have hturned := (Slot.advances net job w).turned hjob hw
  refine ⟨hturned.cache, fun s hs => ?_, fun hcalm s hs => ?_⟩
  · rw [List.mem_singleton.mp hs]
    exact hturned.heeds
  · rw [List.mem_singleton.mp hs]
    exact hturned.untouched hcalm

theorem onTime_queue (call : Call) (w : World) :
    (Batch.queue work items (call.world w) (call.agendaFrom w)).OnTime :=
  ⟨call.sorted_agendaFrom w, fun _ he => call.le_of_mem_agendaFrom w he⟩

theorem onTime_alone (call : Call) (w : World) :
    (Batch.alone net job (call.world w) (call.agendaFrom w)).OnTime := by
  refine ⟨call.sorted_agendaFrom w, fun e he => ?_⟩
  have hnow := (Slot.advances net job (call.world w)).now
  exact Nat.le_trans (Nat.le_of_eq hnow) (call.le_of_mem_agendaFrom w he)

/-- The results after a cancellation in the state `b`: what had ended keeps its result, and what waited or was not
started is reported as cancelled. -/
structure Reports (C : α → Prop) (fallback : ι → CheckError → α) (items : List ι) (b d : Batch α) : Prop
    extends Stops C b d where
  kept : ∀ (i : Nat) (item : ι) x, items[i]? = some item → b.slots[i]? = some (Slot.ended x) →
    (d.results fallback items)[i]? = some ((Slot.ended x).result (fallback item))
  reported : ∀ (i : Nat) (item : ι) (s : Slot α), items[i]? = some item → b.slots[i]? = some s → s.isOpen →
    ∃ a, C a ∧ (d.results fallback items)[i]? = some a

/-- What a call makes of the cancellation of its token, in every schedule of its batch: the state `b` in which it finds
the batch may be the first one, or any that the batch reaches. -/
structure Obeys (net : Network) (limit : Nat) (C : α → Prop) (fallback : ι → CheckError → α) (items : List ι)
    (start : Batch α) : Prop where
  reports : ∀ ts b us d, start.Schedule net limit ts b → b.world.cancelled = true → b.Finishes net limit us d →
    Reports C fallback items b d
  /-- No time passes beyond the moment of a cancellation. -/
  inTime : ∀ e ∈ start.agenda, e.what = .cancel → ∀ ts b, start.Schedule net limit ts b → b.world.now ≤ e.time

theorem getElem?_results {fallback : ι → CheckError → α} {i : Nat} {item : ι} {s : Slot α}
    (hitem : items[i]? = some item) (hs : d.slots[i]? = some s) :
    (d.results fallback items)[i]? = some (s.result (fallback item)) := by
  rw [Batch.results, List.getElem?_zipWith, hitem, hs]

theorem Stops.reports {fallback : ι → CheckError → α} (hC : ∀ i, C (fallback i .cancelled)) (items : List ι)
    (h : b.Stops C d) : Reports C fallback items b d := by
  refine ⟨h, fun i item x hitem hs => getElem?_results hitem (h.ended i x hs), fun i item s hitem hs hopen => ?_⟩
  cases hqueued : s.isQueued with
  | true => exact ⟨_, hC item, getElem?_results hitem (h.queued i s hs hqueued)⟩
  | false =>
    obtain ⟨a, ha, hend⟩ := h.waiting i s hs (by simpa [Slot.isOpen, hqueued] using hopen)
    exact ⟨a, ha, getElem?_results hitem hend⟩

theorem Heeds.obeys {fallback : ι → CheckError → α} (hC : ∀ i, C (fallback i .cancelled)) (hb : b.Heeds Kept Q C)
    (htime : b.OnTime) (items : List ι) : b.Obeys net limit C fallback items :=
  ⟨fun _ _ _ _ h hx hfin => (hfin.stops (h.heeds hb) hx).reports hC items,
    fun _ he hcancel _ _ h => h.now_le hcancel he hb htime⟩

structure IsCalm (b : Batch α) : Prop where
  world : b.world.cancelled = false
  agenda : ∀ e ∈ b.agenda, e.what ≠ .cancel

theorem Move.isCalm (h : b.Move net limit t c) (hb : b.IsCalm) : c.IsCalm := by
  cases h with
  | start => exact ⟨(Slot.advances _ _ _).cancelled.trans hb.world, hb.agenda⟩
  | @wake w pre s post agenda due hdue =>
    exact ⟨(Slot.cancelled_wake _ (Slot.isRunning_of_due? hdue) (w.atTime due)).trans hb.world, hb.agenda⟩
  | abort _ hx | skip hx => exact absurd (hb.world.symm.trans hx) (by simp)
  | @outside w slots e rest =>
    obtain ⟨hne, hrest⟩ := List.forall_mem_cons.mp hb.agenda
    refine ⟨?_, hrest⟩
    cases hi : e.what with
    | cancel => exact absurd hi hne
    | upsert | delete | flush | elapse => exact hb.world

theorem isCalm_queue (hcall : call.IsCalm) :
    (Batch.queue work items (call.world w) (call.agendaFrom w)).IsCalm :=
  ⟨hcall.1, hcall.agendaFrom w⟩

theorem isCalm_alone (hcall : call.IsCalm) :
    (Batch.alone net job (call.world w) (call.agendaFrom w)).IsCalm :=
  ⟨(Slot.advances net job (call.world w)).cancelled.trans hcall.1, hcall.agendaFrom w⟩

theorem Finishes.untouched (h : b.Finishes net limit ts d) (hb : b.Heeds Kept Q C) (hcalm : b.IsCalm) :
    ∀ s ∈ d.slots, ∃ x, s = .ended x ∧ ∀ a, x = .ok a → Q a := by
  intro s hs
  have hd : d.IsCalm := h.schedule.preserves Move.isCalm hcalm
  have huntouched := (h.schedule.heeds hb).untouched hd.world s hs
  have hclosed := h.done s hs
  cases s with
  | ended x =>
    refine ⟨x, rfl, fun a ha => ?_⟩
    subst ha
    exact huntouched
  | queued | exchanging | pausing | sleeping => cases hclosed
  | skipped => cases huntouched

theorem Finishes.results_untouched {fallback : ι → CheckError → α} (hfallback : ∀ i f, Q (fallback i (.ofFault f)))
    (h : b.Finishes net limit ts d) (hb : b.Heeds Kept Q C) (hcalm : b.IsCalm) :
    ∀ a ∈ d.results fallback items, Q a := by
  intro a ha
  obtain ⟨i, hi⟩ := List.mem_iff_getElem?.mp ha
  rw [Batch.results, List.getElem?_zipWith] at hi
  cases hitem : items[i]? with
  | none => simp [hitem] at hi
  | some item =>
    cases hs : d.slots[i]? with
    | none => simp [hitem, hs] at hi
    | some s =>
      simp only [hitem, hs, Option.some.injEq] at hi
      obtain ⟨x, rfl, hx⟩ := h.untouched hb hcalm s (List.mem_of_getElem? hs)
      cases x with
      | ok a' => exact hi ▸ hx a' rfl
      | error f => exact hi ▸ hfallback item f

theorem Stops.results_queue {agenda : List AgendaEntry} (fallback : ι → CheckError → α)
    (h : (Batch.queue work items w agenda).Stops C d) :
    d.results fallback items = items.map fun i => fallback i .cancelled := by
  refine List.ext_getElem? fun i => ?_
  rw [List.getElem?_map]
  cases hitem : items[i]? with
  | none => rw [Batch.results, List.getElem?_zipWith, hitem]; rfl
  | some item =>
    have hqueued : (Batch.queue work items w agenda).slots[i]? = some (.queued (work item)) := by
      rw [Batch.queue, List.getElem?_map, hitem]
      rfl
    exact getElem?_results hitem (h.queued i _ hqueued rfl)

end Batch

/-! ### The calls of a checker -/

def Outcome.IsCancelled (o : Outcome) : Prop := o.error = some .cancelled

def Health.IsCancelled (h : Health) : Prop := h.error = some .cancelled

namespace Checker
variable {c c' : Checker} {net : Network} {call : Call}

/-- A check tells the cache no outcome but verdicts, and it says that it was cancelled when it was. -/
theorem check_heeds_kept {P : Outcome → Prop} (hverdict : ∀ d address b, P (.verdict d address b)) (p : CheckPolicy)
    (raw : String) : (p.check raw).Heeds P (fun _ => True) Outcome.IsCancelled :=
  CheckPolicy.check_heeds hverdict (fun _ _ => trivial) (fun _ _ _ => trivial) (fun _ => rfl) raw

/-- Whatever the cache hands out, a check says that it was cancelled when it was. -/
theorem check_heeds_any (p : CheckPolicy) (raw : String) :
    (p.check raw).Heeds (fun _ => True) (fun _ => True) Outcome.IsCancelled :=
  check_heeds_kept (fun _ _ _ => trivial) p raw

/-- A check that was not cancelled does not say so, unless the cache does. -/
theorem check_heeds_calm (p : CheckPolicy) (raw : String) :
    (p.check raw).Heeds (¬ ·.IsCancelled) (¬ ·.IsCancelled) Outcome.IsCancelled :=
  CheckPolicy.check_heeds (fun _ _ _ => by simp [Outcome.IsCancelled, Outcome.verdict]) (fun _ ho => ho)
    (fun _ _ he => by simpa [Outcome.IsCancelled, Outcome.failed] using he) (fun _ => rfl) raw

theorem hands_call {P : Outcome → Prop} (h : c.world.cache.Hands P) (call : Call) :
    (call.world c.world).cache.Hands P := h

theorem oneBatch_heeds (domain : String) (hcache : c.world.cache.Hands (¬ ·.IsCancelled)) :
    (c.oneBatch net call domain).Heeds (¬ ·.IsCancelled) (¬ ·.IsCancelled) Outcome.IsCancelled :=
  Batch.heeds_alone (check_heeds_calm c.policy domain) (hands_call hcache call) _

theorem manyBatch_heeds (domains : List String) (hcache : c.world.cache.Hands (¬ ·.IsCancelled)) :
    (c.manyBatch call domains).Heeds (¬ ·.IsCancelled) (¬ ·.IsCancelled) Outcome.IsCancelled :=
  Batch.heeds_queue (check_heeds_calm c.policy) (hands_call hcache call) _

theorem healthBatch_heeds {Kept : Outcome → Prop} (hcache : c.world.cache.Hands Kept) :
    (c.healthBatch call).Heeds Kept (¬ ·.IsCancelled) Health.IsCancelled :=
  Batch.heeds_queue (Prober.health_heeds Kept c.policy.prober) (hands_call hcache call) _

theorem Use.hands_kept {P : Outcome → Prop} (hverdict : ∀ d address b, P (.verdict d address b)) (h : Use c c')
    (hc : c.world.cache.Hands P) : c'.world.cache.Hands P := by
  cases h with
  | @checkOne net call domain ts b h =>
    have hb : (c.oneBatch net call domain).Heeds P (fun _ => True) Outcome.IsCancelled :=
      Batch.heeds_alone (check_heeds_kept hverdict c.policy domain) (hands_call hc call) _
    exact (h.schedule.heeds hb).cache
  | @checkMany net call domains ts b h =>
    have hb : (c.manyBatch call domains).Heeds P (fun _ => True) Outcome.IsCancelled :=
      Batch.heeds_queue (check_heeds_kept hverdict c.policy) (hands_call hc call) _
    exact (h.schedule.heeds hb).cache
  | health h => exact (h.schedule.heeds (healthBatch_heeds hc)).cache
  | flush => exact hc.flush
  | upsert | delete | snapshot | elapse => exact hc

theorem Used.hands_kept {P : Outcome → Prop} (hverdict : ∀ d address b, P (.verdict d address b)) (h : c.Used c')
    (hc : c.world.cache.Hands P) : c'.world.cache.Hands P := by
  induction h with
  | refl => exact hc
  | tail _ huse ih => exact huse.hands_kept hverdict ih

theorem Used.hands (h : c.Used c') (hc : c.world.cache.Hands (¬ ·.IsCancelled)) :
    c'.world.cache.Hands (¬ ·.IsCancelled) :=
  h.hands_kept (fun _ _ _ => by simp [Outcome.IsCancelled, Outcome.verdict]) hc

theorem oneBatch_obeys (domain : String) :
    (c.oneBatch net call domain).Obeys net 1 Outcome.IsCancelled fallback [domain] :=
  (Batch.heeds_alone (check_heeds_any c.policy domain) (Cache.hands_true _) _).obeys (fun _ => rfl)
    (Batch.onTime_alone call c.world) _

theorem manyBatch_obeys (domains : List String) :
    (c.manyBatch call domains).Obeys net c.limit Outcome.IsCancelled fallback domains :=
  (Batch.heeds_queue (check_heeds_any c.policy) (Cache.hands_true _) _).obeys (fun _ => rfl)
    (Batch.onTime_queue call c.world) _

theorem healthBatch_obeys :
    (c.healthBatch call).Obeys net c.limit Health.IsCancelled healthFallback c.resolvers :=
  (healthBatch_heeds (Cache.hands_true _)).obeys (fun _ => rfl) (Batch.onTime_queue call c.world) _

theorem checkMany_cancelled (hne : c.resolvers ≠ []) (hcall : call.cancelled = true) (domains : List String) :
    (c.checkMany net call domains).2 = .ok (domains.map (Outcome.failed · .cancelled)) ∧
      (c.checkMany net call domains).1.world.now = c.world.now ∧
      c.world.Adds (· = .flush) (c.checkMany net call domains).1.world := by
  obtain ⟨ts, d, hfin, heq⟩ := checkMany_finishes net call hne domains
  have hreports := (manyBatch_obeys domains).reports [] (c.manyBatch call domains) ts d .nil hcall hfin
  rw [heq]
  exact ⟨congrArg Except.ok (hreports.toStops.results_queue fallback), hreports.now, hreports.journal⟩

theorem checkOne_of_ended {x : Except Fault Outcome} {domain : String} (hne : c.resolvers ≠ [])
    (h : (Slot.advance net (c.policy.check domain) (call.world c.world)).2 = .ended x) :
    (c.checkOne net call domain).1.world = (Slot.advance net (c.policy.check domain) (call.world c.world)).1 ∧
      (c.checkOne net call domain).2 = x.mapError .crash := by
  have hended : (Slot.advance net (c.policy.check domain) (call.world c.world)).2.ended? = some x := by
    rw [h]
    rfl
  simp only [checkOne_eq hne, runCall, runAlone_of_ended? hended, and_self]

/-- A check that is asked for after the cancellation ends at once. It says that it was cancelled, unless its outcome is
the one that it has in every network. -/
theorem checkOne_cancelled (hne : c.resolvers ≠ []) (hcall : call.cancelled = true) (domain : String) :
    (c.checkOne net call domain).1.world.now = c.world.now ∧
      c.world.Adds (∃ key found, · = .lookup key found) (c.checkOne net call domain).1.world ∧
      ((∃ o, o.IsCancelled ∧ (c.checkOne net call domain).2 = .ok o) ∨
        ∀ net' call', call'.cancelled = false → (c.checkOne net' call' domain).2 = (c.checkOne net call domain).2) := by
  have hadv := Slot.advances net (c.policy.check domain) (call.world c.world)
  obtain ⟨⟨x, hend, hatOnce⟩, hadds⟩ :=
    hadv.ended_of_cancelled (check_heeds_any c.policy domain) (CheckPolicy.check_asksFirst domain) hcall
  obtain ⟨hworld, hres⟩ := checkOne_of_ended hne hend
  have hcallWorld : c.world.Adds (∃ key found, · = .lookup key found) (call.world c.world) := .of_eq rfl
  rw [hworld, hres]
  refine ⟨hadv.now.trans rfl, hcallWorld.trans hadds, ?_⟩
  refine hatOnce.imp (fun ⟨a, ha, hok⟩ => ⟨a, ha, by rw [hok]; rfl⟩) fun hany net' call' hcall' => ?_
  have hworld' : call'.world c.world = (call.world c.world).uncancelled := by
    rw [Call.world, hcall']
    rfl
  exact (checkOne_of_ended hne (hworld' ▸ hany net')).2

/-- What the calls of a checker that has resolvers make of their token. Each of them takes one of the schedules of its
batch to the end, and in all of these schedules the batch obeys a cancellation. -/
structure ObeysToken (c : Checker) (net : Network) (call : Call) : Prop where
  checkOne : ∀ domain,
    (∃ ts b x, (c.oneBatch net call domain).Finishes net 1 ts b ∧ b.slots = [.ended x] ∧
      c.checkOne net call domain = ({ c with world := b.world }, x.mapError .crash)) ∧
    (c.oneBatch net call domain).Obeys net 1 Outcome.IsCancelled fallback [domain]
  checkMany : ∀ domains,
    (∃ ts b, (c.manyBatch call domains).Finishes net c.limit ts b ∧
      c.checkMany net call domains = ({ c with world := b.world }, .ok (b.results fallback domains))) ∧
    (c.manyBatch call domains).Obeys net c.limit Outcome.IsCancelled fallback domains
  health :
    (∃ ts b, (c.healthBatch call).Finishes net c.limit ts b ∧
      c.health net call = ({ c with world := b.world }, .ok (b.results healthFallback c.resolvers))) ∧
    (c.healthBatch call).Obeys net c.limit Health.IsCancelled healthFallback c.resolvers
  checkOneAfter : call.cancelled = true → ∀ domain,
    (c.checkOne net call domain).1.world.now = c.world.now ∧
      c.world.Adds (∃ key found, · = .lookup key found) (c.checkOne net call domain).1.world ∧
      ((∃ o, o.IsCancelled ∧ (c.checkOne net call domain).2 = .ok o) ∨
        ∀ net' call', call'.cancelled = false → (c.checkOne net' call' domain).2 = (c.checkOne net call domain).2)
  checkManyAfter : call.cancelled = true → ∀ domains,
    (c.checkMany net call domains).2 = .ok (domains.map (Outcome.failed · .cancelled)) ∧
      (c.checkMany net call domains).1.world.now = c.world.now ∧
      c.world.Adds (· = .flush) (c.checkMany net call domains).1.world

/-- No schedule of a call leads to a result that says that the caller cancelled. -/
structure SaysNotCancelled (c : Checker) (net : Network) (call : Call) : Prop where
  checkOne : ∀ domain ts b o, (c.oneBatch net call domain).Finishes net 1 ts b → .ended (.ok o) ∈ b.slots →
    ¬ o.IsCancelled
  checkMany : ∀ domains ts b o, (c.manyBatch call domains).Finishes net c.limit ts b →
    o ∈ b.results fallback domains → ¬ o.IsCancelled
  health : ∀ ts b h, (c.healthBatch call).Finishes net c.limit ts b → h ∈ b.results healthFallback c.resolvers →
    ¬ h.IsCancelled

theorem obeysToken_of_ne (hne : c.resolvers ≠ []) : c.ObeysToken net call where
  checkOne domain := ⟨checkOne_finishes net call hne domain, oneBatch_obeys domain⟩
  checkMany domains := ⟨checkMany_finishes net call hne domains, manyBatch_obeys domains⟩
  health := ⟨health_finishes net call hne, healthBatch_obeys⟩
  checkOneAfter hcall domain := checkOne_cancelled hne hcall domain
  checkManyAfter hcall domains := checkMany_cancelled hne hcall domains

theorem saysNotCancelled_of_hands (hcache : c.world.cache.Hands (¬ ·.IsCancelled)) (hcall : call.IsCalm) :
    c.SaysNotCancelled net call where
  checkOne domain ts b o h ho := by
    obtain ⟨x, hx, hok⟩ := h.untouched (oneBatch_heeds domain hcache) (Batch.isCalm_alone hcall) _ ho
    cases hx
    exact hok o rfl
  checkMany domains ts b o h ho := by
    have hfallback : ∀ domain f, ¬ (fallback domain (.ofFault f)).IsCancelled := fun _ f =>
      fun hx => CheckError.ofFault_ne_cancelled f (Option.some.inj hx)
    exact h.results_untouched hfallback (manyBatch_heeds domains hcache) (Batch.isCalm_queue hcall) o ho
  health ts b h hfin hh := by
    have hfallback : ∀ r f, ¬ (healthFallback r (.ofFault f)).IsCancelled := fun _ f =>
      fun hx => CheckError.ofFault_ne_cancelled f (Option.some.inj hx)
    exact hfin.results_untouched hfallback (healthBatch_heeds hcache) (Batch.isCalm_queue hcall) h hh

theorem hands_build {config : Config} {cache : Option Cache} {P : Outcome → Prop} (h : ∀ k ∈ cache, k.Hands P) :
    (Checker.build config cache).world.cache.Hands P := by
  cases cache with
  | none => exact fun _ _ hf => nomatch hf
  | some k => exact h k rfl

/-- Whatever was done with a checker before, a call without resolvers answers at once and any other call obeys the
cancellation of its token. Where there was no cancellation no result says so, unless a cache of the caller's own hands
out what it was never told. -/
theorem obeysToken (config : Config) (cache : Option Cache) (c : Checker) (hc : (Checker.build config cache).Used c)
    (net : Network) (call : Call) :
    (c.resolvers = [] →
      (∀ domain, c.checkOne net call domain = (c, .error (.error .noResolversConfigured))) ∧
      (∀ domains, c.checkMany net call domains = (c, .error .noResolversConfigured)) ∧
      c.health net call = (c, .error .noResolversConfigured)) ∧
    (c.resolvers ≠ [] → c.ObeysToken net call) ∧
    ((∀ k ∈ cache, k.Hands (¬ ·.IsCancelled)) → call.IsCalm → c.SaysNotCancelled net call) :=
  ⟨fun h => calls_of_empty net call h, fun hne => obeysToken_of_ne hne,
    fun hcache hcall => saysNotCancelled_of_hands (hc.hands (hands_build hcache)) hcall⟩

theorem obeysToken_silence :
    let c := Checker.build { Config.default with resolvers := [⟨"10.0.0.1", "block", .a⟩] } none
    let net : Network := fun _ _ _ => .silence
    (c.checkMany net { agenda := [⟨5, .cancel⟩] } ["example.com", "example.org"]).1.world.now ≤ 5 ∧
      (c.checkMany net { cancelled := true } ["example.com", "x"]).2 =
        .ok [.failed "example.com" .cancelled, .failed "x" .cancelled] ∧
      ∀ o, (c.checkOne net {} "example.com").2 = .ok o → ¬ o.IsCancelled := by
  intro c net
  have hne : c.resolvers ≠ [] := by decide
  have hobeys := fun call => obeysToken _ none c .refl net call
  refine ⟨?_, ((hobeys _).2.1 hne).checkManyAfter rfl _ |>.1, fun o ho => ?_⟩
  · obtain ⟨⟨ts, b, hfin, heq⟩, hbatch⟩ := ((hobeys { agenda := [⟨5, .cancel⟩] }).2.1 hne).checkMany
      ["example.com", "example.org"]
    rw [heq]
    refine hbatch.inTime ⟨5, .cancel⟩ ?_ rfl ts b hfin.schedule
    simp [manyBatch, Batch.queue, Call.agendaFrom, c, build]
  · obtain ⟨⟨ts, b, x, hfin, hslots, heq⟩, -⟩ := ((hobeys {}).2.1 hne).checkOne "example.com"
    rw [heq] at ho
    cases x with
    | error f => cases ho
    | ok =>
      cases ho
      have hsays := (hobeys {}).2.2 (by simp) ⟨rfl, by simp⟩
      exact hsays.checkOne _ ts b o hfin (by rw [hslots]; exact .head _)

end Checker
end FilterWatch
