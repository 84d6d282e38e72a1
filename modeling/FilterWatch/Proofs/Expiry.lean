import FilterWatch.Proofs.Crashes

/-!
# Verdicts and the expiry of their entries

A verdict is lost when the built-in cache cannot say when it expires. While the clock has room for the time to live of
an entry (`World.Lasts`), no write crashes: every check comes to the verdict of the resolver that decides it, and the
cache goes on working. Once there is no room, the first check that comes to a verdict crashes when it stores it, and
from then on the cache neither finds nor keeps anything (`World.Poisoned`).
-/

namespace FilterWatch

/-! ### Surroundings -/

namespace World
variable {w w' : World} {room : Nat} {ttl : Duration} {R : MemoryCache → Nat → Prop}

/-- The cache works, and it still does when so much time has passed on its clock. -/
def Lasts (room : Nat) (w : World) : Prop := w.cache.Keeps (fun _ _ => True) (w.cacheClock + room)

/-- The cache is the built-in one, in this state at this moment. -/
def Holding (R : MemoryCache → Nat → Prop) (w : World) : Prop := ∃ m, w.cache = .memory m ∧ R m w.cacheClock

/-- The built-in cache keeps nothing any more. -/
def Poisoned : World → Prop := Holding fun m _ => m.poisoned = true

/-- The built-in cache works, but the clock cannot show the expiry of what would be stored now. -/
def Overdue : World → Prop :=
  Holding fun m now => m.poisoned = false ∧ MemoryCache.endOfTime ≤ now + m.ttl.nanos

/-- The built-in cache has this time to live, and it was poisoned only if the clock had no room. -/
def Dated (ttl : Duration) : World → Prop :=
  Holding fun m now => m.ttl = ttl ∧ (m.poisoned = true → MemoryCache.endOfTime ≤ now + ttl.nanos)

theorem cache_of_standing (h : w.standing = w'.standing) : w.cache = w'.cache ∧ w.cacheClock = w'.cacheClock :=
  ⟨congrArg (·.2.1) h, congrArg (·.2.2.1) h⟩

theorem lookup_memory {m : MemoryCache} (h : w.cache = .memory m) (key : String) :
    (w.lookup key).1.cache = .memory (m.get key w.cacheClock).1 ∧
      (w.lookup key).2 = .ok (m.get key w.cacheClock).2 := by
  have hget : w.cache.get key w.cacheClock = (.memory (m.get key w.cacheClock).1, .ok (m.get key w.cacheClock).2) := by
    rw [h]
    rfl
  exact ⟨congrArg Prod.fst hget, congrArg Prod.snd hget⟩

theorem store_memory {m : MemoryCache} (h : w.cache = .memory m) (key : String) (o : Outcome) :
    (w.store key o).1.cache = .memory (m.set key o w.cacheClock).1 ∧
      (w.store key o).2 = (m.set key o w.cacheClock).2 := by
  have hset : w.cache.set key o w.cacheClock = (.memory (m.set key o w.cacheClock).1, (m.set key o w.cacheClock).2) := by
    rw [h]
    rfl
  exact ⟨congrArg Prod.fst hset, congrArg Prod.snd hset⟩

theorem Holding.of_standing (h : w.standing = w'.standing) (hw : w.Holding R) : w'.Holding R := by
  obtain ⟨hcache, hclock⟩ := cache_of_standing h
  rw [Holding, ← hcache, ← hclock]
  exact hw

theorem Holding.lookup (hget : ∀ m now key, R m now → R (m.get key now).1 now) (key : String) (hw : w.Holding R) :
    (w.lookup key).1.Holding R := by
  obtain ⟨m, hcache, hm⟩ := hw
  exact ⟨_, (lookup_memory hcache key).1, hget m _ key hm⟩

theorem kept_holding (hget : ∀ m now key, R m now → R (m.get key now).1 now)
    (hset : ∀ m now key o, R m now → R (m.set key o now).1 now) : Kept (Holding R) where
  standing h hw := hw.of_standing h
  lookup key hw := hw.lookup hget key
  store key o hw := by
    obtain ⟨m, hcache, hm⟩ := hw
    exact ⟨_, (store_memory hcache key o).1, hset m _ key o hm⟩

theorem Holding.apply (hflush : ∀ m now, R m now → R m.flush now) (hlater : ∀ m now t, R m now → R m (now + t))
    (i : Intervention) (hw : w.Holding R) : (i.apply w).Holding R := by
  obtain ⟨m, hcache, hm⟩ := hw
  cases i with
  | cancel | upsert | delete => exact ⟨m, hcache, hm⟩
  | flush =>
    have hcache' : w.cache.flush = .memory m.flush := by
      rw [hcache]
      rfl
    exact ⟨_, hcache', hflush m _ hm⟩
  | elapse d => exact ⟨m, hcache, hlater m _ d.nanos hm⟩

/-! ### Room on the clock -/

theorem Lasts.set (hw : w.Lasts room) (key : String) (o : Outcome) :
    ∃ c', w.cache.set key o w.cacheClock = (c', none) ∧ c'.Keeps (fun _ _ => True) (w.cacheClock + room) :=
  Cache.Keeps.set trivial (Nat.le_add_right _ _) hw

theorem kept_lasts (room : Nat) : Kept (Lasts room) where
  standing {w w'} h hw := by
    obtain ⟨hcache, hclock⟩ := cache_of_standing h
    rw [Lasts, ← hcache, ← hclock]
    exact hw
  lookup {w} key hw := by
    obtain ⟨c', hit, hget, hc', -⟩ := hw.get key w.cacheClock
    have hfst : (w.cache.get key w.cacheClock).1 = c' := congrArg Prod.fst hget
    show (w.cache.get key w.cacheClock).1.Keeps _ _
    rw [hfst]
    exact hc'
  store {w} key o hw := by
    obtain ⟨c', hset, hc'⟩ := Lasts.set hw key o
    have hfst : (w.cache.set key o w.cacheClock).1 = c' := congrArg Prod.fst hset
    show (w.cache.set key o w.cacheClock).1.Keeps _ _
    rw [hfst]
    exact hc'

theorem Lasts.mono {room' : Nat} (h : room' ≤ room) (hw : w.Lasts room) : w.Lasts room' :=
  Cache.Keeps.mono (Nat.add_le_add_left h _) hw

theorem Lasts.apply (i : Intervention) (hw : w.Lasts (i.elapsed + room)) : (i.apply w).Lasts room := by
  cases i with
  | elapse d =>
    have hcache : w.cache.Keeps (fun _ _ => True) (w.cacheClock + (d.nanos + room)) := hw
    rw [← Nat.add_assoc] at hcache
    exact hcache
  | flush => exact Cache.Keeps.flush (hw.mono (Nat.le_add_left _ _))
  | cancel | upsert | delete => exact hw.mono (Nat.le_add_left _ _)

theorem Lasts.lookup_ne (hw : w.Lasts room) {key : String} {f : Fault} : w.lookup key ≠ (w', .error f) := by
  intro hl
  obtain ⟨c', hit, hget, -, -⟩ := hw.get key w.cacheClock
  have hfault : (w.cache.get key w.cacheClock).2 = .error f := congrArg Prod.snd hl
  rw [hget] at hfault
  cases hfault

theorem Lasts.store_ne (hw : w.Lasts room) {key : String} {o : Outcome} {f : Fault} :
    w.store key o ≠ (w', some f) := by
  intro hs
  obtain ⟨c', hset, -⟩ := hw.set key o
  have hfault : (w.cache.set key o w.cacheClock).2 = some f := congrArg Prod.snd hs
  rw [hset] at hfault
  cases hfault

theorem kept_dated (ttl : Duration) : Kept (Dated ttl) := by
  refine kept_holding (fun m now key hm => ?_) fun m now key o hm => ?_
  · rw [MemoryCache.ttl_get, MemoryCache.poisoned_get]
    exact hm
  · obtain ⟨rfl, hpoisoned⟩ := hm
    refine ⟨MemoryCache.ttl_set, fun hp => ?_⟩
    cases hs : (m.set key o now).2 with
    | some f => exact (MemoryCache.poisoned_of_set hs).2
    | none =>
      cases hm : m.poisoned with
      | true => exact hpoisoned hm
      | false => rw [MemoryCache.poisoned_set hm hs] at hp; cases hp

theorem Dated.apply (i : Intervention) (hw : w.Dated ttl) : (i.apply w).Dated ttl := by
  refine Holding.apply (fun m now hm => ?_) (fun m now t hm => ?_) i hw
  · rw [MemoryCache.ttl_flush, MemoryCache.poisoned_flush]
    exact hm
  · refine ⟨hm.1, fun hp => ?_⟩
    have hover := hm.2 hp
    omega

/-- A cache that was given a time to live works as long as the clock has room for it. -/
theorem Dated.lasts (hw : w.Dated ttl) (h : w.cacheClock + room + ttl.nanos < MemoryCache.endOfTime) :
    w.Lasts room := by
  obtain ⟨m, hcache, rfl, hpoisoned⟩ := hw
  have hm : m.poisoned = false := by
    cases hp : m.poisoned with
    | false => rfl
    | true => have := hpoisoned hp; omega
  rw [Lasts, hcache]
  exact ⟨hm, h, fun _ _ _ => trivial⟩

theorem Dated.overdue (hw : w.Dated ttl) (h : MemoryCache.endOfTime ≤ w.cacheClock + ttl.nanos)
    (hnot : ¬ w.Poisoned) : w.Overdue := by
  obtain ⟨m, hcache, rfl, -⟩ := hw
  refine ⟨m, hcache, ?_, h⟩
  cases hp : m.poisoned with
  | false => rfl
  | true => exact absurd ⟨m, hcache, hp⟩ hnot

/-! ### No room on the clock -/

theorem Overdue.lookup {key : String} {hit : Option Outcome} (h : w.lookup key = (w', .ok hit)) (hw : w.Overdue) :
    w'.Overdue := by
  obtain rfl : (w.lookup key).1 = w' := congrArg Prod.fst h
  refine Holding.lookup (fun m now key hm => ?_) key hw
  rw [MemoryCache.ttl_get, MemoryCache.poisoned_get]
  exact hm

theorem Overdue.apply (i : Intervention) (hw : w.Overdue) : (i.apply w).Overdue := by
  refine Holding.apply (fun m now hm => ?_) (fun m now t hm => ⟨hm.1, ?_⟩) i hw
  · rw [MemoryCache.ttl_flush, MemoryCache.poisoned_flush]
    exact hm
  · have hover := hm.2
    omega

theorem Overdue.store_ne (hw : w.Overdue) {key : String} {o : Outcome} : w.store key o ≠ (w', none) := by
  intro hs
  obtain ⟨m, hcache, hm, hover⟩ := hw
  have hnone := (store_memory hcache key o).2
  rw [hs, MemoryCache.set_of_overdue hm hover] at hnone
  cases hnone

theorem poisoned_of_store {key : String} {o : Outcome} {f : Fault} (hw : w.cache.IsStock)
    (hs : w.store key o = (w', some f)) : w'.Poisoned := by
  cases hcache : w.cache with
  | off =>
    have hfault : (w.cache.set key o w.cacheClock).2 = some f := congrArg Prod.snd hs
    rw [hcache] at hfault
    cases hfault
  | memory m =>
    obtain ⟨hcache', hfault⟩ := store_memory hcache key o
    rw [hs] at hcache' hfault
    exact ⟨_, hcache', (MemoryCache.poisoned_of_set hfault.symm).1⟩
  | plain | custom => rw [hcache] at hw; cases hw

theorem kept_poisoned : Kept Poisoned := by
  refine kept_holding (fun m now key hm => ?_) fun m now key o hm => ?_
  · rw [MemoryCache.poisoned_get]
    exact hm
  · rw [MemoryCache.set_of_poisoned hm]
    exact hm

theorem Poisoned.apply (i : Intervention) (hw : w.Poisoned) : (i.apply w).Poisoned := by
  refine Holding.apply (fun m now hm => ?_) (fun m now t hm => hm) i hw
  rw [MemoryCache.poisoned_flush]
  exact hm

/-- Nothing is found in a poisoned cache, and what it is told is dropped without a crash. -/
theorem Poisoned.idle (hw : w.Poisoned) (key : String) (o : Outcome) :
    (w.lookup key).2 = .ok none ∧ (w.store key o).2 = none := by
  obtain ⟨m, hcache, hm⟩ := hw
  rw [(lookup_memory hcache key).2, (store_memory hcache key o).2, MemoryCache.get_of_poisoned hm,
    MemoryCache.set_of_poisoned hm]
  exact ⟨rfl, rfl⟩

end World

/-! ### Batches -/

namespace Batch
variable {α : Type} {net : Network} {limit room i : Nat} {start b c : Batch α} {t : Turn} {ts : List Turn}

theorem Move.lasts (h : b.Move net limit t c) (hb : b.world.Lasts (elapsedAlong b.agenda + room)) :
    c.world.Lasts (elapsedAlong c.agenda + room) := by
  rcases h.keeps (World.kept_lasts (elapsedAlong b.agenda + room)) with ⟨-, hagenda, hkeeps⟩ | ⟨e, -, hagenda, hworld⟩
  · rw [hagenda]
    exact hkeeps hb
  · have hsum : elapsedAlong b.agenda = e.what.elapsed + elapsedAlong c.agenda := by
      rw [hagenda]
      exact List.sum_cons
    rw [hsum, Nat.add_assoc] at hb
    rw [hworld]
    exact World.Lasts.apply e.what ((World.kept_lasts _).standing (by rfl) hb)

theorem Schedule.lasts (h : b.Schedule net limit ts c) (hb : b.world.Lasts (elapsedAlong b.agenda + room)) :
    c.world.Lasts (elapsedAlong c.agenda + room) :=
  h.preserves (P := fun c => c.world.Lasts (elapsedAlong c.agenda + room)) Move.lasts hb

end Batch

/-! ### Checks -/

theorem Course.failover_of_verdict {net : Network} {P : World → Prop} {p : CheckPolicy} {raw : String}
    {rs : List Resolver} {ds : List Deed} {w' : World} {o : Outcome} (h : Course net P p raw rs ds w' (.ok o))
    (ho : o.error = none) : ∃ ds', ds = .resolvers rs :: ds' ∧ Failover p (normalize raw) rs ds' o := by
  cases h with
  | failover h => exact ⟨_, rfl, h⟩
  | invalid => cases ho

/-- Where no write crashes, only the matcher crashes a check. -/
theorem Course.of_lasts {net : Network} {P : World → Prop} {p : CheckPolicy} {raw : String} {rs : List Resolver}
    {ds : List Deed} {w' : World} {x : Except Fault Outcome} (hP : ∀ w, P w → w.Lasts 0)
    (h : Course net P p raw rs ds w' x) : Course net (fun _ => False) p raw rs ds w' x := by
  cases h with
  | failover h => exact .failover h
  | invalid h => exact .invalid h
  | crashing h =>
    obtain ⟨i, hi, before, hbefore, hlast⟩ := h
    cases hlast with
    | matching hq hfatal => exact .crashing (.at i hi before hbefore (.matching hq hfatal))
    | storing _ _ hw hs => exact absurd hs (hP _ hw).store_ne

namespace Job.Runs
variable {net : Network} {meanwhile : World → World → Prop} {p : CheckPolicy} {raw : String} {w w' : World}
  {ds : List Deed} {o : Outcome}

theorem store_notMem_of_overdue {α : Type} {job : Job α} {x : Except Fault α} {key : String} {o : Outcome}
    (h : job.Runs net meanwhile w ds w' x) (hmean : ∀ w w', meanwhile w w' → w.Overdue → w'.Overdue)
    (hw : w.Overdue) : .store key o ∉ ds := by
  intro hd
  obtain ⟨ds₁, ds₂, rfl⟩ := List.append_of_mem hd
  obtain ⟨w₁, job₁, hw₁, hrest⟩ := h.cut (P := World.Overdue) (D := fun _ => True) (fun _ _ => trivial)
    (fun _ _ => World.Holding.of_standing) hmean (fun _ _ _ _ _ => World.Overdue.lookup)
    (fun _ _ _ _ _ hs hw => absurd hs hw.store_ne) hw
  obtain ⟨w₂, job₂, hs, -⟩ := hrest.cons_store
  exact hw₁.store_ne hs

/-- Where every write crashes, a check ends with no verdict but one that it has found. -/
theorem found_of_overdue (h : (p.check raw).Runs net meanwhile w ds w' (.ok o)) (hcalm : ∀ d ∈ ds, d.isCalm)
    (hmean : ∀ w w', meanwhile w w' → w.Overdue → w'.Overdue) (hw : w.Overdue) (ho : o.error = none) :
    ∃ r ∈ w.registry.resolvers, .lookup (cacheKey (normalize raw) r) (some o) ∈ ds := by
  rcases h.check hcalm with ⟨ds', rfl, hf⟩ | ⟨rfl, -⟩
  · cases hf with
    | decided i hi before hbefore hlast =>
      cases hlast with
      | hit => exact ⟨_, List.getElem_mem hi, by simp⟩
      | @verdict q replies b =>
        have hstore : Deed.store (cacheKey (normalize raw) w.registry.resolvers[i])
            (.verdict (normalize raw) w.registry.resolvers[i].address b) ∉ _ := h.store_notMem_of_overdue hmean hw
        exact absurd (by simp) hstore
    | exhausted => cases ho
  · cases ho

end Job.Runs

namespace Checker
variable {c : Checker} {net : Network} {call : Call} {raw : String} {w w' : World} {ds : List Deed}
  {x : Except Fault Outcome}

theorem lasts_of_schedule {limit : Nat} {raws : List String} {ts : List Turn} {b : Batch Outcome}
    (hc : c.world.Lasts call.elapsed) (h : (c.manyBatch call raws).Schedule net limit ts b) : b.world.Lasts 0 := by
  have hstart : (c.manyBatch call raws).world.Lasts (elapsedAlong (c.manyBatch call raws).agenda + 0) := by
    show c.world.Lasts (elapsedAlong (call.agendaFrom c.world) + 0)
    rw [Call.elapsedAlong_agendaFrom]
    exact hc
  exact (h.lasts hstart).mono (Nat.zero_le _)

theorem Made.course_of_lasts (hnet : net.NeverCrashes) (hcall : call.IsCalm) (hc : c.world.Lasts call.elapsed)
    (h : c.Made net call raw w ds w' x) : Course net (fun _ => False) c.policy raw w.registry.resolvers ds w' x := by
  cases h with
  | cancelled hcancelled => rw [hcall.1] at hcancelled; cases hcancelled
  | @item limit raws ts b i _ _ b₀ _ _ h hraw hx hbegan hruns hm =>
    -- wherever a schedule of the call leads, the cache works and nobody has cancelled
    have hall : ∀ ts b, (c.manyBatch call raws).Schedule net limit ts b →
        b.world.Lasts 0 ∧ b.world.cancelled = false := by
      intro ts b hsched
      have hcalm : (c.manyBatch call raws).IsCalm := Batch.isCalm_queue hcall
      exact ⟨lasts_of_schedule hc hsched, (hsched.preserves Batch.Move.isCalm hcalm).world⟩
    have hmean := fun w w' (hm : (c.manyBatch call raws).Meanwhile net limit i w w') =>
      hm.holds (P := fun w => w.Lasts 0 ∧ w.cancelled = false) hall
    have hcancelled : World.Kept fun w => w.cancelled = false :=
      ⟨fun h hw => (World.cancelled_of_standing h).symm.trans hw, fun _ hw => hw, fun _ _ hw => hw⟩
    have htame : Job.Runs.Tame net ((c.manyBatch call raws).Meanwhile net limit i)
        (fun w => w.Lasts 0 ∧ w.cancelled = false) :=
      ⟨(World.kept_lasts 0).and hcancelled, hmean, fun _ _ _ _ hw => hw.1.lookup_ne, hnet⟩
    have hbegin := hall _ _ hbegan.schedule
    have hcalm : ∀ d ∈ ds, d.isCalm :=
      hruns.calm (fun w w' hm => hm.holds (P := fun w => w.cancelled = false) fun ts b hsched => (hall ts b hsched).2)
        hbegin.2
    exact (hruns.check_course_of_calm htame hbegin fun _ _ => hcalm).of_lasts fun _ hw => hw.1

/-- What a check of one domain comes to when the clock has no room: nothing is stored, and a verdict that was not found
in the cache is lost, and poisons the cache. -/
theorem checkOne_of_overdue (hnet : net.NeverCrashes) (hcall : call.IsCalm) (hc : c.world.Overdue)
    {ts : List Turn} {b : Batch Outcome} (h : (c.oneBatch net call raw).Finishes net 1 ts b) :
    ∃ ds x, b.slots = [.ended x] ∧ Course net (·.cache.IsStock) c.policy raw c.resolvers ds b.world x ∧
      (∀ o, x = .ok o → o.error = none →
        ∃ r ∈ c.resolvers, .lookup (cacheKey (normalize raw) r) (some o) ∈ ds) ∧
      (x = .error MemoryCache.expiryFault → b.world.Poisoned) := by
  obtain ⟨x, ds, hslots, hruns⟩ := h.runs
  have hstock : (call.world c.world).cache.IsStock := by
    obtain ⟨m, hcache, -⟩ := hc
    show c.world.cache.IsStock
    rw [hcache]
    trivial
  have hcalm : ∀ d ∈ ds, d.isCalm := hruns.calm (fun _ _ => hcall.cancelled) hcall.1
  have hcourse := hruns.check_course_of_calm (Cache.IsStock.tame hnet fun w w' hm hw => ?_) hstock fun _ _ => hcalm
  · refine ⟨ds, x, hslots, hcourse, ?_, ?_⟩
    · rintro o rfl ho
      refine hruns.found_of_overdue hcalm (fun w w' hm hw => ?_) hc ho
      exact hm.preserves (fun e _ w hw => World.Overdue.apply e.what (World.Holding.of_standing (by rfl) hw)) hw
    · rintro rfl
      cases hcourse with
      | crashing hcrashing =>
        obtain ⟨i, hi, before, hbefore, hlast⟩ := hcrashing
        cases hlast with
        | matching hq hfatal =>
          obtain ⟨earlier, hlt, hearlier, hsent, hm⟩ := hfatal
          have hfault := (Dns.Message.carries_eq_error.mp hm).1
          exact absurd hfault (by decide)
        | storing hq hv hw hs => exact World.poisoned_of_store hw hs
  · exact hm.preserves (P := fun w => w.cache.IsStock) (fun e _ w hw => e.what.isStock_apply hw) hw

theorem dated_build (config : Config) : (Checker.build config none).world.Dated config.cacheTtl :=
  ⟨_, rfl, rfl, fun h => nomatch h⟩

/-- What becomes of verdicts in a checker with the built-in cache, in calls that nobody cancels. While the clock has room
for the time to live, every check comes to the verdict of the resolver that decides it, unless the matcher crashes, and
the cache goes on working. When there is no room, no check of one domain ends with a verdict that it has not found in
the cache, and the first one that comes to a verdict poisons the cache. From then on nothing is ever found or kept. -/
theorem verdicts (config : Config) (c : Checker) (hc : (Checker.build config none).Used c) (net : Network)
    (hnet : net.NeverCrashes) (call : Call) (hcall : call.IsCalm) :
    (c.resolvers ≠ [] → c.Results net call) ∧
    (c.world.cacheClock + call.elapsed + config.cacheTtl.nanos < MemoryCache.endOfTime →
      (∀ raw w ds w' x, c.Made net call raw w ds w' x →
        Course net (fun _ => False) c.policy raw w.registry.resolvers ds w' x) ∧
      (∀ raws ts b, (c.manyBatch call raws).Finishes net c.limit ts b → b.world.Lasts 0) ∧
      ∀ raw ts b, (c.oneBatch net call raw).Finishes net 1 ts b → b.world.Lasts 0) ∧
    (MemoryCache.endOfTime ≤ c.world.cacheClock + config.cacheTtl.nanos → ¬ c.world.Poisoned →
      ∀ raw ts b, (c.oneBatch net call raw).Finishes net 1 ts b →
        ∃ ds x, b.slots = [.ended x] ∧ Course net (·.cache.IsStock) c.policy raw c.resolvers ds b.world x ∧
          (∀ o, x = .ok o → o.error = none →
            ∃ r ∈ c.resolvers, .lookup (cacheKey (normalize raw) r) (some o) ∈ ds) ∧
          (x = .error MemoryCache.expiryFault → b.world.Poisoned)) ∧
    (c.world.Poisoned → ∀ c' : Checker, c.Used c' → c'.world.Poisoned ∧
      ∀ key o, (c'.world.lookup key).2 = .ok none ∧ (c'.world.store key o).2 = none) := by
  have hdated : c.world.Dated config.cacheTtl :=
    hc.keeps (World.kept_dated _) (fun i _ => World.Dated.apply i) (fun _ _ hw => hw) (dated_build config)
  refine ⟨c.results net call, fun hroom => ?_, fun hover hnot raw ts b h => ?_, fun hpoisoned c' hc' => ?_⟩
  · have hlasts : c.world.Lasts call.elapsed := hdated.lasts hroom
    refine ⟨fun _ _ _ _ _ => Made.course_of_lasts hnet hcall hlasts,
      fun _ _ _ h => lasts_of_schedule hlasts h.schedule, fun raw ts b h => ?_⟩
    have hqueue : (c.manyBatch call [raw]).Finishes net 1 (.start 0 :: ts) b :=
      Batch.Finishes.of_alone c.policy.check h hcall.1
    exact lasts_of_schedule hlasts hqueue.schedule
  · exact checkOne_of_overdue hnet hcall (hdated.overdue hover hnot) h
  · have hpoisoned' : c'.world.Poisoned :=
      hc'.keeps World.kept_poisoned (fun i _ => World.Poisoned.apply i) (fun _ _ hw => hw) hpoisoned
    exact ⟨hpoisoned', hpoisoned'.idle⟩

end Checker

/-- A network where every server answers without any record. -/
def Network.answering : Network := fun _ q _ => .after 0 (.message (.answering q.question))

namespace Checker

/-- A checker that makes one attempt at one resolver, and keeps outcomes for so long. -/
def ofTtl (ttl : Duration) : Checker :=
  .build { Config.default with maxRetries := 0, cacheTtl := ttl, resolvers := [⟨"10.0.0.1", "internetpositif", .a⟩] }
    none

/-- With the longest time to live that the clock has no room for any more, a check crashes on its verdict. -/
theorem verdict_lost :
    ((ofTtl (.ofSeconds 0x8000000000000000)).checkOne .answering {} "reddit.com").2 =
        .error (.crash MemoryCache.expiryFault) ∧
      ((ofTtl (.ofSeconds 300)).checkOne .answering {} "reddit.com").2 =
        .ok (.verdict "reddit.com" "10.0.0.1" false) := by
  constructor
  · rw [checkOne_of_atOnce (by decide) (x := .error (.crash MemoryCache.expiryFault)) (by decide +kernel)]
  · rw [checkOne_of_atOnce (by decide) (x := .ok (.verdict "reddit.com" "10.0.0.1" false)) (by decide +kernel)]

theorem verdicts_reddit :
    (∃ ds, Failover (ofTtl (.ofSeconds 300)).policy (normalize "reddit.com") (ofTtl (.ofSeconds 300)).resolvers ds
      (.verdict "reddit.com" "10.0.0.1" false)) ∧
    ((ofTtl (.ofSeconds 0x8000000000000000)).checkOne .answering {} "reddit.com").1.world.Poisoned := by
  have hnet : Network.answering.NeverCrashes := fun _ _ _ _ _ h => nomatch h
  have hcall : Call.IsCalm {} := ⟨rfl, by simp⟩
  constructor
  · obtain ⟨hresults, hroom, -, -⟩ := verdicts _ (ofTtl (.ofSeconds 300)) .refl .answering hnet {} hcall
    obtain ⟨ds, w', x, hmade, hx⟩ := (hresults (by decide)).checkOne "reddit.com"
    rw [checkOne_of_atOnce (by decide) (x := .ok (.verdict "reddit.com" "10.0.0.1" false)) (by decide +kernel)] at hx
    cases x with
    | error f => cases hx
    | ok o =>
      cases hx
      obtain ⟨ds', -, hf⟩ := ((hroom (by decide)).1 _ _ _ _ _ hmade).failover_of_verdict rfl
      exact ⟨ds', hf⟩
  · obtain ⟨-, -, hover, -⟩ := verdicts _ (ofTtl (.ofSeconds 0x8000000000000000)) .refl .answering hnet {} hcall
    obtain ⟨ts, b, x, hfin, hslots, heq⟩ :=
      checkOne_finishes (c := ofTtl (.ofSeconds 0x8000000000000000)) .answering {} (by decide) "reddit.com"
    have hnot : ¬ (ofTtl (.ofSeconds 0x8000000000000000)).world.Poisoned := by
      rintro ⟨m, hcache, hm⟩
      cases hcache
      cases hm
    obtain ⟨ds, y, hslots', -, -, hpoisoned⟩ := hover (by decide) hnot "reddit.com" ts b hfin
    rw [hslots] at hslots'
    cases hslots'
    have hres := congrArg Prod.snd heq
    rw [checkOne_of_atOnce (by decide) (x := .error (.crash MemoryCache.expiryFault)) (by decide +kernel)] at hres
    rw [heq]
    cases x with
    | ok o => cases hres
    | error f =>
      cases hres
      exact hpoisoned rfl

end Checker
end FilterWatch
