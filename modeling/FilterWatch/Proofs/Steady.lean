import FilterWatch.Proofs.Course
import FilterWatch.Proofs.MemoryCache
import Mathlib.Algebra.GroupWithZero.Nat

/-!
# Jobs in steady surroundings

Surroundings are steady while nobody cancels, the resolvers stay as they are and the cache finds nothing but outcomes
that may be kept (`World.Steady`); time may pass and the cache may be flushed. `Job.Yields` says of a job alone that it
ends with a certain result in all such surroundings, whatever is found in the cache and however often the servers have
been asked before. `Batch.Steady` carries both through the turns of a batch, so that a call ends with the results that
its jobs yield (`runCall_steady`, `Finishes.steady`), in whatever order the jobs take their turns.
-/

namespace FilterWatch

/-- Whether an exchange that comes to this brings a reply. -/
def Arrival.Brings : Arrival → Reply → Prop
  | .message m, .message m' _ => m = m'
  | .failed e, .failed e' => e = e'
  | .timedOut, .timedOut => True
  | _, _ => False

theorem World.brings_of_endExchange {w w' : World} {server : String} {q : Dns.Query} {started : Nat} {a : Arrival}
    {reply : Reply} (h : w.endExchange server q started a = (w', .ok reply)) : a.Brings reply := by
  cases a <;> cases h
  · rfl
  · rfl
  · trivial

theorem World.crashed_of_endExchange {w w' : World} {server : String} {q : Dns.Query} {started : Nat} {a : Arrival}
    {f : Fault} (h : w.endExchange server q started a = (w', .error f)) : a = .crashed f := by
  cases a <;> cases h
  rfl

/-- The cache works until the moment `t` at least, and all that it has under a key may be kept there. -/
def Cache.Keeps (Kept : String → Outcome → Prop) (t : Nat) : Cache → Prop
  | .off => True
  | .memory m => m.poisoned = false ∧ t + m.ttl.nanos < MemoryCache.endOfTime ∧ m.All fun key e => Kept key e.outcome
  | .plain _ | .custom _ => False

namespace Cache.Keeps
variable {Kept : String → Outcome → Prop} {t now : Nat} {c : Cache} {key : String} {o : Outcome}

theorem mono {t' : Nat} (ht : t' ≤ t) (h : c.Keeps Kept t) : c.Keeps Kept t' := by
  cases c with
  | memory m => exact ⟨h.1, by have := h.2.1; omega, h.2.2⟩
  | off => trivial
  | plain | custom => exact h

theorem get (key : String) (now : Nat) (h : c.Keeps Kept t) :
    ∃ c' hit, c.get key now = (c', .ok hit) ∧ c'.Keeps Kept t ∧ ∀ o, hit = some o → Kept key o := by
  cases c with
  | off => exact ⟨.off, none, rfl, trivial, by simp⟩
  | memory m =>
    obtain ⟨hp, ht, hk⟩ := h
    refine ⟨_, _, rfl, ⟨by rw [MemoryCache.poisoned_get, hp], by rw [MemoryCache.ttl_get]; exact ht, hk.get⟩,
      fun o ho => ?_⟩
    obtain ⟨e, hf, -, rfl⟩ := MemoryCache.get_eq_some.mp ho
    exact hk key e hf
  | plain | custom => cases h

theorem set (ho : Kept key o) (hnow : now ≤ t) (h : c.Keeps Kept t) :
    ∃ c', c.set key o now = (c', none) ∧ c'.Keeps Kept t := by
  cases c with
  | off => exact ⟨.off, rfl, trivial⟩
  | memory m =>
    obtain ⟨hp, ht, hk⟩ := h
    have hok : (m.set key o now).2 = none := MemoryCache.set_snd (by omega)
    exact ⟨_, Prod.ext rfl hok, MemoryCache.poisoned_set hp hok, by rw [MemoryCache.ttl_set]; exact ht,
      hk.set ho⟩
  | plain | custom => cases h

theorem flush (h : c.Keeps Kept t) : c.flush.Keeps Kept t := by
  cases c with
  | off => trivial
  | memory m =>
    exact ⟨by rw [MemoryCache.poisoned_flush, h.1], by rw [MemoryCache.ttl_flush]; exact h.2.1, .flush⟩
  | plain | custom => cases h

end Cache.Keeps

/-- Surroundings that stay as they are while so much time passes on the cache's clock. -/
structure World.Steady (Kept : String → Outcome → Prop) (rs : List Resolver) (room : Nat) (w : World) : Prop where
  calm : w.cancelled = false
  resolvers : w.registry.resolvers = rs
  cache : w.cache.Keeps Kept (w.cacheClock + room)

/-- Whether jobs go on as before: time passes, or the cache is flushed. -/
def Intervention.IsQuiet : Intervention → Prop
  | .elapse _ | .flush => True
  | .cancel | .upsert _ | .delete _ => False

def Intervention.elapsed : Intervention → Nat
  | .elapse d => d.nanos
  | _ => 0

namespace World.Steady
variable {Kept : String → Outcome → Prop} {rs : List Resolver} {room : Nat} {w w' : World}

theorem of_standing (h : w.standing = w'.standing) (hw : w.Steady Kept rs room) : w'.Steady Kept rs room := by
  have hreg : w.registry = w'.registry := congrArg (·.1) h
  have hcache : w.cache = w'.cache := congrArg (·.2.1) h
  have hclock : w.cacheClock = w'.cacheClock := congrArg (·.2.2.1) h
  refine ⟨(World.cancelled_of_standing h).symm.trans hw.calm, hreg ▸ hw.resolvers, ?_⟩
  rw [← hcache, ← hclock]
  exact hw.cache

theorem mono {room' : Nat} (h : room' ≤ room) (hw : w.Steady Kept rs room) : w.Steady Kept rs room' :=
  ⟨hw.calm, hw.resolvers, hw.cache.mono (Nat.add_le_add_left h _)⟩

theorem lookup (key : String) (hw : w.Steady Kept rs room) : ∃ w' hit, w.lookup key = (w', .ok hit) ∧
    w'.Steady Kept rs room ∧ ∀ o, hit = some o → Kept key o := by
  obtain ⟨c', hit, hget, hc', hhit⟩ := hw.cache.get key w.cacheClock
  refine ⟨{ w with cache := c' }.note (.lookup key (w.cache.has key w.cacheClock)), hit, ?_,
    ⟨hw.calm, hw.resolvers, hc'⟩, hhit⟩
  simp only [World.lookup, hget]

theorem store {key : String} {o : Outcome} (ho : Kept key o) (hw : w.Steady Kept rs room) :
    ∃ w', w.store key o = (w', none) ∧ w'.Steady Kept rs room := by
  obtain ⟨c', hset, hc'⟩ := hw.cache.set ho (Nat.le_add_right _ _)
  refine ⟨{ w with cache := c' }.note (.store key o), ?_, ⟨hw.calm, hw.resolvers, hc'⟩⟩
  simp only [World.store, hset]

theorem endExchange (server : String) (q : Dns.Query) (started : Nat) (a : Arrival) (hw : w.Steady Kept rs room) :
    (w.endExchange server q started a).1.Steady Kept rs room :=
  hw.of_standing (World.standing_endExchange w server q started a).symm

theorem apply {i : Intervention} (hi : i.IsQuiet) (hw : w.Steady Kept rs (i.elapsed + room)) :
    (i.apply w).Steady Kept rs room := by
  cases i with
  | elapse d =>
    have hcache : w.cache.Keeps Kept (w.cacheClock + (d.nanos + room)) := hw.cache
    rw [← Nat.add_assoc] at hcache
    exact ⟨hw.calm, hw.resolvers, hcache⟩
  | flush => exact ⟨hw.calm, hw.resolvers, (hw.mono (Nat.le_add_left _ _)).cache.flush⟩
  | cancel | upsert | delete => cases hi

end World.Steady

section
variable (net : Network) (Kept : String → Outcome → Prop) (rs : List Resolver) {α β : Type}

/-- The job ends with `x` in steady surroundings. -/
inductive Job.Yields : Job α → Except Fault α → Prop
  | done {a} : Yields (.done a) (.ok a)
  | crash {f} : Yields (.crash f) (.error f)
  | resolvers {next x} (h : Yields (next rs) x) : Yields (.resolvers next) x
  | lookup {key next x} (hmiss : Yields (next none) x) (hhit : ∀ o, Kept key o → Yields (next (some o)) x) :
    Yields (.lookup key next) x
  | store {key o next x} (hkept : Kept key o) (h : Yields next x) : Yields (.store key o next) x
  | count {t next x} (h : Yields next x) : Yields (.count t next) x
  | exchange {limit server q next x}
      (hreply : ∀ n reply, ((net server q n).arrival limit).2.Brings reply → Yields (next reply) x)
      (hcrash : ∀ n f, ((net server q n).arrival limit).2 = .crashed f → x = .error f) :
    Yields (.exchange limit server q next) x
  | pause {d next x} (h : Yields (next true) x) : Yields (.pause d next) x
  | sleep {d next x} (h : Yields next x) : Yields (.sleep d next) x

/-- The job in a slot ends with `x` in steady surroundings. -/
def Slot.Yields : Slot α → Except Fault α → Prop
  | .queued job, x => job.Yields net Kept rs x
  | .exchanging _ _ _ _ arrival next, x =>
      (∀ reply, arrival.Brings reply → (next reply).Yields net Kept rs x) ∧ ∀ f, arrival = .crashed f → x = .error f
  | .pausing _ next, x => (next true).Yields net Kept rs x
  | .sleeping _ next, x => next.Yields net Kept rs x
  | .ended y, x => y = x
  | .skipped, _ => False

end

section
variable {net : Network} {Kept : String → Outcome → Prop} {rs : List Resolver} {α β : Type} {room : Nat} {w : World}

theorem Job.Yields.bind {j : Job α} {f : α → Job β} {x : Except Fault α} {y : Except Fault β}
    (hj : j.Yields net Kept rs x) (hok : ∀ a, x = .ok a → (f a).Yields net Kept rs y)
    (herr : ∀ e, x = .error e → y = .error e) : (j.bind f).Yields net Kept rs y := by
  induction hj with
  | done => exact hok _ rfl
  | crash => rw [herr _ rfl]; exact .crash
  | resolvers _ ih => exact .resolvers (ih hok herr)
  | lookup _ _ ihmiss ihhit => exact .lookup (ihmiss hok herr) fun o ho => ihhit o ho hok herr
  | store hkept _ ih => exact .store hkept (ih hok herr)
  | count _ ih => exact .count (ih hok herr)
  | exchange _ hcrash ih =>
    exact .exchange (fun n reply hr => ih n reply hr hok herr) fun n f hf => herr f (hcrash n f hf)
  | pause _ ih => exact .pause (ih hok herr)
  | sleep _ ih => exact .sleep (ih hok herr)

theorem Slot.advance_steady {job : Job α} {x : Except Fault α} (h : job.Yields net Kept rs x)
    (hw : w.Steady Kept rs room) : (Slot.advance net job w).1.Steady Kept rs room ∧
      (Slot.advance net job w).2.Yields net Kept rs x := by
  induction h generalizing w with
  | done | crash => exact ⟨hw, rfl⟩
  | resolvers _ ih =>
    simp only [advance, hw.resolvers]
    exact ih hw
  | @lookup key next x _ _ ihmiss ihhit =>
    obtain ⟨w', hit, hl, hw', hhit⟩ := hw.lookup key
    simp only [advance, hl]
    cases hit with
    | none => exact ihmiss hw'
    | some o => exact ihhit o (hhit o rfl) hw'
  | @store key o next x hkept _ ih =>
    obtain ⟨w', hs, hw'⟩ := hw.store hkept
    simp only [advance, hs]
    exact ih hw'
  | count _ ih => exact ih (hw.of_standing (World.standing_count _ _).symm)
  | @exchange limit server q next x hreply hcrash ih =>
    rcases ha : (net server q (w.exchangesWith server q.name)).arrival limit with ⟨wait, arrival⟩
    have hreply := hreply (w.exchangesWith server q.name)
    have hcrash := hcrash (w.exchangesWith server q.name)
    have ih := ih (w.exchangesWith server q.name)
    rw [ha] at hreply hcrash ih
    have hsent : (w.probeStarted.note (.exchange server q)).Steady Kept rs room := hw.of_standing (by rfl)
    simp only [advance, hw.calm, Bool.false_eq_true, if_false, ha]
    split
    · have hw' := hsent.endExchange server q w.now arrival
      rcases he : (w.probeStarted.note (.exchange server q)).endExchange server q w.now arrival with ⟨w', f | reply⟩
      · rw [he] at hw'
        exact ⟨hw', (hcrash f (World.crashed_of_endExchange he)).symm⟩
      · rw [he] at hw'
        exact ih reply (World.brings_of_endExchange he) hw'
    · exact ⟨hsent, hreply, hcrash⟩
  | @pause d next x h ih =>
    simp only [advance, hw.calm, Bool.false_eq_true, if_false]
    split
    · exact ih hw
    · exact ⟨hw, h⟩
  | @sleep d next x h ih =>
    rw [advance]
    split
    · exact ih hw
    · exact ⟨hw, h⟩

theorem Slot.wake_steady {s : Slot α} {x : Except Fault α} (h : s.Yields net Kept rs x)
    (hw : w.Steady Kept rs room) :
    (s.wake net w).1.Steady Kept rs room ∧ (s.wake net w).2.Yields net Kept rs x := by
  cases s with
  | exchanging due server q started arrival next =>
    have hw' := hw.endExchange server q started arrival
    rcases he : w.endExchange server q started arrival with ⟨w', f | reply⟩
    · rw [he] at hw'
      simp only [wake, he]
      exact ⟨hw', (h.2 f (World.crashed_of_endExchange he)).symm⟩
    · rw [he] at hw'
      simp only [wake, he]
      exact advance_steady (h.1 reply (World.brings_of_endExchange he)) hw'
  | pausing due next | sleeping due next => exact advance_steady h hw
  | queued | ended | skipped => exact ⟨hw, h⟩

end

/-! ### Batches -/

def elapsedAlong (agenda : List AgendaEntry) : Nat := (agenda.map (·.what.elapsed)).sum

/-- A batch in steady surroundings whose slots end with these results. -/
structure Batch.Steady {α : Type} (net : Network) (Kept : String → Outcome → Prop) (rs : List Resolver) (room : Nat)
    (xs : List (Except Fault α)) (b : Batch α) : Prop where
  world : b.world.Steady Kept rs (elapsedAlong b.agenda + room)
  slots : List.Forall₂ (Slot.Yields net Kept rs) b.slots xs
  quiet : ∀ e ∈ b.agenda, e.what.IsQuiet

namespace Batch
variable {α : Type} {net : Network} {Kept : String → Outcome → Prop} {rs : List Resolver} {room limit : Nat}
  {xs : List (Except Fault α)} {b c : Batch α} {t : Turn} {ts : List Turn}

/-- Each turn in steady surroundings leaves them steady, and the results that the slots end with. -/
theorem Steady.move (h : b.Steady net Kept rs room xs) (hmove : b.Move net limit t c) :
    c.Steady net Kept rs room xs := by
  cases hmove with
  | start =>
    obtain ⟨x, hs, hreplace⟩ := forall₂_replace h.slots
    obtain ⟨hw, hs'⟩ := Slot.advance_steady hs h.world
    exact ⟨hw, hreplace _ hs', h.quiet⟩
  | @wake w pre s post agenda due =>
    obtain ⟨x, hs, hreplace⟩ := forall₂_replace h.slots
    have hthen : (w.atTime due).Steady Kept rs (elapsedAlong agenda + room) := h.world.of_standing (by rfl)
    obtain ⟨hw, hs'⟩ := Slot.wake_steady hs hthen
    exact ⟨hw, hreplace _ hs', h.quiet⟩
  | abort _ hx | skip hx => exact absurd (h.world.calm.symm.trans hx) (by simp)
  | @outside w slots e rest =>
    -- the time that the entry takes comes off the time that the agenda still takes
    have hthen : (w.atTime e.time).Steady Kept rs (e.what.elapsed + (elapsedAlong rest + room)) := by
      have hsum : elapsedAlong (e :: rest) = e.what.elapsed + elapsedAlong rest := List.sum_cons
      have hworld := h.world
      rw [hsum, Nat.add_assoc] at hworld
      exact hworld.of_standing (by rfl)
    exact ⟨hthen.apply (h.quiet e (.head _)), h.slots, fun e' he' => h.quiet e' (.tail _ he')⟩

theorem ended_of_closed {slots : List (Slot α)} (h : List.Forall₂ (Slot.Yields net Kept rs) slots xs)
    (hclosed : ∀ s ∈ slots, s.isOpen = false) : slots = xs.map .ended := by
  induction h with
  | nil => rfl
  | @cons s x slots xs hs _ ih =>
    obtain ⟨hs', hrest⟩ := List.forall_mem_cons.mp hclosed
    have hended : s = .ended x := by
      cases s with
      | ended y => rw [show y = x from hs]
      | queued | exchanging | pausing | sleeping => cases hs'
      | skipped => cases hs
    rw [hended, ih hrest, List.map_cons]

/-- In every schedule, a batch in steady surroundings ends with the results of its slots. -/
theorem Steady.finishes (hb : b.Steady net Kept rs room xs) (h : b.Finishes net limit ts c) :
    c.world.Steady Kept rs room ∧ c.slots = xs.map .ended := by
  have hc : c.Steady net Kept rs room xs := h.schedule.preserves (fun hmove hb => Steady.move hb hmove) hb
  exact ⟨hc.world.mono (Nat.le_add_left _ _), ended_of_closed hc.slots h.done⟩

end Batch

/-! ### Calls -/

/-- Whether during a call nothing happens but that time passes or the cache is flushed. -/
def Call.IsQuiet (call : Call) : Prop := call.cancelled = false ∧ ∀ e ∈ call.agenda, e.what.IsQuiet

def Call.elapsed (call : Call) : Nat := elapsedAlong call.agenda

section
variable {α ι : Type} {net : Network} {Kept : String → Outcome → Prop} {rs : List Resolver} {room : Nat}
  {call : Call} {w : World}

theorem Call.elapsedAlong_agendaFrom (call : Call) (w : World) : elapsedAlong (call.agendaFrom w) = call.elapsed := by
  have hperm := (List.mergeSort_perm (call.agenda.map fun e => { e with time := w.now + e.time })
    (·.time ≤ ·.time)).map (·.what.elapsed)
  exact hperm.sum_nat.trans (by rw [List.map_map]; rfl)

theorem Call.IsQuiet.agendaFrom (hcall : call.IsQuiet) : ∀ e ∈ call.agendaFrom w, e.what.IsQuiet := by
  intro e he
  obtain ⟨e', he', hwhat⟩ := Call.what_of_mem_agendaFrom he
  rw [← hwhat]
  exact hcall.2 e' he'

theorem World.Steady.beginCall (hcall : call.IsQuiet) (hw : w.Steady Kept rs (call.elapsed + room)) :
    (call.world w).Steady Kept rs (elapsedAlong (call.agendaFrom w) + room) := by
  rw [Call.elapsedAlong_agendaFrom]
  exact ⟨hcall.1, hw.resolvers, hw.cache⟩

theorem runCall_steady {job : Job α} {x : Except Fault α} (hjob : job.Yields net Kept rs x) (hcall : call.IsQuiet)
    (hw : w.Steady Kept rs (call.elapsed + room)) :
    (runCall net call job w).1.Steady Kept rs room ∧ (runCall net call job w).2 = x := by
  obtain ⟨hworld, hslot⟩ := Slot.advance_steady hjob (hw.beginCall hcall)
  have hbatch : (Batch.alone net job (call.world w) (call.agendaFrom w)).Steady net Kept rs room [x] :=
    ⟨hworld, .cons hslot .nil, hcall.agendaFrom⟩
  obtain ⟨ts, b, y, hfin, hslots, hrun⟩ := runAlone_finishes net (call.agendaFrom w) job (call.world w)
  obtain ⟨hend, hslots'⟩ := hbatch.finishes hfin
  rw [hslots] at hslots'
  cases hslots'
  rw [runCall, hrun]
  exact ⟨hend, rfl⟩

/-- In every schedule, a batch of jobs in steady surroundings ends with what each of the jobs yields. -/
theorem Batch.Finishes.steady {work : ι → Job α} {x : ι → Except Fault α}
    (hwork : ∀ i, (work i).Yields net Kept rs (x i)) (hcall : call.IsQuiet) (fallback : ι → CheckError → α)
    {items : List ι} {limit : Nat} {ts : List Turn} {b : Batch α}
    (hw : w.Steady Kept rs (call.elapsed + room))
    (h : (Batch.queue work items (call.world w) (call.agendaFrom w)).Finishes net limit ts b) :
    b.world.Steady Kept rs room ∧
      b.results fallback items = items.map fun i => (Slot.ended (x i)).result (fallback i) := by
  have hbatch : Batch.Steady net Kept rs room (items.map x)
      (.queue work items (call.world w) (call.agendaFrom w)) := by
    refine ⟨hw.beginCall hcall, ?_, hcall.agendaFrom⟩
    rw [Batch.queue, List.forall₂_map_left_iff, List.forall₂_map_right_iff, List.forall₂_same]
    exact fun i _ => hwork i
  obtain ⟨hend, hslots⟩ := hbatch.finishes h
  refine ⟨hend, ?_⟩
  rw [Batch.results, hslots, List.map_map, List.zipWith_map_right, List.zipWith_self]
  rfl

theorem dispatch_steady {work : ι → Job α} {x : ι → Except Fault α} (hwork : ∀ i, (work i).Yields net Kept rs (x i))
    (hcall : call.IsQuiet) (concurrency : Nat) (fallback : ι → CheckError → α) (items : List ι)
    (hw : w.Steady Kept rs (call.elapsed + room)) :
    (dispatch net concurrency (call.agendaFrom w) work fallback items (call.world w)).1.Steady Kept rs room ∧
      (dispatch net concurrency (call.agendaFrom w) work fallback items (call.world w)).2 =
        items.map fun i => (Slot.ended (x i)).result (fallback i) := by
  obtain ⟨ts, b, h, heq⟩ :=
    dispatch_finishes net concurrency (call.agendaFrom w) work fallback items (call.world w)
  rw [heq]
  exact h.steady hwork hcall fallback hw

end
end FilterWatch
