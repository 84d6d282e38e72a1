import FilterWatch.Proofs.Heeds
import FilterWatch.Proofs.Schedule

/-!
# What a cancellation leaves of a batch

In every schedule of jobs that heed the caller: from the moment of the cancellation on no time passes, nothing is sent
and nothing is stored; what waited ends with a result that says that it was cancelled, what had not been started is
skipped, and what had ended stays as it is (`Batch.Stops`). `Batch.Heeds` is the invariant that carries this: all slots
heed the caller, and none shows a cancellation before there is one.
-/

namespace FilterWatch

namespace World

/-- What the journal has had since has a property. -/
def Adds (P : Happening → Prop) (w w' : World) : Prop := ∃ es, w'.journal = es ++ w.journal ∧ ∀ e ∈ es, P e.what

theorem Adds.of_eq {P : Happening → Prop} {w w' : World} (h : w'.journal = w.journal) : w.Adds P w' :=
  ⟨[], h, by simp⟩

theorem Adds.trans {P : Happening → Prop} {w w₁ w' : World} (h : w.Adds P w₁) (h' : w₁.Adds P w') : w.Adds P w' := by
  obtain ⟨es, hes, hall⟩ := h
  obtain ⟨es', hes', hall'⟩ := h'
  refine ⟨es' ++ es, by rw [hes', hes, List.append_assoc], fun e he => ?_⟩
  rcases List.mem_append.mp he with he | he
  · exact hall' e he
  · exact hall e he

variable {P : Outcome → Prop} {w : World}

theorem adds_lookup (w : World) (key : String) : w.Adds (∃ key found, · = .lookup key found) (w.lookup key).1 :=
  ⟨[_], rfl, fun _ he => by rw [List.mem_singleton.mp he]; exact ⟨_, _, rfl⟩⟩

theorem hands_lookup (key : String) (h : w.cache.Hands P) : (w.lookup key).1.cache.Hands P := h.get key _

theorem hands_store (key : String) {o : Outcome} (ho : P o) (h : w.cache.Hands P) : (w.store key o).1.cache.Hands P :=
  h.set key _ ho

theorem cache_count (w : World) (t : Tally) : (w.count t).cache = w.cache := by cases t <;> rfl

theorem cache_endExchange (w : World) (server : String) (q : Dns.Query) (started : Nat) (a : Arrival) :
    (w.endExchange server q started a).1.cache = w.cache := by cases a <;> rfl

theorem journal_count (w : World) (t : Tally) : (w.count t).journal = w.journal := by cases t <;> rfl

def uncancelled (w : World) : World := { w with cancelled := false }

theorem lookup_uncancelled (w : World) (key : String) :
    w.uncancelled.lookup key = ((w.lookup key).1.uncancelled, (w.lookup key).2) := rfl

theorem count_uncancelled (w : World) (t : Tally) : w.uncancelled.count t = (w.count t).uncancelled := by
  cases t <;> rfl

theorem ne_cancelled_of_endExchange {w' : World} {server : String} {q : Dns.Query} {started : Nat} {a : Arrival}
    {reply : Reply} (h : w.endExchange server q started a = (w', .ok reply)) : reply ≠ .cancelled := by
  cases a <;> cases h <;> simp

theorem hands_apply (i : Intervention) (h : w.cache.Hands P) : (i.apply w).cache.Hands P := by
  cases i with
  | flush => exact h.flush
  | cancel | upsert | delete | elapse => exact h

end World

/-! ### Slots -/

namespace Slot
variable {α : Type} {net : Network} {Kept : Outcome → Prop} {Q C : α → Prop} {w w' : World} {job : Job α} {s : Slot α}

/-- The job in a slot heeds the caller. -/
def Heeds (Kept : Outcome → Prop) (Q C : α → Prop) : Slot α → Prop
  | queued job => job.Heeds Kept Q C
  | exchanging _ _ _ _ _ next =>
    (next .cancelled).Quits C ∧ ∀ reply, reply ≠ .cancelled → (next reply).Heeds Kept Q C
  | pausing _ next => (next false).Quits C ∧ (next true).Heeds Kept Q C
  | sleeping _ _ => False
  | ended _ | skipped => True

/-- The slot does not show that there was a cancellation. -/
def Untouched (Q : α → Prop) : Slot α → Prop
  | ended (.ok a) => Q a
  | skipped => False
  | _ => True

/-- A job that quits ends at once and leaves nothing but counters changed. -/
theorem Advances.quits (h : Advances net w job w' s) (hjob : job.Quits C) :
    (∃ a, C a ∧ s = .ended (.ok a)) ∧ w'.journal = w.journal ∧ w'.cache = w.cache := by
  induction h with
  | done =>
    cases hjob with
    | done hC => exact ⟨⟨_, hC, rfl⟩, rfl, rfl⟩
  | count _ ih =>
    cases hjob with
    | count hnext =>
      obtain ⟨hend, hjournal, hcache⟩ := ih hnext
      exact ⟨hend, hjournal.trans (World.journal_count _ _), hcache.trans (World.cache_count _ _)⟩
  | _ => cases hjob

/-- What a slot and the cache are like after a turn of a job that heeds the caller. -/
structure Turned (Kept : Outcome → Prop) (Q C : α → Prop) (w : World) (s : Slot α) : Prop where
  cache : w.cache.Hands Kept
  heeds : s.Heeds Kept Q C
  untouched : w.cancelled = false → s.Untouched Q

theorem Turned.of_quits (h : Advances net w job w' s) (hjob : job.Quits C) (hw : w.cache.Hands Kept)
    (hx : w.cancelled = true) : Turned Kept Q C w' s := by
  obtain ⟨⟨a, -, rfl⟩, -, hcache⟩ := h.quits hjob
  have hx' := h.cancelled.trans hx
  exact ⟨hcache ▸ hw, trivial, fun hcalm => absurd (hcalm.symm.trans hx') (by simp)⟩

theorem Advances.turned (h : Advances net w job w' s) (hjob : job.Heeds Kept Q C) (hw : w.cache.Hands Kept) :
    Turned Kept Q C w' s := by
  induction h with
  | done =>
    cases hjob with
    | done hQ => exact ⟨hw, trivial, fun _ => hQ⟩
  | crash => exact ⟨hw, trivial, fun _ => trivial⟩
  | resolvers _ ih =>
    cases hjob with
    | resolvers hnext => exact ih (hnext _) hw
  | @lookup w w₁ key hit next _ _ hl _ ih =>
    have hw₁ := World.hands_lookup key hw
    rw [hl] at hw₁
    cases hjob with
    | lookup hmiss hhit =>
      cases hit with
      | none => exact ih hmiss hw₁
      | some o => exact ih (hhit o (hw.of_get (congrArg Prod.snd hl))) hw₁
  | @lookupCrash w w₁ key f next hl =>
    have hw₁ := World.hands_lookup key hw
    rw [hl] at hw₁
    exact ⟨hw₁, trivial, fun _ => trivial⟩
  | @store w w₁ key o next _ _ hs _ ih =>
    cases hjob with
    | store hkept hnext =>
      have hw₁ := World.hands_store key hkept hw
      rw [hs] at hw₁
      exact ih hnext hw₁
  | @storeCrash w w₁ key o f next hs =>
    cases hjob with
    | store hkept _ =>
      have hw₁ := World.hands_store key hkept hw
      rw [hs] at hw₁
      exact ⟨hw₁, trivial, fun _ => trivial⟩
  | count _ ih =>
    cases hjob with
    | count hnext => exact ih hnext (by rw [World.cache_count]; exact hw)
  | withheld hx h =>
    cases hjob with
    | exchange hquit => exact .of_quits h hquit hw hx
  | @replied w w₁ limit server q arrival reply next _ _ _ _ he _ ih =>
    cases hjob with
    | exchange _ hnext =>
      have hcache := World.cache_endExchange (w.probeStarted.note (.exchange server q)) server q w.now arrival
      rw [he] at hcache
      exact ih (hnext _ (World.ne_cancelled_of_endExchange he)) (by rw [hcache]; exact hw)
  | @repliedCrash w w₁ limit server q arrival f next _ _ he =>
    have hcache := World.cache_endExchange (w.probeStarted.note (.exchange server q)) server q w.now arrival
    rw [he] at hcache
    exact ⟨by rw [hcache]; exact hw, trivial, fun _ => trivial⟩
  | sent =>
    cases hjob with
    | exchange hquit hnext => exact ⟨hw, ⟨hquit, hnext⟩, fun _ => trivial⟩
  | refused hx h =>
    cases hjob with
    | pause hquit => exact .of_quits h hquit hw hx
  | passed _ _ _ ih =>
    cases hjob with
    | pause _ hnext => exact ih hnext hw
  | paused =>
    cases hjob with
    | pause hquit hnext => exact ⟨hw, ⟨hquit, hnext⟩, fun _ => trivial⟩
  | slept | asleep => cases hjob

theorem Heeds.wake (hrunning : s.isRunning) (hs : s.Heeds Kept Q C) (hw : w.cache.Hands Kept) :
    Turned Kept Q C (s.wake net w).1 (s.wake net w).2 := by
  cases s with
  | exchanging due server q started arrival next =>
    have hcache := World.cache_endExchange w server q started arrival
    rcases he : w.endExchange server q started arrival with ⟨w₁, f | reply⟩
    · rw [he] at hcache
      simp only [wake, he]
      exact ⟨hcache ▸ hw, trivial, fun _ => trivial⟩
    · rw [he] at hcache
      simp only [wake, he]
      exact (advances _ _ _).turned (hs.2 reply (World.ne_cancelled_of_endExchange he)) (hcache ▸ hw)
  | pausing due next => exact (advances _ _ _).turned hs.2 hw
  | sleeping => cases hs
  | queued | ended | skipped => cases hrunning

theorem Heeds.abort (net : Network) (w : World) (hrunning : s.isCancellable) (hs : s.Heeds Kept Q C) :
    (∃ a, C a ∧ (s.abort net w).2 = .ended (.ok a)) ∧ (s.abort net w).1.journal = w.journal ∧
      (s.abort net w).1.cache = w.cache := by
  cases s with
  | exchanging => exact (advances _ _ _).quits hs.1
  | pausing => exact (advances _ _ _).quits hs.1
  | queued | sleeping | ended | skipped => cases hrunning

/-- The job ended with `x`, either to say that it was cancelled, or with what it ends with wherever nobody has
cancelled, without a need of the network. -/
def EndsAtOnce (C : α → Prop) (w : World) (job : Job α) (x : Except Fault α) : Prop :=
  (∃ a, C a ∧ x = .ok a) ∨ ∀ net, (advance net job w.uncancelled).2 = .ended x

/-- A job that is started after the cancellation ends at once, and has done nothing but look into the cache. -/
theorem Advances.ended_of_cancelled (h : Advances net w job w' s) (hheeds : job.Heeds (fun _ => True) Q C)
    (hasks : job.AsksFirst) (hx : w.cancelled = true) :
    (∃ x, s = .ended x ∧ EndsAtOnce C w job x) ∧ w.Adds (∃ key found, · = .lookup key found) w' := by
  induction h with
  | done | crash => exact ⟨⟨_, rfl, .inr fun _ => rfl⟩, .of_eq rfl⟩
  | resolvers _ ih =>
    cases hheeds with
    | resolvers hheeds =>
      cases hasks with
      | resolvers hasks => exact ih (hheeds _) (hasks _) hx
  | @lookup w w₁ key hit next _ _ hl _ ih =>
    have hl' : w.uncancelled.lookup key = (w₁.uncancelled, .ok hit) := by rw [World.lookup_uncancelled, hl]
    obtain rfl := congrArg Prod.fst hl
    cases hheeds with
    | lookup hmiss hhit =>
      cases hasks with
      | lookup hasks =>
        have hnext : (next hit).Heeds (fun _ => True) Q C := by
          cases hit with
          | none => exact hmiss
          | some o => exact hhit o trivial
        obtain ⟨⟨x, hend, hatOnce⟩, hadds⟩ := ih hnext (hasks hit) hx
        refine ⟨⟨x, hend, hatOnce.imp_right fun h net => ?_⟩, (World.adds_lookup _ _).trans hadds⟩
        rw [advance, hl']
        exact h net
  | @lookupCrash w w₁ key f next hl =>
    have hl' : w.uncancelled.lookup key = (w₁.uncancelled, .error f) := by rw [World.lookup_uncancelled, hl]
    obtain rfl := congrArg Prod.fst hl
    refine ⟨⟨_, rfl, .inr fun net => ?_⟩, World.adds_lookup _ _⟩
    rw [advance, hl']
  | store | storeCrash => cases hasks
  | @count w t next _ _ _ ih =>
    cases hheeds with
    | count hheeds =>
      cases hasks with
      | count hasks =>
        have hx' := (World.cancelled_of_setting (World.setting_count w t)).trans hx
        obtain ⟨⟨x, hend, hatOnce⟩, hadds⟩ := ih hheeds hasks hx'
        refine ⟨⟨x, hend, hatOnce.imp_right fun h net => ?_⟩, .trans (.of_eq (World.journal_count _ _)) hadds⟩
        rw [advance, World.count_uncancelled]
        exact h net
  | withheld _ h =>
    cases hheeds with
    | exchange hquit =>
      obtain ⟨⟨a, ha, hend⟩, hjournal, -⟩ := h.quits hquit
      exact ⟨⟨_, hend, .inl ⟨a, ha, rfl⟩⟩, .of_eq hjournal⟩
  | refused _ h =>
    cases hheeds with
    | pause hquit =>
      obtain ⟨⟨a, ha, hend⟩, hjournal, -⟩ := h.quits hquit
      exact ⟨⟨_, hend, .inl ⟨a, ha, rfl⟩⟩, .of_eq hjournal⟩
  | replied hc | repliedCrash hc | sent hc | passed hc | paused hc => exact absurd (hc.symm.trans hx) (by simp)
  | slept | asleep => cases hheeds

theorem Heeds.isOpen (hs : s.Heeds Kept Q C) (hopen : s.isOpen) : s.isQueued ∨ s.isCancellable := by
  cases s with
  | queued => exact .inl rfl
  | exchanging | pausing => exact .inr rfl
  | sleeping => cases hs
  | ended | skipped => cases hopen

end Slot

/-! ### Batches -/

namespace Batch
variable {α : Type} {net : Network} {limit : Nat} {Kept : Outcome → Prop} {Q C : α → Prop} {b c d : Batch α}
  {t : Turn} {ts : List Turn}

/-- All jobs of a batch heed the caller, and without a cancellation no slot shows one. -/
structure Heeds (Kept : Outcome → Prop) (Q C : α → Prop) (b : Batch α) : Prop where
  cache : b.world.cache.Hands Kept
  slots : ∀ s ∈ b.slots, s.Heeds Kept Q C
  untouched : b.world.cancelled = false → ∀ s ∈ b.slots, s.Untouched Q

theorem Heeds.replace {w w' : World} {pre post : List (Slot α)} {s s' : Slot α} {agenda : List AgendaEntry}
    (h : Heeds Kept Q C ⟨w, pre ++ s :: post, agenda⟩) (hw : w'.cancelled = w.cancelled)
    (hs' : Slot.Turned Kept Q C w' s') : Heeds Kept Q C ⟨w', pre ++ s' :: post, agenda⟩ :=
  ⟨hs'.cache, forall_replace h.slots hs'.heeds,
    fun hcalm => forall_replace (h.untouched (hw.symm.trans hcalm)) (hs'.untouched hcalm)⟩

theorem Move.heeds (h : b.Move net limit t c) (hb : b.Heeds Kept Q C) : c.Heeds Kept Q C := by
  have hmem : ∀ {pre post : List (Slot α)} {s : Slot α}, s ∈ pre ++ s :: post := by simp
  cases h with
  | @start w pre job post agenda =>
    have hadv := Slot.advances net job w
    exact hb.replace hadv.cancelled (hadv.turned (hb.slots _ hmem) hb.cache)
  | @wake w pre s post agenda due hdue =>
    have hs := Slot.isRunning_of_due? hdue
    have hcancelled := Slot.cancelled_wake net hs (w.atTime due)
    exact hb.replace hcancelled (Slot.Heeds.wake hs (hb.slots s hmem) hb.cache)
  | @abort w pre s post agenda hs hx =>
    have hcancelled := Slot.cancelled_abort net hs w
    obtain ⟨⟨a, -, hend⟩, -, hcache⟩ := Slot.Heeds.abort net w hs (hb.slots s hmem)
    refine hb.replace hcancelled ⟨by rw [hcache]; exact hb.cache, by rw [hend]; trivial, fun hcalm => ?_⟩
    exact absurd (hcalm.symm.trans (hcancelled.trans hx)) (by simp)
  | @skip w pre job post agenda hx =>
    exact hb.replace rfl ⟨hb.cache, trivial, fun hcalm => absurd (hcalm.symm.trans hx) (by simp)⟩
  | @outside w slots e rest =>
    refine ⟨World.hands_apply _ hb.cache, hb.slots, fun hcalm => hb.untouched ?_⟩
    cases hx : w.cancelled with
    | false => rfl
    | true => exact absurd (hcalm.symm.trans (e.what.cancelled_apply (w := w.atTime e.time) hx)) (by simp)

theorem Schedule.heeds (h : b.Schedule net limit ts c) (hb : b.Heeds Kept Q C) : c.Heeds Kept Q C :=
  h.preserves Move.heeds hb

end Batch

/-! ### After a cancellation -/

theorem Intervention.adds_apply (i : Intervention) (w : World) : w.Adds (· = .flush) (i.apply w) := by
  cases i with
  | flush => exact ⟨[⟨w.now, .flush⟩], rfl, by simp⟩
  | cancel | upsert | delete | elapse => exact .of_eq rfl

/-- What a cancellation makes of a slot. -/
inductive Slot.Stops {α : Type} (C : α → Prop) : Slot α → Slot α → Prop
  | kept {s} : Stops C s s
  | aborted {s a} (hs : s.isCancellable) (ha : C a) : Stops C s (.ended (.ok a))
  | skipped {job} : Stops C (.queued job) .skipped

namespace Batch
variable {α : Type} {net : Network} {limit : Nat} {Kept : Outcome → Prop} {Q C : α → Prop} {b c d : Batch α}
  {t : Turn} {ts : List Turn}

/-- How far a batch may have come since a moment after the cancellation. -/
structure Stopping (C : α → Prop) (b c : Batch α) : Prop where
  now : c.world.now = b.world.now
  journal : b.world.Adds (· = .flush) c.world
  slots : List.Forall₂ (fun s' s => Slot.Stops C s s') c.slots b.slots

theorem Stopping.refl (b : Batch α) : b.Stopping C b :=
  ⟨rfl, .of_eq rfl, List.forall₂_same.mpr fun _ _ => .kept⟩

/-- After a cancellation every turn breaks off a wait or skips a job, or is one of the outside at the same moment. -/
theorem Stopping.move (h : b.Stopping C c) (hc : c.Heeds Kept Q C) (hx : c.world.cancelled = true)
    (hmove : c.Move net limit t d) : b.Stopping C d := by
  cases hmove with
  | start hcalm => exact absurd (hcalm.symm.trans hx) (by simp)
  | @wake w pre s post agenda due hdue hcalm =>
    have hs := Slot.isRunning_of_due? hdue
    -- what waits heeds the caller, so its wait does not last its time any more
    rcases (hc.slots s (by simp)).isOpen (by simp [Slot.isOpen, hs]) with hq | hs'
    · obtain ⟨job, rfl⟩ := Slot.eq_queued hq
      cases hs
    · exact absurd ((hcalm hs').symm.trans hx) (by simp)
  | @abort w pre s post agenda hs =>
    obtain ⟨⟨a, ha, hend⟩, hjournal, -⟩ := Slot.Heeds.abort net w hs (hc.slots s (by simp))
    obtain ⟨s₀, hs₀, hreplace⟩ := forall₂_replace h.slots
    refine ⟨(Slot.now_abort _ hs w).trans h.now, h.journal.trans (.of_eq hjournal),
      hreplace _ ?_⟩
    rw [hend]
    cases hs₀ with
    | kept => exact .aborted hs ha
    | aborted | skipped => cases hs
  | @skip w pre job post agenda =>
    obtain ⟨s₀, hs₀, hreplace⟩ := forall₂_replace h.slots
    refine ⟨h.now, h.journal, hreplace _ ?_⟩
    cases hs₀ with
    | kept => exact .skipped
  | @outside w slots e rest hopen ht =>
    -- the moment of the entry has come: with an open job there is something to be done before time passes
    have htime : e.time ≤ w.now := by
      rcases ht with ht | ⟨hbusy, -, -⟩
      · exact ht
      · obtain ⟨s, hs, hopen⟩ := hopen
        exact absurd (.inr ⟨hx, s, hs, (hc.slots s hs).isOpen hopen⟩) hbusy
    refine ⟨?_, h.journal.trans (e.what.adds_apply (w.atTime e.time)), h.slots⟩
    rw [Intervention.now_apply]
    exact (Nat.max_eq_left htime).trans h.now

theorem Schedule.stopping (h : b.Schedule net limit ts c) (hb : b.Heeds Kept Q C) (hx : b.world.cancelled = true) :
    b.Stopping C c := by
  induction h with
  | nil => exact .refl b
  | snoc h hmove ih => exact ih.move (h.heeds hb) (h.cancelled hx) hmove

/-- What becomes of a batch that was cancelled when it was `b` and comes to its end as `d`. -/
structure Stops (C : α → Prop) (b d : Batch α) : Prop where
  now : d.world.now = b.world.now
  journal : b.world.Adds (· = .flush) d.world
  ended : ∀ (i : Nat) x, b.slots[i]? = some (Slot.ended x) → d.slots[i]? = some (Slot.ended x)
  waiting : ∀ (i : Nat) (s : Slot α), b.slots[i]? = some s → s.isRunning →
    ∃ a, C a ∧ d.slots[i]? = some (Slot.ended (.ok a))
  queued : ∀ (i : Nat) (s : Slot α), b.slots[i]? = some s → s.isQueued → d.slots[i]? = some Slot.skipped

theorem Finishes.stops (h : b.Finishes net limit ts d) (hb : b.Heeds Kept Q C) (hx : b.world.cancelled = true) :
    b.Stops C d := by
  have hstopping := h.schedule.stopping hb hx
  have hslot : ∀ {i : Nat} {s : Slot α}, b.slots[i]? = some s →
      ∃ s', d.slots[i]? = some s' ∧ s'.isOpen = false ∧ s.Stops C s' := by
    intro i s hs
    obtain ⟨hlt, hget⟩ := List.getElem?_eq_some_iff.mp hs
    have hlt' : i < d.slots.length := by rw [hstopping.slots.length_eq]; exact hlt
    have hs' := (List.forall₂_iff_get.mp hstopping.slots).2 i hlt' hlt
    rw [List.get_eq_getElem, List.get_eq_getElem, hget] at hs'
    exact ⟨_, List.getElem?_eq_getElem hlt', h.done _ (List.getElem_mem hlt'), hs'⟩
  refine ⟨hstopping.now, hstopping.journal, fun i x hs => ?_, fun i s hs hrunning => ?_, fun i s hs hqueued => ?_⟩
  · obtain ⟨s', hs', -, hstops⟩ := hslot hs
    cases hstops with
    | kept => exact hs'
    | aborted hs => cases hs
  · obtain ⟨s', hs', hclosed, hstops⟩ := hslot hs
    cases hstops with
    | kept => simp [Slot.isOpen, hrunning] at hclosed
    | aborted _ ha => exact ⟨_, ha, hs'⟩
    | skipped => cases hrunning
  · obtain ⟨s', hs', hclosed, hstops⟩ := hslot hs
    cases hstops with
    | kept => simp [Slot.isOpen, hqueued] at hclosed
    | aborted hcancellable =>
      obtain ⟨job, rfl⟩ := Slot.eq_queued hqueued
      cases hcancellable
    | skipped => exact hs'

/-! ### The moment of a cancellation -/

/-- Nothing on the agenda is overdue. -/
structure OnTime (b : Batch α) : Prop where
  sorted : b.agenda.Pairwise (·.time ≤ ·.time)
  ahead : ∀ e ∈ b.agenda, b.world.now ≤ e.time

theorem OnTime.atTime (hb : b.OnTime) {time : Nat} (ht : b.MayReach limit time) :
    ∀ e ∈ b.agenda, (b.world.atTime time).now ≤ e.time := by
  intro e he
  have hnow := hb.ahead e he
  rcases ht with ht | ⟨-, -, hhead⟩
  · exact Nat.max_le.mpr ⟨hnow, Nat.le_trans ht hnow⟩
  · refine Nat.max_le.mpr ⟨hnow, ?_⟩
    cases hagenda : b.agenda with
    | nil => rw [hagenda] at he; cases he
    | cons first rest =>
      rw [hagenda] at he hhead
      have hsorted := hb.sorted
      rw [hagenda] at hsorted
      have hfirst := hhead first rfl
      rcases List.mem_cons.mp he with rfl | he
      · exact hfirst
      · exact Nat.le_trans hfirst ((List.pairwise_cons.mp hsorted).1 e he)

theorem Move.onTime (h : b.Move net limit t c) (hb : b.OnTime) : c.OnTime := by
  refine ⟨hb.sorted.sublist h.agenda_suffix.sublist, fun e he => ?_⟩
  have he := h.agenda_suffix.subset he
  rcases h.now_eq with heq | ⟨time, heq, ht⟩
  · rw [heq]
    exact hb.ahead e he
  · rw [heq]
    exact hb.atTime ht e he

/-- The cancellation at a moment of the agenda is still to come, or no time has passed since. -/
structure Heralds (e : AgendaEntry) (b : Batch α) : Prop where
  now : b.world.now ≤ e.time
  comes : e ∈ b.agenda ∨ b.world.cancelled = true

theorem Heralds.move {e : AgendaEntry} (he : e.what = .cancel) (hmove : b.Move net limit t c)
    (hb : b.Heeds Kept Q C) (htime : b.OnTime) (h : b.Heralds e) : c.Heralds e := by
  rcases h.comes with hmem | hx
  · have htime' := hmove.onTime htime
    cases hmove with
    | @outside w slots e' rest hopen ht =>
      rcases List.mem_cons.mp hmem with rfl | hmem
      · rw [he]
        exact ⟨Nat.max_le.mpr ⟨h.now, Nat.le_refl _⟩, .inr rfl⟩
      · exact ⟨htime'.ahead e hmem, .inl hmem⟩
    | start | wake | abort | skip => exact ⟨htime'.ahead e hmem, .inl hmem⟩
  · have hstep := (Stopping.refl (C := C) b).move hb hx hmove
    exact ⟨hstep.now ▸ h.now, .inr (hmove.cancelled hx)⟩

theorem Schedule.now_le {e : AgendaEntry} (he : e.what = .cancel) (hmem : e ∈ b.agenda)
    (h : b.Schedule net limit ts c) (hb : b.Heeds Kept Q C) (htime : b.OnTime) : c.world.now ≤ e.time := by
  suffices hall : c.OnTime ∧ c.Heralds e from hall.2.now
  induction h with
  | nil => exact ⟨htime, htime.ahead e hmem, .inl hmem⟩
  | snoc h hmove ih => exact ⟨hmove.onTime ih.1, ih.2.move he hmove (h.heeds hb) ih.1⟩

end Batch

end FilterWatch
