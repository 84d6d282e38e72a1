import FilterWatch.Proofs.Schedule

/-!
# How many jobs run at once

A batch lets so many jobs run at once and no more, and never fewer while jobs wait to be started: time passes only when
all places are taken, for every job gives its place back, however it ends. `Batch.Accounted` is the invariant. Each
running job has one exchange open at most, so the count of probes in flight is the number of slots that wait for one, in
every schedule (`Move.accounted`), and the peak that is reported stays within the limit over all uses of a checker.
-/

namespace FilterWatch

namespace Stats

/-- So many probes wait for the network, and the peak is within the bound. -/
structure Counts (bound n : Nat) (s : Stats) : Prop where
  inFlight : s.inFlight.toNat = n
  peak : s.peak.toNat ≤ bound

namespace Counts
variable {bound n : Nat} {s : Stats}

theorem recordCheck (h : s.Counts bound n) (blocked failed : Bool) : (s.recordCheck blocked failed).Counts bound n :=
  ⟨h.inFlight, h.peak⟩

theorem recordCached (h : s.Counts bound n) : s.recordCached.Counts bound n := ⟨h.inFlight, h.peak⟩

theorem probeStarted (h : s.Counts bound n) (hn : n < bound) (hbound : bound < UInt64.size) :
    s.probeStarted.Counts bound (n + 1) := by
  have hin : (s.inFlight + 1).toNat = n + 1 := by
    rw [UInt64.toNat_add, h.inFlight]
    exact Nat.mod_eq_of_lt (by simp only [UInt64.size] at hbound; simp; omega)
  refine ⟨hin, ?_⟩
  show (if s.peak ≤ s.inFlight + 1 then s.inFlight + 1 else s.peak).toNat ≤ bound
  split
  · exact Nat.le_trans (Nat.le_of_eq hin) hn
  · exact h.peak

theorem leave (h : s.Counts bound (n + 1)) : s.leave.Counts bound n := by
  refine ⟨?_, h.peak⟩
  have hle : 1 ≤ s.inFlight := by
    rw [UInt64.le_iff_toNat_le, h.inFlight]
    exact Nat.succ_le_succ (Nat.zero_le n)
  show (s.inFlight - 1).toNat = n
  rw [UInt64.toNat_sub_of_le _ _ hle, h.inFlight]
  rfl

theorem probeFinished (h : s.Counts bound (n + 1)) (elapsed : Duration) : (s.probeFinished elapsed).Counts bound n := by
  have : Counts bound (n + 1)
      { s with probes := s.probes + 1, probeMicros := s.probeMicros + UInt64.ofNat elapsed.micros } :=
    ⟨h.inFlight, h.peak⟩
  exact this.leave

theorem snapshot (h : s.Counts bound n) (hn : n ≤ bound) :
    s.snapshot.1.Counts bound n ∧ s.snapshot.2.peak.toNat ≤ bound :=
  ⟨⟨h.inFlight, Nat.le_trans (Nat.le_of_eq h.inFlight) hn⟩, h.peak⟩

end Counts
end Stats

theorem World.counts_count {bound n : Nat} {w : World} (h : w.stats.Counts bound n) (t : Tally) :
    (w.count t).stats.Counts bound n := by
  cases t with
  | check blocked failed => exact h.recordCheck blocked failed
  | cached => exact h.recordCached

theorem World.counts_endExchange {bound n : Nat} {w : World} (h : w.stats.Counts bound (n + 1)) (server : String)
    (q : Dns.Query) (started : Nat) (a : Arrival) : (w.endExchange server q started a).1.stats.Counts bound n := by
  cases a with
  | message m => exact h.probeFinished _
  | failed | timedOut | crashed => exact h.leave

theorem Intervention.stats_apply (i : Intervention) (w : World) : (i.apply w).stats = w.stats := by
  cases i <;> rfl

namespace Slot
variable {α : Type} {net : Network} {w w' : World} {job : Job α} {s : Slot α} {bound n : Nat}

def openExchanges (s : Slot α) : Nat := if s.isExchanging then 1 else 0

/-- Whatever a job does up to its next wait, it has then added the exchange that it waits for. -/
theorem Advances.counts (h : Advances net w job w' s) (hn : n < bound) (hbound : bound < UInt64.size)
    (hw : w.stats.Counts bound n) : w'.stats.Counts bound (n + s.openExchanges) := by
  induction h with
  | done | crash | paused | asleep => exact hw
  | resolvers _ ih | refused _ _ ih | passed _ _ _ ih | slept _ _ ih => exact ih hw
  | lookup hl _ ih =>
    obtain rfl := congrArg Prod.fst hl
    exact ih hw
  | lookupCrash hl =>
    obtain rfl := congrArg Prod.fst hl
    exact hw
  | store hs _ ih =>
    obtain rfl := congrArg Prod.fst hs
    exact ih hw
  | storeCrash hs =>
    obtain rfl := congrArg Prod.fst hs
    exact hw
  | count _ ih => exact ih (World.counts_count hw _)
  | withheld _ _ ih => exact ih (hw.probeStarted hn hbound).leave
  | replied _ _ he _ ih =>
    obtain rfl := congrArg Prod.fst he
    exact ih (World.counts_endExchange (hw.probeStarted hn hbound) _ _ _ _)
  | repliedCrash _ _ he =>
    obtain rfl := congrArg Prod.fst he
    exact World.counts_endExchange (hw.probeStarted hn hbound) _ _ _ _
  | sent => exact hw.probeStarted hn hbound

theorem counts_wake (hs : s.isRunning) (hn : n < bound) (hbound : bound < UInt64.size)
    (hw : w.stats.Counts bound (n + s.openExchanges)) :
    (s.wake net w).1.stats.Counts bound (n + (s.wake net w).2.openExchanges) := by
  cases s with
  | exchanging due server q started arrival next =>
    have hend := World.counts_endExchange hw server q started arrival
    rcases he : w.endExchange server q started arrival with ⟨w₁, f | reply⟩
    · rw [he] at hend
      simp only [wake, he]
      exact hend
    · rw [he] at hend
      simp only [wake, he]
      exact (advances _ _ _).counts hn hbound hend
  | pausing | sleeping => exact (advances _ _ _).counts hn hbound hw
  | queued | ended | skipped => cases hs

theorem counts_abort (hs : s.isCancellable) (hn : n < bound) (hbound : bound < UInt64.size)
    (hw : w.stats.Counts bound (n + s.openExchanges)) :
    (s.abort net w).1.stats.Counts bound (n + (s.abort net w).2.openExchanges) := by
  cases s with
  | exchanging => exact (advances _ _ _).counts hn hbound hw.leave
  | pausing => exact (advances _ _ _).counts hn hbound hw
  | queued | sleeping | ended | skipped => cases hs

end Slot

namespace Batch
variable {α : Type} {net : Network} {limit bound : Nat} {b c : Batch α} {t : Turn} {ts : List Turn}

def openExchanges (b : Batch α) : Nat := b.slots.countP Slot.isExchanging

/-- No more jobs run than the limit says, and the counters know of the exchanges that they have open. -/
structure Accounted (limit bound : Nat) (b : Batch α) : Prop where
  running : Slot.running b.slots ≤ limit
  stats : b.world.stats.Counts bound b.openExchanges

theorem countP_middle (p : Slot α → Bool) (pre post : List (Slot α)) (s : Slot α) :
    (pre ++ s :: post).countP p = (pre ++ post).countP p + if p s then 1 else 0 := by
  rw [List.countP_append, List.countP_append, List.countP_cons]
  omega

theorem openExchanges_le_running (slots : List (Slot α)) : slots.countP Slot.isExchanging ≤ Slot.running slots := by
  refine List.countP_mono_left fun s _ hs => ?_
  cases s with
  | exchanging => rfl
  | queued | pausing | sleeping | ended | skipped => cases hs

theorem Accounted.replace {w w' : World} {pre post : List (Slot α)} {s s' : Slot α} {agenda : List AgendaEntry}
    (h : Accounted limit bound ⟨w, pre ++ s :: post, agenda⟩) (hle : limit ≤ bound)
    (hothers : Slot.running (pre ++ post) < limit)
    (hcounts : ∀ n, n < bound → w.stats.Counts bound (n + s.openExchanges) →
      w'.stats.Counts bound (n + s'.openExchanges)) : Accounted limit bound ⟨w', pre ++ s' :: post, agenda⟩ := by
  -- the slot that takes the turn is left out of both counts, and the others leave room for one more
  have hopen : (pre ++ post).countP Slot.isExchanging < bound :=
    Nat.lt_of_le_of_lt (openExchanges_le_running _) (Nat.lt_of_lt_of_le hothers hle)
  have hstats := h.stats
  rw [openExchanges, countP_middle] at hstats
  refine ⟨?_, ?_⟩
  · rw [Slot.running, countP_middle, ← Slot.running]
    split <;> omega
  · rw [openExchanges, countP_middle]
    exact hcounts _ hopen hstats

/-- Each turn keeps the account: a job that is started has a place, and every way to end a wait is counted. -/
theorem Move.accounted (hle : limit ≤ bound) (hbound : bound < UInt64.size) (h : b.Move net limit t c)
    (hb : b.Accounted limit bound) : c.Accounted limit bound := by
  have hothers : ∀ {pre post : List (Slot α)} {s : Slot α}, s.isRunning → Slot.running (pre ++ s :: post) ≤ limit →
      Slot.running (pre ++ post) < limit := by
    intro pre post s hs hrunning
    rw [Slot.running, countP_middle, if_pos hs, ← Slot.running] at hrunning
    exact hrunning
  cases h with
  | start hcalm hroom =>
    refine hb.replace hle ?_ fun n hn hw => (Slot.advances _ _ _).counts hn hbound hw
    rw [Slot.running, countP_middle, ← Slot.running] at hroom
    exact hroom
  | wake hdue =>
    have hs := Slot.isRunning_of_due? hdue
    exact hb.replace hle (hothers hs hb.running) fun n hn hw => Slot.counts_wake hs hn hbound hw
  | abort hs =>
    have hrunning := Slot.isRunning_of_isCancellable hs
    exact hb.replace hle (hothers hrunning hb.running) fun n hn hw => Slot.counts_abort hs hn hbound hw
  | skip =>
    refine ⟨?_, ?_⟩
    · have hrunning := hb.running
      rw [Slot.running, countP_middle] at hrunning ⊢
      exact hrunning
    · have hstats := hb.stats
      rw [openExchanges, countP_middle] at hstats ⊢
      exact hstats
  | @outside w slots e rest =>
    refine ⟨hb.running, ?_⟩
    rw [Intervention.stats_apply]
    exact hb.stats

theorem Schedule.accounted (hle : limit ≤ bound) (hbound : bound < UInt64.size) (h : b.Schedule net limit ts c)
    (hb : b.Accounted limit bound) : c.Accounted limit bound :=
  h.preserves (Move.accounted hle hbound) hb

theorem Move.running_of_now_lt (h : b.Move net limit t c) (hb : Slot.running b.slots ≤ limit)
    (hnow : b.world.now < c.world.now) (hcalm : b.world.cancelled = false) (hqueued : ∃ s ∈ b.slots, s.isQueued) :
    Slot.running b.slots = limit := by
  refine Nat.le_antisymm hb (Nat.not_lt.mp fun hroom => h.not_isBusy hnow ?_)
  exact .inl ⟨hcalm, hroom, hqueued⟩

theorem IsDone.openExchanges (h : b.IsDone) : b.openExchanges = 0 := by
  refine List.countP_eq_zero.mpr fun s hs hopen => ?_
  have hclosed := h s hs
  cases s with
  | exchanging => cases hclosed
  | queued | pausing | sleeping | ended | skipped => cases hopen

theorem Finishes.counts (hle : limit ≤ bound) (hbound : bound < UInt64.size) (h : b.Finishes net limit ts c)
    (hb : b.Accounted limit bound) : c.world.stats.Counts bound 0 := by
  have hstats := (h.schedule.accounted hle hbound hb).stats
  rwa [h.done.openExchanges] at hstats

theorem accounted_queue {ι : Type} {w : World} (hw : w.stats.Counts bound 0) (work : ι → Job α) (items : List ι)
    (agenda : List AgendaEntry) : (Batch.queue work items w agenda).Accounted limit bound := by
  have hnone : ∀ {p : Slot α → Bool}, (∀ job, p (.queued job) = false) →
      (items.map fun i => Slot.queued (work i)).countP p = 0 := by
    intro p hp
    rw [List.countP_eq_zero]
    intro s hs
    obtain ⟨i, -, rfl⟩ := List.mem_map.mp hs
    simp [hp]
  refine ⟨?_, ?_⟩
  · rw [Slot.running, Batch.queue, hnone fun _ => rfl]
    exact Nat.zero_le _
  · rw [openExchanges, Batch.queue, hnone fun _ => rfl]
    exact hw

theorem accounted_alone {w : World} (hw : w.stats.Counts bound 0) (hpos : 0 < bound) (hbound : bound < UInt64.size)
    (job : Job α) (agenda : List AgendaEntry) : (Batch.alone net job w agenda).Accounted 1 bound := by
  refine ⟨List.countP_le_length, ?_⟩
  have hcounts := (Slot.advances net job w).counts hpos hbound hw
  rw [openExchanges, Batch.alone, List.countP_singleton]
  rwa [Nat.zero_add] at hcounts

/-- What holds of a batch with this limit, whatever happens next. -/
structure Admits (net : Network) (limit : Nat) (b : Batch α) : Prop where
  running : Slot.running b.slots ≤ limit
  exchanges : b.openExchanges ≤ limit
  inFlight : b.world.stats.inFlight.toNat = b.openExchanges
  peak : b.world.stats.peak.toNat ≤ limit
  /-- When time is about to pass while a job waits to be started and nobody has cancelled, no place is free. -/
  conserving : ∀ t c, b.Move net limit t c → b.world.now < c.world.now → b.world.cancelled = false →
    (∃ s ∈ b.slots, s.isQueued) → Slot.running b.slots = limit

theorem Accounted.toAdmits (h : b.Accounted limit limit) : b.Admits net limit :=
  ⟨h.running, Nat.le_trans (openExchanges_le_running _) h.running, h.stats.inFlight, h.stats.peak,
    fun _ _ hmove hnow => hmove.running_of_now_lt h.running hnow⟩

end Batch

/-! ### Over all uses of a checker -/

theorem runningLimit_lt_size (concurrency : Nat) : runningLimit concurrency < UInt64.size := by
  unfold runningLimit maxRunning UInt64.size
  omega

namespace Checker
variable {c c' : Checker}

/-- Between calls no probe waits, and the peak is within the limit of the checker. -/
def Quiescent (c : Checker) : Prop := c.world.stats.Counts c.limit 0

theorem limit_pos (c : Checker) : 0 < c.limit := runningLimit_pos c.concurrency

theorem limit_lt_size (c : Checker) : c.limit < UInt64.size := runningLimit_lt_size c.concurrency

theorem Quiescent.call (h : c.Quiescent) (call : Call) : (call.world c.world).stats.Counts c.limit 0 := h

theorem Quiescent.manyBatch (h : c.Quiescent) (call : Call) (domains : List String) :
    (c.manyBatch call domains).Accounted c.limit c.limit := Batch.accounted_queue (h.call call) _ _ _

theorem Quiescent.healthBatch (h : c.Quiescent) (call : Call) : (c.healthBatch call).Accounted c.limit c.limit :=
  Batch.accounted_queue (h.call call) _ _ _

theorem Use.quiescent (h : Use c c') (hc : c.Quiescent) : c'.Quiescent ∧ c'.limit = c.limit := by
  cases h with
  | @checkOne net call domain ts b h =>
    have hbatch : (c.oneBatch net call domain).Accounted 1 c.limit :=
      Batch.accounted_alone (hc.call call) c.limit_pos c.limit_lt_size _ _
    exact ⟨h.counts c.limit_pos c.limit_lt_size hbatch, rfl⟩
  | @checkMany net call domains ts b h =>
    exact ⟨h.counts (Nat.le_refl _) c.limit_lt_size (hc.manyBatch call domains), rfl⟩
  | @health net call ts b h => exact ⟨h.counts (Nat.le_refl _) c.limit_lt_size (hc.healthBatch call), rfl⟩
  | upsert | delete | flush | elapse => exact ⟨hc, rfl⟩
  | snapshot => exact ⟨(Stats.Counts.snapshot hc (Nat.zero_le _)).1, rfl⟩

theorem Used.quiescent (h : c.Used c') (hc : c.Quiescent) : c'.Quiescent ∧ c'.limit = c.limit := by
  induction h with
  | refl => exact ⟨hc, rfl⟩
  | tail _ huse ih =>
    obtain ⟨hc', hlimit⟩ := huse.quiescent ih.1
    exact ⟨hc', hlimit.trans ih.2⟩

/-- A checker never lets more jobs run than its configuration says, nor fewer when more could run: this holds at every
moment of its calls, in every schedule, and of the peak that it reports after any uses. -/
theorem admits (config : Config) (cache : Option Cache) (c : Checker) (hc : (Checker.build config cache).Used c) :
    c.snapshot.2.peak.toNat ≤ runningLimit config.normalized.concurrency ∧
    (∀ net call domains, c.resolvers ≠ [] →
      (∃ ts b, (c.manyBatch call domains).Finishes net (runningLimit config.normalized.concurrency) ts b ∧
        c.checkMany net call domains = ({ c with world := b.world }, .ok (b.results fallback domains))) ∧
      ∀ ts b, (c.manyBatch call domains).Schedule net (runningLimit config.normalized.concurrency) ts b →
        b.Admits net (runningLimit config.normalized.concurrency)) ∧
    ∀ net call, c.resolvers ≠ [] →
      (∃ ts b, (c.healthBatch call).Finishes net (runningLimit config.normalized.concurrency) ts b ∧
        c.health net call = ({ c with world := b.world }, .ok (b.results healthFallback c.resolvers))) ∧
      ∀ ts b, (c.healthBatch call).Schedule net (runningLimit config.normalized.concurrency) ts b →
        b.Admits net (runningLimit config.normalized.concurrency) := by
  have hbuilt : (Checker.build config cache).Quiescent := ⟨rfl, Nat.zero_le _⟩
  obtain ⟨hquiescent, hlimit⟩ := hc.quiescent hbuilt
  have hlimit : c.limit = runningLimit config.normalized.concurrency := hlimit
  rw [← hlimit]
  refine ⟨hquiescent.peak, fun net call domains hne => ⟨checkMany_finishes net call hne domains, fun ts b h => ?_⟩,
    fun net call hne => ⟨health_finishes net call hne, fun ts b h => ?_⟩⟩
  · exact (h.accounted (Nat.le_refl _) c.limit_lt_size (hquiescent.manyBatch call domains)).toAdmits
  · exact (h.accounted (Nat.le_refl _) c.limit_lt_size (hquiescent.healthBatch call)).toAdmits

theorem admits_three :
    let config := { Config.default with concurrency := 2, resolvers := [⟨"10.0.0.1", "block", .a⟩] }
    let c := ((Checker.build config none).checkMany .unreachable {} ["example.com", "x", "example.org"]).1
    c.snapshot.2.peak.toNat ≤ 2 := by
  intro config c
  exact (admits config none _ (used_checkMany _ _ _ _)).1

end Checker
end FilterWatch
