import FilterWatch.Proofs.Course

/-!
# Every item has one result

Dispatched items are started in their order, as long as nobody cancels: in every schedule the jobs that were started
are the first ones of the list (`Batch.InOrder`). When the batch is done, each of them has ended and the others were
skipped. `Dispatched` says what that means for the results: the value of the work or its crash for the items up to some
`k`, and a cancellation for those from `k` on.
-/

namespace FilterWatch

/-- Where a property of later elements is one of earlier ones, the elements that have it come first. -/
theorem exists_prefix {α : Type} {p : α → Prop} {l : List α} (h : l.Pairwise fun a b => p b → p a) :
    ∃ k ≤ l.length, ∀ i a, l[i]? = some a → (p a ↔ i < k) := by
  induction l with
  | nil => exact ⟨0, Nat.le_refl _, by simp⟩
  | cons x rest ih =>
    obtain ⟨hx, hrest⟩ := List.pairwise_cons.mp h
    obtain ⟨k, hk, hiff⟩ := ih hrest
    by_cases hp : p x
    · refine ⟨k + 1, Nat.succ_le_succ hk, fun i a ha => ?_⟩
      cases i with
      | zero => cases ha; exact ⟨fun _ => Nat.succ_pos _, fun _ => hp⟩
      | succ i => exact (hiff i a ha).trans Nat.succ_lt_succ_iff.symm
    · refine ⟨0, Nat.zero_le _, fun i a ha => ⟨fun hpa => ?_, fun hi => absurd hi (Nat.not_lt_zero _)⟩⟩
      cases i with
      | zero => cases ha; exact absurd hpa hp
      | succ i => exact absurd (hx a (List.mem_of_getElem? ha) hpa) hp

namespace Batch
variable {α ι : Type} {net : Network} {limit : Nat} {b c : Batch α} {t : Turn} {ts : List Turn}

/-- No job is started before the ones in front of it, and jobs are skipped only after a cancellation. -/
structure InOrder (b : Batch α) : Prop where
  started : b.slots.Pairwise fun s s' => s'.isStarted → s.isStarted
  skipped : .skipped ∈ b.slots → b.world.cancelled = true

theorem InOrder.replace {w w' : World} {pre post : List (Slot α)} {s s' : Slot α} {agenda : List AgendaEntry}
    (h : InOrder ⟨w, pre ++ s :: post, agenda⟩) (hw : w'.cancelled = w.cancelled) (hs' : s'.isStarted)
    (hpre : ∀ x ∈ pre, x.isStarted) : InOrder ⟨w', pre ++ s' :: post, agenda⟩ := by
  obtain ⟨hbefore, hrest, -⟩ := List.pairwise_append.mp h.started
  refine ⟨List.pairwise_append.mpr ⟨hbefore, ?_, fun x hx _ _ _ => hpre x hx⟩, fun hmem => ?_⟩
  · exact List.pairwise_cons.mpr ⟨fun _ _ _ => hs', (List.pairwise_cons.mp hrest).2⟩
  · refine hw.trans (h.skipped ?_)
    rcases List.mem_append.mp hmem with hmem | hmem
    · exact List.mem_append_left _ hmem
    · rcases List.mem_cons.mp hmem with rfl | hmem
      · cases hs'
      · exact List.mem_append_right _ (.tail _ hmem)

theorem InOrder.isStarted_of_mem {w : World} {pre post : List (Slot α)} {s : Slot α} {agenda : List AgendaEntry}
    (h : InOrder ⟨w, pre ++ s :: post, agenda⟩) (hs : s.isStarted) : ∀ x ∈ pre, x.isStarted :=
  fun x hx => (List.pairwise_append.mp h.started).2.2 x hx s (.head _) hs

theorem Move.inOrder (h : b.Move net limit t c) (hb : b.InOrder) : c.InOrder := by
  cases h with
  | @start w pre job post agenda hcalm hroom hfirst =>
    have hadv := Slot.advances net job w
    refine hb.replace hadv.cancelled hadv.isStarted fun x hx => ?_
    -- in front of the first queued job nothing is queued, and before a cancellation nothing is skipped
    have hqueued := hfirst x hx
    cases x with
    | queued => cases hqueued
    | skipped => exact absurd (hcalm.symm.trans (hb.skipped (List.mem_append_left _ hx))) (by simp)
    | exchanging | pausing | sleeping | ended => rfl
  | @wake w pre s post agenda due hdue =>
    have hs := Slot.isRunning_of_due? hdue
    have hcancelled := Slot.cancelled_wake net hs (w.atTime due)
    exact hb.replace hcancelled (Slot.isStarted_wake hs _)
      (hb.isStarted_of_mem (Slot.isStarted_of_isRunning hs))
  | @abort w pre s post agenda hs =>
    exact hb.replace (Slot.cancelled_abort _ hs w) (Slot.isStarted_abort hs w)
      (hb.isStarted_of_mem (Slot.isStarted_of_isRunning (Slot.isRunning_of_isCancellable hs)))
  | @skip w pre job post agenda hx =>
    obtain ⟨hbefore, hrest, hcross⟩ := List.pairwise_append.mp hb.started
    obtain ⟨hjob, hafter⟩ := List.pairwise_cons.mp hrest
    refine ⟨List.pairwise_append.mpr ⟨hbefore, ?_, fun x hx y hy => ?_⟩, fun _ => hx⟩
    · exact List.pairwise_cons.mpr ⟨hjob, hafter⟩
    · rcases List.mem_cons.mp hy with rfl | hy
      · exact fun h => nomatch h
      · exact hcross x hx y (.tail _ hy)
  | @outside w slots e rest =>
    exact ⟨hb.started, fun hmem => e.what.cancelled_apply (w := w.atTime e.time) (hb.skipped hmem)⟩

theorem Schedule.inOrder (h : b.Schedule net limit ts c) (hb : b.InOrder) : c.InOrder :=
  h.preserves Move.inOrder hb

theorem inOrder_queue (work : ι → Job α) (items : List ι) (w : World) (agenda : List AgendaEntry) :
    (Batch.queue work items w agenda).InOrder := by
  refine ⟨List.pairwise_map.mpr (List.pairwise_of_forall fun _ _ h => nomatch h), fun hmem => ?_⟩
  obtain ⟨i, -, hi⟩ := List.mem_map.mp hmem
  cases hi

theorem isPunctual_queue (work : ι → Job α) (items : List ι) (w : World) (agenda : List AgendaEntry) :
    (Batch.queue work items w agenda).IsPunctual := by
  refine isPunctual_of_queued fun s hs => ?_
  obtain ⟨i, -, rfl⟩ := List.mem_map.mp hs
  rfl

end Batch

section
variable {α ι : Type} (net : Network) (limit : Nat) (work : ι → Job α) (fallback : ι → CheckError → α)

/-- What became of the work on an item that was admitted: it was started once, it did a run and ended before the batch
did, and its value or its crash is the result. -/
structure Admitted (start : Batch α) (ts : List Turn) (b : Batch α) (i : Nat) (item : ι) (result : α)
    (x : Except Fault α) : Prop where
  once : ts.count (.start i) = 1
  runs : ∃ w₀ ds w₁, w₀.cancelled = false ∧ (work item).Runs net (start.Meanwhile net limit i) w₀ ds w₁ x ∧
    start.Meanwhile net limit i w₁ b.world
  value : ∀ a, x = .ok a → result = a
  crash : ∀ f, x = .error f → result = fallback item (.internalFault (f.text.getD "worker panicked"))

/-- The results of a batch of items of which the first `k` were admitted. -/
structure Dispatched (start : Batch α) (items : List ι) (ts : List Turn) (b : Batch α) (k : Nat) : Prop where
  length : (b.results fallback items).length = items.length
  le : k ≤ items.length
  cancelled : k < items.length → b.world.cancelled = true
  done : b.IsDone
  admitted : ∀ i item result, items[i]? = some item → (b.results fallback items)[i]? = some result → i < k →
    ∃ x, Admitted net limit work fallback start ts b i item result x
  skipped : ∀ i item result, items[i]? = some item → (b.results fallback items)[i]? = some result → k ≤ i →
    ts.count (.start i) = 0 ∧ result = fallback item .cancelled

variable {net limit work}

section
variable {items : List ι} {w : World} {agenda : List AgendaEntry} {ts : List Turn} {b : Batch α}

theorem Batch.Finishes.inCourse (h : (Batch.queue work items w agenda).Finishes net limit ts b) {i : Nat} {item : ι}
    {result : α} (hitem : items[i]? = some item) (hresult : (b.results fallback items)[i]? = some result) :
    ∃ s : Slot α, b.slots[i]? = some s ∧ result = s.result (fallback item) ∧
      s.InCourse net ((Batch.queue work items w agenda).Meanwhile net limit i) (work item) (ts.count (.start i))
        b.world := by
  have hqueued : (Batch.queue work items w agenda).slots[i]? = some (.queued (work item)) := by
    rw [Batch.queue, List.getElem?_map, hitem]
    rfl
  obtain ⟨s, hs, hcourse⟩ := h.schedule.inCourse (Batch.isPunctual_queue work items w agenda) hqueued
  rw [Batch.results, List.getElem?_zipWith, hitem, hs] at hresult
  cases hresult
  exact ⟨s, hs, rfl, hcourse⟩

theorem Batch.Finishes.dispatched (h : (Batch.queue work items w agenda).Finishes net limit ts b) :
    ∃ k, Dispatched net limit work fallback (.queue work items w agenda) items ts b k := by
  have hlength : b.slots.length = items.length := h.schedule.length_eq.trans (by simp [Batch.queue])
  have horder := h.schedule.inOrder (Batch.inOrder_queue work items w agenda)
  obtain ⟨k, hk, hiff⟩ := exists_prefix horder.started
  have hskipped : ∀ {i s}, b.slots[i]? = some s → k ≤ i → s.isStarted = false ∧ s = .skipped := by
    intro i s hs hi
    have hnot : s.isStarted = false := by
      cases hstarted : s.isStarted with
      | false => rfl
      | true => exact absurd ((hiff i s hs).mp hstarted) (Nat.not_lt.mpr hi)
    exact ⟨hnot, Slot.eq_skipped hnot (h.done s (List.mem_of_getElem? hs))⟩
  refine ⟨k, ?_, hlength ▸ hk, fun hlt => ?_, h.done, fun i item result hitem hresult hi => ?_,
    fun i item result hitem hresult hi => ?_⟩
  · rw [Batch.results, List.length_zipWith, hlength, Nat.min_self]
  · have hs := List.getElem?_eq_getElem (hlength ▸ hlt)
    have hmem := List.mem_of_getElem? hs
    rw [(hskipped hs (Nat.le_refl _)).2] at hmem
    exact horder.skipped hmem
  · obtain ⟨s, hs, rfl, hcourse⟩ := h.inCourse fallback hitem hresult
    obtain ⟨x, rfl⟩ := Slot.eq_ended ((hiff i s hs).mpr hi) (h.done s (List.mem_of_getElem? hs))
    obtain ⟨honce, hruns⟩ := hcourse.runs
    exact ⟨x, honce, hruns, fun a ha => by rw [ha]; rfl, fun f hf => by rw [hf]; rfl⟩
  · obtain ⟨s, hs, rfl, hcourse⟩ := h.inCourse fallback hitem hresult
    obtain ⟨hnot, rfl⟩ := hskipped hs hi
    exact ⟨hcourse.eq_zero hnot, rfl⟩

end

/-- Dispatched work takes one of the schedules to its end, and in every schedule each item has one result: the value or
the crash of its work for the items up to some `k`, which are started once each, and a cancellation for the others. -/
theorem dispatch_dispatched (net : Network) (concurrency : Nat) (agenda : List AgendaEntry) (work : ι → Job α)
    (fallback : ι → CheckError → α) (items : List ι) (w : World) :
    (∃ ts b, (Batch.queue work items w agenda).Finishes net (runningLimit concurrency) ts b ∧
      dispatch net concurrency agenda work fallback items w = (b.world, b.results fallback items)) ∧
    ∀ limit ts b, (Batch.queue work items w agenda).Finishes net limit ts b →
      ∃ k, Dispatched net limit work fallback (.queue work items w agenda) items ts b k :=
  ⟨dispatch_finishes net concurrency agenda work fallback items w, fun _ _ _ h => h.dispatched fallback⟩

end
end FilterWatch
