import FilterWatch.Proofs.Endings

/-!
# Who wrote what

All jobs write into one journal. In a schedule every entry but those of flushes was made by the job of one slot
(`Batch.Schedule.authored`), and what a job has written since its start is part of one of its traces
(`Batch.Wrote.recorded`). So the checks of a call end as the traces of checks do (`Checker.Checked.ends`).
-/

namespace FilterWatch

/-! ### Turns determine what they lead to -/

theorem Slot.Turns.unique {α : Type} {net : Network} {i : Nat} {t : Turn} {w w₁ w₂ : World} {s s₁ s₂ : Slot α}
    (h₁ : Slot.Turns net i t w s w₁ s₁) (h₂ : Slot.Turns net i t w s w₂ s₂) : w₁ = w₂ ∧ s₁ = s₂ := by
  cases h₁ with
  | start => cases h₂; exact ⟨rfl, rfl⟩
  | wake hdue =>
    cases h₂ with
    | wake hdue' =>
      obtain rfl := Option.some.inj (hdue.symm.trans hdue')
      exact ⟨rfl, rfl⟩
  | abort => cases h₂; exact ⟨rfl, rfl⟩
  | skip => cases h₂; exact ⟨rfl, rfl⟩

namespace Batch
variable {α : Type} {net : Network} {limit i : Nat} {start b c d : Batch α} {t : Turn} {ts ts₀ : List Turn}
  {job : Job α} {s s' : Slot α} {es newer older : List Event} {e : Event} {P : World → Prop} {J : List Event}
  {b₀ : Batch α}

theorem Move.agenda_eq (h : b.Move net limit t c) : c.agenda = b.agenda ∨ ∃ e, t = .outside e := by
  cases h with
  | start | wake | abort | skip => exact .inl rfl
  | outside => exact .inr ⟨_, rfl⟩

theorem Move.unique (h₁ : b.Move net limit t c) (h₂ : b.Move net limit t d) : c = d := by
  cases ht : t.slot? with
  | some i =>
    obtain ⟨s, s₁, hs, hs₁, hturn₁⟩ := h₁.turns ht
    obtain ⟨s', s₂, hs', hs₂, hturn₂⟩ := h₂.turns ht
    obtain rfl := Option.some.inj (hs.symm.trans hs')
    obtain ⟨hworld, rfl⟩ := hturn₁.unique hturn₂
    have hslots : c.slots = d.slots := by
      refine List.ext_getElem? fun j => ?_
      by_cases hj : i = j
      · rw [← hj, hs₁, hs₂]
      · rw [h₁.getElem?_of_ne (by simpa [ht] using hj), h₂.getElem?_of_ne (by simpa [ht] using hj)]
    have hagenda : ∀ {c : Batch α}, b.Move net limit t c → c.agenda = b.agenda := fun h => by
      refine h.agenda_eq.resolve_right ?_
      rintro ⟨e, rfl⟩
      cases ht
    cases c
    cases d
    simp only [mk.injEq]
    exact ⟨hworld, hslots, (hagenda h₁).trans (hagenda h₂).symm⟩
  | none =>
    cases h₁ with
    | start | wake | abort | skip => cases ht
    | outside => cases h₂; rfl

theorem Schedule.unique (h₁ : start.Schedule net limit ts b) (h₂ : start.Schedule net limit ts c) : b = c := by
  induction h₁ generalizing c with
  | nil => exact h₂.eq_of_nil.symm
  | @snoc ts b t b' _ hmove ih =>
    generalize hts : ts ++ [t] = us at h₂
    cases h₂ with
    | nil => simp at hts
    | snoc h₂ hmove₂ =>
      obtain ⟨rfl, ht⟩ := List.append_inj' hts rfl
      obtain rfl := List.singleton_inj.mp ht
      obtain rfl := ih h₂
      exact hmove.unique hmove₂

/-! ### What a job has written -/

theorem Wrote.schedule (h : Wrote net limit start i ts b es) : start.Schedule net limit ts b := by
  induction h with
  | nil => exact .nil
  | own _ hmove _ _ ih | other _ hmove _ ih => exact ih.snoc hmove

theorem Move.journal_suffix (h : b.Move net limit t c) : b.world.journal <:+ c.world.journal :=
  h.lasting (World.lasting_journal _) List.suffix_rfl

theorem Schedule.journal_suffix (h : b.Schedule net limit ts c) : b.world.journal <:+ c.world.journal :=
  h.lasting (World.lasting_journal _) List.suffix_rfl

theorem Schedule.wrote (h : start.Schedule net limit ts b) (i : Nat) : ∃ es, Wrote net limit start i ts b es := by
  induction h with
  | nil => exact ⟨[], .nil⟩
  | @snoc ts b t c _ hmove ih =>
    obtain ⟨es, hwrote⟩ := ih
    by_cases ht : t.slot? = some i
    · obtain ⟨new, hnew⟩ := hmove.journal_suffix
      exact ⟨new ++ es, hwrote.own hmove ht hnew.symm⟩
    · exact ⟨es, hwrote.other hmove ht⟩

/-- The job of a slot was started in `b₀`, and what it has written into the journal since is part of one of its
traces. Reads of the cache bring what they bring in surroundings from then on. -/
structure Recorded (P : World → Prop) (J : List Event) (net : Network) (limit : Nat) (start : Batch α) (i : Nat)
    (job : Job α) (ts : List Turn) (c : Batch α) (s : Slot α) (es : List Event) (ts₀ : List Turn) (b₀ : Batch α) :
    Prop where
  began : Began net limit start i job ts c.world s ts₀ b₀
  started : s.isStarted
  since : ∃ seg, c.world.journal = seg ++ b₀.world.journal ∧ es.Sublist seg
  trace : ∀ hs x, s.Trace (World.replies (World.Since P b₀.world.journal) J) hs x →
    (job.given b₀.world.registry.resolvers).Trace (World.replies (World.Since P b₀.world.journal) J)
      (Event.story es ++ hs) x

/-- What the job of a slot has written: nothing before it is started, and from then on what is part of one of its
traces. -/
def Records (P : World → Prop) (J : List Event) (net : Network) (limit : Nat) (start : Batch α) (i : Nat) (job : Job α)
    (ts : List Turn) (c : Batch α) (s : Slot α) (es : List Event) : Prop :=
  s.isStarted = false ∧ es = [] ∨ ∃ ts₀ b₀, Recorded P J net limit start i job ts c s es ts₀ b₀

theorem Recorded.first (hP : World.Lasting P) (h : Began net limit start i job (ts ++ [t]) d.world s' ts c)
    (hw : P c.world) (hadv : Slot.Advances net c.world job d.world s') (hJ : d.world.journal <:+ J) :
    ∃ new, d.world.journal = new ++ c.world.journal ∧ Recorded P J net limit start i job (ts ++ [t]) d s' new ts c := by
  obtain ⟨new, hnew, htrace⟩ := hadv.given.trace (hP.since c.world.journal) ⟨hw, List.suffix_rfl⟩ hJ
  exact ⟨new, hnew, h, hadv.isStarted, ⟨new, hnew, .refl _⟩, fun hs x hx => htrace hx⟩

theorem Recorded.own (hP : World.Lasting P) (h : Recorded P J net limit start i job ts c s es ts₀ b₀)
    (hw : P c.world) (hpunctual : ∀ due ∈ s.due?, c.world.now ≤ due)
    (hturn : Slot.Turns net i t c.world s d.world s') (hJ : d.world.journal <:+ J) :
    ∃ new, d.world.journal = new ++ c.world.journal ∧
      Recorded P J net limit start i job (ts ++ [t]) d s' (new ++ es) ts₀ b₀ := by
  obtain ⟨seg, hseg, hsub⟩ := h.since
  obtain ⟨new, hnew, htrace⟩ := hturn.trace (hP.since b₀.world.journal) ⟨hw, seg, hseg.symm⟩ hJ
  refine ⟨new, hnew, h.began.own h.started hpunctual hturn, hturn.isStarted h.started,
    ⟨new ++ seg, by rw [hnew, hseg, List.append_assoc], hsub.append_left new⟩, fun hs x hx => ?_⟩
  rw [Event.story_append, List.append_assoc]
  exact h.trace _ _ (htrace hx)

theorem Recorded.other (h : Recorded P J net limit start i job ts c s es ts₀ b₀)
    (hsched : start.Schedule net limit ts c) (hmove : c.Move net limit t d) (ht : t.slot? ≠ some i) :
    Recorded P J net limit start i job (ts ++ [t]) d s es ts₀ b₀ := by
  obtain ⟨seg, hseg, hsub⟩ := h.since
  obtain ⟨new, hnew⟩ := hmove.journal_suffix
  exact ⟨h.began.other hsched hmove ht, h.started, ⟨new ++ seg, by rw [← hnew, hseg, List.append_assoc],
    hsub.trans (List.sublist_append_right _ _)⟩, h.trace⟩

/-- What a turn of the job adds to the journal is added to what the job has written. -/
theorem Records.turn (hP : World.Lasting P) (hsched : start.Schedule net limit ts c) (hstart : start.IsPunctual)
    (hi : start.slots[i]? = some (.queued job)) (hw : P start.world) (hs : c.slots[i]? = some s)
    (h : Records P J net limit start i job ts c s es) (hmove : c.Move net limit t d) (ht : t.slot? = some i)
    (hJ : d.world.journal <:+ J) : ∃ s' new, d.slots[i]? = some s' ∧ d.world.journal = new ++ c.world.journal ∧
      (s'.isStarted = false ∧ new = [] ∧ es = [] ∨ ∃ ts₀ b₀,
        Recorded P J net limit start i job (ts ++ [t]) d s' (new ++ es) ts₀ b₀ ∧
          ∃ seg, c.world.journal = seg ++ b₀.world.journal ∧ es.Sublist seg) := by
  have hwc : P c.world := hsched.lasting hP hw
  obtain ⟨s₁, s', hs₁, hs', hturn⟩ := hmove.turns ht
  obtain rfl := Option.some.inj (hs.symm.trans hs₁)
  rcases h with ⟨hnot, rfl⟩ | ⟨ts₀, b₀, hrec⟩
  · rcases hturn.of_not_started hnot with ⟨job', rfl, hadv⟩ | ⟨hsame, rfl⟩
    · obtain ⟨hjob, hbegan⟩ := hsched.begins hstart hi hs hnot hturn hadv.isStarted
      rw [Slot.queued.inj hjob] at hadv
      obtain ⟨new, hnew, hrec⟩ := Recorded.first hP hbegan hwc hadv hJ
      refine ⟨s', new, hs', hnew, .inr ⟨ts, c, ?_, [], rfl, .refl _⟩⟩
      rwa [List.append_nil]
    · exact ⟨_, [], hs', by rw [hsame]; rfl, .inl ⟨rfl, rfl, rfl⟩⟩
  · have hpunctual := hsched.isPunctual hstart s (List.mem_of_getElem? hs)
    obtain ⟨new, hnew, hrec'⟩ := hrec.own hP hwc hpunctual hturn hJ
    exact ⟨s', new, hs', hnew, .inr ⟨ts₀, b₀, hrec', hrec.since⟩⟩

theorem Wrote.recorded (hP : World.Lasting P) (h : Wrote net limit start i ts c es) (hstart : start.IsPunctual)
    (hi : start.slots[i]? = some (.queued job)) (hw : P start.world) (hJ : c.world.journal <:+ J) :
    ∃ s, c.slots[i]? = some s ∧ Records P J net limit start i job ts c s es := by
  induction h with
  | nil => exact ⟨_, hi, .inl ⟨rfl, rfl⟩⟩
  | @own ts c es t d new hwrote hmove ht hnew ih =>
    obtain ⟨s, hs, hrecords⟩ := ih (hmove.journal_suffix.trans hJ)
    obtain ⟨s', new', hs', hnew', hrec⟩ := hrecords.turn hP hwrote.schedule hstart hi hw hs hmove ht hJ
    obtain rfl : new' = new := List.append_cancel_right (hnew'.symm.trans hnew)
    refine ⟨s', hs', ?_⟩
    rcases hrec with ⟨hnot, rfl, rfl⟩ | ⟨ts₀, b₀, hrec, -⟩
    · exact .inl ⟨hnot, rfl⟩
    · exact .inr ⟨ts₀, b₀, hrec⟩
  | other hwrote hmove ht ih =>
    obtain ⟨s, hs, hrecords⟩ := ih (hmove.journal_suffix.trans hJ)
    refine ⟨s, (hmove.getElem?_of_ne ht).trans hs, hrecords.imp_right ?_⟩
    rintro ⟨ts₀, b₀, hrec⟩
    exact ⟨ts₀, b₀, hrec.other hwrote.schedule hmove ht⟩

/-- Entry `e`, which stands on top of `older` in the journal, was made by the job of slot `i` in the turn that led to
batch `b`. What it had written before was written between its start and this entry. -/
structure Authors (net : Network) (limit : Nat) (start : Batch α) (i : Nat) (job : Job α) (e : Event)
    (older : List Event) (ts : List Turn) (b : Batch α) (s : Slot α) (newer es : List Event) (ts₀ : List Turn)
    (b₀ : Batch α) : Prop where
  slot : b.slots[i]? = some s
  journal : b.world.journal = newer ++ e :: older
  wrote : Wrote net limit start i ts b (newer ++ e :: es)
  recorded : Recorded (fun _ => True) b.world.journal net limit start i job ts b s (newer ++ e :: es) ts₀ b₀
  since : ∃ seg, older = seg ++ b₀.world.journal ∧ es.Sublist seg

/-- The entry was made by the job of a slot, in a turn that led to a batch on the way to `b`. -/
def AuthoredBefore (net : Network) (limit : Nat) (start : Batch α) (e : Event) (older : List Event) (b : Batch α) :
    Prop :=
  ∃ (i : Nat) (job : Job α) (ts' : List Turn) (b' : Batch α) (s : Slot α) (front es : List Event) (ts₀ : List Turn)
    (b₀ : Batch α), start.slots[i]? = some (.queued job) ∧ (∃ us, b'.Schedule net limit us b) ∧
    Authors net limit start i job e older ts' b' s front es ts₀ b₀

theorem AuthoredBefore.snoc (h : AuthoredBefore net limit start e older b) (hmove : b.Move net limit t c) :
    AuthoredBefore net limit start e older c := by
  obtain ⟨i, job, ts', b', s, front, es, ts₀, b₀, hi, ⟨us, hus⟩, hauthors⟩ := h
  exact ⟨i, job, ts', b', s, front, es, ts₀, b₀, hi, ⟨us ++ [t], hus.snoc hmove⟩, hauthors⟩

/-- An entry that a move has added to the journal is that of a flush, or it was made by the job of a slot. -/
theorem Move.authored {added : List Event} (hmove : c.Move net limit t d) (hsched : start.Schedule net limit ts c)
    (hqueued : ∀ s ∈ start.slots, s.isQueued) (hJ : d.world.journal = (newer ++ e :: added) ++ c.world.journal) :
    e.what = .flush ∨ AuthoredBefore net limit start e (added ++ c.world.journal) d := by
  cases ht : t.slot? with
  | none =>
    cases hmove with
    | start | wake | abort | skip => cases ht
    | @outside w slots e' rest =>
      obtain ⟨es, hes, hflush⟩ := e'.what.adds_apply (w.atTime e'.time)
      obtain rfl : newer ++ e :: added = es := List.append_cancel_right (hJ.symm.trans hes)
      exact .inl (hflush e (by simp))
  | some i =>
    have hpunctual : start.IsPunctual := isPunctual_of_queued hqueued
    have hP : World.Lasting fun _ => True := World.lasting_true
    obtain ⟨s₁, -, hs₁, -, -⟩ := hmove.turns ht
    have hlt : i < start.slots.length := by
      rw [← hsched.length_eq]
      exact (List.getElem?_eq_some_iff.mp hs₁).1
    obtain ⟨job, hjob⟩ := Slot.eq_queued (hqueued _ (List.getElem_mem hlt))
    have hi : start.slots[i]? = some (.queued job) := by rw [List.getElem?_eq_getElem hlt, hjob]
    obtain ⟨es, hwrote⟩ := hsched.wrote i
    obtain ⟨s, hs, hrecords⟩ := hwrote.recorded hP hpunctual hi trivial hmove.journal_suffix
    obtain ⟨s', new, hs', hnew, hrec⟩ := hrecords.turn hP hsched hpunctual hi trivial hs hmove ht List.suffix_rfl
    obtain rfl : new = newer ++ e :: added := List.append_cancel_right (hnew.symm.trans hJ)
    rcases hrec with ⟨-, hnil, -⟩ | ⟨ts₀, b₀, hrec, seg, hseg, hsub⟩
    · simp at hnil
    · have hown := hwrote.own hmove ht hJ
      rw [List.append_assoc] at hrec hown hJ
      exact .inr ⟨i, job, _, d, s', newer, added ++ es, ts₀, b₀, hi, ⟨[], .nil⟩, hs', hJ, hown, hrec,
        added ++ seg, by rw [hseg, List.append_assoc], hsub.append_left added⟩

theorem Schedule.authored (h : start.Schedule net limit ts b) (hqueued : ∀ s ∈ start.slots, s.isQueued)
    (hJ : b.world.journal = newer ++ e :: older) : (∃ front, start.world.journal = front ++ e :: older) ∨
      e.what = .flush ∨ AuthoredBefore net limit start e older b := by
  induction h generalizing newer with
  | nil => exact .inl ⟨newer, hJ⟩
  | @snoc ts c t d hsched hmove ih =>
    obtain ⟨new, hnew⟩ := hmove.journal_suffix
    rw [← hnew] at hJ
    -- the entry is one of the new ones, or it was there before the move
    rcases List.append_eq_append_iff.mp hJ with ⟨front, -, hc⟩ | ⟨front, rfl, hc⟩
    · exact (ih hc).imp_right (.imp_right (·.snoc hmove))
    · cases front with
      | nil => exact (@ih [] hc.symm).imp_right (.imp_right (·.snoc hmove))
      | cons e' added =>
        obtain ⟨rfl, rfl⟩ : e = e' ∧ older = added ++ c.world.journal := List.cons.inj hc
        exact .inr (hmove.authored hsched hqueued hnew.symm)

theorem Began.unique {x : Except Fault α} {ts₁ ts₂ : List Turn} {b₁ b₂ : Batch α} {w : World}
    (hstart : start.IsPunctual) (hi : start.slots[i]? = some (.queued job)) (h : start.Schedule net limit ts b)
    (hx : b.slots[i]? = some (.ended x)) (h₁ : Began net limit start i job ts w (.ended x) ts₁ b₁)
    (h₂ : Began net limit start i job ts w (.ended x) ts₂ b₂) : b₁ = b₂ := by
  obtain ⟨later₁, hts₁⟩ := h₁.turns
  obtain ⟨later₂, hts₂⟩ := h₂.turns
  obtain ⟨s, hs, hcourse⟩ := h.inCourse hstart hi
  obtain rfl := Option.some.inj (hx.symm.trans hs)
  -- the slot was started once only
  have honce := hcourse.runs.1
  rw [hts₁, List.count_append, List.count_cons_self] at honce
  have hfront : Turn.start i ∉ ts₁ := List.count_eq_zero.mp (by omega)
  have hback : Turn.start i ∉ later₁ := List.count_eq_zero.mp (by omega)
  obtain ⟨rfl, -⟩ := (List.append_cons_inj_of_notMem hfront hback).mp (hts₁.symm.trans hts₂)
  exact h₁.schedule.unique h₂.schedule

theorem Move.exists_isOpen (h : b.Move net limit t c) : ∃ s ∈ b.slots, s.isOpen := by
  cases h with
  | @start _ _ job | @skip _ _ job => exact ⟨.queued job, by simp, rfl⟩
  | @wake _ _ s _ _ _ hdue => exact ⟨s, by simp, by simp [Slot.isOpen, Slot.isRunning_of_due? hdue]⟩
  | @abort _ _ s _ _ hs => exact ⟨s, by simp, by simp [Slot.isOpen, Slot.isRunning_of_isCancellable hs]⟩
  | outside hopen => exact hopen

theorem Schedule.eq_of_isDone (h : b.Schedule net limit ts c) (hb : b.IsDone) : c = b := by
  induction h with
  | nil => rfl
  | snoc _ hmove ih =>
    subst ih
    obtain ⟨s, hs, hopen⟩ := hmove.exists_isOpen
    exact absurd (hb s hs) (by simp [hopen])

end Batch

/-! ### The checks of a call -/

namespace Checker
/-- A check that a call makes in one of its schedules: the surroundings that it is started in, what it writes into the
journal, and how it has ended when the call is at its end. A check of one domain is a batch of one item, unless the call
was cancelled before. -/
inductive Checked (c : Checker) (net : Network) (call : Call) (raw : String) :
    World → List Event → World → Except Fault Outcome → Prop
  | item {limit raws ts b i x es ts₀ b₀} (h : (c.manyBatch call raws).Finishes net limit ts b)
      (hraw : raws[i]? = some raw) (hx : b.slots[i]? = some (.ended x))
      (hbegan : Batch.Began net limit (c.manyBatch call raws) i (c.policy.check raw) ts b.world (.ended x) ts₀ b₀)
      (hwrote : Batch.Wrote net limit (c.manyBatch call raws) i ts b es) :
    Checked c net call raw b₀.world es b.world x
  | cancelled {ts b x es} (hcall : call.cancelled = true) (h : (c.oneBatch net call raw).Finishes net 1 ts b)
      (hx : b.slots = [.ended x]) (hes : b.world.journal = es ++ c.world.journal) :
    Checked c net call raw (call.world c.world) es b.world x

variable {c : Checker} {net : Network} {call : Call} {raw : String} {w₀ w : World} {es : List Event}
  {x : Except Fault Outcome} {P : World → Prop} {ts : List Turn} {b : Batch Outcome}

theorem slots_manyBatch {raws : List String} {i : Nat} (hraw : raws[i]? = some raw) :
    (c.manyBatch call raws).slots[i]? = some (.queued (c.policy.check raw)) := by
  rw [manyBatch, Batch.queue, List.getElem?_map, hraw]
  rfl

theorem checked_of_manyBatch {limit : Nat} {raws : List String} (h : (c.manyBatch call raws).Finishes net limit ts b)
    {i : Nat} (hraw : raws[i]? = some raw) : b.slots[i]? = some .skipped ∨
      ∃ w₀ es x, c.Checked net call raw w₀ es b.world x ∧ b.slots[i]? = some (.ended x) := by
  rcases h.began hraw with hskipped | ⟨x, ts₀, b₀, hx, hbegan⟩
  · exact .inl hskipped
  · obtain ⟨es, hwrote⟩ := h.schedule.wrote i
    exact .inr ⟨b₀.world, es, x, .item h hraw hx hbegan hwrote, hx⟩

theorem world_oneBatch :
    (c.oneBatch net call raw).world = (Slot.advance net (c.policy.check raw) (call.world c.world)).1 := by
  simp only [oneBatch, Batch.alone]

theorem slots_oneBatch :
    (c.oneBatch net call raw).slots = [(Slot.advance net (c.policy.check raw) (call.world c.world)).2] := by
  simp only [oneBatch, Batch.alone]

theorem checked_of_oneBatch (h : (c.oneBatch net call raw).Finishes net 1 ts b) :
    ∃ es x, c.Checked net call raw (call.world c.world) es b.world x ∧ b.slots = [.ended x] := by
  cases hcall : call.cancelled with
  | true =>
    obtain ⟨x, ds, hslots, -⟩ := h.runs
    have hfirst := (Slot.advances net (c.policy.check raw) (call.world c.world)).journal_suffix
    rw [← world_oneBatch] at hfirst
    obtain ⟨es, hes⟩ := hfirst.trans h.schedule.journal_suffix
    exact ⟨es, x, .cancelled hcall h hslots hes.symm, hslots⟩
  | false =>
    obtain ⟨x, hslots, hbegan⟩ := Batch.Finishes.began_alone c.policy.check h hcall
    have hqueue : (c.manyBatch call [raw]).Finishes net 1 (.start 0 :: ts) b :=
      Batch.Finishes.of_alone c.policy.check h hcall
    obtain ⟨es, hwrote⟩ := hqueue.schedule.wrote 0
    exact ⟨es, x, .item hqueue rfl (by rw [hslots]; rfl) hbegan hwrote, hslots⟩

/-- What calls answer comes of the checks that they make, but for items that were skipped. -/
structure Answers (c : Checker) (net : Network) (call : Call) : Prop where
  checkOne : ∀ raw, ∃ es w x, c.Checked net call raw (call.world c.world) es w x ∧
    c.checkOne net call raw = ({ c with world := w }, x.mapError .crash)
  checkMany : ∀ raws, ∃ ts b, (c.manyBatch call raws).Finishes net c.limit ts b ∧
    c.checkMany net call raws = ({ c with world := b.world }, .ok (b.results fallback raws)) ∧
    ∀ (i : Nat) raw, raws[i]? = some raw → b.slots[i]? = some .skipped ∨
      ∃ w₀ es x, c.Checked net call raw w₀ es b.world x ∧ b.slots[i]? = some (.ended x)

theorem answers (net : Network) (call : Call) (hne : c.resolvers ≠ []) : c.Answers net call where
  checkOne raw := by
    obtain ⟨ts, b, x, hfin, hslots, heq⟩ := checkOne_finishes net call hne raw
    obtain ⟨es, y, hchecked, hslots'⟩ := checked_of_oneBatch hfin
    rw [hslots] at hslots'
    cases hslots'
    exact ⟨es, b.world, x, hchecked, heq⟩
  checkMany raws := by
    obtain ⟨ts, b, hfin, heq⟩ := checkMany_finishes net call hne raws
    exact ⟨ts, b, hfin, heq, fun i raw hraw => checked_of_manyBatch hfin hraw⟩

theorem checked_of_checkOne {o : Outcome} (h : (c.checkOne net call raw).2 = .ok o) :
    ∃ es, c.Checked net call raw (call.world c.world) es (c.checkOne net call raw).1.world (.ok o) := by
  by_cases hne : c.resolvers = []
  · rw [(calls_of_empty net call hne).1] at h
    cases h
  · obtain ⟨es, w, x, hchecked, heq⟩ := (answers net call hne).checkOne raw
    rw [heq] at h ⊢
    cases x with
    | error f => cases h
    | ok o' =>
      cases h
      exact ⟨es, hchecked⟩

/-- An outcome of many says that its check was not started, or it comes of the check. -/
theorem checked_of_checkMany {raws : List String} {outcomes : List Outcome}
    (h : (c.checkMany net call raws).2 = .ok outcomes) : outcomes.length = raws.length ∧
      ∀ (i : Nat) raw o, raws[i]? = some raw → outcomes[i]? = some o → o = .failed raw .cancelled ∨
        ∃ w₀ es w x, c.Checked net call raw w₀ es w x ∧ o = (Slot.ended x).result (fallback raw) := by
  by_cases hne : c.resolvers = []
  · rw [(calls_of_empty net call hne).2.1] at h
    cases h
  · obtain ⟨ts, b, hfin, heq, hitems⟩ := (answers net call hne).checkMany raws
    rw [heq] at h
    obtain rfl := Except.ok.inj h
    obtain ⟨k, hdispatched⟩ := hfin.dispatched fallback
    refine ⟨hdispatched.length, fun i raw o hraw ho => ?_⟩
    rcases hitems i raw hraw with hs | ⟨w₀, es, x, hchecked, hs⟩
    · rw [Batch.getElem?_results hraw hs] at ho
      exact .inl (Option.some.inj ho).symm
    · rw [Batch.getElem?_results hraw hs] at ho
      exact .inr ⟨w₀, es, b.world, x, hchecked, (Option.some.inj ho).symm⟩

theorem lasting_call (hP : World.Lasting P) (hc : P c.world) (call : Call) : P (call.world c.world) :=
  hP.aside hc rfl (.of_eq rfl)

/-- A check that is started after the cancellation is at its end at once. -/
theorem oneBatch_cancelled (hcall : call.cancelled = true) (h : (c.oneBatch net call raw).Schedule net 1 ts b) :
    b = c.oneBatch net call raw ∧ c.world.Adds (∃ key found, · = .lookup key found) b.world := by
  obtain ⟨⟨x, hend, -⟩, hadds⟩ := (Slot.advances net (c.policy.check raw) (call.world c.world)).ended_of_cancelled
    (check_heeds_any c.policy raw) (CheckPolicy.check_asksFirst raw) hcall
  have hdone : (c.oneBatch net call raw).IsDone := by
    intro s hs
    rw [slots_oneBatch, hend] at hs
    rw [List.mem_singleton.mp hs]
    rfl
  obtain rfl := h.eq_of_isDone hdone
  rw [← world_oneBatch] at hadds
  exact ⟨rfl, hadds⟩

/-- The surroundings in which a check is started have what lasts, what it writes comes after that, and it ends as checks
end. -/
structure CheckedAs (P : World → Prop) (p : CheckPolicy) (raw : String) (w₀ : World) (es : List Event) (w : World)
    (x : Except Fault Outcome) : Prop where
  start : P w₀
  since : ∃ seg, w.journal = seg ++ w₀.journal ∧ es.Sublist seg
  ends : CheckPolicy.Ends p (normalize raw) w₀.registry.resolvers (World.replies (World.Since P w₀.journal) w.journal)
    (Event.story es) x

theorem Checked.ends (hP : World.Lasting P) (hc : P c.world) (h : c.Checked net call raw w₀ es w x) :
    CheckedAs P c.policy raw w₀ es w x := by
  cases h with
  | @item limit raws ts b i x es ts₀ b₀ h hraw hx hbegan hwrote =>
    have hpunctual : (c.manyBatch call raws).IsPunctual := Batch.isPunctual_queue _ _ _ _
    have hi : (c.manyBatch call raws).slots[i]? = some (.queued (c.policy.check raw)) := slots_manyBatch hraw
    obtain ⟨s, hs, hnot | ⟨ts₁, b₁, hrec⟩⟩ :=
      hwrote.recorded hP hpunctual hi (lasting_call hP hc call) List.suffix_rfl
    · obtain rfl := Option.some.inj (hx.symm.trans hs)
      cases hnot.1
    · obtain rfl := Option.some.inj (hx.symm.trans hs)
      obtain rfl := hbegan.unique hpunctual hi h.schedule hx hrec.began
      have htrace := hrec.trace [] x ⟨rfl, rfl⟩
      rw [List.append_nil] at htrace
      exact ⟨hrec.began.schedule.lasting hP (lasting_call hP hc call), hrec.since, CheckPolicy.check_ends htrace⟩
  | @cancelled ts b x es hcall h hx hes =>
    obtain ⟨rfl, -⟩ := oneBatch_cancelled hcall h.schedule
    have hadv := Slot.advances net (c.policy.check raw) (call.world c.world)
    have hend : (Slot.advance net (c.policy.check raw) (call.world c.world)).2 = .ended x := by
      rw [slots_oneBatch] at hx
      exact List.singleton_inj.mp hx
    rw [hend, ← world_oneBatch] at hadv
    obtain ⟨new, hnew, htrace⟩ := hadv.given.trace (hP.since (call.world c.world).journal)
      ⟨lasting_call hP hc call, List.suffix_rfl⟩ List.suffix_rfl
    obtain rfl : new = es := List.append_cancel_right (hnew.symm.trans hes)
    have htrace' := htrace ⟨rfl, rfl⟩
    rw [List.append_nil] at htrace'
    exact ⟨lasting_call hP hc call, ⟨_, hes, .refl _⟩, CheckPolicy.check_ends htrace'⟩

end Checker
end FilterWatch
