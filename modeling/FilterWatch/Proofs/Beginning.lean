import FilterWatch.Proofs.Dispatch

/-!
# From the start of a job on

What a job does in a schedule is a run from the surroundings that it was started in, and these are the surroundings of
a batch that the schedule went through (`Schedule.began`, `Finishes.began`). So a property that jobs and the outside
keep (`World.Kept`) is there at the start of every job, and all along its run.
-/

namespace FilterWatch

/-! ### What jobs keep -/

/-- Jobs keep a property of their surroundings. -/
structure World.Kept (P : World → Prop) : Prop where
  standing : ∀ {w w'}, w.standing = w'.standing → P w → P w'
  lookup : ∀ {w} key, P w → P (w.lookup key).1
  store : ∀ {w} key o, P w → P (w.store key o).1

namespace World.Kept
variable {α : Type} {P : World → Prop} {net : Network} {w w' : World} {job : Job α} {s : Slot α}

theorem and {Q : World → Prop} (hP : World.Kept P) (hQ : World.Kept Q) : World.Kept fun w => P w ∧ Q w :=
  ⟨fun h hw => ⟨hP.standing h hw.1, hQ.standing h hw.2⟩, fun key hw => ⟨hP.lookup key hw.1, hQ.lookup key hw.2⟩,
    fun key o hw => ⟨hP.store key o hw.1, hQ.store key o hw.2⟩⟩

theorem endExchange (hP : World.Kept P) {server : String} {q : Dns.Query} {started : Nat} {a : Arrival}
    {x : Except Fault Reply} (h : w.endExchange server q started a = (w', x)) (hw : P w) : P w' := by
  refine hP.standing ?_ hw
  have hend := World.standing_endExchange w server q started a
  rw [h] at hend
  exact hend.symm

theorem advances (hP : World.Kept P) (h : Slot.Advances net w job w' s) (hw : P w) : P w' := by
  refine h.preserves (fun _ key => hP.lookup key) (fun _ key o => hP.store key o) (fun w t => ?_) (fun w server q => ?_)
    (fun w => ?_) (fun w server q started a => hP.endExchange rfl) hw
  · exact hP.standing (World.standing_count w t).symm
  · exact hP.standing rfl
  · exact hP.standing rfl

theorem wake (hP : World.Kept P) (hw : P w) : P (s.wake net w).1 := by
  cases s with
  | exchanging due server q started arrival next =>
    rw [Slot.wake]
    split
    · rename_i he
      exact hP.advances (Slot.advances _ _ _) (hP.endExchange he hw)
    · rename_i he
      exact hP.endExchange he hw
  | pausing | sleeping => exact hP.advances (Slot.advances _ _ _) hw
  | queued | ended | skipped => exact hw

theorem abort (hP : World.Kept P) (hw : P w) : P (s.abort net w).1 := by
  cases s with
  | exchanging => exact hP.advances (Slot.advances _ _ _) (hP.standing (by rfl) hw)
  | pausing => exact hP.advances (Slot.advances _ _ _) hw
  | queued | sleeping | ended | skipped => exact hw

end World.Kept

/-- A run keeps what jobs keep, if what happens meanwhile keeps it too. -/
theorem Job.Runs.keeps {α : Type} {P : World → Prop} (hP : World.Kept P) {net : Network}
    {meanwhile : World → World → Prop} (hmean : ∀ w w', meanwhile w w' → P w → P w') {w w' : World} {job : Job α}
    {ds : List Deed} {x : Except Fault α} (h : job.Runs net meanwhile w ds w' x) (hw : P w) : P w' := by
  have hstep : ∀ {β : Type} {w₁ : World} {x : β} {y : World × β}, y = (w₁, x) → P y.1 → P w₁ := by
    rintro _ _ _ _ rfl hy
    exact hy
  induction h with
  | done | crash => exact hw
  | resolvers _ ih => exact ih hw
  | lookup hl _ ih => exact ih (hstep hl (hP.lookup _ hw))
  | lookupCrash hl => exact hstep hl (hP.lookup _ hw)
  | store hs _ ih => exact ih (hstep hs (hP.store _ _ hw))
  | storeCrash hs => exact hstep hs (hP.store _ _ hw)
  | count _ ih => exact ih (hP.standing (World.standing_count _ _).symm hw)
  | exchange _ _ hm _ he _ ih =>
    have hw₁ := hmean _ _ hm (hP.standing (by rfl) hw)
    exact ih (hP.endExchange he (hP.standing (by rfl) hw₁))
  | exchangeCrash _ _ hm _ he =>
    have hw₁ := hmean _ _ hm (hP.standing (by rfl) hw)
    exact hP.endExchange he (hP.standing (by rfl) hw₁)
  | exchangeAborted _ hm _ _ ih => exact ih (hP.standing (by rfl) (hmean _ _ hm (hP.standing (by rfl) hw)))
  | withheld _ _ ih => exact ih (hP.standing (by rfl) hw)
  | pause _ hm _ _ ih | sleep hm _ _ ih => exact ih (hP.standing (by rfl) (hmean _ _ hm hw))
  | pauseAborted hm _ _ ih => exact ih (hmean _ _ hm hw)

/-- The turn in which a slot comes to be started is the start of its job. -/
theorem Slot.InCourse.starts {α : Type} {net : Network} {meanwhile : World → World → Prop} {job : Job α} {n i : Nat}
    {t : Turn} {w w' : World} {s s' : Slot α} (hrefl : ∀ w, meanwhile w w) (h : s.InCourse net meanwhile job n w)
    (hs : s.isStarted = false) (hturn : Slot.Turns net i t w s w' s') (hs' : s'.isStarted) :
    s = .queued job ∧ t = .start i ∧ w.cancelled = false ∧ s'.Pursues net meanwhile job w w' := by
  cases hturn with
  | start hcalm =>
    cases h with
    | queued => exact ⟨rfl, rfl, hcalm, (Slot.advances _ _ _).pursues hrefl⟩
    | started _ hs₁ => cases hs₁
  | wake hdue => rw [Slot.isStarted_of_isRunning (Slot.isRunning_of_due? hdue)] at hs; cases hs
  | abort hc =>
    rw [Slot.isStarted_of_isRunning (Slot.isRunning_of_isCancellable hc)] at hs
    cases hs
  | skip => cases hs'

namespace Batch
variable {α ι : Type} {net : Network} {limit : Nat} {start b c : Batch α} {t : Turn} {ts : List Turn} {i : Nat}
  {job : Job α} {s : Slot α} {P : World → Prop}

theorem Move.keeps (hP : World.Kept P) (h : b.Move net limit t c) :
    t.slot?.isSome ∧ c.agenda = b.agenda ∧ (P b.world → P c.world) ∨
      ∃ e, t = .outside e ∧ b.agenda = e :: c.agenda ∧ c.world = e.what.apply (b.world.atTime e.time) := by
  cases h with
  | start => exact .inl ⟨rfl, rfl, hP.advances (Slot.advances _ _ _)⟩
  | wake => exact .inl ⟨rfl, rfl, fun hw => hP.wake (hP.standing (by rfl) hw)⟩
  | abort => exact .inl ⟨rfl, rfl, hP.abort⟩
  | skip => exact .inl ⟨rfl, rfl, id⟩
  | @outside w slots e rest => exact .inr ⟨e, rfl, rfl, rfl⟩

theorem Schedule.keeps (hP : World.Kept P) (happly : ∀ (i : Intervention) w, P w → P (i.apply w))
    (h : b.Schedule net limit ts c) (hb : P b.world) : P c.world := by
  refine h.preserves (P := fun c => P c.world) (fun hmove hw => ?_) hb
  rcases hmove.keeps hP with ⟨-, -, hkeeps⟩ | ⟨e, -, -, hc⟩
  · exact hkeeps hw
  · rw [hc]
    exact happly _ _ (hP.standing (by rfl) hw)

theorem Schedule.keeps_alone {w : World} {agenda : List AgendaEntry} (hP : World.Kept P)
    (happly : ∀ (i : Intervention) w, P w → P (i.apply w)) (h : (Batch.alone net job w agenda).Schedule net limit ts b)
    (hw : P w) : P b.world := by
  have hfirst : P (Batch.alone net job w agenda).world := hP.advances (Slot.advances net job w) hw
  exact h.keeps hP happly hfirst

theorem Meanwhile.holds {w w' : World} (h : start.Meanwhile net limit i w w')
    (hP : ∀ ts b, start.Schedule net limit ts b → P b.world) (hw : P w) : P w' := by
  induction h with
  | refl => exact hw
  | tail _ hstep _ =>
    obtain ⟨ts, b, t, c, hsched, hmove, -, rfl, rfl⟩ := hstep
    exact hP _ c (hsched.snoc hmove)

/-! ### Where a job was started -/

/-- The job was started in batch `b₀`, and it has come to what is in the slot. -/
structure Began (net : Network) (limit : Nat) (start : Batch α) (i : Nat) (job : Job α) (ts : List Turn) (w : World)
    (s : Slot α) (ts₀ : List Turn) (b₀ : Batch α) : Prop where
  turns : ∃ later, ts = ts₀ ++ .start i :: later
  schedule : start.Schedule net limit ts₀ b₀
  calm : b₀.world.cancelled = false
  pursues : ∃ w₁, s.Pursues net (start.Meanwhile net limit i) job b₀.world w₁ ∧ start.Meanwhile net limit i w₁ w

theorem Began.runs {w : World} {x : Except Fault α} {ts₀ : List Turn} {b₀ : Batch α}
    (h : Began net limit start i job ts w (.ended x) ts₀ b₀) :
    ∃ ds w₁, job.Runs net (start.Meanwhile net limit i) b₀.world ds w₁ x ∧ start.Meanwhile net limit i w₁ w := by
  obtain ⟨w₁, hpursues, hm⟩ := h.pursues
  obtain ⟨ds, hruns⟩ := hpursues _ _ .ended
  exact ⟨ds, w₁, hruns, hm⟩

theorem Began.own {ts₀ : List Turn} {b₀ : Batch α} {w w' : World} {s' : Slot α}
    (h : Began net limit start i job ts w s ts₀ b₀) (hs : s.isStarted) (hpunctual : ∀ due ∈ s.due?, w.now ≤ due)
    (hturn : Slot.Turns net i t w s w' s') : Began net limit start i job (ts ++ [t]) w' s' ts₀ b₀ := by
  obtain ⟨⟨later, hlater⟩, hsched, hcalm, w₁, hpursues, hm⟩ := h
  exact ⟨⟨later ++ [t], by rw [hlater]; simp⟩, hsched, hcalm, w', hpursues.turns (fun _ => .refl) hm hs hpunctual hturn,
    .refl⟩

theorem Began.other {ts₀ : List Turn} {b₀ : Batch α} (h : Began net limit start i job ts c.world s ts₀ b₀)
    (hsched : start.Schedule net limit ts c) (hmove : c.Move net limit t b) (ht : t.slot? ≠ some i) :
    Began net limit start i job (ts ++ [t]) b.world s ts₀ b₀ := by
  obtain ⟨⟨later, hlater⟩, hsched₀, hcalm, w₁, hpursues, hm⟩ := h
  exact ⟨⟨later ++ [t], by rw [hlater]; simp⟩, hsched₀, hcalm, w₁, hpursues,
    hm.tail ⟨ts, c, t, b, hsched, hmove, ht, rfl, rfl⟩⟩

theorem Schedule.begins {s' : Slot α} {w' : World} (h : start.Schedule net limit ts c) (hstart : start.IsPunctual)
    (hi : start.slots[i]? = some (.queued job)) (hs : c.slots[i]? = some s) (hnot : s.isStarted = false)
    (hturn : Slot.Turns net i t c.world s w' s') (hs' : s'.isStarted) :
    s = .queued job ∧ Began net limit start i job (ts ++ [t]) w' s' ts c := by
  obtain ⟨s₁, hs₁, hcourse⟩ := h.inCourse hstart hi
  rw [hs] at hs₁
  cases hs₁
  obtain ⟨rfl, rfl, hcalm, hpursues⟩ := hcourse.starts (fun _ => .refl) hnot hturn hs'
  exact ⟨rfl, ⟨[], rfl⟩, h, hcalm, w', hpursues, .refl⟩

/-- A job that is not queued any more and was not skipped was started in a batch that the schedule went through. -/
theorem Schedule.began (h : start.Schedule net limit ts c) (hstart : start.IsPunctual)
    (hi : start.slots[i]? = some (.queued job)) (hs : c.slots[i]? = some s) (hstarted : s.isStarted) :
    ∃ ts₀ b₀, Began net limit start i job ts c.world s ts₀ b₀ := by
  induction h generalizing s with
  | nil =>
    rw [hi] at hs
    cases hs
    cases hstarted
  | @snoc ts c t d hsched hmove ih =>
    by_cases ht : t.slot? = some i
    · obtain ⟨s₁, s', hs₁, hs', hturn⟩ := hmove.turns ht
      rw [hs] at hs'
      cases hs'
      cases hstarted₁ : s₁.isStarted with
      | true =>
        obtain ⟨ts₀, b₀, hbegan⟩ := ih hs₁ hstarted₁
        have hpunctual := hsched.isPunctual hstart s₁ (List.mem_of_getElem? hs₁)
        exact ⟨ts₀, b₀, hbegan.own hstarted₁ hpunctual hturn⟩
      | false => exact ⟨ts, c, (hsched.begins hstart hi hs₁ hstarted₁ hturn hstarted).2⟩
    · obtain ⟨ts₀, b₀, hbegan⟩ := ih ((hmove.getElem?_of_ne ht).symm.trans hs) hstarted
      exact ⟨ts₀, b₀, hbegan.other hsched hmove ht⟩

/-- An item of a finished batch was skipped, or its job was started in a batch of the schedule and has ended. -/
theorem Finishes.began {work : ι → Job α} {items : List ι} {w : World} {agenda : List AgendaEntry}
    (h : (Batch.queue work items w agenda).Finishes net limit ts b) {item : ι} (hitem : items[i]? = some item) :
    b.slots[i]? = some .skipped ∨ ∃ x ts₀ b₀, b.slots[i]? = some (.ended x) ∧
      Began net limit (.queue work items w agenda) i (work item) ts b.world (.ended x) ts₀ b₀ := by
  have hqueued : (Batch.queue work items w agenda).slots[i]? = some (.queued (work item)) := by
    rw [Batch.queue, List.getElem?_map, hitem]
    rfl
  have hpunctual := isPunctual_queue work items w agenda
  obtain ⟨s, hs, -⟩ := h.schedule.inCourse hpunctual hqueued
  have hclosed := h.done s (List.mem_of_getElem? hs)
  cases hstarted : s.isStarted with
  | true =>
    obtain ⟨x, rfl⟩ := Slot.eq_ended hstarted hclosed
    obtain ⟨ts₀, b₀, hbegan⟩ := h.schedule.began hpunctual hqueued hs hstarted
    exact .inr ⟨x, ts₀, b₀, hs, hbegan⟩
  | false =>
    rw [Slot.eq_skipped hstarted hclosed] at hs
    exact .inl hs

/-- One job alone is a queue of one job that has been started. -/
theorem Schedule.of_alone (work : ι → Job α) {item : ι} {w : World} {agenda : List AgendaEntry}
    (h : (Batch.alone net (work item) w agenda).Schedule net 1 ts b) (hw : w.cancelled = false) :
    (Batch.queue work [item] w agenda).Schedule net 1 (.start 0 :: ts) b :=
  h.cons (@Move.start _ net 1 w [] (work item) [] agenda hw Nat.one_pos (by simp))

theorem Finishes.of_alone (work : ι → Job α) {item : ι} {w : World} {agenda : List AgendaEntry}
    (h : (Batch.alone net (work item) w agenda).Finishes net 1 ts b) (hw : w.cancelled = false) :
    (Batch.queue work [item] w agenda).Finishes net 1 (.start 0 :: ts) b :=
  ⟨h.schedule.of_alone work hw, h.done⟩

theorem Schedule.eq_of_nil {b c : Batch α} (h : b.Schedule net limit [] c) : c = b := by
  generalize hts : ([] : List Turn) = ts at h
  cases h with
  | nil => rfl
  | snoc => simp at hts

theorem Finishes.began_alone (work : ι → Job α) {item : ι} {w : World} {agenda : List AgendaEntry}
    (h : (Batch.alone net (work item) w agenda).Finishes net 1 ts b) (hw : w.cancelled = false) :
    ∃ x, b.slots = [.ended x] ∧ Began net 1 (.queue work [item] w agenda) 0 (work item) (.start 0 :: ts) b.world
      (.ended x) [] (.queue work [item] w agenda) := by
  obtain ⟨x, -, hslots, -⟩ := h.runs
  have hqueue := h.of_alone work hw
  rcases hqueue.began (i := 0) rfl with hs | ⟨y, ts₀, b₀, hs, hbegan⟩
  · rw [hslots] at hs
    cases hs
  · rw [hslots] at hs
    cases hs
    obtain ⟨later, hlater⟩ := hbegan.turns
    obtain ⟨s, hs, hcourse⟩ := hqueue.schedule.inCourse (isPunctual_queue _ _ _ _) (i := 0) rfl
    rw [hslots] at hs
    cases hs
    -- the slot was started once only
    have honce := hcourse.runs.1
    cases ts₀ with
    | nil =>
      obtain rfl := hbegan.schedule.eq_of_nil
      exact ⟨x, hslots, hbegan⟩
    | cons t ts₀ =>
      cases hlater
      simp at honce

end Batch

/-! ### The checks of a call -/

namespace Checker
variable {c : Checker} {net : Network} {call : Call} {raw : String} {w w' : World} {ds : List Deed}
  {x : Except Fault Outcome}

/-- A check that a call makes in one of its schedules: the surroundings that it is started in, what it does, and the
surroundings and the result that it ends with. A check of one domain is a batch of one item, unless the call was
cancelled before. -/
inductive Made (c : Checker) (net : Network) (call : Call) (raw : String) :
    World → List Deed → World → Except Fault Outcome → Prop
  | item {limit raws ts b i x ts₀ b₀ ds w₁} (h : (c.manyBatch call raws).Finishes net limit ts b)
      (hraw : raws[i]? = some raw) (hx : b.slots[i]? = some (.ended x))
      (hbegan : Batch.Began net limit (c.manyBatch call raws) i (c.policy.check raw) ts b.world (.ended x) ts₀ b₀)
      (hruns : (c.policy.check raw).Runs net ((c.manyBatch call raws).Meanwhile net limit i) b₀.world ds w₁ x)
      (hm : (c.manyBatch call raws).Meanwhile net limit i w₁ b.world) :
    Made c net call raw b₀.world ds w₁ x
  | cancelled {ts b ds x} (hcall : call.cancelled = true) (h : (c.oneBatch net call raw).Finishes net 1 ts b)
      (hx : b.slots = [.ended x]) (hruns : (c.policy.check raw).Runs net (World.Intervened (call.agendaFrom c.world))
        (call.world c.world) ds b.world x) :
    Made c net call raw (call.world c.world) ds b.world x

theorem made_of_oneBatch {ts : List Turn} {b : Batch Outcome} (h : (c.oneBatch net call raw).Finishes net 1 ts b) :
    ∃ ds w' x, c.Made net call raw (call.world c.world) ds w' x ∧ b.slots = [.ended x] := by
  cases hcall : call.cancelled with
  | true =>
    obtain ⟨x, ds, hslots, hruns⟩ := h.runs
    exact ⟨ds, b.world, x, .cancelled hcall h hslots hruns, hslots⟩
  | false =>
    obtain ⟨x, hslots, hbegan⟩ := Batch.Finishes.began_alone c.policy.check h hcall
    obtain ⟨ds, w₁, hruns, hm⟩ := hbegan.runs
    have hqueue : (c.manyBatch call [raw]).Finishes net 1 (.start 0 :: ts) b :=
      Batch.Finishes.of_alone c.policy.check h hcall
    exact ⟨ds, w₁, x, .item hqueue rfl (by rw [hslots]; rfl) hbegan hruns hm, hslots⟩

theorem made_of_manyBatch {limit : Nat} {raws : List String} {ts : List Turn} {b : Batch Outcome}
    (h : (c.manyBatch call raws).Finishes net limit ts b) {i : Nat} (hraw : raws[i]? = some raw) :
    b.slots[i]? = some .skipped ∨ ∃ w ds w' x, c.Made net call raw w ds w' x ∧ b.slots[i]? = some (.ended x) := by
  rcases h.began hraw with hskipped | ⟨x, ts₀, b₀, hx, hbegan⟩
  · exact .inl hskipped
  · obtain ⟨ds, w₁, hruns, hm⟩ := hbegan.runs
    exact .inr ⟨b₀.world, ds, w₁, x, .item h hraw hx hbegan hruns hm, hx⟩

/-- The results of calls are those of the checks that they make, but for items that were skipped. -/
structure Results (c : Checker) (net : Network) (call : Call) : Prop where
  checkOne : ∀ raw, ∃ ds w' x, c.Made net call raw (call.world c.world) ds w' x ∧
    (c.checkOne net call raw).2 = x.mapError .crash
  checkMany : ∀ raws, ∃ outcomes, (c.checkMany net call raws).2 = .ok outcomes ∧ outcomes.length = raws.length ∧
    ∀ (i : Nat) raw o, raws[i]? = some raw → outcomes[i]? = some o → o = .failed raw .cancelled ∨
      ∃ w ds w' x, c.Made net call raw w ds w' x ∧ o = (Slot.ended x).result (fallback raw)

theorem results (net : Network) (call : Call) (hne : c.resolvers ≠ []) : c.Results net call where
  checkOne raw := by
    obtain ⟨ts, b, x, hfin, hslots, heq⟩ := checkOne_finishes net call hne raw
    obtain ⟨ds, w', y, hmade, hslots'⟩ := made_of_oneBatch hfin
    rw [hslots] at hslots'
    cases hslots'
    exact ⟨ds, w', x, hmade, by rw [heq]⟩
  checkMany raws := by
    obtain ⟨ts, b, hfin, heq⟩ := checkMany_finishes net call hne raws
    obtain ⟨k, hdispatched⟩ := hfin.dispatched fallback
    refine ⟨b.results fallback raws, by rw [heq], hdispatched.length, fun i raw o hraw ho => ?_⟩
    rcases made_of_manyBatch hfin hraw with hs | ⟨w, ds, w', x, hmade, hs⟩
    · rw [Batch.results, List.getElem?_zipWith, hraw, hs] at ho
      cases ho
      exact .inl rfl
    · rw [Batch.results, List.getElem?_zipWith, hraw, hs] at ho
      cases ho
      exact .inr ⟨w, ds, w', x, hmade, rfl⟩

/-- What jobs and interventions keep stays as long as a checker is used. -/
theorem Use.keeps {c' : Checker} {P : World → Prop} (hP : World.Kept P)
    (happly : ∀ (i : Intervention) w, P w → P (i.apply w)) (hcall : ∀ (call : Call) w, P w → P (call.world w))
    (h : Use c c') (hc : P c.world) : P c'.world := by
  cases h with
  | checkOne h => exact Batch.Schedule.keeps_alone hP happly h.schedule (hcall _ _ hc)
  | checkMany h => exact h.schedule.keeps hP happly (hcall _ _ hc)
  | health h => exact h.schedule.keeps hP happly (hcall _ _ hc)
  | upsert rs => exact happly (.upsert rs) c.world hc
  | delete addresses => exact happly (.delete addresses) c.world hc
  | flush => exact happly .flush c.world hc
  | snapshot => exact hP.standing (w := c.world) rfl hc
  | elapse d => exact happly (.elapse d) c.world hc

theorem Used.keeps {c' : Checker} {P : World → Prop} (hP : World.Kept P)
    (happly : ∀ (i : Intervention) w, P w → P (i.apply w)) (hcall : ∀ (call : Call) w, P w → P (call.world w))
    (h : c.Used c') (hc : P c.world) : P c'.world := by
  induction h with
  | refl => exact hc
  | tail _ huse ih => exact huse.keeps hP happly hcall ih

/-- What jobs and interventions keep is there when a check is started, and all along its run. -/
theorem Made.runs {P : World → Prop} (hP : World.Kept P) (happly : ∀ (i : Intervention) w, P w → P (i.apply w))
    (hc : P (call.world c.world)) (h : c.Made net call raw w ds w' x) :
    P w ∧ ∃ meanwhile, (∀ w w', meanwhile w w' → P w → P w') ∧
      (c.policy.check raw).Runs net meanwhile w ds w' x := by
  cases h with
  | item _ _ _ hbegan hruns =>
    exact ⟨hbegan.schedule.keeps hP happly hc, _,
      fun w w' hm => hm.holds fun ts b hsched => hsched.keeps hP happly hc, hruns⟩
  | cancelled _ _ _ hruns =>
    refine ⟨hc, _, fun w w' hm hw => ?_, hruns⟩
    exact hm.preserves (fun e _ w hw => happly _ _ (hP.standing (by rfl) hw)) hw

end Checker
end FilterWatch
