import FilterWatch.Proofs.History
import FilterWatch.Proofs.Schedule

/-!
# Jobs in a schedule do runs

Between two of its turns a job waits, and the others and the outside go on. `Slot.LeadsTo` is what may come of a waiting
job, and `Slot.Pursues` says of a slot that whatever comes of it completes a run of the job that was put there. Every
turn of the slot keeps that (`Pursues.wake`, `Pursues.abort`), so in every schedule a job that has ended has done a run
(`Schedule.inCourse`), with what the others did as what happened meanwhile. A call that runs one job is the case where
there are no others (`runCall_runs`): whatever is put on its agenda, it does one of the runs and ends with a result.
-/

namespace FilterWatch

namespace Slot
variable {α : Type} (net : Network) (meanwhile : World → World → Prop)

/-- What may come of the job in a slot that was left in the first surroundings: it ends in the second ones, with a
result. -/
inductive LeadsTo : World → Slot α → World → Except Fault α → Prop
  | ended {w x} : LeadsTo w (.ended x) w x
  | replied {w w₁ w₂ due server q started arrival reply next ds w' x} (hm : meanwhile w w₁) (ht : w₁.now ≤ due)
      (he : (w₁.atTime due).endExchange server q started arrival = (w₂, .ok reply))
      (h : (next reply).Runs net meanwhile w₂ ds w' x) :
    LeadsTo w (.exchanging due server q started arrival next) w' x
  | crashed {w w₁ w₂ due server q started arrival f next} (hm : meanwhile w w₁) (ht : w₁.now ≤ due)
      (he : (w₁.atTime due).endExchange server q started arrival = (w₂, .error f)) :
    LeadsTo w (.exchanging due server q started arrival next) w₂ (.error f)
  | noReply {w w₁ due server q started arrival next ds w' x} (hm : meanwhile w w₁) (hx : w₁.cancelled = true)
      (h : (next .cancelled).Runs net meanwhile w₁.probeDropped ds w' x) :
    LeadsTo w (.exchanging due server q started arrival next) w' x
  | passed {w w₁ due next ds w' x} (hm : meanwhile w w₁) (ht : w₁.now ≤ due)
      (h : (next true).Runs net meanwhile (w₁.atTime due) ds w' x) :
    LeadsTo w (.pausing due next) w' x
  | notPassed {w w₁ due next ds w' x} (hm : meanwhile w w₁) (hx : w₁.cancelled = true)
      (h : (next false).Runs net meanwhile w₁ ds w' x) :
    LeadsTo w (.pausing due next) w' x
  | slept {w w₁ due next ds w' x} (hm : meanwhile w w₁) (ht : w₁.now ≤ due)
      (h : next.Runs net meanwhile (w₁.atTime due) ds w' x) :
    LeadsTo w (.sleeping due next) w' x

/-- The slot was left in surroundings `w₁`, and whatever comes of it completes a run of the job from `w₀` on. -/
def Pursues (job : Job α) (w₀ w₁ : World) (s : Slot α) : Prop :=
  ∀ w' x, s.LeadsTo net meanwhile w₁ w' x → ∃ ds, job.Runs net meanwhile w₀ ds w' x

variable {net meanwhile} {w w' w₀ w₁ : World} {job : Job α} {s : Slot α}

theorem Advances.pursues (hrefl : ∀ w, meanwhile w w) (h : Advances net w job w' s) :
    s.Pursues net meanwhile job w w' := by
  intro w'' x hx
  induction h with
  | done => cases hx; exact ⟨[], .done⟩
  | crash => cases hx; exact ⟨[], .crash⟩
  | resolvers _ ih => obtain ⟨ds, h⟩ := ih hx; exact ⟨_, .resolvers h⟩
  | lookup hl _ ih => obtain ⟨ds, h⟩ := ih hx; exact ⟨_, .lookup hl h⟩
  | lookupCrash hl => cases hx; exact ⟨[], .lookupCrash hl⟩
  | store hs _ ih => obtain ⟨ds, h⟩ := ih hx; exact ⟨_, .store hs h⟩
  | storeCrash hs => cases hx; exact ⟨[], .storeCrash hs⟩
  | count _ ih => obtain ⟨ds, h⟩ := ih hx; exact ⟨_, .count h⟩
  | withheld hc _ ih => obtain ⟨ds, h⟩ := ih hx; exact ⟨_, .withheld hc h⟩
  | replied hc ha he _ ih =>
    obtain ⟨ds, h⟩ := ih hx
    refine ⟨_, .exchange hc ha (hrefl _) (Nat.le_add_right _ _) ?_ h⟩
    rw [← he]
    exact congrArg (World.endExchange · _ _ _ _) (World.atTime_now _)
  | repliedCrash hc ha he =>
    cases hx
    refine ⟨[], .exchangeCrash hc ha (hrefl _) (Nat.le_add_right _ _) ?_⟩
    rw [← he]
    exact congrArg (World.endExchange · _ _ _ _) (World.atTime_now _)
  | sent hc ha =>
    cases hx with
    | replied hm ht he h => exact ⟨_, .exchange hc ha hm ht he h⟩
    | crashed hm ht he => exact ⟨[], .exchangeCrash hc ha hm ht he⟩
    | noReply hm hx h => exact ⟨_, .exchangeAborted hc hm hx h⟩
  | refused hc _ ih => obtain ⟨ds, h⟩ := ih hx; exact ⟨_, .pauseAborted (hrefl _) hc h⟩
  | @passed w _ _ _ _ hc hz _ ih =>
    obtain ⟨ds, h⟩ := ih hx
    rw [← World.atTime_now w] at h
    refine ⟨.pause _ true :: ds, .pause hc (hrefl w) (Nat.le_add_right _ _) ?_⟩
    rw [hz]
    exact h
  | paused hc =>
    cases hx with
    | passed hm ht h => exact ⟨_, .pause hc hm ht h⟩
    | notPassed hm hx h => exact ⟨_, .pauseAborted hm hx h⟩
  | @slept w _ _ _ _ hz _ ih =>
    obtain ⟨ds, h⟩ := ih hx
    rw [← World.atTime_now w] at h
    refine ⟨.sleep _ :: ds, .sleep (hrefl w) (Nat.le_add_right _ _) ?_⟩
    rw [hz]
    exact h
  | asleep =>
    cases hx with
    | slept hm ht h => exact ⟨_, .sleep hm ht h⟩

theorem LeadsTo.of_wake (hrefl : ∀ w, meanwhile w w) {due : Nat} (hm : meanwhile w₁ w) (hdue : s.due? = some due)
    (ht : w.now ≤ due) {x : Except Fault α}
    (h : (s.wake net (w.atTime due)).2.LeadsTo net meanwhile (s.wake net (w.atTime due)).1 w' x) :
    s.LeadsTo net meanwhile w₁ w' x := by
  cases s with
  | exchanging due' server q started arrival next =>
    cases hdue
    rcases he : (w.atTime due).endExchange server q started arrival with ⟨w₂, f | reply⟩
    · simp only [wake, he] at h
      cases h
      exact .crashed hm ht he
    · simp only [wake, he] at h
      obtain ⟨ds, h⟩ := (advances net (next reply) w₂).pursues hrefl _ _ h
      exact .replied hm ht he h
  | pausing due' next =>
    cases hdue
    obtain ⟨ds, h⟩ := (advances net (next true) (w.atTime due)).pursues hrefl _ _ h
    exact .passed hm ht h
  | sleeping due' next =>
    cases hdue
    obtain ⟨ds, h⟩ := (advances net next (w.atTime due)).pursues hrefl _ _ h
    exact .slept hm ht h
  | queued | ended | skipped => cases hdue

theorem LeadsTo.of_abort (hrefl : ∀ w, meanwhile w w) (hm : meanwhile w₁ w) (hs : s.isCancellable)
    (hx : w.cancelled = true) {x : Except Fault α}
    (h : (s.abort net w).2.LeadsTo net meanwhile (s.abort net w).1 w' x) : s.LeadsTo net meanwhile w₁ w' x := by
  cases s with
  | exchanging =>
    obtain ⟨ds, h⟩ := (advances _ _ _).pursues hrefl _ _ h
    exact .noReply hm hx h
  | pausing =>
    obtain ⟨ds, h⟩ := (advances _ _ _).pursues hrefl _ _ h
    exact .notPassed hm hx h
  | queued | sleeping | ended | skipped => cases hs

/-- A turn of a started job leads on in its run. -/
theorem Pursues.turns {i : Nat} {t : Turn} {s' : Slot α} (hrefl : ∀ w, meanwhile w w)
    (h : s.Pursues net meanwhile job w₀ w₁) (hm : meanwhile w₁ w) (hs : s.isStarted)
    (ht : ∀ due ∈ s.due?, w.now ≤ due) (hturn : Slot.Turns net i t w s w' s') :
    s'.Pursues net meanwhile job w₀ w' := by
  intro w'' x hx
  cases hturn with
  | start | skip => cases hs
  | wake hdue => exact h _ _ (.of_wake hrefl hm hdue (ht _ hdue) hx)
  | abort hs hx' => exact h _ _ (.of_abort hrefl hm hs hx' hx)

end Slot

/-! ### Jobs of a batch -/

section
variable {α : Type} (net : Network) (limit : Nat)

/-- What the turns of the other slots and of the outside may make of the surroundings, in schedules of a batch. -/
def Batch.Meanwhile (start : Batch α) (i : Nat) : World → World → Prop :=
  Relation.ReflTransGen fun w w' => ∃ ts b t c, start.Schedule net limit ts b ∧ b.Move net limit t c ∧
    t.slot? ≠ some i ∧ b.world = w ∧ c.world = w'

/-- How far a job has come that was put in a slot, after so many starts of the slot. -/
inductive Slot.InCourse (meanwhile : World → World → Prop) (job : Job α) : Nat → World → Slot α → Prop
  | queued {w} : InCourse meanwhile job 0 w (.queued job)
  | skipped {w} : InCourse meanwhile job 0 w .skipped
  | started {w₀ w₁ w s} (hcalm : w₀.cancelled = false) (hs : s.isStarted) (h : s.Pursues net meanwhile job w₀ w₁)
      (hm : meanwhile w₁ w) : InCourse meanwhile job 1 w s

end

section
variable {α : Type} {net : Network} {limit i n : Nat} {meanwhile : World → World → Prop} {job : Job α}
  {w w' : World} {s s' : Slot α} {t : Turn}

theorem Slot.InCourse.wait (htrans : ∀ {w₁ w₂ w₃}, meanwhile w₁ w₂ → meanwhile w₂ w₃ → meanwhile w₁ w₃)
    (h : s.InCourse net meanwhile job n w) (hm : meanwhile w w') : s.InCourse net meanwhile job n w' := by
  cases h with
  | queued => exact .queued
  | skipped => exact .skipped
  | started hcalm hs h hm' => exact .started hcalm hs h (htrans hm' hm)

theorem Slot.InCourse.turns (hrefl : ∀ w, meanwhile w w) (h : s.InCourse net meanwhile job n w)
    (ht : ∀ due ∈ s.due?, w.now ≤ due) (hturn : Slot.Turns net i t w s w' s') :
    s'.InCourse net meanwhile job (n + [t].count (.start i)) w' := by
  cases h with
  | queued =>
    cases hturn with
    | start hcalm =>
      rw [List.count_singleton_self]
      exact .started hcalm (Slot.advances _ _ _).isStarted ((Slot.advances _ _ _).pursues hrefl) (hrefl _)
    | skip => exact .skipped
    | wake hdue => cases hdue
    | abort hs => cases hs
  | skipped =>
    cases hturn with
    | wake hdue => cases hdue
    | abort hs => cases hs
  | started hcalm hs h hm =>
    have hcount : [t].count (.start i) = 0 := by
      cases hturn with
      | start | skip => cases hs
      | wake | abort => rfl
    rw [hcount]
    exact .started hcalm (hturn.isStarted hs) (h.turns hrefl hm hs ht hturn) (hrefl _)

/-- Of every job that waits in the queue, a schedule makes a run: the job is started once at most, and what it does
from there on is a run, with the turns of the others in between. -/
theorem Batch.Schedule.inCourse {b c : Batch α} {ts : List Turn} (h : b.Schedule net limit ts c) (hb : b.IsPunctual)
    (hi : b.slots[i]? = some (.queued job)) :
    ∃ s, c.slots[i]? = some s ∧
      s.InCourse net (Batch.Meanwhile net limit b i) job (ts.count (.start i)) c.world := by
  induction h with
  | nil => exact ⟨_, hi, .queued⟩
  | @snoc ts c t d hsched hmove ih =>
    obtain ⟨s, hs, hcourse⟩ := ih
    rw [List.count_append]
    -- a turn of this slot leads on in the run, any other one is part of what happens meanwhile
    by_cases ht : t.slot? = some i
    · obtain ⟨s₁, s', hs₁, hs', hturn⟩ := hmove.turns ht
      rw [hs] at hs₁
      cases hs₁
      have hpunctual := hsched.isPunctual hb s (List.mem_of_getElem? hs)
      exact ⟨s', hs', hcourse.turns (fun _ => .refl) hpunctual hturn⟩
    · have hcount : [t].count (.start i) = 0 := by
        refine List.count_eq_zero.mpr fun hmem => ht ?_
        rw [← List.mem_singleton.mp hmem]
        rfl
      rw [hcount]
      refine ⟨s, (hmove.getElem?_of_ne ht).trans hs, hcourse.wait (fun h h' => h.trans h') (.single ?_)⟩
      exact ⟨ts, c, t, d, hsched, hmove, ht, rfl, rfl⟩

theorem Slot.InCourse.runs {x : Except Fault α} (h : (Slot.ended x).InCourse net meanwhile job n w) :
    n = 1 ∧ ∃ w₀ ds w₁, w₀.cancelled = false ∧ job.Runs net meanwhile w₀ ds w₁ x ∧ meanwhile w₁ w := by
  cases h with
  | started hcalm _ h hm =>
    obtain ⟨ds, h⟩ := h _ _ .ended
    exact ⟨rfl, _, ds, _, hcalm, h, hm⟩

theorem Slot.InCourse.eq_zero (h : s.InCourse net meanwhile job n w) (hs : s.isStarted = false) : n = 0 := by
  cases h with
  | queued | skipped => rfl
  | started _ hs' => rw [hs] at hs'; cases hs'

end

/-! ### Calls of one job -/

/-- What the entries of an agenda may have made of the surroundings. -/
def World.Intervened (agenda : List AgendaEntry) : World → World → Prop :=
  Relation.ReflTransGen fun w w' => ∃ e ∈ agenda, w' = e.what.apply (w.atTime e.time)

theorem World.Intervened.preserves {P : World → Prop} {agenda : List AgendaEntry} {w w' : World}
    (h : World.Intervened agenda w w') (hP : ∀ e ∈ agenda, ∀ w, P w → P (e.what.apply (w.atTime e.time)))
    (hw : P w) : P w' := by
  induction h with
  | refl => exact hw
  | tail _ hstep ih =>
    obtain ⟨e, he, rfl⟩ := hstep
    exact hP e he _ ih

/-- Whether a call is not cancelled, neither before it nor during it. -/
def Call.IsCalm (call : Call) : Prop := call.cancelled = false ∧ ∀ e ∈ call.agenda, e.what ≠ .cancel

theorem Call.what_of_mem_agendaFrom {call : Call} {w : World} {e : AgendaEntry} (h : e ∈ call.agendaFrom w) :
    ∃ e' ∈ call.agenda, e'.what = e.what := by
  obtain ⟨e', he', rfl⟩ := List.mem_map.mp (List.mem_mergeSort.mp h)
  exact ⟨e', he', rfl⟩

theorem Call.IsCalm.agendaFrom {call : Call} (hcall : call.IsCalm) (w : World) :
    ∀ e ∈ call.agendaFrom w, e.what ≠ .cancel := by
  intro e he
  obtain ⟨e', he', hwhat⟩ := Call.what_of_mem_agendaFrom he
  rw [← hwhat]
  exact hcall.2 e' he'

theorem Call.IsCalm.cancelled {call : Call} (hcall : call.IsCalm) {w₀ w w' : World}
    (h : World.Intervened (call.agendaFrom w₀) w w') (hw : w.cancelled = false) : w'.cancelled = false := by
  refine h.preserves (P := fun w => w.cancelled = false) (fun e he w hw => ?_) hw
  cases hi : e.what with
  | cancel => exact absurd hi (hcall.agendaFrom w₀ e he)
  | upsert | delete | flush | elapse => exact hw

theorem World.Intervened.exchanges {agenda : List AgendaEntry} {w w' : World}
    (h : World.Intervened agenda w w') : w'.exchanges = w.exchanges := by
  refine h.preserves (P := fun w' => w'.exchanges = w.exchanges) (fun e _ w' hw => ?_) rfl
  cases e.what with
  | flush => exact (World.exchanges_note _ _).trans hw
  | cancel | upsert | delete | elapse => exact hw

def Slot.ended? {α : Type} : Slot α → Option (Except Fault α)
  | .ended x => some x
  | _ => none

theorem Slot.eq_ended {α : Type} {s : Slot α} (hs : s.isStarted) (hopen : s.isOpen = false) :
    ∃ x, s = .ended x := by
  cases s with
  | ended x => exact ⟨x, rfl⟩
  | queued | skipped => cases hs
  | exchanging | pausing | sleeping => cases hopen

theorem Slot.eq_skipped {α : Type} {s : Slot α} (hs : s.isStarted = false) (hopen : s.isOpen = false) :
    s = .skipped := by
  cases s with
  | skipped => rfl
  | queued => cases hopen
  | exchanging | pausing | sleeping | ended => cases hs

namespace Batch
variable {α : Type} {net : Network} {agenda : List AgendaEntry} {job : Job α} {limit : Nat} {w w₁ : World}
  {b c : Batch α} {s : Slot α} {t : Turn} {ts : List Turn}

/-- A batch of one job that was started in surroundings `w`: what is in its slot, and since when. -/
structure AtWork (net : Network) (agenda : List AgendaEntry) (job : Job α) (w : World) (b : Batch α) (s : Slot α)
    (since : World) : Prop where
  slots : b.slots = [s]
  left : b.agenda ⊆ agenda
  started : s.isStarted
  pursues : s.Pursues net (World.Intervened agenda) job w since
  meanwhile : World.Intervened agenda since b.world
  /-- When the job has ended nothing else happens. -/
  settled : s.isOpen = false → b.world = since

theorem AtWork.move (h : b.AtWork net agenda job w s w₁) (hb : b.IsPunctual) (hmove : b.Move net limit t c) :
    ∃ s' w₁', c.AtWork net agenda job w s' w₁' := by
  have hagenda : c.agenda ⊆ agenda := List.Subset.trans hmove.agenda_suffix.subset h.left
  cases ht : t.slot? with
  | some i =>
    obtain ⟨s₀, s', hs₀, hs', hturn⟩ := hmove.turns ht
    rw [h.slots, List.getElem?_singleton] at hs₀
    obtain ⟨rfl, rfl⟩ : i = 0 ∧ s = s₀ := by
      split at hs₀
      · exact ⟨‹_›, Option.some.inj hs₀⟩
      · cases hs₀
    have hslots : c.slots = [s'] := by
      obtain ⟨x, hx⟩ := List.length_eq_one_iff.mp (hmove.length_eq.trans (by rw [h.slots]; rfl))
      rw [hx] at hs' ⊢
      cases hs'
      rfl
    have hpunctual := hb s (by rw [h.slots]; exact .head _)
    exact ⟨s', c.world, hslots, hagenda, hturn.isStarted h.started,
      h.pursues.turns (fun _ => .refl) h.meanwhile h.started hpunctual hturn, .refl, fun _ => rfl⟩
  | none =>
    cases hmove with
    | start | wake | abort | skip => cases ht
    | @outside w' slots e rest hopen =>
      refine ⟨s, w₁, h.slots, hagenda, h.started, h.pursues, h.meanwhile.tail ⟨e, h.left (.head _), rfl⟩, ?_⟩
      intro hclosed
      obtain ⟨x, hx, hopen⟩ := hopen
      rw [show slots = [s] from h.slots, List.mem_singleton] at hx
      rw [hx, hclosed] at hopen
      cases hopen

theorem atWork_alone : (Batch.alone net job w agenda).AtWork net agenda job w (Slot.advance net job w).2
    (Slot.advance net job w).1 :=
  ⟨rfl, List.Subset.refl _, (Slot.advances net job w).isStarted, (Slot.advances net job w).pursues fun _ => .refl, .refl,
    fun _ => rfl⟩

theorem isPunctual_alone : (Batch.alone net job w agenda).IsPunctual := by
  intro s hs
  rw [List.mem_singleton.mp hs]
  exact (Slot.advances net job w).le_due

theorem Schedule.atWork (h : (Batch.alone net job w agenda).Schedule net limit ts b) :
    ∃ s w₁, b.AtWork net agenda job w s w₁ := by
  induction h with
  | nil => exact ⟨_, _, atWork_alone⟩
  | snoc h hmove ih =>
    obtain ⟨s, w₁, hwork⟩ := ih
    exact hwork.move (h.isPunctual isPunctual_alone) hmove

theorem Finishes.runs (h : (Batch.alone net job w agenda).Finishes net limit ts b) :
    ∃ x ds, b.slots = [.ended x] ∧ job.Runs net (World.Intervened agenda) w ds b.world x := by
  obtain ⟨s, w₁, hwork⟩ := h.schedule.atWork
  have hclosed := h.done s (by rw [hwork.slots]; exact .head _)
  obtain ⟨x, rfl⟩ := Slot.eq_ended hwork.started hclosed
  obtain ⟨ds, hruns⟩ := hwork.pursues _ _ .ended
  rw [← hwork.settled hclosed] at hruns
  exact ⟨x, ds, hwork.slots, hruns⟩

theorem run_ended (x : Except Fault α) (agenda : List AgendaEntry) (w : World) :
    Batch.run net 1 ⟨w, [.ended x], agenda⟩ = ⟨w, [.ended x], agenda⟩ := by
  apply run_of_step_none
  have hdue : Slot.earliestDue? [Slot.ended x] = none := rfl
  simp [step, Slot.isCancellable, Slot.isQueued, hdue]

end Batch

section
variable {α : Type} {net : Network} {agenda : List AgendaEntry}

theorem runAlone_finishes (net : Network) (agenda : List AgendaEntry) (job : Job α) (w : World) :
    ∃ ts b x, (Batch.alone net job w agenda).Finishes net 1 ts b ∧ b.slots = [.ended x] ∧
      runAlone net agenda job w = (b.world, x) := by
  obtain ⟨ts, h⟩ := Batch.run_finishes net Nat.one_pos (Batch.alone net job w agenda)
  obtain ⟨x, ds, hslots, -⟩ := h.runs
  refine ⟨ts, _, x, h, hslots, ?_⟩
  rcases hadv : Slot.advance net job w with ⟨w', s⟩
  rw [Batch.alone, hadv] at hslots ⊢
  simp only [runAlone, hadv, hslots]

/-- What a call does with a job is a run of the job, so every call ends with a result. -/
theorem runCall_runs (net : Network) (call : Call) (job : Job α) (w : World) : ∃ ds,
    job.Runs net (World.Intervened (call.agendaFrom w)) (call.world w) ds (runCall net call job w).1
      (runCall net call job w).2 := by
  obtain ⟨ts, b, x, h, hslots, hrun⟩ := runAlone_finishes net (call.agendaFrom w) job (call.world w)
  obtain ⟨y, ds, hslots', hruns⟩ := h.runs
  rw [hslots] at hslots'
  cases hslots'
  rw [runCall, hrun]
  exact ⟨ds, hruns⟩

theorem Checker.checkOne_finishes {c : Checker} (net : Network) (call : Call) (h : c.resolvers ≠ []) (domain : String) :
    ∃ ts b x, (c.oneBatch net call domain).Finishes net 1 ts b ∧ b.slots = [.ended x] ∧
      c.checkOne net call domain = ({ c with world := b.world }, x.mapError .crash) := by
  obtain ⟨ts, b, x, hfin, hslots, hrun⟩ :=
    runAlone_finishes net (call.agendaFrom c.world) (c.policy.check domain) (call.world c.world)
  refine ⟨ts, b, x, hfin, hslots, ?_⟩
  simp only [checkOne, isEmpty_of_ne h, Bool.false_eq_true, if_false, runCall, hrun]

theorem runAlone_of_ended? {job : Job α} {w : World} {x : Except Fault α}
    (h : (Slot.advance net job w).2.ended? = some x) :
    runAlone net agenda job w = ((Slot.advance net job w).1, x) := by
  obtain ⟨w', s, hadv⟩ : ∃ w' s, Slot.advance net job w = (w', s) := ⟨_, _, rfl⟩
  rw [hadv] at h ⊢
  cases s with
  | ended y =>
    cases h
    simp only [runAlone, hadv, Batch.run_ended]
  | queued | exchanging | pausing | sleeping | skipped => cases h

end
theorem Checker.used_checkOne (c : Checker) (net : Network) (call : Call) (domain : String) :
    c.Used (c.checkOne net call domain).1 := by
  by_cases h : c.resolvers = []
  · rw [(calls_of_empty net call h).1]
    exact .refl
  · obtain ⟨ts, b, x, hfin, -, heq⟩ := checkOne_finishes net call h domain
    rw [heq]
    exact .single (.checkOne hfin)

end FilterWatch
