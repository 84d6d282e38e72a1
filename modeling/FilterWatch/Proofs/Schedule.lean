import FilterWatch.Checker
import FilterWatch.Proofs.Advance
import Mathlib.Data.List.Forall2
import Mathlib.Logic.Relation

/-!
# Schedules

In what order the jobs of a batch may take their turns. A `Move` is one turn: the first job that waits in the queue is
started when there is room for it, a wait ends when its time has come, the outside intervenes, and after a cancellation
waits are broken off and queued jobs are skipped. Which of the turns that are possible at a moment comes first is left
open; time passes only when none is (`Batch.MayReach`). A `Schedule` is a course of turns. `Batch.run` takes one of
them (`Batch.run_finishes`), so what holds along every schedule holds of the batches that calls run.
-/

namespace FilterWatch

/-! ### One element of a list is replaced -/

section
variable {α β : Type} {pre post : List α} {s s' : α}

theorem forall_replace {P : α → Prop} (h : ∀ x ∈ pre ++ s :: post, P x) (hs' : P s') :
    ∀ x ∈ pre ++ s' :: post, P x := by
  intro x hx
  rcases List.mem_append.mp hx with hx | hx
  · exact h x (List.mem_append_left _ hx)
  · rcases List.mem_cons.mp hx with rfl | hx
    · exact hs'
    · exact h x (List.mem_append_right _ (.tail _ hx))

theorem forall₂_replace {R : α → β → Prop} {xs : List β} (h : List.Forall₂ R (pre ++ s :: post) xs) :
    ∃ x, R s x ∧ ∀ s', R s' x → List.Forall₂ R (pre ++ s' :: post) xs := by
  induction pre generalizing xs with
  | nil =>
    cases h with
    | @cons _ x _ _ hs hpost => exact ⟨x, hs, fun s' hs' => .cons hs' hpost⟩
  | cons y pre ih =>
    cases h with
    | cons hy hrest =>
      obtain ⟨x, hs, hreplace⟩ := ih hrest
      exact ⟨x, hs, fun s' hs' => .cons hy (hreplace s' hs')⟩

end

/-! ### Turns -/

theorem Intervention.now_apply (i : Intervention) (w : World) : (i.apply w).now = w.now := by
  cases i <;> rfl

theorem Intervention.cancelled_apply (i : Intervention) {w : World} (h : w.cancelled = true) :
    (i.apply w).cancelled = true := by
  cases i with
  | cancel => rfl
  | upsert | delete | flush | elapse => exact h

/-- A turn: that of the job in a slot, or of the outside. -/
inductive Turn where
  | start (slot : Nat)
  | wake (slot : Nat)
  | abort (slot : Nat)
  | skip (slot : Nat)
  | outside (e : AgendaEntry)
deriving DecidableEq, Repr

def Turn.slot? : Turn → Option Nat
  | start i | wake i | abort i | skip i => some i
  | outside _ => none

namespace Slot
variable {α : Type} (net : Network)

def isOpen (s : Slot α) : Bool := s.isQueued || s.isRunning

/-- What a turn of slot `i` makes of the surroundings and of what is in the slot. -/
inductive Turns (i : Nat) : Turn → World → Slot α → World → Slot α → Prop
  | start {w job} (hcalm : w.cancelled = false) :
    Turns i (.start i) w (.queued job) (advance net job w).1 (advance net job w).2
  | wake {w s due} (hdue : s.due? = some due) (hcalm : s.isCancellable → w.cancelled = false) :
    Turns i (.wake i) w s (s.wake net (w.atTime due)).1 (s.wake net (w.atTime due)).2
  | abort {w s} (hs : s.isCancellable) (hx : w.cancelled = true) :
    Turns i (.abort i) w s (s.abort net w).1 (s.abort net w).2
  | skip {w job} (hx : w.cancelled = true) : Turns i (.skip i) w (.queued job) w .skipped

end Slot

namespace Batch
variable {α : Type} (net : Network) (limit : Nat)

/-- Whether something can be done at this moment: there is a job to be started, or the caller has cancelled and there
is one to be given up. -/
def IsBusy (b : Batch α) : Prop :=
  b.world.cancelled = false ∧ Slot.running b.slots < limit ∧ (∃ s ∈ b.slots, s.isQueued) ∨
    b.world.cancelled = true ∧ ∃ s ∈ b.slots, s.isQueued ∨ s.isCancellable

/-- Whether something set for `time` can happen: that moment has come, or there is nothing to be done before it. -/
def MayReach (b : Batch α) (time : Nat) : Prop :=
  time ≤ b.world.now ∨
    ¬ b.IsBusy limit ∧ (∀ s ∈ b.slots, ∀ due ∈ s.due?, time ≤ due) ∧ ∀ e ∈ b.agenda.head?, time ≤ e.time

def IsDone (b : Batch α) : Prop := ∀ s ∈ b.slots, s.isOpen = false

/-- One turn leads from the first batch to the second one. -/
inductive Move : Batch α → Turn → Batch α → Prop
  | start {w pre job post agenda} (hcalm : w.cancelled = false)
      (hroom : Slot.running (pre ++ .queued job :: post) < limit) (hfirst : ∀ s ∈ pre, s.isQueued = false) :
    Move ⟨w, pre ++ .queued job :: post, agenda⟩ (.start pre.length)
      ⟨(Slot.advance net job w).1, pre ++ (Slot.advance net job w).2 :: post, agenda⟩
  | wake {w pre s post agenda due} (hdue : s.due? = some due) (hcalm : s.isCancellable → w.cancelled = false)
      (ht : MayReach limit ⟨w, pre ++ s :: post, agenda⟩ due) :
    Move ⟨w, pre ++ s :: post, agenda⟩ (.wake pre.length)
      ⟨(s.wake net (w.atTime due)).1, pre ++ (s.wake net (w.atTime due)).2 :: post, agenda⟩
  | abort {w pre s post agenda} (hs : s.isCancellable) (hx : w.cancelled = true) :
    Move ⟨w, pre ++ s :: post, agenda⟩ (.abort pre.length)
      ⟨(s.abort net w).1, pre ++ (s.abort net w).2 :: post, agenda⟩
  | skip {w pre job post agenda} (hx : w.cancelled = true) (hfirst : ∀ s ∈ pre, s.isQueued = false) :
    Move ⟨w, pre ++ .queued job :: post, agenda⟩ (.skip pre.length) ⟨w, pre ++ .skipped :: post, agenda⟩
  | outside {w slots e rest} (hopen : ∃ s ∈ slots, s.isOpen) (ht : MayReach limit ⟨w, slots, e :: rest⟩ e.time) :
    Move ⟨w, slots, e :: rest⟩ (.outside e) ⟨e.what.apply (w.atTime e.time), slots, rest⟩

inductive Schedule : Batch α → List Turn → Batch α → Prop
  | nil {b} : Schedule b [] b
  | snoc {b ts c t d} (h : Schedule b ts c) (hmove : c.Move net limit t d) : Schedule b (ts ++ [t]) d

/-- The turns lead from the first batch to the second one, where every job has ended or was skipped. -/
structure Finishes (b : Batch α) (ts : List Turn) (c : Batch α) : Prop where
  schedule : b.Schedule net limit ts c
  done : c.IsDone

variable {net limit} {b c d : Batch α} {ts us : List Turn} {t : Turn}

theorem Schedule.trans (h : b.Schedule net limit ts c) (h' : c.Schedule net limit us d) :
    b.Schedule net limit (ts ++ us) d := by
  induction h' with
  | nil => rwa [List.append_nil]
  | snoc _ hmove ih =>
    rw [← List.append_assoc]
    exact .snoc ih hmove

theorem Schedule.cons (hmove : b.Move net limit t c) (h : c.Schedule net limit ts d) :
    b.Schedule net limit (t :: ts) d :=
  (Schedule.nil.snoc hmove).trans h

theorem Schedule.preserves {P : Batch α → Prop} (hP : ∀ {b t c}, b.Move net limit t c → P b → P c)
    (h : b.Schedule net limit ts c) (hb : P b) : P c := by
  induction h with
  | nil => exact hb
  | snoc _ hmove ih => exact hP hmove ih

theorem Move.length_eq (h : b.Move net limit t c) : c.slots.length = b.slots.length := by
  cases h <;> simp

theorem Move.agenda_suffix (h : b.Move net limit t c) : c.agenda <:+ b.agenda := by
  cases h with
  | start | wake | abort | skip => exact List.suffix_rfl
  | outside => exact List.suffix_cons _ _

theorem Schedule.length_eq (h : b.Schedule net limit ts c) : c.slots.length = b.slots.length :=
  h.preserves (P := fun c => c.slots.length = b.slots.length) (fun hmove hb => hmove.length_eq.trans hb) rfl

theorem Schedule.agenda_suffix (h : b.Schedule net limit ts c) : c.agenda <:+ b.agenda :=
  h.preserves (P := fun c => c.agenda <:+ b.agenda) (fun hmove hb => hmove.agenda_suffix.trans hb) List.suffix_rfl

theorem Move.cancelled (h : b.Move net limit t c) (hb : b.world.cancelled = true) : c.world.cancelled = true := by
  cases h with
  | start => exact (Slot.advances _ _ _).cancelled.trans hb
  | wake hdue =>
    exact (Slot.cancelled_wake _ (Slot.isRunning_of_due? hdue) _).trans hb
  | abort hs => exact (Slot.cancelled_abort _ hs _).trans hb
  | skip => exact hb
  | outside => exact Intervention.cancelled_apply _ hb

theorem Schedule.cancelled (h : b.Schedule net limit ts c) (hb : b.world.cancelled = true) :
    c.world.cancelled = true :=
  h.preserves (P := fun c => c.world.cancelled = true) Move.cancelled hb

theorem Move.getElem?_of_ne {i : Nat} (h : b.Move net limit t c) (hi : t.slot? ≠ some i) :
    c.slots[i]? = b.slots[i]? := by
  have hother : ∀ {pre post : List (Slot α)} {s s' : Slot α}, some pre.length ≠ some i →
      (pre ++ s' :: post)[i]? = (pre ++ s :: post)[i]? := by
    intro pre post s s' hne
    have hne : i ≠ pre.length := fun heq => hne (by rw [heq])
    rcases Nat.lt_or_gt_of_ne hne with hlt | hlt
    · rw [List.getElem?_append_left hlt, List.getElem?_append_left hlt]
    · obtain ⟨k, rfl⟩ := Nat.exists_eq_add_of_lt hlt
      rw [List.getElem?_append_right (by omega), List.getElem?_append_right (by omega), Nat.add_assoc,
        Nat.add_sub_cancel_left, List.getElem?_cons_succ, List.getElem?_cons_succ]
  cases h with
  | start | wake | abort | skip => exact hother hi
  | outside => rfl

theorem Move.replaces {i : Nat} (h : b.Move net limit t c) (hi : t.slot? = some i) :
    ∃ pre s s' post, i = pre.length ∧ b.slots = pre ++ s :: post ∧ c.slots = pre ++ s' :: post ∧
      s.Turns net i t b.world c.world s' := by
  cases h with
  | start hcalm => exact ⟨_, _, _, _, (Option.some.inj hi).symm, rfl, rfl, Option.some.inj hi ▸ .start hcalm⟩
  | wake hdue hcalm => exact ⟨_, _, _, _, (Option.some.inj hi).symm, rfl, rfl, Option.some.inj hi ▸ .wake hdue hcalm⟩
  | abort hs hx => exact ⟨_, _, _, _, (Option.some.inj hi).symm, rfl, rfl, Option.some.inj hi ▸ .abort hs hx⟩
  | skip hx => exact ⟨_, _, _, _, (Option.some.inj hi).symm, rfl, rfl, Option.some.inj hi ▸ .skip hx⟩
  | outside => cases hi

theorem Move.turns {i : Nat} (h : b.Move net limit t c) (hi : t.slot? = some i) :
    ∃ s s', b.slots[i]? = some s ∧ c.slots[i]? = some s' ∧ s.Turns net i t b.world c.world s' := by
  obtain ⟨pre, s, s', post, rfl, hb, hc, hturn⟩ := h.replaces hi
  exact ⟨s, s', by simp [hb], by simp [hc], hturn⟩

theorem Move.now_eq (h : b.Move net limit t c) :
    c.world.now = b.world.now ∨ ∃ time, c.world.now = (b.world.atTime time).now ∧ b.MayReach limit time := by
  cases h with
  | start => exact .inl (Slot.advances _ _ _).now
  | wake hdue hcalm ht => exact .inr ⟨_, Slot.now_wake _ (Slot.isRunning_of_due? hdue) _, ht⟩
  | abort hs => exact .inl (Slot.now_abort _ hs _)
  | skip => exact .inl rfl
  | outside hopen ht => exact .inr ⟨_, Intervention.now_apply _ _, ht⟩

/-- Time passes only when there is nothing to be done. -/
theorem Move.not_isBusy (h : b.Move net limit t c) (hnow : b.world.now < c.world.now) : ¬ b.IsBusy limit := by
  rcases h.now_eq with heq | ⟨time, heq, ht | ⟨hbusy, -, -⟩⟩
  · omega
  · have hmax : (b.world.atTime time).now = b.world.now := Nat.max_eq_left ht
    omega
  · exact hbusy

/-! ### No wait is overdue -/

/-- Whether no wait should have ended before this moment. -/
def IsPunctual (b : Batch α) : Prop := ∀ s ∈ b.slots, ∀ due ∈ s.due?, b.world.now ≤ due

theorem isPunctual_of_queued {slots : List (Slot α)} {w : World} {agenda : List AgendaEntry}
    (h : ∀ s ∈ slots, s.isQueued) : IsPunctual ⟨w, slots, agenda⟩ := by
  intro s hs due hdue
  have hq := h s hs
  cases s with
  | queued => cases hdue
  | exchanging | pausing | sleeping | ended | skipped => cases hq

theorem IsPunctual.atTime (hb : b.IsPunctual) {time : Nat} (ht : b.MayReach limit time) :
    ∀ s ∈ b.slots, ∀ due ∈ s.due?, (b.world.atTime time).now ≤ due := by
  intro s hs due hdue
  have hnow := hb s hs due hdue
  rcases ht with ht | ⟨-, hwaits, -⟩
  · exact Nat.max_le.mpr ⟨hnow, Nat.le_trans ht hnow⟩
  · exact Nat.max_le.mpr ⟨hnow, hwaits s hs due hdue⟩

theorem IsPunctual.middle {w' : World} {pre post : List (Slot α)} {s s' : Slot α} {agenda : List AgendaEntry}
    (h : ∀ x ∈ pre ++ s :: post, ∀ due ∈ x.due?, w'.now ≤ due) (hs' : ∀ due ∈ s'.due?, w'.now ≤ due) :
    IsPunctual ⟨w', pre ++ s' :: post, agenda⟩ := forall_replace h hs'

theorem Move.isPunctual (h : b.Move net limit t c) (hb : b.IsPunctual) : c.IsPunctual := by
  have hwaits : ∀ s ∈ b.slots, ∀ due ∈ s.due?, c.world.now ≤ due := by
    rcases h.now_eq with heq | ⟨time, heq, ht⟩
    · rw [heq]
      exact hb
    · rw [heq]
      exact hb.atTime ht
  cases h with
  | start => exact .middle hwaits (Slot.advances _ _ _).le_due
  | wake hdue => exact .middle hwaits (Slot.le_due_wake (Slot.isRunning_of_due? hdue) _)
  | abort hs => exact .middle hwaits (Slot.le_due_abort hs _)
  | skip => exact .middle hwaits (by simp [Slot.due?])
  | outside => exact hwaits

theorem Schedule.isPunctual (h : b.Schedule net limit ts c) (hb : b.IsPunctual) : c.IsPunctual :=
  h.preserves Move.isPunctual hb

/-! ### The schedule of a run -/

end Batch

namespace Slot
variable {α : Type}

theorem changeFirst_eq {p : Slot α → Bool} {f : Slot α → World → World × Slot α} {w : World}
    {slots : List (Slot α)} (h : slots.any p) : ∃ pre s post, slots = pre ++ s :: post ∧
      (∀ x ∈ pre, p x = false) ∧ p s ∧ changeFirst p f w slots = ((f s w).1, pre ++ (f s w).2 :: post) := by
  induction slots with
  | nil => cases h
  | cons x rest ih =>
    by_cases hx : p x
    · exact ⟨[], x, rest, rfl, by simp, hx, by simp [changeFirst, hx]⟩
    · obtain ⟨pre, s, post, rfl, hpre, hs, heq⟩ := ih (by simpa [hx] using h)
      refine ⟨x :: pre, s, post, rfl, List.forall_mem_cons.mpr ⟨by simpa using hx, hpre⟩, hs, ?_⟩
      rw [changeFirst, if_neg hx, heq]
      rfl

theorem eq_queued {s : Slot α} (h : s.isQueued) : ∃ job, s = .queued job := by
  cases s with
  | queued job => exact ⟨job, rfl⟩
  | exchanging | pausing | sleeping | ended | skipped => cases h

theorem le_of_earliestDue? {slots : List (Slot α)} {due : Nat} (h : earliestDue? slots = some due) :
    ∀ s ∈ slots, ∀ d ∈ s.due?, due ≤ d := fun s hs d hd =>
  (List.min?_eq_some_iff.mp h).2 d (List.mem_filterMap.mpr ⟨s, hs, hd⟩)

theorem due?_of_earliestDue? {slots : List (Slot α)} (h : earliestDue? slots = none) :
    ∀ s ∈ slots, s.due? = none := by
  intro s hs
  cases hd : s.due? with
  | none => rfl
  | some due =>
    have := List.mem_filterMap.mpr ⟨s, hs, hd⟩
    rw [List.min?_eq_none_iff.mp h] at this
    cases this

end Slot

namespace Batch
variable {α : Type} {net : Network} {limit : Nat} {b c : Batch α}

theorem change_eq {p : Slot α → Bool} {f : Slot α → World → World × Slot α} (h : b.slots.any p) :
    ∃ pre s post, b = ⟨b.world, pre ++ s :: post, b.agenda⟩ ∧ (∀ x ∈ pre, p x = false) ∧ p s ∧
      b.change p f = ⟨(f s b.world).1, pre ++ (f s b.world).2 :: post, b.agenda⟩ := by
  obtain ⟨pre, s, post, hslots, hpre, hs, heq⟩ := Slot.changeFirst_eq (f := f) (w := b.world) h
  exact ⟨pre, s, post, by rw [← hslots], hpre, hs, by simp only [change, heq]⟩

theorem move_abort (hx : b.world.cancelled = true) (h : b.slots.any Slot.isCancellable) :
    ∃ t, b.Move net limit t (b.change Slot.isCancellable (Slot.abort net)) := by
  obtain ⟨pre, s, post, hb, -, hs, heq⟩ := change_eq (f := Slot.abort net) h
  rw [heq, hb]
  exact ⟨_, .abort hs hx⟩

theorem move_skip (hx : b.world.cancelled = true) (h : b.slots.any Slot.isQueued) :
    ∃ t, b.Move net limit t (b.change Slot.isQueued Slot.skip) := by
  obtain ⟨pre, s, post, hb, hpre, hs, heq⟩ := change_eq (f := Slot.skip) h
  obtain ⟨job, rfl⟩ := Slot.eq_queued hs
  rw [heq, hb]
  exact ⟨_, .skip hx hpre⟩

theorem move_start (hcalm : b.world.cancelled = false) (hroom : Slot.running b.slots < limit)
    (h : b.slots.any Slot.isQueued) : ∃ t, b.Move net limit t (b.change Slot.isQueued (Slot.start net)) := by
  obtain ⟨pre, s, post, hb, hpre, hs, heq⟩ := change_eq (f := Slot.start net) h
  obtain ⟨job, rfl⟩ := Slot.eq_queued hs
  rw [heq, hb]
  exact ⟨_, .start hcalm (by rw [hb] at hroom; exact hroom) hpre⟩

theorem move_wakeAt {due : Nat} (hdue : Slot.earliestDue? b.slots = some due) (hbusy : ¬ b.IsBusy limit)
    (hagenda : ∀ e ∈ b.agenda.head?, due ≤ e.time) : ∃ t, b.Move net limit t (b.wakeAt net due) := by
  obtain ⟨pre, s, post, hb, -, hs, heq⟩ :=
    change_eq (b := b.atTime due) (f := Slot.wake net) (any_due_of_earliestDue? hdue)
  have hb : b = ⟨b.world, pre ++ s :: post, b.agenda⟩ := by
    obtain ⟨w, slots, agenda⟩ := b
    simp only [atTime, mk.injEq] at hb
    rw [hb.2.1]
  refine ⟨.wake pre.length, ?_⟩
  rw [wakeAt, heq, hb]
  refine .wake (by simpa using hs) (fun hc => ?_) (.inr ⟨?_, ?_, hagenda⟩)
  · cases hx : b.world.cancelled with
    | false => rfl
    | true => exact absurd (.inr ⟨hx, s, by rw [hb]; simp, .inr hc⟩) hbusy
  · rwa [← hb]
  · rw [hb] at hdue
    exact Slot.le_of_earliestDue? hdue

theorem move_outside {e : AgendaEntry} {rest : List AgendaEntry} {due : Nat} (hagenda : b.agenda = e :: rest)
    (hdue : Slot.earliestDue? b.slots = some due) (hle : e.time ≤ due) (hbusy : ¬ b.IsBusy limit) :
    ∃ t, b.Move net limit t { b with world := e.what.apply (b.world.atTime e.time), agenda := rest } := by
  have hb : b = ⟨b.world, b.slots, e :: rest⟩ := by rw [← hagenda]
  obtain ⟨s, hs, hd⟩ := List.any_eq_true.mp (any_due_of_earliestDue? hdue)
  have hrunning : s.isRunning := Slot.isRunning_of_due? (by simpa using hd)
  rw [hb]
  refine ⟨_, .outside ⟨s, hs, by simp [Slot.isOpen, hrunning]⟩ (.inr ⟨?_, fun s hs d hd => ?_, by simp⟩)⟩
  · rwa [← hb]
  · exact Nat.le_trans hle (Slot.le_of_earliestDue? hdue s hs d hd)

/-- Each step of a batch is a turn. -/
theorem move_of_step (h : b.step net limit = some c) : ∃ t, b.Move net limit t c := by
  unfold step at h
  split at h
  · rename_i hx
    cases h
    exact move_abort hx.1 hx.2
  · rename_i hnoabort
    split at h
    · rename_i hx
      cases h
      exact move_skip hx.1 hx.2
    · rename_i hnoskip
      split at h
      · rename_i hroom
        cases h
        refine move_start ?_ hroom.1 hroom.2
        cases hc : b.world.cancelled with
        | false => rfl
        | true => exact absurd ⟨hc, hroom.2⟩ hnoskip
      · rename_i hfull
        -- none of the guards held, so only now time may pass
        have hbusy : ¬ b.IsBusy limit := by
          rintro (⟨-, hroom, hq⟩ | ⟨hx, s, hs, hq | hc⟩)
          · exact hfull ⟨hroom, List.any_eq_true.mpr hq⟩
          · exact hnoskip ⟨hx, List.any_eq_true.mpr ⟨s, hs, hq⟩⟩
          · exact hnoabort ⟨hx, List.any_eq_true.mpr ⟨s, hs, hc⟩⟩
        split at h
        · cases h
        · rename_i hdue hagenda
          cases h
          exact move_wakeAt hdue hbusy (by simp [hagenda])
        · rename_i due e rest hdue hagenda
          split at h
          · rename_i hle
            cases h
            exact move_outside hagenda hdue hle hbusy
          · rename_i hlt
            cases h
            refine move_wakeAt hdue hbusy fun e' he' => ?_
            rw [hagenda] at he'
            cases he'
            omega

theorem isDone_of_step (hlimit : 0 < limit) (h : b.step net limit = none) : b.IsDone := by
  unfold step at h
  split at h
  · cases h
  · split at h
    · cases h
    · split at h
      · cases h
      · rename_i hfull
        split at h
        · rename_i hdue
          -- nothing runs, so a job in the queue would have room
          have hrunning : ∀ s ∈ b.slots, s.isRunning = false := by
            intro s hs
            simp [Slot.isRunning, Slot.due?_of_earliestDue? hdue s hs]
          have hnone : Slot.running b.slots = 0 := by
            rw [Slot.running, List.countP_eq_zero]
            intro s hs
            simp [hrunning s hs]
          intro s hs
          have hqueued : s.isQueued = false := by
            cases hq : s.isQueued with
            | false => rfl
            | true => exact absurd ⟨by omega, List.any_eq_true.mpr ⟨s, hs, hq⟩⟩ hfull
          rw [Slot.isOpen, hqueued, hrunning s hs]
          rfl
        · cases h
        · split at h <;> cases h

/-- A run takes one of the schedules, to its end. -/
theorem run_finishes (net : Network) (hlimit : 0 < limit) (b : Batch α) :
    ∃ ts, b.Finishes net limit ts (b.run net limit) := by
  induction b using Batch.run.induct net limit with
  | case1 b h =>
    rw [run_of_step_none h]
    exact ⟨[], .nil, isDone_of_step hlimit h⟩
  | case2 b c h ih =>
    obtain ⟨t, hmove⟩ := move_of_step h
    obtain ⟨ts, hts⟩ := ih
    rw [run_of_step h]
    exact ⟨t :: ts, .cons hmove hts.schedule, hts.done⟩

/-- The batch after so many steps, or when nothing is left to do. -/
def steps (net : Network) (limit : Nat) : Nat → Batch α → Batch α
  | 0, b => b
  | n + 1, b =>
    match b.step net limit with
    | none => b
    | some c => steps net limit n c

theorem run_eq_steps (n : Nat) (h : ((b.steps net limit n).step net limit).isNone) :
    b.run net limit = b.steps net limit n := by
  induction n generalizing b with
  | zero => exact run_of_step_none (Option.isNone_iff_eq_none.mp h)
  | succ n ih =>
    rw [steps] at h ⊢
    cases hstep : b.step net limit with
    | none => exact run_of_step_none hstep
    | some c =>
      rw [hstep] at h
      rw [run_of_step hstep]
      exact ih h

end Batch

/-! ### The batches of calls -/

theorem Slot.Turns.isStarted {α : Type} {net : Network} {i : Nat} {t : Turn} {w w' : World} {s s' : Slot α}
    (h : Slot.Turns net i t w s w' s') (hs : s.isStarted) : s'.isStarted := by
  cases h with
  | start | skip => cases hs
  | wake hdue => exact Slot.isStarted_wake (Slot.isRunning_of_due? hdue) _
  | abort hs => exact Slot.isStarted_abort hs _

namespace Batch
variable {α ι : Type} {net : Network}

/-- A batch of work that is still to be started. -/
def queue (work : ι → Job α) (items : List ι) (w : World) (agenda : List AgendaEntry) : Batch α :=
  ⟨w, items.map fun i => .queued (work i), agenda⟩

/-- A batch of one job that has been started. -/
def alone (net : Network) (job : Job α) (w : World) (agenda : List AgendaEntry) : Batch α :=
  ⟨(Slot.advance net job w).1, [(Slot.advance net job w).2], agenda⟩

def results (fallback : ι → CheckError → α) (items : List ι) (b : Batch α) : List α :=
  List.zipWith (fun i s => s.result (fallback i)) items b.slots

end Batch

theorem runningLimit_pos (concurrency : Nat) : 0 < runningLimit concurrency := by
  unfold runningLimit
  omega

section
variable {α ι : Type} (net : Network)

theorem dispatch_finishes (concurrency : Nat) (agenda : List AgendaEntry) (work : ι → Job α)
    (fallback : ι → CheckError → α) (items : List ι) (w : World) :
    ∃ ts b, (Batch.queue work items w agenda).Finishes net (runningLimit concurrency) ts b ∧
      dispatch net concurrency agenda work fallback items w = (b.world, b.results fallback items) := by
  obtain ⟨ts, h⟩ := Batch.run_finishes net (runningLimit_pos concurrency) (.queue work items w agenda)
  exact ⟨ts, _, h, rfl⟩

end

namespace Checker
variable (c : Checker) (net : Network) (call : Call)

/-- How many jobs of a call run at once. -/
def limit : Nat := runningLimit c.concurrency

def oneBatch (domain : String) : Batch Outcome :=
  .alone net (c.policy.check domain) (call.world c.world) (call.agendaFrom c.world)

def manyBatch (domains : List String) : Batch Outcome :=
  .queue c.policy.check domains (call.world c.world) (call.agendaFrom c.world)

def healthBatch : Batch Health :=
  .queue c.policy.prober.health c.resolvers (call.world c.world) (call.agendaFrom c.world)

def healthFallback (r : Resolver) (e : CheckError) : Health := .failed r.address e

variable {c}

theorem isEmpty_of_ne (h : c.resolvers ≠ []) : c.world.registry.isEmpty = false := by
  cases hrs : c.world.registry.resolvers with
  | nil => exact absurd hrs h
  | cons => simp [Registry.isEmpty, hrs]

theorem calls_of_empty (h : c.resolvers = []) :
    (∀ domain, c.checkOne net call domain = (c, .error (.error .noResolversConfigured))) ∧
      (∀ domains, c.checkMany net call domains = (c, .error .noResolversConfigured)) ∧
      c.health net call = (c, .error .noResolversConfigured) := by
  have hempty : c.world.registry.isEmpty = true := by
    rw [Registry.isEmpty, ← Checker.resolvers, h]
    rfl
  simp [checkOne, checkMany, health, hempty]

theorem checkMany_finishes (h : c.resolvers ≠ []) (domains : List String) :
    ∃ ts b, (c.manyBatch call domains).Finishes net c.limit ts b ∧
      c.checkMany net call domains = ({ c with world := b.world }, .ok (b.results fallback domains)) := by
  obtain ⟨ts, b, hfin, heq⟩ := dispatch_finishes net c.concurrency (call.agendaFrom c.world) c.policy.check fallback
    domains (call.world c.world)
  refine ⟨ts, b, hfin, ?_⟩
  simp only [checkMany, isEmpty_of_ne h, Bool.false_eq_true, if_false, heq]

theorem health_finishes (h : c.resolvers ≠ []) :
    ∃ ts b, (c.healthBatch call).Finishes net c.limit ts b ∧
      c.health net call = ({ c with world := b.world }, .ok (b.results healthFallback c.resolvers)) := by
  obtain ⟨ts, b, hfin, heq⟩ := dispatch_finishes net c.concurrency (call.agendaFrom c.world) c.policy.prober.health
    healthFallback c.resolvers (call.world c.world)
  refine ⟨ts, b, hfin, ?_⟩
  have heq' : dispatch net c.concurrency (call.agendaFrom c.world) c.policy.prober.health
      (fun r e => .failed r.address e) c.resolvers (call.world c.world) =
        (b.world, b.results healthFallback c.resolvers) := heq
  simp only [health, isEmpty_of_ne h, Bool.false_eq_true, if_false, heq']

end Checker

/-- What a caller may do with a checker. The jobs of a call take one of the schedules to its end. -/
inductive Checker.Use : Checker → Checker → Prop
  | checkOne {c net call domain ts b} (h : (c.oneBatch net call domain).Finishes net 1 ts b) :
    Use c { c with world := b.world }
  | checkMany {c net call domains ts b} (h : (c.manyBatch call domains).Finishes net c.limit ts b) :
    Use c { c with world := b.world }
  | health {c net call ts b} (h : (c.healthBatch call).Finishes net c.limit ts b) : Use c { c with world := b.world }
  | upsert {c} (rs : List Resolver) : Use c (c.upsert rs)
  | delete {c} (addresses : List String) : Use c (c.delete addresses)
  | flush {c} : Use c c.flush
  | snapshot {c} : Use c c.snapshot.1
  | elapse {c} (d : Duration) : Use c (c.afterReal d)

/-- The first checker becomes the second one by uses of it, one after the other. -/
def Checker.Used : Checker → Checker → Prop := Relation.ReflTransGen Checker.Use

theorem Checker.used_checkMany (c : Checker) (net : Network) (call : Call) (domains : List String) :
    c.Used (c.checkMany net call domains).1 := by
  by_cases h : c.resolvers = []
  · rw [(calls_of_empty net call h).2.1]
    exact .refl
  · obtain ⟨ts, b, hfin, heq⟩ := checkMany_finishes net call h domains
    rw [heq]
    exact .single (.checkMany hfin)

end FilterWatch
