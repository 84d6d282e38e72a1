import FilterWatch.Slot

/-!
# From one wait to the next

What a job does when it has the turn. `Slot.Advances` says it as a relation: the requests that the surroundings answer
at once, up to the first wait or to the end. `Slot.advances` is the main statement, that `advance` does nothing else;
what single requests keep of the surroundings a turn keeps too (`Advances.preserves`).
-/

namespace FilterWatch

namespace Slot
variable {α : Type} (net : Network)

/-- How a job runs until it ends or has to wait. -/
inductive Advances : World → Job α → World → Slot α → Prop
  | done {w a} : Advances w (.done a) w (.ended (.ok a))
  | crash {w f} : Advances w (.crash f) w (.ended (.error f))
  | resolvers {w next w' s} (h : Advances w (next w.registry.resolvers) w' s) : Advances w (.resolvers next) w' s
  | lookup {w w₁ key hit next w' s} (hl : w.lookup key = (w₁, .ok hit)) (h : Advances w₁ (next hit) w' s) :
    Advances w (.lookup key next) w' s
  | lookupCrash {w w₁ key f next} (hl : w.lookup key = (w₁, .error f)) :
    Advances w (.lookup key next) w₁ (.ended (.error f))
  | store {w w₁ key o next w' s} (hs : w.store key o = (w₁, none)) (h : Advances w₁ next w' s) :
    Advances w (.store key o next) w' s
  | storeCrash {w w₁ key o f next} (hs : w.store key o = (w₁, some f)) :
    Advances w (.store key o next) w₁ (.ended (.error f))
  | count {w t next w' s} (h : Advances (w.count t) next w' s) : Advances w (.count t next) w' s
  | withheld {w limit server q next w' s} (hx : w.cancelled = true)
      (h : Advances w.probeStarted.probeDropped (next .cancelled) w' s) :
    Advances w (.exchange limit server q next) w' s
  | replied {w w₁ limit server q arrival reply next w' s} (hc : w.cancelled = false)
      (ha : (net server q (w.exchangesWith server q.name)).arrival limit = (0, arrival))
      (he : (w.probeStarted.note (.exchange server q)).endExchange server q w.now arrival = (w₁, .ok reply))
      (h : Advances w₁ (next reply) w' s) :
    Advances w (.exchange limit server q next) w' s
  | repliedCrash {w w₁ limit server q arrival f next} (hc : w.cancelled = false)
      (ha : (net server q (w.exchangesWith server q.name)).arrival limit = (0, arrival))
      (he : (w.probeStarted.note (.exchange server q)).endExchange server q w.now arrival = (w₁, .error f)) :
    Advances w (.exchange limit server q next) w₁ (.ended (.error f))
  | sent {w limit server q wait arrival next} (hc : w.cancelled = false)
      (ha : (net server q (w.exchangesWith server q.name)).arrival limit = (wait, arrival)) (hw : wait ≠ 0) :
    Advances w (.exchange limit server q next) (w.probeStarted.note (.exchange server q))
      (.exchanging (w.now + wait) server q w.now arrival next)
  | refused {w d next w' s} (hx : w.cancelled = true) (h : Advances w (next false) w' s) :
    Advances w (.pause d next) w' s
  | passed {w d next w' s} (hc : w.cancelled = false) (hz : timerMillis d = 0) (h : Advances w (next true) w' s) :
    Advances w (.pause d next) w' s
  | paused {w d next} (hc : w.cancelled = false) (hz : timerMillis d ≠ 0) :
    Advances w (.pause d next) w (.pausing (w.now + timerMillis d) next)
  | slept {w d next w' s} (hz : timerMillis d = 0) (h : Advances w next w' s) : Advances w (.sleep d next) w' s
  | asleep {w d next} (hz : timerMillis d ≠ 0) :
    Advances w (.sleep d next) w (.sleeping (w.now + timerMillis d) next)

theorem advances (job : Job α) : ∀ w, Advances net w job (advance net job w).1 (advance net job w).2 := by
  induction job with
  | done => exact fun _ => .done
  | crash => exact fun _ => .crash
  | resolvers next ih => exact fun w => .resolvers (ih _ w)
  | lookup key next ih =>
    intro w
    rcases hl : w.lookup key with ⟨w₁, f | hit⟩
    · simp only [advance, hl]
      exact .lookupCrash hl
    · simp only [advance, hl]
      exact .lookup hl (ih hit w₁)
  | store key o next ih =>
    intro w
    rcases hs : w.store key o with ⟨w₁, _ | f⟩
    · simp only [advance, hs]
      exact .store hs (ih w₁)
    · simp only [advance, hs]
      exact .storeCrash hs
  | count t next ih => exact fun w => .count (ih _)
  | exchange limit server q next ih =>
    intro w
    cases hc : w.cancelled with
    | true =>
      simp only [advance, hc, if_true]
      exact .withheld hc (ih _ _)
    | false =>
      rcases ha : (net server q (w.exchangesWith server q.name)).arrival limit with ⟨wait, arrival⟩
      simp only [advance, hc, ha, Bool.false_eq_true, if_false]
      by_cases hw : wait = 0
      · subst hw
        rw [if_pos rfl]
        rcases he : (w.probeStarted.note (.exchange server q)).endExchange server q w.now arrival with
          ⟨w₁, f | reply⟩
        · exact .repliedCrash hc ha he
        · exact .replied hc ha he (ih reply w₁)
      · rw [if_neg hw]
        exact .sent hc ha hw
  | pause d next ih =>
    intro w
    cases hc : w.cancelled with
    | true =>
      simp only [advance, hc, if_true]
      exact .refused hc (ih _ _)
    | false =>
      simp only [advance, hc, Bool.false_eq_true, if_false]
      by_cases hz : timerMillis d = 0
      · rw [if_pos hz]
        exact .passed hc hz (ih _ _)
      · rw [if_neg hz]
        exact .paused hc hz
  | sleep d next ih =>
    intro w
    rw [advance]
    by_cases hz : timerMillis d = 0
    · rw [if_pos hz]
      exact .slept hz (ih _)
    · rw [if_neg hz]
      exact .asleep hz

namespace Advances
variable {net} {w w' : World} {job : Job α} {s : Slot α}

/-- What single requests keep of the surroundings, a turn keeps. -/
theorem preserves {P : World → Prop} (hlookup : ∀ w key, P w → P (w.lookup key).1)
    (hstore : ∀ w key o, P w → P (w.store key o).1) (hcount : ∀ w t, P w → P (w.count t))
    (hsend : ∀ w server q, P w → P (w.probeStarted.note (.exchange server q)))
    (hdrop : ∀ w, P w → P w.probeStarted.probeDropped)
    (hend : ∀ w server q started a, P w → P (w.endExchange server q started a).1)
    (h : Advances net w job w' s) (hw : P w) : P w' := by
  have hstep : ∀ {β : Type} {w₁ : World} {x : β} {y : World × β}, y = (w₁, x) → P y.1 → P w₁ := by
    rintro _ _ _ _ rfl hy
    exact hy
  induction h with
  | done | crash | paused | asleep => exact hw
  | resolvers _ ih | refused _ _ ih | passed _ _ _ ih | slept _ _ ih => exact ih hw
  | lookup hl _ ih => exact ih (hstep hl (hlookup _ _ hw))
  | lookupCrash hl => exact hstep hl (hlookup _ _ hw)
  | store hs _ ih => exact ih (hstep hs (hstore _ _ _ hw))
  | storeCrash hs => exact hstep hs (hstore _ _ _ hw)
  | count _ ih => exact ih (hcount _ _ hw)
  | withheld _ _ ih => exact ih (hdrop _ hw)
  | replied _ _ he _ ih => exact ih (hstep he (hend _ _ _ _ _ (hsend _ _ _ hw)))
  | repliedCrash _ _ he => exact hstep he (hend _ _ _ _ _ (hsend _ _ _ hw))
  | sent => exact hsend _ _ _ hw

end Advances
end Slot

/-! ### What jobs leave alone -/

namespace World
variable {w w' : World}

/-- The surroundings as jobs find them: the resolvers, the clocks and the token. -/
def setting (w : World) : Registry × Nat × Nat × Bool := (w.registry, w.now, w.cacheClock, w.cancelled)

theorem now_of_setting (h : w.setting = w'.setting) : w.now = w'.now := congrArg (·.2.1) h

theorem cancelled_of_setting (h : w.setting = w'.setting) : w.cancelled = w'.cancelled := congrArg (·.2.2.2) h

theorem atTime_now (w : World) : w.atTime w.now = w := by simp [atTime]

theorem setting_count (w : World) (t : Tally) : (w.count t).setting = w.setting := by cases t <;> rfl

theorem setting_endExchange (w : World) (server : String) (q : Dns.Query) (started : Nat) (a : Arrival) :
    (w.endExchange server q started a).1.setting = w.setting := by cases a <;> rfl

end World

namespace Slot
variable {α : Type} {net : Network} {w w' : World} {job : Job α} {s : Slot α}

theorem Advances.setting (h : Advances net w job w' s) : w'.setting = w.setting :=
  h.preserves (P := fun w' => w'.setting = w.setting) (fun _ _ hw => hw) (fun _ _ _ hw => hw)
    (fun w' t hw => (World.setting_count w' t).trans hw) (fun _ _ _ hw => hw) (fun _ hw => hw)
    (fun w' server q started a hw => (World.setting_endExchange w' server q started a).trans hw) rfl

theorem wake_cases (net : Network) {s : Slot α} (hs : s.isRunning) (w : World) : ∃ w₁, w₁.setting = w.setting ∧
    ((∃ job, Advances net w₁ job (s.wake net w).1 (s.wake net w).2) ∨ ∃ f, s.wake net w = (w₁, .ended (.error f))) := by
  cases s with
  | exchanging due server q started arrival next =>
    have hend := World.setting_endExchange w server q started arrival
    rw [wake]
    split
    · rename_i he
      rw [he] at hend
      exact ⟨_, hend, .inl ⟨_, advances _ _ _⟩⟩
    · rename_i he
      rw [he] at hend
      exact ⟨_, hend, .inr ⟨_, rfl⟩⟩
  | pausing | sleeping => exact ⟨w, rfl, .inl ⟨_, advances _ _ _⟩⟩
  | queued | ended | skipped => cases hs

theorem abort_cases (net : Network) {s : Slot α} (hs : s.isCancellable) (w : World) : ∃ w₁, w₁.setting = w.setting ∧
    ∃ job, Advances net w₁ job (s.abort net w).1 (s.abort net w).2 := by
  cases s with
  | exchanging => exact ⟨w.probeDropped, rfl, _, advances _ _ _⟩
  | pausing => exact ⟨w, rfl, _, advances _ _ _⟩
  | queued | sleeping | ended | skipped => cases hs

theorem setting_wake (net : Network) {s : Slot α} (hs : s.isRunning) (w : World) :
    (s.wake net w).1.setting = w.setting := by
  obtain ⟨w₁, hset, ⟨job, h⟩ | ⟨f, h⟩⟩ := wake_cases net hs w
  · exact h.setting.trans hset
  · rw [h, hset]

theorem setting_abort (net : Network) {s : Slot α} (hs : s.isCancellable) (w : World) :
    (s.abort net w).1.setting = w.setting := by
  obtain ⟨w₁, hset, job, h⟩ := abort_cases net hs w
  exact h.setting.trans hset

theorem Advances.now (h : Advances net w job w' s) : w'.now = w.now := World.now_of_setting h.setting

theorem Advances.cancelled (h : Advances net w job w' s) : w'.cancelled = w.cancelled :=
  World.cancelled_of_setting h.setting

theorem now_wake (net : Network) {s : Slot α} (hs : s.isRunning) (w : World) : (s.wake net w).1.now = w.now :=
  World.now_of_setting (setting_wake net hs w)

theorem cancelled_wake (net : Network) {s : Slot α} (hs : s.isRunning) (w : World) :
    (s.wake net w).1.cancelled = w.cancelled := World.cancelled_of_setting (setting_wake net hs w)

theorem now_abort (net : Network) {s : Slot α} (hs : s.isCancellable) (w : World) : (s.abort net w).1.now = w.now :=
  World.now_of_setting (setting_abort net hs w)

theorem cancelled_abort (net : Network) {s : Slot α} (hs : s.isCancellable) (w : World) :
    (s.abort net w).1.cancelled = w.cancelled := World.cancelled_of_setting (setting_abort net hs w)

/-! ### Where a turn leads -/

/-- Whether the job has been started. -/
def isStarted : Slot α → Bool
  | queued _ | skipped => false
  | _ => true

def isExchanging : Slot α → Bool
  | exchanging .. => true
  | _ => false

theorem isRunning_of_due? {s : Slot α} {due : Nat} (h : s.due? = some due) : s.isRunning := by
  simp [isRunning, h]

theorem isStarted_of_isRunning {s : Slot α} (h : s.isRunning) : s.isStarted := by
  cases s <;> first | rfl | cases h

theorem isRunning_of_isCancellable {s : Slot α} (h : s.isCancellable) : s.isRunning := by
  cases s <;> first | rfl | cases h

theorem Advances.isStarted (h : Advances net w job w' s) : s.isStarted := by
  induction h with
  | done | crash | lookupCrash | storeCrash | repliedCrash | sent | paused | asleep => rfl
  | resolvers _ ih | lookup _ _ ih | store _ _ ih | count _ ih | withheld _ _ ih | replied _ _ _ _ ih
  | refused _ _ ih | passed _ _ _ ih | slept _ _ ih => exact ih

theorem Advances.le_due (h : Advances net w job w' s) : ∀ due ∈ s.due?, w'.now ≤ due := by
  induction h with
  | done | crash | lookupCrash | storeCrash | repliedCrash => simp [due?]
  | resolvers _ ih | lookup _ _ ih | store _ _ ih | count _ ih | withheld _ _ ih | replied _ _ _ _ ih
  | refused _ _ ih | passed _ _ _ ih | slept _ _ ih => exact ih
  | sent | paused | asleep =>
    intro due hdue
    cases hdue
    exact Nat.le_add_right _ _

theorem isStarted_wake {s : Slot α} (hs : s.isRunning) (w : World) : (s.wake net w).2.isStarted := by
  obtain ⟨w₁, -, ⟨job, h⟩ | ⟨f, h⟩⟩ := wake_cases net hs w
  · exact h.isStarted
  · rw [h]
    rfl

theorem isStarted_abort {s : Slot α} (hs : s.isCancellable) (w : World) : (s.abort net w).2.isStarted := by
  obtain ⟨w₁, -, job, h⟩ := abort_cases net hs w
  exact h.isStarted

theorem le_due_wake {s : Slot α} (hs : s.isRunning) (w : World) :
    ∀ due ∈ (s.wake net w).2.due?, (s.wake net w).1.now ≤ due := by
  obtain ⟨w₁, -, ⟨job, h⟩ | ⟨f, h⟩⟩ := wake_cases net hs w
  · exact h.le_due
  · rw [h]
    simp [due?]

theorem le_due_abort {s : Slot α} (hs : s.isCancellable) (w : World) :
    ∀ due ∈ (s.abort net w).2.due?, (s.abort net w).1.now ≤ due := by
  obtain ⟨w₁, -, job, h⟩ := abort_cases net hs w
  exact h.le_due

end Slot
end FilterWatch
