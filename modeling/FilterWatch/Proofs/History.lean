import FilterWatch.Slot

/-!
# Histories of jobs

`Job.Runs` is what a job does, as a relation: from surroundings `w` the job does the deeds `ds` one after the other,
each of them answered by the surroundings as they are at that moment, and it ends in the surroundings `w'` with a
result. While the job waits, `meanwhile` may change the surroundings in any way. `Runs.bind_inv` takes the history of
a composed job apart, and `Runs.cut` says what stands around the job at any point of it.
-/

namespace FilterWatch

/-- A request of a job with the answer that it got. -/
inductive Deed where
  | resolvers (rs : List Resolver)
  | lookup (key : String) (hit : Option Outcome)
  | store (key : String) (o : Outcome)
  | count (t : Tally)
  | exchange (server : String) (q : Dns.Query) (reply : Reply)
  | withheld (server : String) (q : Dns.Query)
  | pause (d : Duration) (passed : Bool)
  | sleep (d : Duration)
deriving DecidableEq, Repr

namespace Job

/-- The runs of a job. A crash ends the run and is no deed. -/
inductive Runs (net : Network) (meanwhile : World → World → Prop) {α : Type} :
    World → Job α → List Deed → World → Except Fault α → Prop
  | done {w a} : Runs net meanwhile w (.done a) [] w (.ok a)
  | crash {w f} : Runs net meanwhile w (.crash f) [] w (.error f)
  | resolvers {w next ds w' x} (h : Runs net meanwhile w (next w.registry.resolvers) ds w' x) :
    Runs net meanwhile w (.resolvers next) (.resolvers w.registry.resolvers :: ds) w' x
  | lookup {w w₁ key hit next ds w' x} (hl : w.lookup key = (w₁, .ok hit))
      (h : Runs net meanwhile w₁ (next hit) ds w' x) :
    Runs net meanwhile w (.lookup key next) (.lookup key hit :: ds) w' x
  | lookupCrash {w w₁ key f next} (hl : w.lookup key = (w₁, .error f)) :
    Runs net meanwhile w (.lookup key next) [] w₁ (.error f)
  | store {w w₁ key o next ds w' x} (hs : w.store key o = (w₁, none))
      (h : Runs net meanwhile w₁ next ds w' x) :
    Runs net meanwhile w (.store key o next) (.store key o :: ds) w' x
  | storeCrash {w w₁ key o f next} (hs : w.store key o = (w₁, some f)) :
    Runs net meanwhile w (.store key o next) [] w₁ (.error f)
  | count {w t next ds w' x} (h : Runs net meanwhile (w.count t) next ds w' x) :
    Runs net meanwhile w (.count t next) (.count t :: ds) w' x
  | exchange {w w₁ w₂ limit server q wait arrival reply next ds w' x} (hc : w.cancelled = false)
      (ha : (net server q (w.exchangesWith server q.name)).arrival limit = (wait, arrival))
      (hm : meanwhile (w.probeStarted.note (.exchange server q)) w₁) (ht : w₁.now ≤ w.now + wait)
      (he : (w₁.atTime (w.now + wait)).endExchange server q w.now arrival = (w₂, .ok reply))
      (h : Runs net meanwhile w₂ (next reply) ds w' x) :
    Runs net meanwhile w (.exchange limit server q next) (.exchange server q reply :: ds) w' x
  | exchangeCrash {w w₁ w₂ limit server q wait arrival f next} (hc : w.cancelled = false)
      (ha : (net server q (w.exchangesWith server q.name)).arrival limit = (wait, arrival))
      (hm : meanwhile (w.probeStarted.note (.exchange server q)) w₁) (ht : w₁.now ≤ w.now + wait)
      (he : (w₁.atTime (w.now + wait)).endExchange server q w.now arrival = (w₂, .error f)) :
    Runs net meanwhile w (.exchange limit server q next) [] w₂ (.error f)
  | exchangeAborted {w w₁ limit server q next ds w' x} (hc : w.cancelled = false)
      (hm : meanwhile (w.probeStarted.note (.exchange server q)) w₁) (hx : w₁.cancelled = true)
      (h : Runs net meanwhile w₁.probeDropped (next .cancelled) ds w' x) :
    Runs net meanwhile w (.exchange limit server q next) (.exchange server q .cancelled :: ds) w' x
  | withheld {w limit server q next ds w' x} (hc : w.cancelled = true)
      (h : Runs net meanwhile w.probeStarted.probeDropped (next .cancelled) ds w' x) :
    Runs net meanwhile w (.exchange limit server q next) (.withheld server q :: ds) w' x
  | pause {w w₁ d next ds w' x} (hc : w.cancelled = false) (hm : meanwhile w w₁)
      (ht : w₁.now ≤ w.now + timerMillis d)
      (h : Runs net meanwhile (w₁.atTime (w.now + timerMillis d)) (next true) ds w' x) :
    Runs net meanwhile w (.pause d next) (.pause d true :: ds) w' x
  | pauseAborted {w w₁ d next ds w' x} (hm : meanwhile w w₁) (hx : w₁.cancelled = true)
      (h : Runs net meanwhile w₁ (next false) ds w' x) :
    Runs net meanwhile w (.pause d next) (.pause d false :: ds) w' x
  | sleep {w w₁ d next ds w' x} (hm : meanwhile w w₁) (ht : w₁.now ≤ w.now + timerMillis d)
      (h : Runs net meanwhile (w₁.atTime (w.now + timerMillis d)) next ds w' x) :
    Runs net meanwhile w (.sleep d next) (.sleep d :: ds) w' x

/-- A run in two parts: the first one crashes, or it has a result and the second part goes on with it. -/
def RunsInParts (net : Network) (meanwhile : World → World → Prop) {α β : Type} (w : World) (j : Job α)
    (f : α → Job β) (ds : List Deed) (w' : World) (x : Except Fault β) : Prop :=
  (∃ a w₁ ds₁ ds₂, Runs net meanwhile w j ds₁ w₁ (.ok a) ∧ Runs net meanwhile w₁ (f a) ds₂ w' x ∧
    ds = ds₁ ++ ds₂) ∨
  ∃ e, Runs net meanwhile w j ds w' (.error e) ∧ x = .error e

section
variable {net : Network} {meanwhile : World → World → Prop} {α β : Type} {w w' : World} {ds : List Deed}

theorem RunsInParts.cons {w₁ : World} {j j₁ : Job α} {f : α → Job β} {d : Deed} {x : Except Fault β}
    (hj : ∀ ds w' y, Runs net meanwhile w₁ j₁ ds w' y → Runs net meanwhile w j (d :: ds) w' y)
    (h : RunsInParts net meanwhile w₁ j₁ f ds w' x) : RunsInParts net meanwhile w j f (d :: ds) w' x := by
  rcases h with ⟨a, w₂, ds₁, ds₂, h₁, h₂, rfl⟩ | ⟨e, he, rfl⟩
  · exact .inl ⟨a, w₂, d :: ds₁, ds₂, hj _ _ _ h₁, h₂, rfl⟩
  · exact .inr ⟨e, hj _ _ _ he, rfl⟩

theorem Runs.bind_inv {j : Job α} {f : α → Job β} {x : Except Fault β}
    (h : Runs net meanwhile w (j.bind f) ds w' x) : RunsInParts net meanwhile w j f ds w' x := by
  induction j generalizing w ds with
  | done a => exact .inl ⟨a, w, [], ds, .done, h, rfl⟩
  | crash e => cases h; exact .inr ⟨e, .crash, rfl⟩
  | resolvers next ih =>
    cases h with
    | resolvers h => exact (ih _ h).cons fun _ _ _ => .resolvers
  | lookup key next ih =>
    cases h with
    | lookup hl h => exact (ih _ h).cons fun _ _ _ => .lookup hl
    | lookupCrash hl => exact .inr ⟨_, .lookupCrash hl, rfl⟩
  | store key o next ih =>
    cases h with
    | store hs h => exact (ih h).cons fun _ _ _ => .store hs
    | storeCrash hs => exact .inr ⟨_, .storeCrash hs, rfl⟩
  | count t next ih =>
    cases h with
    | count h => exact (ih h).cons fun _ _ _ => .count
  | exchange limit server q next ih =>
    cases h with
    | exchange hc ha hm ht he h => exact (ih _ h).cons fun _ _ _ => .exchange hc ha hm ht he
    | exchangeCrash hc ha hm ht he => exact .inr ⟨_, .exchangeCrash hc ha hm ht he, rfl⟩
    | exchangeAborted hc hm hx h => exact (ih _ h).cons fun _ _ _ => .exchangeAborted hc hm hx
    | withheld hc h => exact (ih _ h).cons fun _ _ _ => .withheld hc
  | pause d next ih =>
    cases h with
    | pause hc hm ht h => exact (ih _ h).cons fun _ _ _ => .pause hc hm ht
    | pauseAborted hm hx h => exact (ih _ h).cons fun _ _ _ => .pauseAborted hm hx
  | sleep d next ih =>
    cases h with
    | sleep hm ht h => exact (ih h).cons fun _ _ _ => .sleep hm ht

theorem Runs.bind_ok {j : Job α} {f : α → Job β} {b : β} (h : Runs net meanwhile w (j.bind f) ds w' (.ok b)) :
    ∃ a w₁ ds₁ ds₂, Runs net meanwhile w j ds₁ w₁ (.ok a) ∧ Runs net meanwhile w₁ (f a) ds₂ w' (.ok b) ∧
      ds = ds₁ ++ ds₂ := by
  rcases h.bind_inv with h | ⟨e, -, he⟩
  · exact h
  · cases he

end
end Job

/-! ### What a run keeps -/

namespace World

/-- The surroundings but for the counters, the time and the journal. -/
def standing (w : World) : Registry × Cache × Nat × Bool := (w.registry, w.cache, w.cacheClock, w.cancelled)

theorem standing_count (w : World) (t : Tally) : (w.count t).standing = w.standing := by cases t <;> rfl

theorem standing_endExchange (w : World) (server : String) (q : Dns.Query) (started : Nat) (a : Arrival) :
    (w.endExchange server q started a).1.standing = w.standing := by cases a <;> rfl

theorem cancelled_of_standing {w w' : World} (h : w.standing = w'.standing) : w.cancelled = w'.cancelled :=
  congrArg (·.2.2.2) h

end World

/-- Whether cancellation had no part in a deed. -/
def Deed.isCalm : Deed → Bool
  | exchange _ _ .cancelled | withheld _ _ | pause _ false => false
  | _ => true

namespace Job.Runs
variable {net : Network} {meanwhile : World → World → Prop} {α : Type} {w w' : World} {job : Job α} {ds : List Deed}

/-- A run can be cut behind any of its deeds. What stands around the job keeps a property up to there when the reads
and writes of the cache, and what happens while the job waits, keep it. -/
theorem cut {P : World → Prop} {D : Deed → Prop} {ds₁ ds₂ : List Deed} {x : Except Fault α}
    (h : job.Runs net meanwhile w (ds₁ ++ ds₂) w' x) (hds : ∀ d ∈ ds₁, D d)
    (hP : ∀ w w', w.standing = w'.standing → P w → P w') (hmean : ∀ w w', meanwhile w w' → P w → P w')
    (hlookup : ∀ w w₁ key hit, D (.lookup key hit) → w.lookup key = (w₁, .ok hit) → P w → P w₁)
    (hstore : ∀ w w₁ key o, D (.store key o) → w.store key o = (w₁, none) → P w → P w₁) (hw : P w) :
    ∃ w₁, ∃ job₁ : Job α, P w₁ ∧ job₁.Runs net meanwhile w₁ ds₂ w' x := by
  have hend : ∀ {w w₂ : World} {time server q started arrival reply},
      (w.atTime time).endExchange server q started arrival = (w₂, .ok reply) → P w → P w₂ := by
    intro w w₂ time server q started arrival reply he
    refine hP w w₂ ?_
    have := World.standing_endExchange (w.atTime time) server q started arrival
    rw [he] at this; exact this.symm
  induction ds₁ generalizing w job with
  | nil => exact ⟨w, job, hw, h⟩
  | cons d ds₁ ih =>
    obtain ⟨hd, htail⟩ := List.forall_mem_cons.mp hds
    cases h with
    | resolvers h => exact ih h htail hw
    | lookup hl h => exact ih h htail (hlookup _ _ _ _ hd hl hw)
    | store hs h => exact ih h htail (hstore _ _ _ _ hd hs hw)
    | count h => exact ih h htail (hP _ _ (World.standing_count _ _).symm hw)
    | exchange _ _ hm _ he h => exact ih h htail (hend he (hmean _ _ hm (hP _ _ (by rfl) hw)))
    | exchangeAborted _ hm _ h => exact ih h htail (hP _ _ (by rfl) (hmean _ _ hm (hP _ _ (by rfl) hw)))
    | withheld _ h => exact ih h htail (hP _ _ (by rfl) hw)
    | pause _ hm _ h => exact ih h htail (hP _ _ (by rfl) (hmean _ _ hm hw))
    | pauseAborted hm _ h => exact ih h htail (hmean _ _ hm hw)
    | sleep hm _ h => exact ih h htail (hP _ _ (by rfl) (hmean _ _ hm hw))

theorem eq_of_no_deeds {a : α} (h : job.Runs net meanwhile w [] w' (.ok a)) : w' = w := by
  cases h; rfl

theorem cons_resolvers {rs : List Resolver} {x : Except Fault α}
    (h : job.Runs net meanwhile w (.resolvers rs :: ds) w' x) :
    ∃ job₁ : Job α, job₁.Runs net meanwhile w ds w' x := by
  cases h with
  | resolvers h => exact ⟨_, h⟩

theorem cons_lookup {key : String} {hit : Option Outcome} {x : Except Fault α}
    (h : job.Runs net meanwhile w (.lookup key hit :: ds) w' x) :
    ∃ w₁, ∃ job₁ : Job α, w.lookup key = (w₁, .ok hit) ∧ job₁.Runs net meanwhile w₁ ds w' x := by
  cases h with
  | lookup hl h => exact ⟨_, _, hl, h⟩

theorem cons_store {key : String} {o : Outcome} {x : Except Fault α}
    (h : job.Runs net meanwhile w (.store key o :: ds) w' x) :
    ∃ w₁, ∃ job₁ : Job α, w.store key o = (w₁, none) ∧ job₁.Runs net meanwhile w₁ ds w' x := by
  cases h with
  | store hs h => exact ⟨_, _, hs, h⟩

theorem cons_count {t : Tally} {x : Except Fault α} (h : job.Runs net meanwhile w (.count t :: ds) w' x) :
    ∃ job₁ : Job α, job₁.Runs net meanwhile (w.count t) ds w' x := by
  cases h with
  | count h => exact ⟨_, h⟩

/-- Without cancellation from outside, cancellation has no part in a run. -/
theorem calm {x : Except Fault α} (h : job.Runs net meanwhile w ds w' x)
    (hmean : ∀ w w', meanwhile w w' → w.cancelled = false → w'.cancelled = false) (hw : w.cancelled = false) :
    ∀ d ∈ ds, d.isCalm := by
  induction h with
  | done | crash | lookupCrash | storeCrash | exchangeCrash => simp
  | resolvers _ ih => exact List.forall_mem_cons.mpr ⟨rfl, ih hw⟩
  | lookup hl _ ih => exact List.forall_mem_cons.mpr ⟨rfl, ih ((congrArg (·.1.cancelled) hl).symm.trans hw)⟩
  | store hs _ ih => exact List.forall_mem_cons.mpr ⟨rfl, ih ((congrArg (·.1.cancelled) hs).symm.trans hw)⟩
  | count _ ih =>
    exact List.forall_mem_cons.mpr ⟨rfl, ih ((World.cancelled_of_standing (World.standing_count _ _)).trans hw)⟩
  | @exchange w w₁ w₂ _ server q wait arrival reply _ _ _ _ _ _ hm _ he _ ih =>
    have hw₁ : w₁.cancelled = false := hmean _ _ hm hw
    have hw₂ := World.cancelled_of_standing
      (World.standing_endExchange (w₁.atTime (w.now + wait)) server q w.now arrival)
    rw [he] at hw₂
    refine List.forall_mem_cons.mpr ⟨?_, ih (hw₂.trans hw₁)⟩
    cases arrival <;> cases he <;> rfl
  | exchangeAborted _ hm hx =>
    rw [hmean _ _ hm hw] at hx; cases hx
  | withheld hc => rw [hw] at hc; cases hc
  | pause _ hm _ _ ih =>
    have hw₁ := hmean _ _ hm hw
    exact List.forall_mem_cons.mpr ⟨rfl, ih hw₁⟩
  | pauseAborted hm hx => rw [hmean _ _ hm hw] at hx; cases hx
  | sleep hm _ _ ih =>
    have hw₁ := hmean _ _ hm hw
    exact List.forall_mem_cons.mpr ⟨rfl, ih hw₁⟩

end Job.Runs

/-! ### Exchanges -/

def Happening.isExchange : Happening → Bool
  | exchange _ _ => true
  | _ => false

def Deed.isExchange : Deed → Bool
  | exchange _ _ _ => true
  | _ => false

namespace World

def exchanges (w : World) : Nat := w.journal.countP (·.what.isExchange)

theorem exchanges_note (w : World) (h : Happening) :
    (w.note h).exchanges = w.exchanges + if h.isExchange then 1 else 0 := List.countP_cons

theorem exchanges_lookup (w : World) (key : String) : (w.lookup key).1.exchanges = w.exchanges :=
  exchanges_note _ _

theorem exchanges_store (w : World) (key : String) (o : Outcome) : (w.store key o).1.exchanges = w.exchanges :=
  exchanges_note _ _

theorem exchanges_count (w : World) (t : Tally) : (w.count t).exchanges = w.exchanges := by cases t <;> rfl

theorem exchanges_endExchange (w : World) (server : String) (q : Dns.Query) (started : Nat) (a : Arrival) :
    (w.endExchange server q started a).1.exchanges = w.exchanges := by
  cases a with
  | message m => exact exchanges_note _ _
  | failed | timedOut | crashed => rfl

end World

theorem Job.Runs.exchanges {net : Network} {meanwhile : World → World → Prop} {α : Type} {w w' : World} {job : Job α}
    {ds : List Deed} {a : α} (h : job.Runs net meanwhile w ds w' (.ok a))
    (hmean : ∀ w w', meanwhile w w' → w'.exchanges = w.exchanges) :
    w'.exchanges = w.exchanges + ds.countP Deed.isExchange := by
  generalize hx : Except.ok a = x at h
  induction h with
  | done => rfl
  | crash | lookupCrash | storeCrash | exchangeCrash => cases hx
  | resolvers _ ih => exact ih hx
  | @lookup w _ key _ _ _ _ _ hl _ ih =>
    have := World.exchanges_lookup w key
    rw [hl] at this
    rw [ih hx, this]; rfl
  | @store w _ key o _ _ _ _ hs _ ih =>
    have := World.exchanges_store w key o
    rw [hs] at this
    rw [ih hx, this]; rfl
  | count _ ih => rw [ih hx, World.exchanges_count]; rfl
  | @exchange w w₁ _ _ server q wait arrival _ _ _ _ _ _ _ hm _ he _ ih =>
    have hend := World.exchanges_endExchange (w₁.atTime (w.now + wait)) server q w.now arrival
    have hsent := World.exchanges_note w.probeStarted (.exchange server q)
    rw [he] at hend
    calc _ = _ := ih hx
      _ = w₁.exchanges + _ := by rw [hend]; rfl
      _ = w.exchanges + 1 + _ := by rw [hmean _ _ hm, hsent]; rfl
      _ = _ := by rw [List.countP_cons_of_pos rfl]; omega
  | @exchangeAborted w w₁ _ server q _ _ _ _ _ hm _ _ ih =>
    have hsent := World.exchanges_note w.probeStarted (.exchange server q)
    calc _ = w₁.exchanges + _ := ih hx
      _ = w.exchanges + 1 + _ := by rw [hmean _ _ hm, hsent]; rfl
      _ = _ := by rw [List.countP_cons_of_pos rfl]; omega
  | withheld _ _ ih => exact ih hx
  | pause _ hm _ _ ih => rw [ih hx, ← hmean _ _ hm]; rfl
  | pauseAborted hm _ _ ih => rw [ih hx, hmean _ _ hm]; rfl
  | sleep hm _ _ ih => rw [ih hx, ← hmean _ _ hm]; rfl

end FilterWatch
