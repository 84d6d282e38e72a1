import FilterWatch.Proofs.Versions

/-!
# Traces

What a job leaves in the journal, from its start to its end, and what it comes to. A `Job.Trace` says this of the job
alone: any reply may come from the network, but the cache does only what it does in the surroundings that the job meets
(`World.replies`). Every turn of a job is part of one of its traces (`Slot.Advances.trace`, `Slot.Turns.trace`). What
jobs and the outside keep up in the surroundings (`World.Lasting`) is there all along.
-/

namespace FilterWatch

def Happening.isMessage : Happening → Bool
  | exchange .. | answer .. => true
  | _ => false

def Happening.isStore : Happening → Bool
  | store .. => true
  | _ => false

theorem Happening.isStore_of_isMessage {h : Happening} (hh : h.isMessage) : h.isStore = false := by
  cases h with
  | exchange | answer => rfl
  | lookup | store | flush => cases hh

namespace Event

/-- What happened, in the order in which it happened, by entries of a journal. -/
def story (es : List Event) : List Happening := (es.map (·.what)).reverse

theorem story_append (es es' : List Event) : story (es ++ es') = story es' ++ story es := by simp [story]

theorem story_cons (e : Event) (es : List Event) : story (e :: es) = story es ++ [e.what] := by simp [story]

theorem mem_story {es : List Event} {h : Happening} : h ∈ story es ↔ ∃ e ∈ es, e.what = h := by simp [story]

theorem forall_story {es : List Event} {Q : Happening → Prop} : (∀ h ∈ story es, Q h) ↔ ∀ e ∈ es, Q e.what := by
  simp [story]

theorem eq_cons_of_story {es : List Event} {front : List Happening} {what : Happening}
    (h : story es = front ++ [what]) : ∃ time rest, es = ⟨time, what⟩ :: rest ∧ story rest = front := by
  cases es with
  | nil => simp [story] at h
  | cons e rest =>
    rw [story_cons] at h
    obtain ⟨hfront, hlast⟩ := List.append_inj' h rfl
    obtain rfl := List.singleton_inj.mp hlast
    exact ⟨e.time, rest, rfl, hfront⟩

end Event

/-- What a cache may do: the outcomes that reads bring, and the crashes that writes end in. -/
structure Cache.Replies where
  brings : String → Outcome → Prop
  refuses : String → Outcome → Fault → Prop

/-! ### Traces of jobs -/

section
variable {α β : Type}

/-- What a job may leave in the journal, in order, and what it may come to, if the cache does nothing else than this. -/
inductive Job.Trace (R : Cache.Replies) : Job α → List Happening → Except Fault α → Prop
  | done {a} : Trace R (.done a) [] (.ok a)
  | crash {f} : Trace R (.crash f) [] (.error f)
  | resolvers {next rs hs x} (h : Trace R (next rs) hs x) : Trace R (.resolvers next) hs x
  | hit {key next found o hs x} (hhit : R.brings key o) (h : Trace R (next (some o)) hs x) :
    Trace R (.lookup key next) (.lookup key found :: hs) x
  | miss {key next found hs x} (h : Trace R (next none) hs x) :
    Trace R (.lookup key next) (.lookup key found :: hs) x
  | lookupCrash {key next found f} : Trace R (.lookup key next) [.lookup key found] (.error f)
  | store {key o next hs x} (h : Trace R next hs x) : Trace R (.store key o next) (.store key o :: hs) x
  | storeCrash {key o next f} (hcrash : R.refuses key o f) : Trace R (.store key o next) [.store key o] (.error f)
  | count {t next hs x} (h : Trace R next hs x) : Trace R (.count t next) hs x
  | withheld {limit server q next hs x} (h : Trace R (next .cancelled) hs x) :
    Trace R (.exchange limit server q next) hs x
  | answered {limit server q next m elapsed hs x} (h : Trace R (next (.message m elapsed)) hs x) :
    Trace R (.exchange limit server q next) (.exchange server q :: .answer server q :: hs) x
  | unanswered {limit server q next reply hs x} (hreply : ∀ m elapsed, reply ≠ .message m elapsed)
      (h : Trace R (next reply) hs x) :
    Trace R (.exchange limit server q next) (.exchange server q :: hs) x
  | exchangeCrash {limit server q next f} :
    Trace R (.exchange limit server q next) [.exchange server q] (.error f)
  | pause {d next passed hs x} (h : Trace R (next passed) hs x) : Trace R (.pause d next) hs x
  | sleep {d next hs x} (h : Trace R next hs x) : Trace R (.sleep d next) hs x

variable {R : Cache.Replies} {hs : List Happening}

/-- A trace of a job that goes on with `f` is that of its first part up to the result, and from there on what follows,
or the first part crashes. -/
def Job.Splits (R : Cache.Replies) (f : α → Job β) (job : Job α) (hs : List Happening)
    (x : Except Fault β) : Prop :=
  (∃ a hs₁ hs₂, job.Trace R hs₁ (.ok a) ∧ (f a).Trace R hs₂ x ∧ hs = hs₁ ++ hs₂) ∨
    ∃ e, job.Trace R hs (.error e) ∧ x = .error e

theorem Job.Splits.after {job job' : Job α} {f : α → Job β} {x : Except Fault β} (front : List Happening)
    (hfront : ∀ {hs x}, job'.Trace R hs x → job.Trace R (front ++ hs) x) (h : job'.Splits R f hs x) :
    job.Splits R f (front ++ hs) x := by
  rcases h with ⟨a, hs₁, hs₂, h₁, h₂, rfl⟩ | ⟨e, he, rfl⟩
  · exact .inl ⟨a, front ++ hs₁, hs₂, hfront h₁, h₂, (List.append_assoc _ _ _).symm⟩
  · exact .inr ⟨e, hfront he, rfl⟩

theorem Job.Trace.splits {job : Job α} {f : α → Job β} {x : Except Fault β} (h : (job.bind f).Trace R hs x) :
    job.Splits R f hs x := by
  induction job generalizing hs with
  | done a => exact .inl ⟨a, [], hs, .done, h, rfl⟩
  | crash =>
    cases h
    exact .inr ⟨_, .crash, rfl⟩
  | resolvers next ih =>
    cases h with
    | resolvers h => exact (ih _ h).after [] .resolvers
  | lookup key next ih =>
    cases h with
    | hit hhit h => exact (ih _ h).after [_] (.hit hhit)
    | miss h => exact (ih _ h).after [_] .miss
    | lookupCrash => exact .inr ⟨_, .lookupCrash, rfl⟩
  | store key o next ih =>
    cases h with
    | store h => exact (ih h).after [_] .store
    | storeCrash hcrash => exact .inr ⟨_, .storeCrash hcrash, rfl⟩
  | count t next ih =>
    cases h with
    | count h => exact (ih h).after [] .count
  | exchange limit server q next ih =>
    cases h with
    | withheld h => exact (ih _ h).after [] .withheld
    | answered h => exact (ih _ h).after [_, _] .answered
    | unanswered hreply h => exact (ih _ h).after [_] (.unanswered hreply)
    | exchangeCrash => exact .inr ⟨_, .exchangeCrash, rfl⟩
  | pause d next ih =>
    cases h with
    | pause h => exact (ih _ h).after [] .pause
  | sleep d next ih =>
    cases h with
    | sleep h => exact (ih h).after [] .sleep

/-- Every job has a trace. -/
theorem Job.exists_trace (R : Cache.Replies) (job : Job α) : ∃ hs x, job.Trace R hs x := by
  induction job with
  | done a => exact ⟨_, _, .done⟩
  | crash f => exact ⟨_, _, .crash⟩
  | resolvers next ih =>
    obtain ⟨hs, x, h⟩ := ih []
    exact ⟨_, _, .resolvers h⟩
  | lookup key next ih =>
    obtain ⟨hs, x, h⟩ := ih none
    exact ⟨.lookup key false :: hs, x, .miss h⟩
  | store key o next ih =>
    obtain ⟨hs, x, h⟩ := ih
    exact ⟨_, _, .store h⟩
  | count t next ih =>
    obtain ⟨hs, x, h⟩ := ih
    exact ⟨_, _, .count h⟩
  | exchange limit server q next ih =>
    obtain ⟨hs, x, h⟩ := ih .cancelled
    exact ⟨_, _, .withheld h⟩
  | pause d next ih =>
    obtain ⟨hs, x, h⟩ := ih true
    exact ⟨_, _, .pause h⟩
  | sleep d next ih =>
    obtain ⟨hs, x, h⟩ := ih
    exact ⟨_, _, .sleep h⟩

end

/-! ### What lasts -/

namespace World

/-- Whatever jobs ask for keeps the property, and so does whatever the outside does. -/
structure Lasting (P : World → Prop) : Prop where
  lookup : ∀ {w} key, P w → P (w.lookup key).1
  store : ∀ {w} key o, P w → P (w.store key o).1
  flush : ∀ {w}, P w → P w.flush
  /-- Nothing but messages and what is neither in the cache nor in the journal. -/
  aside : ∀ {w w'}, P w → w'.cache = w.cache → w.Adds (·.isMessage) w' → P w'

theorem Adds.suffix {P : Happening → Prop} {w w' : World} (h : w.Adds P w') : w.journal <:+ w'.journal := by
  obtain ⟨es, hes, -⟩ := h
  exact ⟨es, hes.symm⟩

theorem lasting_true : Lasting fun _ => True where
  lookup _ _ := trivial
  store _ _ _ := trivial
  flush _ := trivial
  aside _ _ _ := trivial

theorem lasting_journal (J : List Event) : Lasting (J <:+ ·.journal) where
  lookup _ h := h.trans (List.suffix_cons _ _)
  store _ _ h := h.trans (List.suffix_cons _ _)
  flush h := h.trans (List.suffix_cons _ _)
  aside h _ hadds := h.trans hadds.suffix

theorem adds_endExchange (w : World) (server : String) (q : Dns.Query) (started : Nat) (a : Arrival) :
    w.Adds (·.isMessage) (w.endExchange server q started a).1 := by
  cases a with
  | message m => exact ⟨[⟨w.now, .answer server q⟩], rfl, by simp [Happening.isMessage]⟩
  | failed | timedOut | crashed => exact .of_eq rfl

namespace Lasting
variable {α : Type} {P Q : World → Prop} {net : Network} {w w' : World} {job : Job α} {s s' : Slot α}

theorem and (hP : Lasting P) (hQ : Lasting Q) : Lasting fun w => P w ∧ Q w :=
  ⟨fun key h => ⟨hP.lookup key h.1, hQ.lookup key h.2⟩, fun key o h => ⟨hP.store key o h.1, hQ.store key o h.2⟩,
    fun h => ⟨hP.flush h.1, hQ.flush h.2⟩, fun h hcache hadds => ⟨hP.aside h.1 hcache hadds, hQ.aside h.2 hcache hadds⟩⟩

theorem endExchange (hP : Lasting P) {server : String} {q : Dns.Query} {started : Nat} {a : Arrival}
    {x : Except Fault Reply} (h : w.endExchange server q started a = (w', x)) (hw : P w) : P w' := by
  have hcache := cache_endExchange w server q started a
  have hadds := adds_endExchange w server q started a
  rw [h] at hcache hadds
  exact hP.aside hw hcache hadds

theorem send (hP : Lasting P) (server : String) (q : Dns.Query) (hw : P w) :
    P (w.probeStarted.note (.exchange server q)) :=
  hP.aside hw rfl ⟨[⟨w.now, .exchange server q⟩], rfl, by simp [Happening.isMessage]⟩

theorem count (hP : Lasting P) (t : Tally) (hw : P w) : P (w.count t) :=
  hP.aside hw (cache_count w t) (.of_eq (journal_count w t))

theorem advances (hP : Lasting P) (h : Slot.Advances net w job w' s) (hw : P w) : P w' :=
  h.preserves (fun _ key => hP.lookup key) (fun _ key o => hP.store key o) (fun _ t => hP.count t)
    (fun _ server q => hP.send server q) (fun _ hw => hP.aside hw rfl (.of_eq rfl))
    (fun _ _ _ _ _ => hP.endExchange rfl) hw

theorem wake (hP : Lasting P) (hw : P w) : P (s.wake net w).1 := by
  cases s with
  | exchanging due server q started arrival next =>
    rw [Slot.wake]
    split
    · rename_i he
      exact hP.advances (Slot.advances _ _ _) (hP.endExchange he hw)
    · rename_i he
      exact hP.endExchange he hw
  | pausing | sleeping => exact hP.advances (Slot.advances _ _ _) hw
  | queued | ended | skipped => exact hw

theorem abort (hP : Lasting P) (hw : P w) : P (s.abort net w).1 := by
  cases s with
  | exchanging => exact hP.advances (Slot.advances _ _ _) (hP.aside hw rfl (.of_eq rfl))
  | pausing => exact hP.advances (Slot.advances _ _ _) hw
  | queued | sleeping | ended | skipped => exact hw

theorem turns (hP : Lasting P) {i : Nat} {t : Turn} (h : Slot.Turns net i t w s w' s') (hw : P w) : P w' := by
  cases h with
  | start => exact hP.advances (Slot.advances _ _ _) hw
  | wake => exact hP.wake (hP.aside hw rfl (.of_eq rfl))
  | abort => exact hP.abort hw
  | skip => exact hw

theorem apply (hP : Lasting P) (i : Intervention) (hw : P w) : P (i.apply w) := by
  cases i with
  | flush => exact hP.flush hw
  | cancel | upsert | delete | elapse => exact hP.aside hw rfl (.of_eq rfl)

end Lasting

/-- The surroundings have a property, and their journal goes on from `J`. -/
def Since (P : World → Prop) (J : List Event) (w : World) : Prop := P w ∧ J <:+ w.journal

theorem Lasting.since {P : World → Prop} (hP : Lasting P) (J : List Event) : Lasting (Since P J) :=
  hP.and (lasting_journal J)

/-- What the cache does in surroundings with a property, by reads and writes whose entries are in the journal `J`. -/
def replies (P : World → Prop) (J : List Event) : Cache.Replies where
  brings key o := ∃ w, P w ∧ (w.lookup key).1.journal <:+ J ∧ (w.lookup key).2 = .ok (some o)
  refuses key o f := ∃ w, P w ∧ (w.store key o).1.journal <:+ J ∧ (w.store key o).2 = some f

end World

theorem Slot.Advances.journal_suffix {α : Type} {net : Network} {w w' : World} {job : Job α} {s : Slot α}
    (h : Slot.Advances net w job w' s) : w.journal <:+ w'.journal :=
  (World.lasting_journal _).advances h List.suffix_rfl

theorem Batch.Move.lasting {α : Type} {P : World → Prop} (hP : World.Lasting P) {net : Network} {limit : Nat}
    {b c : Batch α} {t : Turn} (h : b.Move net limit t c) (hb : P b.world) : P c.world := by
  cases ht : t.slot? with
  | some i =>
    obtain ⟨s, s', -, -, hturn⟩ := h.turns ht
    exact hP.turns hturn hb
  | none =>
    cases h with
    | start | wake | abort | skip => cases ht
    | @outside w slots e => exact hP.apply e.what (hP.aside hb rfl (.of_eq rfl))

theorem Batch.Schedule.lasting {α : Type} {P : World → Prop} (hP : World.Lasting P) {net : Network} {limit : Nat}
    {b c : Batch α} {ts : List Turn} (h : b.Schedule net limit ts c) (hb : P b.world) : P c.world :=
  h.preserves (P := fun c => P c.world) (Move.lasting hP) hb

/-! ### Turns are parts of traces -/

section
variable {α : Type} {net : Network} {P : World → Prop} {J : List Event} {R : Cache.Replies}
  {T T₁ T' : List Happening → Except Fault α → Prop} {w w₁ w' : World} {job : Job α} {s s' : Slot α}

/-- What is told from the second surroundings on goes on with what was told up to there from the first ones on. -/
def World.Continues (w : World) (T : List Happening → Except Fault α → Prop) (w' : World)
    (T' : List Happening → Except Fault α → Prop) : Prop :=
  ∃ new, w'.journal = new ++ w.journal ∧ ∀ {hs x}, T' hs x → T (Event.story new ++ hs) x

namespace World.Continues

theorem of_eq (h : w'.journal = w.journal) (hT : ∀ {hs x}, T' hs x → T hs x) : w.Continues T w' T' := ⟨[], h, hT⟩

theorem one {time : Nat} {what : Happening} (h : w'.journal = ⟨time, what⟩ :: w.journal)
    (hT : ∀ {hs x}, T' hs x → T (what :: hs) x) : w.Continues T w' T' := ⟨[⟨time, what⟩], h, hT⟩

theorem trans (h : w.Continues T w₁ T₁) (h' : w₁.Continues T₁ w' T') : w.Continues T w' T' := by
  obtain ⟨new, hnew, hT⟩ := h
  obtain ⟨new', hnew', hT'⟩ := h'
  refine ⟨new' ++ new, by rw [hnew', hnew, List.append_assoc], fun hx => ?_⟩
  rw [Event.story_append, List.append_assoc]
  exact hT (hT' hx)

theorem suffix (h : w.Continues T w' T') : w.journal <:+ w'.journal := by
  obtain ⟨new, hnew, -⟩ := h
  exact ⟨new, hnew.symm⟩

end World.Continues

/-- What may come of the job in a slot. Of one whose exchange is under way comes what may come of the exchange once its
query is in the journal. -/
def Slot.Trace (R : Cache.Replies) : Slot α → List Happening → Except Fault α → Prop
  | queued job, hs, x => job.Trace R hs x
  | exchanging _ server q _ _ next, hs, x =>
    ∀ limit, (Job.exchange limit server q next).Trace R (.exchange server q :: hs) x
  | pausing _ next, hs, x => ∃ passed, (next passed).Trace R hs x
  | sleeping _ next, hs, x => next.Trace R hs x
  | ended y, hs, x => hs = [] ∧ x = y
  | skipped, _, _ => False

theorem World.continues_send {server : String} {q : Dns.Query} {limit : Limit} {started due : Nat} {a : Arrival}
    {next : Reply → Job α} : w.Continues ((Job.exchange limit server q next).Trace R)
      (w.probeStarted.note (.exchange server q)) ((Slot.exchanging due server q started a next).Trace R) :=
  .one rfl fun h => h limit

theorem World.continues_endExchange (due : Nat) {server : String} {q : Dns.Query} {started : Nat} {a : Arrival}
    {reply : Reply} {next : Reply → Job α} (he : w.endExchange server q started a = (w', .ok reply)) :
    w.Continues ((Slot.exchanging due server q started a next).Trace R) w' ((next reply).Trace R) := by
  cases a with
  | message m =>
    cases he
    exact .one rfl fun h _ => .answered h
  | failed | timedOut =>
    cases he
    exact .of_eq rfl fun h _ => .unanswered (by simp) h
  | crashed => cases he

theorem World.continues_crash (due : Nat) {server : String} {q : Dns.Query} {started : Nat} {a : Arrival} {f : Fault}
    {next : Reply → Job α} (he : w.endExchange server q started a = (w', .error f)) :
    w.Continues ((Slot.exchanging due server q started a next).Trace R) w' ((Slot.ended (.error f)).Trace R) := by
  cases a with
  | message | failed | timedOut => cases he
  | crashed =>
    cases he
    refine .of_eq rfl ?_
    rintro _ _ ⟨rfl, rfl⟩ _
    exact .exchangeCrash

theorem Slot.Advances.trace (hP : World.Lasting P) (h : Advances net w job w' s) (hw : P w) (hJ : w'.journal <:+ J) :
    w.Continues (job.Trace (World.replies P J)) w' (s.Trace (World.replies P J)) := by
  have hended : ∀ {w : World} {job : Job α} {y : Except Fault α}, job.Trace (World.replies P J) [] y →
      w.Continues (job.Trace (World.replies P J)) w ((Slot.ended y).Trace (World.replies P J)) := by
    rintro w job y hy
    refine .of_eq rfl ?_
    rintro _ _ ⟨rfl, rfl⟩
    exact hy
  induction h with
  | done => exact hended .done
  | crash => exact hended .crash
  | resolvers _ ih => exact (World.Continues.of_eq rfl .resolvers).trans (ih hw hJ)
  | @lookup w w₁ key hit next w' s hl _ ih =>
    obtain rfl := congrArg Prod.fst hl
    have hrest := ih (hP.lookup key hw) hJ
    refine .trans (.one rfl ?_) hrest
    cases hit with
    | none => exact .miss
    | some o =>
      have hhit : (World.replies P J).brings key o := ⟨w, hw, hrest.suffix.trans hJ, congrArg Prod.snd hl⟩
      intro hs x h
      exact .hit hhit h
  | lookupCrash hl =>
    obtain rfl := congrArg Prod.fst hl
    refine .one rfl ?_
    rintro _ _ ⟨rfl, rfl⟩
    exact .lookupCrash
  | store hs _ ih =>
    obtain rfl := congrArg Prod.fst hs
    exact (World.Continues.one rfl .store).trans (ih (hP.store _ _ hw) hJ)
  | storeCrash hs =>
    obtain rfl := congrArg Prod.fst hs
    refine .one rfl ?_
    rintro _ _ ⟨rfl, rfl⟩
    exact .storeCrash ⟨_, hw, hJ, congrArg Prod.snd hs⟩
  | count _ ih => exact (World.Continues.of_eq (World.journal_count _ _) .count).trans (ih (hP.count _ hw) hJ)
  | withheld _ _ ih =>
    exact (World.Continues.of_eq rfl .withheld).trans (ih (hP.aside hw rfl (.of_eq rfl)) hJ)
  | replied _ _ he _ ih =>
    have hrest := ih (hP.endExchange he (hP.send _ _ hw)) hJ
    exact World.continues_send.trans ((World.continues_endExchange 0 he).trans hrest)
  | repliedCrash _ _ he => exact World.continues_send.trans (World.continues_crash 0 he)
  | sent => exact World.continues_send
  | refused _ _ ih | passed _ _ _ ih => exact (World.Continues.of_eq rfl .pause).trans (ih hw hJ)
  | paused =>
    refine .of_eq rfl ?_
    rintro _ _ ⟨passed, h⟩
    exact .pause h
  | slept _ _ ih => exact (World.Continues.of_eq rfl .sleep).trans (ih hw hJ)
  | asleep => exact .of_eq rfl .sleep

/-- A turn of a slot is part of what may come of the job in it. -/
theorem Slot.Turns.trace (hP : World.Lasting P) {i : Nat} {t : Turn} (h : Slot.Turns net i t w s w' s') (hw : P w)
    (hJ : w'.journal <:+ J) : w.Continues (s.Trace (World.replies P J)) w' (s'.Trace (World.replies P J)) := by
  cases h with
  | start => exact (Slot.advances _ _ _).trace hP hw hJ
  | @wake _ s due hdue =>
    have hw' : P (w.atTime due) := hP.aside hw rfl (.of_eq rfl)
    have hlater : w.Continues (s.Trace (World.replies P J)) (w.atTime due) (s.Trace (World.replies P J)) :=
      .of_eq rfl id
    refine hlater.trans ?_
    cases s with
    | exchanging due' server q started arrival next =>
      rcases he : (w.atTime due).endExchange server q started arrival with ⟨w₁, f | reply⟩
      · simp only [Slot.wake, he]
        exact World.continues_crash _ he
      · simp only [Slot.wake, he] at hJ ⊢
        exact (World.continues_endExchange _ he).trans ((Slot.advances _ _ _).trace hP (hP.endExchange he hw') hJ)
    | pausing due' next =>
      exact (World.Continues.of_eq rfl fun h => ⟨true, h⟩).trans ((Slot.advances _ _ _).trace hP hw' hJ)
    | sleeping due' next => exact (Slot.advances _ _ _).trace hP hw' hJ
    | queued | ended | skipped => cases hdue
  | @abort _ s hs =>
    cases s with
    | exchanging due server q started arrival next =>
      have hdropped : w.Continues ((exchanging due server q started arrival next).Trace (World.replies P J))
          w.probeDropped ((next .cancelled).Trace (World.replies P J)) :=
        .of_eq rfl fun h _ => .unanswered (by simp) h
      exact hdropped.trans ((Slot.advances _ _ _).trace hP (hP.aside hw rfl (.of_eq rfl)) hJ)
    | pausing due next =>
      exact (World.Continues.of_eq rfl fun h => ⟨false, h⟩).trans ((Slot.advances _ _ _).trace hP hw hJ)
    | queued | sleeping | ended | skipped => cases hs
  | skip => exact .of_eq rfl False.elim

theorem Slot.exists_trace (R : Cache.Replies) (hs : s.isStarted) : ∃ hs x, s.Trace R hs x := by
  cases s with
  | exchanging due server q started arrival next =>
    obtain ⟨hs, x, h⟩ := (next .cancelled).exists_trace R
    exact ⟨hs, x, fun _ => .unanswered (by simp) h⟩
  | pausing due next =>
    obtain ⟨hs, x, h⟩ := (next true).exists_trace R
    exact ⟨hs, x, true, h⟩
  | sleeping due next => exact next.exists_trace R
  | ended y => exact ⟨[], y, rfl, rfl⟩
  | queued | skipped => cases hs

end
end FilterWatch
