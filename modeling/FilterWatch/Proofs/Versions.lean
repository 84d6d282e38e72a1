import FilterWatch.Proofs.Crashes
import FilterWatch.Proofs.Transparency

/-!
# One version of the list for each check

The resolvers can be changed while checks go on, but a check asks for them only once, when it is started. `Visit` is the
place of a check in the list that it was given then. Whatever a check writes into the journal moves it along that list,
from the first resolver on (`Job.Visits`, `Visit.Writes`), so in every schedule the entries of an item follow the version
of the list that was there at the start of the item (`Batch.Schedule.follows`). Versions are what whole changes make of
the list of before (`Turn.reload`).
-/

namespace FilterWatch

/-- Whether an entry of the journal is that of a flush. No job flushes the cache. -/
def Event.isFlush (e : Event) : Bool := e.what = .flush

def Event.lookedUp? (e : Event) : Option String :=
  match e.what with
  | .lookup key _ => some key
  | _ => none

/-- The place of a check in a list: the resolver that it has come to, if it has come to one, and those ahead of it. -/
structure Visit where
  at? : Option Resolver
  ahead : List Resolver

namespace Visit

def first (rs : List Resolver) : Visit := ⟨none, rs⟩

/-- What a check of a domain may do at its place, and where it is then. A lookup is for the next resolver, and an exchange
or a write is for the resolver that the last lookup was for. -/
inductive Does (p : CheckPolicy) (domain : String) : Visit → Happening → Visit → Prop
  | lookup {at? r ahead found} : Does p domain ⟨at?, r :: ahead⟩ (.lookup (cacheKey domain r) found) ⟨some r, ahead⟩
  | exchange {r ahead q} (hq : Dns.Query.ofDomain domain r.recordType p.prober.payload = .ok q) :
    Does p domain ⟨some r, ahead⟩ (.exchange (withDefaultPort r.address) q) ⟨some r, ahead⟩
  | answer {r ahead q} (hq : Dns.Query.ofDomain domain r.recordType p.prober.payload = .ok q) :
    Does p domain ⟨some r, ahead⟩ (.answer (withDefaultPort r.address) q) ⟨some r, ahead⟩
  | store {r ahead b} :
    Does p domain ⟨some r, ahead⟩ (.store (cacheKey domain r) (.verdict domain r.address b)) ⟨some r, ahead⟩

/-- The entries of a journal, latest first, of a check that goes from one place to another. -/
inductive Writes (p : CheckPolicy) (domain : String) (v : Visit) : List Event → Visit → Prop
  | nil : Writes p domain v [] v
  | cons {e es v' v''} (h : Writes p domain v es v') (hdoes : v'.Does p domain e.what v'') :
    Writes p domain v (e :: es) v''

/-- What has been added to the journal since is what a check writes that goes from one place to another. -/
def Notes (p : CheckPolicy) (domain : String) (v : Visit) (w : World) (v' : Visit) (w' : World) : Prop :=
  ∃ es, w'.journal = es ++ w.journal ∧ v.Writes p domain es v'

variable {p : CheckPolicy} {domain : String} {v v' v'' : Visit} {w w' w'' : World} {es es' : List Event}
  {rs : List Resolver}

theorem Writes.trans (h : v.Writes p domain es v') (h' : v'.Writes p domain es' v'') :
    v.Writes p domain (es' ++ es) v'' := by
  induction h' with
  | nil => exact h
  | cons _ hdoes ih => exact .cons ih hdoes

theorem Writes.filter_isFlush (h : v.Writes p domain es v') : es.filter (!·.isFlush) = es := by
  induction h with
  | nil => rfl
  | @cons e es v' v'' _ hdoes ih =>
    have he : e.isFlush = false := by
      refine decide_eq_false fun hflush => ?_
      rw [hflush] at hdoes
      cases hdoes
    rw [List.filter_cons_of_pos (by rw [he]; rfl), ih]

/-- The resolvers are taken in their order, none is left out, and each exchange is for one that was taken. -/
theorem Writes.visited (h : (first rs).Writes p domain es v) : ∃ taken, rs = taken ++ v.ahead ∧
    v.at? = taken.getLast? ∧
    es.reverse.filterMap Event.lookedUp? = taken.map (cacheKey domain) ∧
    ∀ e ∈ es, ∀ server q, e.what = .exchange server q → ∃ r ∈ taken, server = withDefaultPort r.address ∧
      Dns.Query.ofDomain domain r.recordType p.prober.payload = .ok q := by
  induction h with
  | nil => exact ⟨[], rfl, rfl, rfl, by simp⟩
  | @cons e es v' v'' _ hdoes ih =>
    obtain ⟨time, what⟩ := e
    obtain ⟨taken, hrs, hlast, hkeys, hsent⟩ := ih
    have hunsent : (∀ server q, what ≠ .exchange server q) → ∀ e ∈ (⟨time, what⟩ :: es : List Event), ∀ server q,
        e.what = .exchange server q → ∃ r ∈ taken, server = withDefaultPort r.address ∧
          Dns.Query.ofDomain domain r.recordType p.prober.payload = .ok q :=
      fun hne => List.forall_mem_cons.mpr ⟨fun server q heq => absurd heq (hne server q), hsent⟩
    rw [List.reverse_cons, List.filterMap_append, hkeys]
    cases hdoes with
    | @lookup at? r ahead found =>
      refine ⟨taken ++ [r], by simp [hrs], by simp, by simp [Event.lookedUp?], ?_⟩
      refine List.forall_mem_cons.mpr ⟨fun _ _ heq => (nomatch heq), fun e he server q heq => ?_⟩
      obtain ⟨r', hr', hserver⟩ := hsent e he server q heq
      exact ⟨r', List.mem_append_left _ hr', hserver⟩
    | @exchange r ahead q hq =>
      refine ⟨taken, hrs, hlast, by simp [Event.lookedUp?], List.forall_mem_cons.mpr ⟨fun server q' heq => ?_, hsent⟩⟩
      cases heq
      exact ⟨r, List.mem_of_getLast? hlast.symm, rfl, hq⟩
    | answer | store => exact ⟨taken, hrs, hlast, by simp [Event.lookedUp?], hunsent (by simp)⟩

theorem Notes.of_eq (h : w'.journal = w.journal) : v.Notes p domain w v w' := ⟨[], h, .nil⟩

theorem Notes.trans (h : v.Notes p domain w v' w') (h' : v'.Notes p domain w' v'' w'') :
    v.Notes p domain w v'' w'' := by
  obtain ⟨es, hes, hwrites⟩ := h
  obtain ⟨es', hes', hwrites'⟩ := h'
  exact ⟨es' ++ es, by rw [hes', hes, List.append_assoc], hwrites.trans hwrites'⟩

theorem Notes.one {what : Happening} {time : Nat} (h : w'.journal = ⟨time, what⟩ :: w.journal)
    (hdoes : v.Does p domain what v') : v.Notes p domain w v' w' :=
  ⟨[_], h, .cons .nil hdoes⟩

theorem notes_endExchange {server : String} {q : Dns.Query} {started : Nat} {a : Arrival}
    {x : Except Fault Reply} (he : w.endExchange server q started a = (w', x))
    (hdoes : v.Does p domain (.answer server q) v) : v.Notes p domain w v w' := by
  cases a with
  | message m => cases he; exact .one rfl hdoes
  | failed | timedOut | crashed => cases he; exact .of_eq rfl

end Visit

/-! ### Jobs that go along a list -/

section
variable {α β : Type} {net : Network} {p : CheckPolicy} {domain : String} {R : Visit → α → Prop} {v v' : Visit}
  {w w' : World} {job : Job α} {s s' : Slot α}

/-- What the job writes into the journal is what a check does that goes along its list. It asks for no other list, and
it ends in such places with such results. -/
inductive Job.Visits (p : CheckPolicy) (domain : String) (R : Visit → α → Prop) : Visit → Job α → Prop
  | done {v a} (h : R v a) : Visits p domain R v (.done a)
  | crash {v f} : Visits p domain R v (.crash f)
  | lookup {v v' key next} (hdoes : ∀ found, v.Does p domain (.lookup key found) v')
      (h : ∀ hit, Visits p domain R v' (next hit)) :
    Visits p domain R v (.lookup key next)
  | store {v key o next} (hdoes : v.Does p domain (.store key o) v) (h : Visits p domain R v next) :
    Visits p domain R v (.store key o next)
  | count {v t next} (h : Visits p domain R v next) : Visits p domain R v (.count t next)
  | exchange {v limit server q next} (hsend : v.Does p domain (.exchange server q) v)
      (hanswer : v.Does p domain (.answer server q) v) (h : ∀ reply, Visits p domain R v (next reply)) :
    Visits p domain R v (.exchange limit server q next)
  | pause {v d next} (h : ∀ passed, Visits p domain R v (next passed)) : Visits p domain R v (.pause d next)

theorem Job.Visits.bind {S : Visit → β → Prop} {f : α → Job β} (hjob : job.Visits p domain R v)
    (hf : ∀ v a, R v a → (f a).Visits p domain S v) : (job.bind f).Visits p domain S v := by
  induction hjob with
  | done h => exact hf _ _ h
  | crash => exact .crash
  | lookup hdoes _ ih => exact .lookup hdoes ih
  | store hdoes _ ih => exact .store hdoes ih
  | count _ ih => exact .count ih
  | exchange hsend hanswer _ ih => exact .exchange hsend hanswer ih
  | pause _ ih => exact .pause ih

/-- The job in a slot waits at a place in its list, or it has ended. -/
def Slot.Visits (p : CheckPolicy) (domain : String) (R : Visit → α → Prop) (v : Visit) : Slot α → Prop
  | exchanging _ server q _ _ next =>
    v.Does p domain (.answer server q) v ∧ ∀ reply, (next reply).Visits p domain R v
  | pausing _ next => ∀ passed, (next passed).Visits p domain R v
  | ended _ => True
  | queued _ | sleeping _ _ | skipped => False

theorem Slot.Advances.visits (h : Slot.Advances net w job w' s) (hjob : job.Visits p domain R v) :
    ∃ v', v.Notes p domain w v' w' ∧ s.Visits p domain R v' := by
  induction h generalizing v with
  | done | crash => exact ⟨v, .of_eq rfl, trivial⟩
  | resolvers | slept | asleep => cases hjob
  | lookup hl _ ih =>
    obtain rfl := congrArg Prod.fst hl
    cases hjob with
    | lookup hdoes hnext =>
      obtain ⟨v'', hnotes, hs⟩ := ih (hnext _)
      exact ⟨v'', .trans (.one rfl (hdoes _)) hnotes, hs⟩
  | lookupCrash hl =>
    obtain rfl := congrArg Prod.fst hl
    cases hjob with
    | lookup hdoes => exact ⟨_, .one rfl (hdoes _), trivial⟩
  | store hs _ ih =>
    obtain rfl := congrArg Prod.fst hs
    cases hjob with
    | store hdoes hnext =>
      obtain ⟨v'', hnotes, hs⟩ := ih hnext
      exact ⟨v'', .trans (.one rfl hdoes) hnotes, hs⟩
  | storeCrash hs =>
    obtain rfl := congrArg Prod.fst hs
    cases hjob with
    | store hdoes => exact ⟨_, .one rfl hdoes, trivial⟩
  | count _ ih =>
    cases hjob with
    | count hnext =>
      obtain ⟨v'', hnotes, hs⟩ := ih hnext
      exact ⟨v'', .trans (.of_eq (World.journal_count _ _)) hnotes, hs⟩
  | withheld _ _ ih =>
    cases hjob with
    | exchange _ _ hnext =>
      obtain ⟨v'', hnotes, hs⟩ := ih (hnext .cancelled)
      exact ⟨v'', .trans (.of_eq rfl) hnotes, hs⟩
  | replied _ _ he _ ih =>
    cases hjob with
    | exchange hsend hanswer hnext =>
      obtain ⟨v'', hnotes, hs⟩ := ih (hnext _)
      exact ⟨v'', .trans (.one rfl hsend) (.trans (Visit.notes_endExchange he hanswer) hnotes), hs⟩
  | repliedCrash _ _ he =>
    cases hjob with
    | exchange hsend hanswer =>
      exact ⟨v, .trans (.one rfl hsend) (Visit.notes_endExchange he hanswer), trivial⟩
  | sent =>
    cases hjob with
    | exchange hsend hanswer hnext => exact ⟨v, .one rfl hsend, hanswer, hnext⟩
  | refused _ _ ih | passed _ _ _ ih =>
    cases hjob with
    | pause hnext => exact ih (hnext _)
  | paused =>
    cases hjob with
    | pause hnext => exact ⟨v, .of_eq rfl, hnext⟩

theorem Slot.Visits.wake (net : Network) (hs : s.Visits p domain R v) (w : World) :
    ∃ v', v.Notes p domain w v' (s.wake net w).1 ∧ (s.wake net w).2.Visits p domain R v' := by
  cases s with
  | exchanging due server q started arrival next =>
    rcases he : w.endExchange server q started arrival with ⟨w₁, f | reply⟩
    · simp only [wake, he]
      exact ⟨v, Visit.notes_endExchange he hs.1, trivial⟩
    · simp only [wake, he]
      obtain ⟨v', hnotes, hs'⟩ := (advances net (next reply) w₁).visits (hs.2 reply)
      exact ⟨v', .trans (Visit.notes_endExchange he hs.1) hnotes, hs'⟩
  | pausing due next => exact (advances net (next true) w).visits (hs true)
  | ended => exact ⟨v, .of_eq rfl, trivial⟩
  | queued | sleeping | skipped => cases hs

theorem Slot.Visits.abort (net : Network) (hs : s.Visits p domain R v) (w : World) :
    ∃ v', v.Notes p domain w v' (s.abort net w).1 ∧ (s.abort net w).2.Visits p domain R v' := by
  cases s with
  | exchanging due server q started arrival next =>
    obtain ⟨v', hnotes, hs'⟩ := (advances net (next .cancelled) w.probeDropped).visits (hs.2 .cancelled)
    exact ⟨v', .trans (.of_eq rfl) hnotes, hs'⟩
  | pausing due next => exact (advances net (next false) w).visits (hs false)
  | ended => exact ⟨v, .of_eq rfl, trivial⟩
  | queued | sleeping | skipped => cases hs

theorem Slot.Visits.turns {i : Nat} {t : Turn} (hs : s.Visits p domain R v) (hturn : Slot.Turns net i t w s w' s') :
    ∃ v', v.Notes p domain w v' w' ∧ s'.Visits p domain R v' := by
  cases hturn with
  | start | skip => cases hs
  | @wake _ _ due =>
    obtain ⟨v', hnotes, hs'⟩ := hs.wake net (w.atTime due)
    exact ⟨v', .trans (.of_eq rfl) hnotes, hs'⟩
  | abort => exact hs.abort net w

end

/-! ### Checks go along their lists -/

namespace CheckPolicy
variable {p : CheckPolicy} {domain : String} {r : Resolver} {ahead : List Resolver}

/-- What the attempts at a resolver may come to: the check has not moved on, and a verdict is one of that resolver. -/
def ToldAt (domain : String) (r : Resolver) (ahead : List Resolver) (v : Visit) (x : Except CheckError Outcome) :
    Prop :=
  v = ⟨some r, ahead⟩ ∧ ∀ o, x = .ok o → ∃ b, o = .verdict domain r.address b

theorem attempts_visits {q : Dns.Query} (hq : Dns.Query.ofDomain domain r.recordType p.prober.payload = .ok q)
    (left : Nat) : ∀ attempt clear failure,
      (p.attempts domain r attempt clear failure left).Visits p domain (ToldAt domain r ahead) ⟨some r, ahead⟩ := by
  induction left with
  | zero =>
    intro attempt clear failure
    refine .done ⟨rfl, fun o ho => ?_⟩
    cases clear with
    | true => exact ⟨false, (Except.ok.inj ho).symm⟩
    | false => cases ho
  | succ left ih =>
    intro attempt clear failure
    have hexchange : (p.exchangeOf domain r q attempt clear left).Visits p domain (ToldAt domain r ahead)
        ⟨some r, ahead⟩ := by
      refine .exchange (.exchange hq) (.answer hq) fun reply => ?_
      cases reply with
      | message m elapsed =>
        simp only [afterReply]
        rcases m.carries r.keyword with f | _ | _
        · exact .crash
        · exact ih _ _ _
        · exact .done ⟨rfl, fun o ho => ⟨true, (Except.ok.inj ho).symm⟩⟩
      | failed | timedOut => exact ih _ _ _
      | cancelled => exact .done ⟨rfl, by simp⟩
    rw [attempts_succ hq]
    cases failure with
    | none => exact hexchange
    | some e =>
      refine .pause fun passed => ?_
      cases passed with
      | true => exact hexchange
      | false => exact .done ⟨rfl, by simp⟩

theorem attempts_visits_first (left : Nat) :
    (p.attempts domain r 0 false none (left + 1)).Visits p domain (ToldAt domain r ahead) ⟨some r, ahead⟩ := by
  cases hq : Dns.Query.ofDomain domain r.recordType p.prober.payload with
  | ok q => exact attempts_visits hq _ _ _ _
  | error e =>
    rw [attempts_of_no_query hq]
    exact .done ⟨rfl, by simp⟩

theorem fail_visits {v : Visit} (e : CheckError) : (fail domain e).Visits p domain (fun _ _ => True) v :=
  .count (.done trivial)

theorem against_visits {v : Visit} (rs : List Resolver) (hv : v.ahead = rs) :
    (p.against domain rs).Visits p domain (fun _ _ => True) v := by
  induction rs generalizing v with
  | nil => exact fail_visits _
  | cons r rest ih =>
    obtain ⟨at?, ahead⟩ := v
    cases hv
    rw [against_cons]
    refine .lookup (fun _ => .lookup) fun hit => ?_
    cases hit with
    | some o => exact .count (.done trivial)
    | none =>
      refine (attempts_visits_first _).bind fun v x hx => ?_
      obtain ⟨rfl, hverdict⟩ := hx
      cases x with
      | ok o =>
        obtain ⟨b, rfl⟩ := hverdict o rfl
        exact .store .store (.count (.done trivial))
      | error e =>
        simp only [afterAttemptsAt]
        split
        · exact ih rfl
        · exact fail_visits e

end CheckPolicy

/-- What a check does after its start goes along the list that is there then. -/
theorem Slot.Advances.visits_check {net : Network} {p : CheckPolicy} {raw : String} {w w' : World} {s : Slot Outcome}
    (h : Slot.Advances net w (p.check raw) w' s) : ∃ v,
      (Visit.first w.registry.resolvers).Notes p (normalize raw) w v w' ∧
        s.Visits p (normalize raw) (fun _ _ => True) v := by
  cases hv : isValidDomain (normalize raw) with
  | true =>
    rw [CheckPolicy.check_of_valid hv] at h
    cases h with
    | resolvers h => exact h.visits (CheckPolicy.against_visits _ rfl)
  | false =>
    rw [CheckPolicy.check_of_invalid hv] at h
    exact h.visits (CheckPolicy.fail_visits _)

/-! ### Versions -/

/-- The list after a turn. Nobody but the outside changes it, and the outside makes each change as a whole. -/
def Turn.reload (rs : List Resolver) : Turn → List Resolver
  | .outside ⟨_, .upsert incoming⟩ => Registry.placeAll rs incoming
  | .outside ⟨_, .delete addresses⟩ => rs.filter (!addresses.contains ·.address)
  | _ => rs

theorem World.kept_registry (reg : Registry) : World.Kept (·.registry = reg) where
  standing h hw := (congrArg Prod.fst h).symm.trans hw
  lookup _ hw := hw
  store _ _ hw := hw

namespace Batch
variable {α : Type} {net : Network} {limit : Nat} {b c : Batch α} {t : Turn} {ts : List Turn}

theorem Move.resolvers (h : b.Move net limit t c) :
    c.world.registry.resolvers = t.reload b.world.registry.resolvers := by
  rcases h.keeps (World.kept_registry b.world.registry) with ⟨ht, -, hkeeps⟩ | ⟨⟨time, what⟩, rfl, -, hc⟩
  · rw [hkeeps rfl]
    cases t with
    | outside => cases ht
    | start | wake | abort | skip => rfl
  · rw [hc]
    cases what with
    | upsert incoming => exact Registry.resolvers_upsert _ _
    | delete addresses => exact Registry.resolvers_delete _ _
    | cancel | flush | elapse => rfl

theorem Schedule.resolvers (h : b.Schedule net limit ts c) :
    c.world.registry.resolvers = ts.foldl Turn.reload b.world.registry.resolvers := by
  induction h with
  | nil => rfl
  | snoc _ hmove ih => rw [List.foldl_append, ← ih, hmove.resolvers]; rfl

end Batch

/-! ### What an item writes -/

section
variable {α : Type} (net : Network) (limit : Nat) (start : Batch α) (i : Nat)

/-- The schedule leads to this batch, and these are the entries that the turns of slot `i` have made in the journal, latest
first. -/
inductive Batch.Wrote : List Turn → Batch α → List Event → Prop
  | nil : Wrote [] start []
  | own {ts b es t c new} (h : Wrote ts b es) (hmove : b.Move net limit t c) (ht : t.slot? = some i)
      (hnew : c.world.journal = new ++ b.world.journal) : Wrote (ts ++ [t]) c (new ++ es)
  | other {ts b es t c} (h : Wrote ts b es) (hmove : b.Move net limit t c) (ht : t.slot? ≠ some i) :
    Wrote (ts ++ [t]) c es

end

theorem Slot.Visits.isStarted {α : Type} {p : CheckPolicy} {domain : String} {R : Visit → α → Prop} {v : Visit}
    {s : Slot α} (h : s.Visits p domain R v) : s.isStarted := by
  cases s with
  | exchanging | pausing | ended => rfl
  | queued | sleeping | skipped => cases h

theorem Slot.Turns.of_not_started {α : Type} {net : Network} {i : Nat} {t : Turn} {w w' : World} {s s' : Slot α}
    (h : Slot.Turns net i t w s w' s') (hs : s.isStarted = false) :
    (∃ job, s = .queued job ∧ Slot.Advances net w job w' s') ∨ w' = w ∧ s' = .skipped := by
  cases h with
  | start => exact .inl ⟨_, rfl, Slot.advances _ _ _⟩
  | skip => exact .inr ⟨rfl, rfl⟩
  | wake hdue => rw [Slot.isStarted_of_isRunning (Slot.isRunning_of_due? hdue)] at hs; cases hs
  | abort hc => rw [Slot.isStarted_of_isRunning (Slot.isRunning_of_isCancellable hc)] at hs; cases hs

namespace Batch
variable {net : Network} {limit i : Nat} {start b c d : Batch Outcome} {t : Turn} {ts ts₀ : List Turn}
  {es : List Event} {p : CheckPolicy} {raw : String} {s s' : Slot Outcome} {w w' : World} {b₀ : Batch Outcome}

/-- What a check that was started has written since goes along one version of the list: the one that was there at its
start. -/
structure Follows (net : Network) (limit : Nat) (start : Batch Outcome) (i : Nat) (p : CheckPolicy) (raw : String)
    (ts : List Turn) (w : World) (s : Slot Outcome) (es : List Event) (ts₀ : List Turn) (b₀ : Batch Outcome) : Prop where
  began : Began net limit start i (p.check raw) ts w s ts₀ b₀
  follows : ∃ v, (Visit.first b₀.world.registry.resolvers).Writes p (normalize raw) es v ∧
    s.Visits p (normalize raw) (fun _ _ => True) v

theorem Follows.own (h : Follows net limit start i p raw ts w s es ts₀ b₀)
    (hpunctual : ∀ due ∈ s.due?, w.now ≤ due) (hturn : Slot.Turns net i t w s w' s') :
    ∃ new, w'.journal = new ++ w.journal ∧ Follows net limit start i p raw (ts ++ [t]) w' s' (new ++ es) ts₀ b₀ := by
  obtain ⟨hbegan, v, hwrites, hvisits⟩ := h
  obtain ⟨v', ⟨new, hnew, hwrites'⟩, hvisits'⟩ := hvisits.turns hturn
  exact ⟨new, hnew, hbegan.own hvisits.isStarted hpunctual hturn, v', hwrites.trans hwrites', hvisits'⟩

/-- Every item writes nothing before it is started, and from then on it follows the version that it was started with. -/
theorem Schedule.follows (h : start.Schedule net limit ts c) (hstart : start.IsPunctual)
    (hi : start.slots[i]? = some (.queued (p.check raw))) :
    ∃ s es, c.slots[i]? = some s ∧ Wrote net limit start i ts c es ∧
      (s.isStarted = false ∧ es = [] ∨ ∃ ts₀ b₀, Follows net limit start i p raw ts c.world s es ts₀ b₀) := by
  induction h with
  | nil => exact ⟨_, [], hi, .nil, .inl ⟨rfl, rfl⟩⟩
  | @snoc ts c t d hsched hmove ih =>
    obtain ⟨s, es, hs, hwrote, hes⟩ := ih
    by_cases ht : t.slot? = some i
    · obtain ⟨s₁, s', hs₁, hs', hturn⟩ := hmove.turns ht
      obtain rfl : s = s₁ := Option.some.inj (hs.symm.trans hs₁)
      rcases hes with ⟨hnot, rfl⟩ | ⟨ts₀, b₀, hfollows⟩
      · rcases hturn.of_not_started hnot with ⟨job, rfl, hadv⟩ | ⟨hsame, rfl⟩
        · obtain ⟨hjob, hbegan⟩ := hsched.begins hstart hi hs hnot hturn hadv.isStarted
          rw [Slot.queued.inj hjob] at hadv
          obtain ⟨v, ⟨new, hnew, hwrites⟩, hvisits⟩ := hadv.visits_check
          refine ⟨s', new ++ [], hs', hwrote.own hmove ht hnew, .inr ⟨ts, c, hbegan, v, ?_, hvisits⟩⟩
          rwa [List.append_nil]
        · have hnew : d.world.journal = [] ++ c.world.journal := by rw [hsame]; rfl
          exact ⟨_, [], hs', hwrote.own hmove ht hnew, .inl ⟨rfl, rfl⟩⟩
      · have hpunctual := hsched.isPunctual hstart s (List.mem_of_getElem? hs)
        obtain ⟨new, hnew, hfollows'⟩ := hfollows.own hpunctual hturn
        exact ⟨s', new ++ es, hs', hwrote.own hmove ht hnew, .inr ⟨ts₀, b₀, hfollows'⟩⟩
    · have hs' := (hmove.getElem?_of_ne ht).trans hs
      refine ⟨s, es, hs', hwrote.other hmove ht, hes.imp_right ?_⟩
      rintro ⟨ts₀, b₀, hbegan, hfollows⟩
      exact ⟨ts₀, b₀, hbegan.other hsched hmove ht, hfollows⟩

theorem Move.single {α : Type} {b c : Batch α} {s : Slot α} (h : b.Move net limit t c) (hb : b.slots = [s]) :
    (∃ s', c.slots = [s'] ∧ Slot.Turns net 0 t b.world s c.world s') ∨
      ∃ e : AgendaEntry, c.slots = [s] ∧ c.world = e.what.apply (b.world.atTime e.time) := by
  cases ht : t.slot? with
  | some i =>
    obtain ⟨s₀, s', hs₀, hs', hturn⟩ := h.turns ht
    obtain ⟨x, hx⟩ := List.length_eq_one_iff.mp (h.length_eq.trans (by rw [hb]; rfl))
    rw [hb] at hs₀
    rw [hx] at hs'
    obtain ⟨hi, rfl⟩ := List.getElem?_eq_some_iff.mp hs₀
    obtain rfl : i = 0 := Nat.lt_one_iff.mp hi
    cases hs'
    exact .inl ⟨s', hx, hturn⟩
  | none =>
    cases h with
    | start | wake | abort | skip => cases ht
    | @outside w slots e rest => exact .inr ⟨e, hb, rfl⟩

theorem Schedule.notes_single {domain : String} {R : Visit → Outcome → Prop} {v : Visit}
    (h : start.Schedule net limit ts b) (hs : start.slots = [s]) (hvisits : s.Visits p domain R v) :
    ∃ s' v' es, b.slots = [s'] ∧ b.world.journal = es ++ start.world.journal ∧
      v.Writes p domain (es.filter (!·.isFlush)) v' ∧ s'.Visits p domain R v' := by
  induction h with
  | nil => exact ⟨s, v, [], hs, rfl, .nil, hvisits⟩
  | @snoc ts c t d _ hmove ih =>
    obtain ⟨s', v', es, hs', hes, hwrites, hvisits'⟩ := ih
    rcases hmove.single hs' with ⟨s'', hs'', hturn⟩ | ⟨e, hs'', hd⟩
    · obtain ⟨v'', ⟨new, hnew, hwrites'⟩, hvisits''⟩ := hvisits'.turns hturn
      refine ⟨s'', v'', new ++ es, hs'', by rw [hnew, hes, List.append_assoc], ?_, hvisits''⟩
      rw [List.filter_append, hwrites'.filter_isFlush]
      exact hwrites.trans hwrites'
    · obtain ⟨new, hnew, hflush⟩ := e.what.adds_apply (c.world.atTime e.time)
      have hnone : new.filter (!·.isFlush) = [] :=
        List.filter_eq_nil_iff.mpr fun e' he' => by simp [Event.isFlush, hflush e' he']
      refine ⟨s', v', new ++ es, hs'', ?_, by rw [List.filter_append, hnone]; exact hwrites, hvisits'⟩
      rw [hd, hnew, List.append_assoc, ← hes]
      rfl

/-- The entries that a job alone makes go along its list. What else is in the journal are flushes. -/
theorem Schedule.notes_alone {domain : String} {R : Visit → Outcome → Prop} {v : Visit} {job : Job Outcome}
    {agenda : List AgendaEntry} (h : (Batch.alone net job w agenda).Schedule net limit ts b)
    (hfirst : ∃ v', v.Notes p domain w v' (Slot.advance net job w).1 ∧
      (Slot.advance net job w).2.Visits p domain R v') :
    ∃ v' es, b.world.journal = es ++ w.journal ∧ v.Writes p domain (es.filter (!·.isFlush)) v' := by
  obtain ⟨v₁, ⟨es, hes, hwrites⟩, hvisits⟩ := hfirst
  obtain ⟨-, v', es', -, hes', hwrites', -⟩ := h.notes_single rfl hvisits
  refine ⟨v', es' ++ es, ?_, ?_⟩
  · rw [hes', List.append_assoc, ← hes]
    rfl
  · rw [List.filter_append, hwrites.filter_isFlush]
    exact hwrites.trans hwrites'

theorem Schedule.follows_alone {agenda : List AgendaEntry}
    (h : (Batch.alone net (p.check raw) w agenda).Schedule net limit ts b) : ∃ v es,
      b.world.journal = es ++ w.journal ∧
        (Visit.first w.registry.resolvers).Writes p (normalize raw) (es.filter (!·.isFlush)) v :=
  h.notes_alone (Slot.advances net (p.check raw) w).visits_check

end Batch
end FilterWatch
