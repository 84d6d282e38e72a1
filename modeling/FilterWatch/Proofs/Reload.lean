import FilterWatch.Proofs.Versions

/-!
# Reloads do not touch the checks under way

A check of one domain during which the resolvers are changed is compared with the same check when they are left alone. The
two runs go side by side (`Mirrors`): a change of the resolvers has no counterpart in the second run, every other turn has
one, and what differs is only the list that later checks would find, and for a while the clock.
-/

namespace FilterWatch

/-! ### The agenda without the reloads -/

section
variable {α : Type} {le : α → α → Bool}

/-- An element that was sorted in is behind those that it is not below, and in front of the others. -/
theorem filter_of_mergeSort_cons {a : α} {l₁ l₂ : List α} (hsorted : (l₁ ++ a :: l₂).Pairwise fun x y => le x y)
    (hbefore : ∀ b ∈ l₁, !le a b) :
    (l₁ ++ l₂).filter (!le a ·) = l₁ ∧ (l₁ ++ l₂).filter (le a ·) = l₂ := by
  have hafter := (List.pairwise_cons.mp (List.pairwise_append.mp hsorted).2.1).1
  have hnone : l₂.filter (!le a ·) = [] := List.filter_eq_nil_iff.mpr fun b hb => by simp [hafter b hb]
  have hnone' : l₁.filter (le a ·) = [] := List.filter_eq_nil_iff.mpr fun b hb => by simpa using hbefore b hb
  rw [List.filter_append, List.filter_append, hnone, hnone', List.filter_eq_self.mpr hbefore,
    List.filter_eq_self.mpr hafter, List.append_nil, List.nil_append]
  exact ⟨rfl, rfl⟩

theorem filter_mergeSort (htrans : ∀ a b c, le a b → le b c → le a c) (htotal : ∀ a b, le a b || le b a)
    (p : α → Bool) (l : List α) : (l.mergeSort le).filter p = (l.filter p).mergeSort le := by
  induction l with
  | nil => simp
  | cons a l ih =>
    obtain ⟨l₁, l₂, hcons, hl, hbefore⟩ := List.mergeSort_cons htrans htotal a l
    rw [hl, List.filter_append] at ih
    cases hp : p a with
    | false =>
      have hskip : ∀ m, (a :: m).filter p = m.filter p := fun m => List.filter_cons_of_neg (by simp [hp])
      rw [hcons, List.filter_append, hskip, hskip, ih]
    | true =>
      obtain ⟨m₁, m₂, hcons', hm, hbefore'⟩ := List.mergeSort_cons htrans htotal a (l.filter p)
      have hsorted := List.pairwise_mergeSort htrans htotal (a :: l)
      have hsorted' := List.pairwise_mergeSort htrans htotal (a :: l.filter p)
      rw [hcons] at hsorted
      rw [hcons'] at hsorted'
      -- both times `a` stands at the same place of the elements that are kept
      obtain ⟨h₁, h₂⟩ := filter_of_mergeSort_cons hsorted hbefore
      obtain ⟨h₁', h₂'⟩ := filter_of_mergeSort_cons hsorted' hbefore'
      rw [← hm, ← ih, ← List.filter_append, List.filter_comm, h₁] at h₁'
      rw [← hm, ← ih, ← List.filter_append, List.filter_comm, h₂] at h₂'
      rw [hcons, List.filter_append, List.filter_cons_of_pos hp, List.filter_cons_of_pos hp, hcons', h₁', h₂']

end

def Intervention.isReload : Intervention → Bool
  | upsert _ | delete _ => true
  | cancel | flush | elapse _ => false

def withoutReloads (agenda : List AgendaEntry) : List AgendaEntry := agenda.filter (!·.what.isReload)

namespace Call

def withoutReloads (call : Call) : Call := { call with agenda := FilterWatch.withoutReloads call.agenda }

theorem agendaFrom_withoutReloads (call : Call) (w : World) :
    call.withoutReloads.agendaFrom w = FilterWatch.withoutReloads (call.agendaFrom w) := by
  have hfilter := @filter_mergeSort _ (fun a b : AgendaEntry => decide (a.time ≤ b.time))
    (fun a b c hab hbc => by simp only [decide_eq_true_eq] at *; omega)
    (fun a b => by simp only [Bool.or_eq_true, decide_eq_true_eq]; omega)
    (!·.what.isReload) (call.agenda.map fun e => { e with time := w.now + e.time })
  rw [agendaFrom, agendaFrom, FilterWatch.withoutReloads, hfilter, List.filter_map]
  rfl

end Call

/-! ### Surroundings with other resolvers -/

namespace World

def under (w : World) (reg : Registry) : World := { w with registry := reg }

variable (w : World) (reg : Registry)

theorem lookup_under (key : String) : (w.under reg).lookup key = ((w.lookup key).1.under reg, (w.lookup key).2) := rfl

theorem store_under (key : String) (o : Outcome) :
    (w.under reg).store key o = ((w.store key o).1.under reg, (w.store key o).2) := rfl

theorem count_under (t : Tally) : (w.under reg).count t = (w.count t).under reg := by cases t <;> rfl

theorem endExchange_under (server : String) (q : Dns.Query) (started : Nat) (a : Arrival) :
    (w.under reg).endExchange server q started a =
      ((w.endExchange server q started a).1.under reg, (w.endExchange server q started a).2) := by
  cases a <;> rfl

theorem apply_under (i : Intervention) (hi : i.isReload = false) : i.apply (w.under reg) = (i.apply w).under reg := by
  cases i with
  | upsert | delete => cases hi
  | cancel | flush | elapse => rfl

end World

namespace Slot
variable {α : Type} {net : Network} {p : CheckPolicy} {domain : String} {R : Visit → α → Prop} {v : Visit}
  {job : Job α} {s : Slot α}

/-- A job that goes along its list does the same under any registry. -/
theorem advance_under (hjob : job.Visits p domain R v) (w : World) (reg : Registry) :
    advance net job (w.under reg) = ((advance net job w).1.under reg, (advance net job w).2) := by
  induction hjob generalizing w with
  | done | crash => rfl
  | @lookup _ _ key next _ _ ih =>
    rcases hl : w.lookup key with ⟨w₁, f | hit⟩
    · simp only [advance, World.lookup_under, hl]
    · simp only [advance, World.lookup_under, hl, ih]
  | @store _ key o next _ _ ih =>
    rcases hs : w.store key o with ⟨w₁, _ | f⟩
    · simp only [advance, World.store_under, hs, ih]
    · simp only [advance, World.store_under, hs]
  | count _ ih => rw [advance, advance, World.count_under, ih]
  | @exchange _ limit server q next _ _ _ ih =>
    have hcancelled : (w.under reg).cancelled = w.cancelled := rfl
    cases hx : w.cancelled with
    | true =>
      simp only [advance, hcancelled, hx, if_true]
      exact ih .cancelled w.probeStarted.probeDropped
    | false =>
      have harrival : (net server q ((w.under reg).exchangesWith server q.name)).arrival limit =
          (net server q (w.exchangesWith server q.name)).arrival limit := rfl
      rcases ha : (net server q (w.exchangesWith server q.name)).arrival limit with ⟨wait, arrival⟩
      simp only [advance, hcancelled, hx, harrival, ha, Bool.false_eq_true, if_false]
      by_cases hwait : wait = 0
      · rw [if_pos hwait, if_pos hwait]
        rcases he : (w.probeStarted.note (.exchange server q)).endExchange server q w.now arrival with ⟨w₁, x⟩
        have hend : ((w.under reg).probeStarted.note (.exchange server q)).endExchange server q (w.under reg).now
            arrival = (w₁.under reg, x) := by
          have hunder := World.endExchange_under (w.probeStarted.note (.exchange server q)) reg server q w.now arrival
          rwa [he] at hunder
        rw [hend]
        cases x with
        | error f => rfl
        | ok reply => exact ih reply w₁
      · rw [if_neg hwait, if_neg hwait]
        rfl
  | @pause _ d next _ ih =>
    have hcancelled : (w.under reg).cancelled = w.cancelled := rfl
    simp only [advance, hcancelled]
    split
    · exact ih false w
    · split
      · exact ih true w
      · rfl

theorem Visits.wake_under (hs : s.Visits p domain R v) (w : World) (reg : Registry) :
    s.wake net (w.under reg) = ((s.wake net w).1.under reg, (s.wake net w).2) := by
  cases s with
  | exchanging due server q started arrival next =>
    have hend := World.endExchange_under w reg server q started arrival
    rcases he : w.endExchange server q started arrival with ⟨w₁, f | reply⟩
    · rw [he] at hend
      simp only [Slot.wake, he, hend]
    · rw [he] at hend
      simp only [Slot.wake, he, hend]
      exact advance_under (hs.2 reply) w₁ reg
  | pausing due next => exact advance_under (hs true) w reg
  | ended => rfl
  | queued | sleeping | skipped => cases hs

theorem Visits.abort_under (hs : s.Visits p domain R v) (w : World) (reg : Registry) :
    s.abort net (w.under reg) = ((s.abort net w).1.under reg, (s.abort net w).2) := by
  cases s with
  | exchanging due server q started arrival next => exact advance_under (hs.2 .cancelled) w.probeDropped reg
  | pausing due next => exact advance_under (hs false) w reg
  | ended => rfl
  | queued | sleeping | skipped => cases hs

theorem Visits.isQueued (hs : s.Visits p domain R v) : s.isQueued = false := by
  cases s with
  | queued => cases hs
  | exchanging | pausing | sleeping | ended | skipped => rfl

theorem Visits.isCancellable (hs : s.Visits p domain R v) (hopen : s.isOpen) : s.isCancellable := by
  cases s with
  | exchanging | pausing => rfl
  | ended => cases hopen
  | queued | sleeping | skipped => cases hs

end Slot

/-! ### Two runs side by side -/

section
variable {α : Type} {net : Network} {limit : Nat} {p : CheckPolicy} {domain : String} {R : Visit → α → Prop}
  {reg : Registry} {s : Slot α} {w w' : World} {agenda rest : List AgendaEntry} {e : AgendaEntry} {t : Turn}
  {b c : Batch α} {ts : List Turn} {time due : Nat}

/-- The surroundings of a job alone while the resolvers are changed, and when they are left alone. The second clock may be
behind as long as the job waits. -/
structure Mirrors (p : CheckPolicy) (domain : String) (R : Visit → α → Prop) (reg : Registry) (s : Slot α)
    (w w' : World) : Prop where
  visits : ∃ v, s.Visits p domain R v
  world : w' = { w.under reg with now := w'.now }
  behind : w'.now ≤ w.now
  caughtUp : w.cancelled = true ∨ s.isOpen = false → w'.now = w.now

namespace Mirrors

theorem of_under (hs : ∃ v, s.Visits p domain R v) : Mirrors p domain R reg s w (w.under reg) :=
  ⟨hs, rfl, Nat.le_refl _, fun _ => rfl⟩

theorem cancelled (h : Mirrors p domain R reg s w w') : w'.cancelled = w.cancelled := by
  rw [h.world]
  rfl

theorem eq_under (h : Mirrors p domain R reg s w w') (hs : w.cancelled = true ∨ s.isOpen = false) :
    w' = w.under reg := by
  rw [h.world, h.caughtUp hs]
  rfl

theorem atTime (h : Mirrors p domain R reg s w w') (ht : w.now ≤ time) :
    w'.atTime time = (w.atTime time).under reg := by
  have hnow : max w'.now time = max w.now time := by
    rw [Nat.max_eq_right ht, Nat.max_eq_right (Nat.le_trans h.behind ht)]
  rw [World.atTime, hnow, h.world]
  rfl

theorem wake (h : Mirrors p domain R reg s w w') (net : Network) (ht : w.now ≤ due) :
    Mirrors p domain R reg (s.wake net (w.atTime due)).2 (s.wake net (w.atTime due)).1 (s.wake net (w'.atTime due)).1 ∧
      (s.wake net (w'.atTime due)).2 = (s.wake net (w.atTime due)).2 := by
  obtain ⟨v, hs⟩ := h.visits
  obtain ⟨v', -, hs'⟩ := hs.wake net (w.atTime due)
  rw [h.atTime ht, hs.wake_under]
  exact ⟨of_under ⟨v', hs'⟩, rfl⟩

theorem abort (h : Mirrors p domain R reg s w w') (net : Network) (hx : w.cancelled = true) :
    Mirrors p domain R reg (s.abort net w).2 (s.abort net w).1 (s.abort net w').1 ∧
      (s.abort net w').2 = (s.abort net w).2 := by
  obtain ⟨v, hs⟩ := h.visits
  obtain ⟨v', -, hs'⟩ := hs.abort net w
  rw [h.eq_under (.inl hx), hs.abort_under]
  exact ⟨of_under ⟨v', hs'⟩, rfl⟩

theorem outside (h : Mirrors p domain R reg s w w') (he : e.what.isReload = false) (ht : w.now ≤ e.time) :
    Mirrors p domain R reg s (e.what.apply (w.atTime e.time)) (e.what.apply (w'.atTime e.time)) := by
  rw [h.atTime ht, World.apply_under _ _ _ he]
  exact of_under h.visits

theorem reload (h : Mirrors p domain R reg s w w') (he : e.what.isReload) (hs : s.isOpen)
    (hx : w.cancelled = true → e.time ≤ w.now) :
    Mirrors p domain R reg s (e.what.apply (w.atTime e.time)) w' := by
  obtain ⟨time, what⟩ := e
  have hrest : (what.apply (w.atTime time)).under reg = (w.atTime time).under reg ∧
      (what.apply (w.atTime time)).cancelled = w.cancelled := by
    cases what with
    | upsert | delete => exact ⟨rfl, rfl⟩
    | cancel | flush | elapse => cases he
  refine ⟨h.visits, ?_, ?_, ?_⟩
  · rw [hrest.1]
    exact h.world
  · rw [Intervention.now_apply]
    exact Nat.le_trans h.behind (Nat.le_max_left _ _)
  · rw [Intervention.now_apply, hrest.2]
    rintro (hx' | hclosed)
    · exact (h.caughtUp (.inl hx')).trans (Nat.max_eq_left (hx hx')).symm
    · rw [hs] at hclosed
      cases hclosed

theorem isStarted (h : Mirrors p domain R reg s w w') : s.isStarted := by
  obtain ⟨v, hs⟩ := h.visits
  exact hs.isStarted

theorem isBusy (h : Mirrors p domain R reg s w w') {agenda' : List AgendaEntry}
    (hbusy : Batch.IsBusy limit ⟨w', [s], agenda'⟩) : Batch.IsBusy limit ⟨w, [s], agenda⟩ := by
  unfold Batch.IsBusy at hbusy ⊢
  rwa [h.cancelled] at hbusy

theorem mayReach (h : Mirrors p domain R reg s w w') (hpunctual : Batch.IsPunctual ⟨w, [s], agenda⟩)
    (htime : Batch.OnTime ⟨w, [s], agenda⟩) (hreach : Batch.MayReach limit ⟨w, [s], agenda⟩ time) :
    Batch.MayReach limit ⟨w', [s], withoutReloads agenda⟩ time := by
  have hhead : ∀ {P : AgendaEntry → Prop}, (∀ e ∈ agenda, P e) → ∀ e ∈ (withoutReloads agenda).head?, P e :=
    fun hall e he => hall e (List.mem_filter.mp (List.mem_of_mem_head? he)).1
  have hall := htime.atTime hreach
  rcases hreach with hnow | ⟨hbusy, hwaits, -⟩
  · rcases Nat.lt_or_ge w'.now time with hlt | hge
    · -- the second clock is behind, so the job waits and nobody has cancelled
      have hcalm : w.cancelled = false := by
        cases hx : w.cancelled with
        | false => rfl
        | true =>
          have hcaught := h.caughtUp (.inl hx)
          have hnow : time ≤ w.now := hnow
          omega
      refine .inr ⟨?_, fun x hx due hdue => Nat.le_trans hnow (hpunctual x hx due hdue), ?_⟩
      · rintro (⟨-, -, x, hx, hq⟩ | ⟨hx, -⟩)
        · obtain ⟨v, hs⟩ := h.visits
          rw [List.mem_singleton.mp hx, hs.isQueued] at hq
          cases hq
        · exact absurd ((h.cancelled.trans hcalm).symm.trans hx) (by simp)
      · exact hhead fun e he => Nat.le_trans (Nat.le_max_right _ _) (hall e he)
    · exact .inl hge
  · refine .inr ⟨fun hbusy' => hbusy (h.isBusy hbusy'), hwaits, ?_⟩
    exact hhead fun e he => Nat.le_trans (Nat.le_max_right _ _) (hall e he)

end Mirrors

theorem withoutReloads_cons (he : e.what.isReload = false) : withoutReloads (e :: rest) = e :: withoutReloads rest :=
  List.filter_cons_of_pos (by rw [he]; rfl)

theorem withoutReloads_cons_of_isReload (he : e.what.isReload) : withoutReloads (e :: rest) = withoutReloads rest :=
  List.filter_cons_of_neg (by rw [he]; simp)

namespace Batch

theorem Move.of_alone (h : (⟨w, [s], agenda⟩ : Batch α).Move net limit t b) (hs : s.isStarted) :
    (∃ due, s.due? = some due ∧ (s.isCancellable → w.cancelled = false) ∧
      MayReach limit ⟨w, [s], agenda⟩ due ∧
      b = ⟨(s.wake net (w.atTime due)).1, [(s.wake net (w.atTime due)).2], agenda⟩) ∨
    (s.isCancellable ∧ w.cancelled = true ∧ b = ⟨(s.abort net w).1, [(s.abort net w).2], agenda⟩) ∨
    ∃ e rest, agenda = e :: rest ∧ s.isOpen ∧ MayReach limit ⟨w, [s], agenda⟩ e.time ∧
      b = ⟨e.what.apply (w.atTime e.time), [s], rest⟩ := by
  have hsingle : ∀ {pre post : List (Slot α)} {x : Slot α}, pre ++ x :: post = [s] → pre = [] ∧ x = s ∧ post = [] := by
    intro pre post x hx
    cases pre with
    | nil => cases hx; exact ⟨rfl, rfl, rfl⟩
    | cons => simp at hx
  generalize hb : (⟨w, [s], agenda⟩ : Batch α) = b₀ at h
  cases h with
  | start | skip =>
    simp only [mk.injEq] at hb
    obtain ⟨rfl, rfl, rfl⟩ := hsingle hb.2.1.symm
    cases hs
  | wake hdue hcalm ht =>
    simp only [mk.injEq] at hb
    obtain ⟨rfl, hslots, rfl⟩ := hb
    obtain ⟨rfl, rfl, rfl⟩ := hsingle hslots.symm
    exact .inl ⟨_, hdue, hcalm, ht, rfl⟩
  | abort hc hx =>
    simp only [mk.injEq] at hb
    obtain ⟨rfl, hslots, rfl⟩ := hb
    obtain ⟨rfl, rfl, rfl⟩ := hsingle hslots.symm
    exact .inr (.inl ⟨hc, hx, rfl⟩)
  | outside hopen ht =>
    simp only [mk.injEq] at hb
    obtain ⟨rfl, rfl, rfl⟩ := hb
    obtain ⟨x, hx, hopen⟩ := hopen
    rw [List.mem_singleton.mp hx] at hopen
    exact .inr (.inr ⟨_, _, rfl, hopen, ht, rfl⟩)

/-- Every turn of a job alone has its counterpart when the resolvers are left alone, but for their changes. -/
theorem Move.mirrors (h : (⟨w, [s], agenda⟩ : Batch α).Move net limit t b) (hm : Mirrors p domain R reg s w w')
    (hpunctual : IsPunctual ⟨w, [s], agenda⟩) (htime : OnTime ⟨w, [s], agenda⟩) :
    ∃ s₁ w₁ w₁' agenda₁, b = ⟨w₁, [s₁], agenda₁⟩ ∧ Mirrors p domain R reg s₁ w₁ w₁' ∧
      ∃ ts, (⟨w', [s], withoutReloads agenda⟩ : Batch α).Schedule net limit ts ⟨w₁', [s₁], withoutReloads agenda₁⟩ := by
  rcases h.of_alone hm.isStarted with ⟨due, hdue, hcalm, hreach, rfl⟩ | ⟨hs, hx, rfl⟩ | ⟨e, rest, rfl, hopen, hreach, rfl⟩
  · obtain ⟨hm', hslot⟩ := hm.wake net (hpunctual s (.head _) due hdue)
    refine ⟨_, _, _, _, rfl, hm', [.wake 0], Schedule.nil.snoc ?_⟩
    rw [← hslot]
    exact @Move.wake _ net limit w' [] s [] _ due hdue (fun hs => hm.cancelled.trans (hcalm hs))
      (hm.mayReach hpunctual htime hreach)
  · obtain ⟨hm', hslot⟩ := hm.abort net hx
    refine ⟨_, _, _, _, rfl, hm', [.abort 0], Schedule.nil.snoc ?_⟩
    rw [← hslot]
    exact @Move.abort _ net limit w' [] s [] _ hs (hm.cancelled.trans hx)
  · have hmem : s ∈ [s] := .head _
    cases he : e.what.isReload with
    | true =>
      have hx : w.cancelled = true → e.time ≤ w.now := by
        intro hx
        rcases hreach with hnow | ⟨hbusy, -, -⟩
        · exact hnow
        · obtain ⟨v, hs⟩ := hm.visits
          exact absurd (.inr ⟨hx, s, hmem, .inr (hs.isCancellable hopen)⟩) hbusy
      refine ⟨_, _, _, _, rfl, hm.reload he hopen hx, [], ?_⟩
      rw [withoutReloads_cons_of_isReload he]
      exact .nil
    | false =>
      refine ⟨_, _, _, _, rfl, hm.outside he (htime.ahead e (.head _)), [.outside e], Schedule.nil.snoc ?_⟩
      have hreach' := hm.mayReach hpunctual htime hreach
      rw [withoutReloads_cons he] at hreach' ⊢
      exact .outside ⟨s, hmem, hopen⟩ hreach'

theorem Schedule.mirrors (h : (⟨w, [s], agenda⟩ : Batch α).Schedule net limit ts b)
    (hm : Mirrors p domain R reg s w w') (hpunctual : IsPunctual ⟨w, [s], agenda⟩)
    (htime : OnTime ⟨w, [s], agenda⟩) :
    ∃ s₁ w₁ w₁' agenda₁, b = ⟨w₁, [s₁], agenda₁⟩ ∧ Mirrors p domain R reg s₁ w₁ w₁' ∧
      ∃ ts, (⟨w', [s], withoutReloads agenda⟩ : Batch α).Schedule net limit ts ⟨w₁', [s₁], withoutReloads agenda₁⟩ := by
  induction h with
  | nil => exact ⟨s, w, w', agenda, rfl, hm, [], .nil⟩
  | snoc hsched hmove ih =>
    obtain ⟨s₁, w₁, w₁', agenda₁, rfl, hm₁, us, hus⟩ := ih
    obtain ⟨s₂, w₂, w₂', agenda₂, hd, hm₂, vs, hvs⟩ :=
      hmove.mirrors hm₁ (hsched.isPunctual hpunctual) (hsched.preserves Move.onTime htime)
    exact ⟨s₂, w₂, w₂', agenda₂, hd, hm₂, us ++ vs, hus.trans hvs⟩

/-! ### The next thing to happen in a batch of one started job -/

theorem step_of_cancelled (hx : w.cancelled ∧ s.isCancellable) : (⟨w, [s], agenda⟩ : Batch α).step net limit =
    some ⟨(s.abort net w).1, [(s.abort net w).2], agenda⟩ := by
  simp [step, change, Slot.changeFirst, hx]

section
variable (hs : s.isQueued = false)
include hs

theorem step_of_ended (hdue : s.due? = none) : (⟨w, [s], agenda⟩ : Batch α).step net limit = none := by
  have hx : s.isCancellable = false := by
    cases s <;> first | rfl | cases hdue
  simp [step, hs, hx, Slot.earliestDue?, hdue]

theorem step_of_early (hx : ¬ (w.cancelled ∧ s.isCancellable)) (hdue : s.due? = some due) (hle : e.time ≤ due) :
    (⟨w, [s], e :: rest⟩ : Batch α).step net limit = some ⟨e.what.apply (w.atTime e.time), [s], rest⟩ := by
  simp [step, hx, hs, Slot.earliestDue?, hdue, hle]

theorem step_of_late (hx : ¬ (w.cancelled ∧ s.isCancellable)) (hdue : s.due? = some due)
    (hlate : ∀ e ∈ agenda, due < e.time) : (⟨w, [s], agenda⟩ : Batch α).step net limit =
      some ⟨(s.wake net (w.atTime due)).1, [(s.wake net (w.atTime due)).2], agenda⟩ := by
  cases agenda with
  | nil => simp [step, wakeAt, atTime, change, Slot.changeFirst, hx, hs, Slot.earliestDue?, hdue]
  | cons e rest =>
    have he := Nat.not_le.mpr (hlate e (.head _))
    simp [step, wakeAt, atTime, change, Slot.changeFirst, hx, hs, Slot.earliestDue?, hdue, he]

end

theorem OnTime.late_or_early (htime : OnTime ⟨w, [s], agenda⟩) (due : Nat) :
    (∀ e ∈ agenda, due < e.time) ∨ ∃ e rest, agenda = e :: rest ∧ e.time ≤ due := by
  cases agenda with
  | nil => exact .inl (by simp)
  | cons e rest =>
    rcases Nat.lt_or_ge due e.time with hlt | hle
    · have hsorted := (List.pairwise_cons.mp htime.sorted).1
      exact .inl (List.forall_mem_cons.mpr ⟨hlt, fun e' he' => Nat.lt_of_lt_of_le hlt (hsorted e' he')⟩)
    · exact .inr ⟨e, rest, rfl, hle⟩

theorem step_mirrors (hm : Mirrors p domain R reg s w w') (hpunctual : IsPunctual ⟨w, [s], agenda⟩)
    (htime : OnTime ⟨w, [s], agenda⟩) :
    ((⟨w, [s], agenda⟩ : Batch α).step net limit = none ∧
      (⟨w', [s], withoutReloads agenda⟩ : Batch α).step net limit = none) ∨
    ∃ s₁ w₁ w₁' agenda₁, (⟨w, [s], agenda⟩ : Batch α).step net limit = some ⟨w₁, [s₁], agenda₁⟩ ∧
      Mirrors p domain R reg s₁ w₁ w₁' ∧
      (⟨w', [s], withoutReloads agenda⟩ : Batch α).run net limit = run net limit ⟨w₁', [s₁], withoutReloads agenda₁⟩ := by
  obtain ⟨v, hs⟩ := hm.visits
  have hq := hs.isQueued
  by_cases hx : w.cancelled ∧ s.isCancellable
  · obtain ⟨hm', hslot⟩ := hm.abort net hx.1
    refine .inr ⟨_, _, _, _, step_of_cancelled hx, hm', ?_⟩
    rw [run_of_step (step_of_cancelled ⟨hm.cancelled.trans hx.1, hx.2⟩), hslot]
  · have hx' : ¬ (w'.cancelled ∧ s.isCancellable) := by rwa [hm.cancelled]
    cases hdue : s.due? with
    | none => exact .inl ⟨step_of_ended hq hdue, step_of_ended hq hdue⟩
    | some due =>
      rcases htime.late_or_early due with hlate | ⟨e, rest, rfl, hle⟩
      · obtain ⟨hm', hslot⟩ := hm.wake net (hpunctual s (.head _) due hdue)
        have hlate' : ∀ e ∈ withoutReloads agenda, due < e.time := fun e he => hlate e (List.mem_filter.mp he).1
        refine .inr ⟨_, _, _, _, step_of_late hq hx hdue hlate, hm', ?_⟩
        rw [run_of_step (step_of_late hq hx' hdue hlate'), hslot]
      · cases he : e.what.isReload with
        | true =>
          have hopen : s.isOpen := by simp [Slot.isOpen, Slot.isRunning_of_due? hdue]
          have hcalm : w.cancelled = true → e.time ≤ w.now := fun hc => absurd ⟨hc, hs.isCancellable hopen⟩ hx
          refine .inr ⟨_, _, _, _, step_of_early hq hx hdue hle, hm.reload he hopen hcalm, ?_⟩
          rw [withoutReloads_cons_of_isReload he]
        | false =>
          refine .inr ⟨_, _, _, _, step_of_early hq hx hdue hle, hm.outside he (htime.ahead e (.head _)), ?_⟩
          rw [withoutReloads_cons he, run_of_step (step_of_early hq hx' hdue hle)]

/-- A job alone comes to the same end when the resolvers are left alone, but for the resolvers. -/
theorem run_mirrors (net : Network) (limit : Nat) (hm : Mirrors p domain R reg s w w')
    (hpunctual : IsPunctual ⟨w, [s], agenda⟩) (htime : OnTime ⟨w, [s], agenda⟩) : ∃ s₁ w₁ agenda₁,
      (⟨w, [s], agenda⟩ : Batch α).run net limit = ⟨w₁, [s₁], agenda₁⟩ ∧ ∃ w₁',
        (⟨w', [s], withoutReloads agenda⟩ : Batch α).run net limit = ⟨w₁', [s₁], withoutReloads agenda₁⟩ ∧
        Mirrors p domain R reg s₁ w₁ w₁' := by
  induction hb : (⟨w, [s], agenda⟩ : Batch α) using Batch.run.induct net limit generalizing s w w' agenda with
  | case1 b hnone =>
    subst hb
    rcases step_mirrors hm hpunctual htime with ⟨-, hnone'⟩ | ⟨_, _, _, _, hsome, -⟩
    · exact ⟨s, w, agenda, run_of_step_none hnone, w', run_of_step_none hnone', hm⟩
    · rw [hnone] at hsome
      cases hsome
  | case2 b c hsome ih =>
    subst hb
    obtain ⟨t, hmove⟩ := move_of_step hsome
    rcases step_mirrors hm hpunctual htime with ⟨hnone, -⟩ | ⟨s₁, w₁, w₁', agenda₁, hsome', hm₁, hrun⟩
    · rw [hnone] at hsome
      cases hsome
    · rw [hsome] at hsome'
      cases hsome'
      rw [run_of_step hsome, hrun]
      exact ih hm₁ (hmove.isPunctual hpunctual) (hmove.onTime htime) rfl

end Batch

theorem Mirrors.refl (hs : ∃ v, s.Visits p domain R v) : Mirrors p domain R w.registry s w w := .of_under hs

/-- A job that goes along its list has the same result when the resolvers are left alone, and leaves the same surroundings
but for the resolvers. -/
theorem runAlone_withoutReloads {job : Job α} (hs : ∃ v, (Slot.advance net job w).2.Visits p domain R v)
    (htime : (Batch.alone net job w agenda).OnTime) : runAlone net (withoutReloads agenda) job w =
      ((runAlone net agenda job w).1.under w.registry, (runAlone net agenda job w).2) := by
  have hpunctual : (Batch.alone net job w agenda).IsPunctual := Batch.isPunctual_alone
  have hregistry : (Slot.advance net job w).1.registry = w.registry :=
    congrArg Prod.fst (Slot.advances net job w).setting
  rcases hadv : Slot.advance net job w with ⟨w₀, s₀⟩
  rw [Batch.alone, hadv] at hpunctual htime
  rw [hadv] at hs hregistry
  obtain ⟨s₁, w₁, agenda₁, hrun, w₁', hrun', hm⟩ := Batch.run_mirrors net 1 (Mirrors.refl hs) hpunctual htime
  have hclosed : s₁.isOpen = false := by
    obtain ⟨ts, hfin⟩ := Batch.run_finishes net Nat.one_pos ⟨w₀, [s₀], agenda⟩
    rw [hrun] at hfin
    exact hfin.done s₁ (.head _)
  simp only [runAlone, hadv, hrun, hrun']
  rw [hm.eq_under (.inr hclosed), hregistry]

theorem Batch.Finishes.withoutReloads {job : Job α} (h : (Batch.alone net job w agenda).Finishes net limit ts b)
    (hs : ∃ v, (Slot.advance net job w).2.Visits p domain R v) (htime : (Batch.alone net job w agenda).OnTime) :
    ∃ us, (Batch.alone net job w (withoutReloads agenda)).Finishes net limit us
      ⟨b.world.under w.registry, b.slots, FilterWatch.withoutReloads b.agenda⟩ := by
  have hregistry : (Slot.advance net job w).1.registry = w.registry :=
    congrArg Prod.fst (Slot.advances net job w).setting
  obtain ⟨s₁, w₁, w₁', agenda₁, rfl, hm, us, hus⟩ :=
    h.schedule.mirrors (Mirrors.refl hs) Batch.isPunctual_alone htime
  have hw := hm.eq_under (.inr (h.done s₁ (.head _)))
  rw [hw, hregistry] at hus
  exact ⟨us, hus, h.done⟩

end

/-! ### The checks of a call -/

namespace Checker
variable {c : Checker} {net : Network} {call : Call} {raw : String}

/-- A check that was made with one version of the resolver list, from its start in these surroundings on. The entries
that it has made in the journal, latest first, go along that version: it has looked up resolvers from the first one on, in
their order, and has sent queries to no others. Unless it was cancelled it took the course of a failover through that
version, with the keywords and the types of its resolvers. -/
structure MadeWith (net : Network) (meanwhile : World → World → Prop) (p : CheckPolicy) (raw : String)
    (version : List Resolver) (w : World) (es : List Event) (x : Except Fault Outcome) : Prop where
  current : w.registry.resolvers = version
  follows : ∃ v, (Visit.first version).Writes p (normalize raw) es v
  lookups : es.reverse.filterMap Event.lookedUp? <+: version.map (cacheKey (normalize raw))
  exchanges : ∀ e ∈ es, ∀ server q, e.what = .exchange server q → ∃ r ∈ version,
    server = withDefaultPort r.address ∧ Dns.Query.ofDomain (normalize raw) r.recordType p.prober.payload = .ok q
  course : ∃ ds w', (p.check raw).Runs net meanwhile w ds w' x ∧ ∀ o, x = .ok o →
    o.IsCancelled ∨ o = .failed (normalize raw) (.invalidInput (normalize raw)) ∨
      ∃ ds', ds = .resolvers version :: ds' ∧ Failover p (normalize raw) version ds' o

theorem MadeWith.of_runs {meanwhile : World → World → Prop} {p : CheckPolicy} {w w' : World} {es : List Event}
    {ds : List Deed} {x : Except Fault Outcome} {v : Visit}
    (hes : (Visit.first w.registry.resolvers).Writes p (normalize raw) es v)
    (hruns : (p.check raw).Runs net meanwhile w ds w' x) :
    MadeWith net meanwhile p raw w.registry.resolvers w es x := by
  obtain ⟨taken, htaken, -, hkeys, hsent⟩ := hes.visited
  refine ⟨rfl, ⟨v, hes⟩, ?_, fun e he server q heq => ?_, ds, w', hruns, fun o ho => ?_⟩
  · rw [hkeys, htaken, List.map_append]
    exact List.prefix_append _ _
  · obtain ⟨r, hr, hq⟩ := hsent e he server q heq
    exact ⟨r, by rw [htaken]; exact List.mem_append_left _ hr, hq⟩
  · subst ho
    rcases (check_heeds_any p raw).runs hruns with hcalm | hcancelled
    · rcases hruns.check hcalm with hfailover | ⟨hinvalid, -⟩
      · exact .inr (.inr hfailover)
      · exact .inr (.inl hinvalid)
    · exact .inl hcancelled

theorem visits_of_advances {p : CheckPolicy} {w w' : World} {s : Slot Outcome}
    (h : Slot.Advances net w (p.check raw) w' s) : ∃ v, s.Visits p (normalize raw) (fun _ _ => True) v :=
  h.visits_check.imp fun _ hvisits => hvisits.2

/-- What becomes of the items of a call while the resolvers are changed. -/
structure Isolates (c : Checker) (net : Network) (call : Call) : Prop where
  /-- In every schedule, an item that was started was checked with the version that the turns before its start have made of
  the list, and an item that was not started has written nothing. -/
  checkMany : ∀ raws limit ts b, (c.manyBatch call raws).Finishes net limit ts b → ∀ (i : Nat) raw, raws[i]? = some raw →
    ∃ es, Batch.Wrote net limit (c.manyBatch call raws) i ts b es ∧
      (b.slots[i]? = some .skipped ∧ es = [] ∨
        ∃ x before later b₀, b.slots[i]? = some (.ended x) ∧ ts = before ++ .start i :: later ∧
          (c.manyBatch call raws).Schedule net limit before b₀ ∧
          MadeWith net ((c.manyBatch call raws).Meanwhile net limit i) c.policy raw (before.foldl Turn.reload c.resolvers)
            b₀.world es x)
  /-- In every schedule of a check of one domain, that is the list at the beginning of the call. -/
  checkOne : ∀ raw ts b, (c.oneBatch net call raw).Finishes net 1 ts b → ∃ x es, b.slots = [.ended x] ∧
    b.world.journal = es ++ c.world.journal ∧
      MadeWith net (World.Intervened (call.agendaFrom c.world)) c.policy raw c.resolvers (call.world c.world)
        (es.filter (!·.isFlush)) x
  /-- What a check of one domain comes to is what it comes to when the resolvers are left alone: the result, the journal,
  the time that it takes and all else but the resolvers themselves. -/
  independent : ∀ raw, c.checkOne net call.withoutReloads raw =
    ({ c with world := (c.checkOne net call raw).1.world.under c.world.registry }, (c.checkOne net call raw).2)
  /-- So does every schedule have its counterpart, whatever comes first among the things that can happen at a moment. -/
  schedules : ∀ raw ts b, (c.oneBatch net call raw).Finishes net 1 ts b →
    ∃ us, (c.oneBatch net call.withoutReloads raw).Finishes net 1 us
      ⟨b.world.under c.world.registry, b.slots, FilterWatch.withoutReloads b.agenda⟩

theorem isolates_checkMany {raws : List String} {limit : Nat} {ts : List Turn} {b : Batch Outcome}
    (h : (c.manyBatch call raws).Finishes net limit ts b) {i : Nat} (hraw : raws[i]? = some raw) :
    ∃ es, Batch.Wrote net limit (c.manyBatch call raws) i ts b es ∧
      (b.slots[i]? = some .skipped ∧ es = [] ∨
        ∃ x before later b₀, b.slots[i]? = some (.ended x) ∧ ts = before ++ .start i :: later ∧
          (c.manyBatch call raws).Schedule net limit before b₀ ∧
          MadeWith net ((c.manyBatch call raws).Meanwhile net limit i) c.policy raw
            (before.foldl Turn.reload c.resolvers) b₀.world es x) := by
  have hqueued : (c.manyBatch call raws).slots[i]? = some (.queued (c.policy.check raw)) := by
    rw [manyBatch, Batch.queue, List.getElem?_map, hraw]
    rfl
  obtain ⟨s, es, hs, hwrote, hes⟩ := h.schedule.follows (Batch.isPunctual_queue _ _ _ _) hqueued
  have hclosed := h.done s (List.mem_of_getElem? hs)
  refine ⟨es, hwrote, ?_⟩
  rcases hes with ⟨hnot, rfl⟩ | ⟨before, b₀, hbegan, v, hwrites, hvisits⟩
  · rw [Slot.eq_skipped hnot hclosed] at hs
    exact .inl ⟨hs, rfl⟩
  · obtain ⟨x, rfl⟩ := Slot.eq_ended hvisits.isStarted hclosed
    obtain ⟨later, hlater⟩ := hbegan.turns
    obtain ⟨ds, w₁, hruns, -⟩ := hbegan.runs
    have hversion : b₀.world.registry.resolvers = before.foldl Turn.reload c.resolvers := hbegan.schedule.resolvers
    refine .inr ⟨x, before, later, b₀, hs, hlater, hbegan.schedule, ?_⟩
    rw [← hversion]
    exact .of_runs hwrites hruns

theorem isolates_checkOne {ts : List Turn} {b : Batch Outcome} (h : (c.oneBatch net call raw).Finishes net 1 ts b) :
    ∃ x es, b.slots = [.ended x] ∧ b.world.journal = es ++ c.world.journal ∧
      MadeWith net (World.Intervened (call.agendaFrom c.world)) c.policy raw c.resolvers (call.world c.world)
        (es.filter (!·.isFlush)) x := by
  obtain ⟨x, ds, hslots, hruns⟩ := h.runs
  have hsched := h.schedule
  rw [oneBatch] at hsched
  obtain ⟨v, es, hes, hwrites⟩ := hsched.follows_alone
  exact ⟨x, es, hslots, hes, MadeWith.of_runs hwrites hruns⟩

theorem checkOne_withoutReloads (c : Checker) (net : Network) (call : Call) (raw : String) :
    c.checkOne net call.withoutReloads raw =
      ({ c with world := (c.checkOne net call raw).1.world.under c.world.registry }, (c.checkOne net call raw).2) := by
  by_cases hne : c.resolvers = []
  · rw [(calls_of_empty net call.withoutReloads hne).1, (calls_of_empty net call hne).1]
    rfl
  · have hrun := runAlone_withoutReloads (visits_of_advances (Slot.advances net (c.policy.check raw) _))
      (Batch.onTime_alone call c.world)
    have hworld : call.withoutReloads.world c.world = call.world c.world := rfl
    rw [checkOne_eq hne, checkOne_eq hne, runCall, runCall, Call.agendaFrom_withoutReloads, hworld, hrun]
    generalize runAlone net (call.agendaFrom c.world) (c.policy.check raw) (call.world c.world) = result
    rfl

/-- Changing the resolvers does not touch the checks under way: each of them uses the version of the list that was there
when it was started, and a check of one domain is the same as when the resolvers are left alone. The calls of a checker
that has resolvers take one of the schedules that this is said of. -/
theorem isolates (c : Checker) (net : Network) (call : Call) :
    (c.resolvers ≠ [] →
      (∀ raws, ∃ ts b, (c.manyBatch call raws).Finishes net c.limit ts b ∧
        c.checkMany net call raws = ({ c with world := b.world }, .ok (b.results fallback raws))) ∧
      ∀ raw, ∃ ts b x, (c.oneBatch net call raw).Finishes net 1 ts b ∧ b.slots = [.ended x] ∧
        c.checkOne net call raw = ({ c with world := b.world }, x.mapError .crash)) ∧
    c.Isolates net call := by
  refine ⟨fun hne => ⟨checkMany_finishes net call hne, checkOne_finishes net call hne⟩, ?_⟩
  refine ⟨fun raws limit ts b h i raw hraw => isolates_checkMany h hraw, fun raw ts b h => isolates_checkOne h,
    checkOne_withoutReloads c net call, fun raw ts b h => ?_⟩
  have hvisits := visits_of_advances (Slot.advances net (c.policy.check raw) (call.world c.world))
  obtain ⟨us, hus⟩ := Batch.Finishes.withoutReloads h hvisits (Batch.onTime_alone call c.world)
  rw [← Call.agendaFrom_withoutReloads] at hus
  exact ⟨us, hus⟩

theorem checkOne_eq_of_steps (hne : c.resolvers ≠ []) (agenda : List AgendaEntry)
    (hagenda : call.agendaFrom c.world = agenda) (n : Nat) {b : Batch Outcome} {x : Except Fault Outcome}
    (hb : (Batch.alone net (c.policy.check raw) (call.world c.world) agenda).steps net 1 n = b)
    (hstop : (b.step net 1).isNone) (hx : b.slots.map Slot.ended? = [some x]) :
    c.checkOne net call raw = ({ c with world := b.world }, x.mapError .crash) := by
  have hrun : (Batch.alone net (c.policy.check raw) (call.world c.world) agenda).run net 1 = b := by
    rw [Batch.run_eq_steps n (by rw [hb]; exact hstop), hb]
  have hslots : b.slots = [.ended x] := by
    cases hslots : b.slots with
    | nil => rw [hslots] at hx; cases hx
    | cons s rest =>
      rw [hslots] at hx
      obtain ⟨hended, hrest⟩ := List.cons.inj hx
      rw [List.map_eq_nil_iff.mp hrest]
      cases s with
      | ended y => cases hended; rfl
      | queued | exchanging | pausing | sleeping | skipped => cases hended
  rw [checkOne_eq hne, runCall, hagenda]
  rcases hadv : Slot.advance net (c.policy.check raw) (call.world c.world) with ⟨w₀, s₀⟩
  rw [Batch.alone, hadv] at hrun
  simp only [runAlone, hadv, hrun, hslots]

theorem checkOne_of_steps (hne : c.resolvers ≠ []) (agenda : List AgendaEntry)
    (hagenda : call.agendaFrom c.world = agenda) (n : Nat) {b : Batch Outcome} {x : Except Fault Outcome}
    (hb : (Batch.alone net (c.policy.check raw) (call.world c.world) agenda).steps net 1 n = b)
    (hstop : (b.step net 1).isNone) (hx : b.slots.map Slot.ended? = [some x]) :
    (c.checkOne net call raw).2 = x.mapError .crash := by
  rw [checkOne_eq_of_steps hne agenda hagenda n hb hstop hx]

end Checker

/-- A network where every query is answered after so many milliseconds, without any record. -/
def Network.answeringAfter (delay : Nat) : Network := fun _ q _ => .after delay (.message (.answering q.question))

theorem Checker.isolates_reload :
    let call : Call := { agenda := [⟨5, .delete ["10.0.0.1"]⟩, ⟨6, .upsert [⟨"10.0.0.2", "block", .a⟩]⟩] }
    ((ofAddresses ["10.0.0.1"]).checkOne (.answeringAfter 10) call "Example.com").2 =
      .ok (.verdict "example.com" "10.0.0.1" false) ∧
    ∃ ts b es, ((ofAddresses ["10.0.0.1"]).manyBatch call ["Example.com"]).Finishes (.answeringAfter 10)
        (ofAddresses ["10.0.0.1"]).limit ts b ∧
      Batch.Wrote (.answeringAfter 10) (ofAddresses ["10.0.0.1"]).limit
        ((ofAddresses ["10.0.0.1"]).manyBatch call ["Example.com"]) 0 ts b es := by
  intro call
  have hne : (ofAddresses ["10.0.0.1"]).resolvers ≠ [] := by decide
  have halone : ((ofAddresses ["10.0.0.1"]).checkOne (.answeringAfter 10) {} "Example.com").2 =
      .ok (.verdict "example.com" "10.0.0.1" false) := by
    refine checkOne_of_steps (x := .ok (.verdict "example.com" "10.0.0.1" false)) hne [] ?_ 2 rfl ?_ ?_
    · simp [Call.agendaFrom]
    · decide +kernel
    · decide +kernel
  obtain ⟨hresults, hisolates⟩ := isolates (ofAddresses ["10.0.0.1"]) (.answeringAfter 10) call
  refine ⟨?_, ?_⟩
  · have hcall : call.withoutReloads = {} := rfl
    have hsame := hisolates.independent "Example.com"
    rcases hcheck : (ofAddresses ["10.0.0.1"]).checkOne (.answeringAfter 10) call "Example.com" with ⟨c', result⟩
    rw [hcall, hcheck] at hsame
    rw [hsame] at halone
    exact halone
  · obtain ⟨ts, b, hfin, -⟩ := (hresults hne).1 ["Example.com"]
    obtain ⟨es, hwrote, -⟩ := hisolates.checkMany ["Example.com"] _ ts b hfin 0 "Example.com" rfl
    exact ⟨ts, b, es, hfin, hwrote⟩

end FilterWatch
