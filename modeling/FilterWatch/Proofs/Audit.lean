import FilterWatch.Proofs.Admission
import FilterWatch.Proofs.Expiry
import FilterWatch.Proofs.Tallies

/-!
# The counters reconcile with the outcomes

What a checker has counted is what became of its checks. `Batch.Finds` follows a schedule and keeps, job by job, what
reads of the cache have brought, so at its end each check has an `Ending`: found in the cache, made, crashed or skipped.
`Batch.Reckoned` is the invariant of a batch: exactly what has ended was counted. `Checker.Audited` keeps the endings of
all checks between one snapshot and the next over any uses of a checker, and `Checker.reconciles` compares them with the
snapshots.
-/

namespace FilterWatch

/-! ### Batches -/

namespace Batch
variable {α ι : Type}

/-- What reads of the cache have brought to the jobs of a batch, job by job, along the turns of a schedule. -/
inductive Finds (net : Network) (limit : Nat) (start : Batch α) (first : List (List Outcome)) :
    List Turn → Batch α → List (List Outcome) → Prop
  | nil : Finds net limit start first [] start first
  | own {ts c t d pre hits post s} (h : Finds net limit start first ts c (pre ++ hits :: post))
      (hmove : c.Move net limit t d) (ht : t.slot? = some pre.length) (hs : c.slots[pre.length]? = some s) :
    Finds net limit start first (ts ++ [t]) d (pre ++ (hits ++ s.brings net t c.world) :: post)
  | outside {ts c t d hits} (h : Finds net limit start first ts c hits) (hmove : c.Move net limit t d)
      (ht : t.slot? = none) : Finds net limit start first (ts ++ [t]) d hits

def tallies (tally : List Outcome → α → Option Tally) (hits : List (List Outcome)) (b : Batch α) : List Tally :=
  (b.slots.zip hits).flatMap fun x => x.1.tallies tally x.2

/-- All jobs count nothing but their results, and since the first surroundings that and nothing else was counted. -/
structure Reckoned (tally : List Outcome → α → Option Tally) (w₀ : World) (hits : List (List Outcome)) (b : Batch α) :
    Prop where
  slots : ∀ x ∈ b.slots.zip hits, x.1.Reckons tally x.2
  counted : ∃ n, w₀.Counted (b.tallies tally hits) n b.world

variable {net : Network} {limit : Nat} {tally : List Outcome → α → Option Tally} {w₀ : World} {start b c d : Batch α}
  {t : Turn} {ts : List Turn} {first hits : List (List Outcome)}

theorem Schedule.finds (h : start.Schedule net limit ts b) (hfirst : first.length = start.slots.length) :
    ∃ hits, start.Finds net limit first ts b hits ∧ hits.length = b.slots.length := by
  induction h with
  | nil => exact ⟨first, .nil, hfirst⟩
  | @snoc ts c t d _ hmove ih =>
    obtain ⟨hits, hfinds, hlen⟩ := ih
    cases ht : t.slot? with
    | none => exact ⟨hits, hfinds.outside hmove ht, hlen.trans hmove.length_eq.symm⟩
    | some i =>
      obtain ⟨pre, s, s', post, rfl, hc, hd, -⟩ := hmove.replaces ht
      have hi : pre.length < hits.length := by
        rw [hlen, hc]
        simp
      -- only the slot at `i` took a turn, so only its reads of the cache go on
      have hsplit : hits = hits.take pre.length ++ hits[pre.length] :: hits.drop (pre.length + 1) := by simp
      have htake : (hits.take pre.length).length = pre.length := List.length_take_of_le (Nat.le_of_lt hi)
      rw [hsplit] at hfinds
      refine ⟨_, hfinds.own (s := s) hmove (by rw [htake, ht]) (by rw [htake, hc]; simp), ?_⟩
      rw [hmove.length_eq, ← hlen, List.length_append, List.length_cons, htake, List.length_drop]
      omega

theorem tallies_perm {pre post : List (Slot α)} {pre' post' : List (List Outcome)} {s : Slot α} {brought : List Outcome}
    (hb : b.slots = pre ++ s :: post) (hlen : pre.length = pre'.length) :
    (b.tallies tally (pre' ++ brought :: post')).Perm
      ((pre.zip pre' ++ post.zip post').flatMap (fun x => x.1.tallies tally x.2) ++ s.tallies tally brought) := by
  unfold tallies
  rw [hb, List.zip_append hlen, List.zip_cons_cons, List.flatMap_append, List.flatMap_append, List.flatMap_cons,
    List.append_assoc]
  exact List.Perm.append_left _ List.perm_append_comm

theorem Reckoned.own {pre post : List (List Outcome)} {brought : List Outcome} {s : Slot α}
    (hc : c.Reckoned tally w₀ (pre ++ brought :: post)) (hmove : c.Move net limit t d)
    (ht : t.slot? = some pre.length) (hs : c.slots[pre.length]? = some s) :
    d.Reckoned tally w₀ (pre ++ (brought ++ s.brings net t c.world) :: post) := by
  obtain ⟨pre', s₁, s', post', hlen, hcslots, hdslots, hturn⟩ := hmove.replaces ht
  obtain rfl : s₁ = s := by
    rw [hcslots, hlen] at hs
    simpa using hs
  obtain ⟨hslots, n, hn⟩ := hc
  rw [hcslots, List.zip_append hlen.symm, List.zip_cons_cons] at hslots
  obtain ⟨hs', m, hm⟩ := (hslots (s₁, brought) (by simp)).turns hturn
  refine ⟨?_, n + m, ?_⟩
  · rw [hdslots, List.zip_append hlen.symm, List.zip_cons_cons]
    exact forall_replace hslots hs'
  · -- the slot had nothing to be counted before this turn
    have hothers := hn.perm (tallies_perm hcslots hlen.symm)
    rw [hturn.tallies_eq_nil, List.append_nil] at hothers
    exact (hothers.trans hm).perm (tallies_perm hdslots hlen.symm).symm

theorem Reckoned.outside (hb : c.Reckoned tally w₀ hits) (hmove : c.Move net limit t d) (ht : t.slot? = none) :
    d.Reckoned tally w₀ hits := by
  cases hmove with
  | start | wake | abort | skip => cases ht
  | @outside w slots e rest =>
    obtain ⟨hslots, n, hn⟩ := hb
    have hlater : w.Counted [] 0 (w.atTime e.time) := .of_eq rfl rfl
    have hcounted := (hn.trans hlater).trans ((w.atTime e.time).counted_apply e.what)
    rw [List.append_nil, List.append_nil] at hcounted
    exact ⟨hslots, n, hcounted⟩

/-- Along every schedule exactly what has ended was counted. -/
theorem Finds.reckoned (h : start.Finds net limit first ts b hits) (hstart : start.Reckoned tally w₀ first) :
    b.Reckoned tally w₀ hits := by
  induction h with
  | nil => exact hstart
  | own _ hmove ht hs ih => exact ih.own hmove ht hs
  | outside _ hmove ht ih => exact ih.outside hmove ht

theorem reckoned_queue {work : ι → Job α} (hwork : ∀ i, (work i).Reckons tally []) (items : List ι) (w : World)
    (agenda : List AgendaEntry) : (Batch.queue work items w agenda).Reckoned tally w (items.map fun _ => []) := by
  have hzip : (Batch.queue work items w agenda).slots.zip (items.map fun _ => ([] : List Outcome)) =
      items.map fun i => (.queued (work i), []) := List.zip_map' ..
  constructor
  · rw [hzip]
    intro x hx
    obtain ⟨i, -, rfl⟩ := List.mem_map.mp hx
    exact hwork i
  · refine ⟨0, ?_⟩
    rw [tallies, hzip, List.flatMap_map]
    have hnone : items.flatMap (fun i => (Slot.queued (work i)).tallies tally []) = [] :=
      List.flatMap_eq_nil_iff.mpr fun _ _ => rfl
    rw [hnone]
    exact .of_eq rfl rfl

theorem reckoned_alone {job : Job α} (hjob : job.Reckons tally []) (w : World) (agenda : List AgendaEntry) :
    (Batch.alone net job w agenda).Reckoned tally w [Slot.finds net job w] := by
  obtain ⟨hs, n, hn⟩ := hjob.advance w
  refine ⟨fun x hx => ?_, n, ?_⟩
  · rw [List.mem_singleton.mp hx]
    exact hs
  · rw [tallies, Batch.alone, List.zip_cons_cons, List.zip_nil_left, List.flatMap_singleton]
    exact hn

end Batch

/-! ### Endings -/

/-- What becomes of a check that a caller asks for. -/
inductive Ending where
  /-- The cache brought the outcome. -/
  | found (o : Outcome)
  /-- The check came to an outcome that the cache did not bring. -/
  | made (o : Outcome)
  | crashed (f : Fault)
  /-- The check was never admitted. -/
  | skipped
deriving DecidableEq

namespace Ending

def isFound : Ending → Bool
  | found _ => true
  | _ => false

def isMade : Ending → Bool
  | made _ => true
  | _ => false

def isBlocked : Ending → Bool
  | made o => o.blocked
  | _ => false

def isFailed : Ending → Bool
  | made o => o.error.isSome
  | _ => false

def tallies : Ending → List Tally
  | found _ => [.cached]
  | made o => [.check o.blocked o.error.isSome]
  | crashed _ | skipped => []

/-- The outcome that a call of many checks lists for a domain. -/
def outcome (raw : String) : Ending → Outcome
  | found o | made o => o
  | crashed f => Checker.fallback raw (.ofFault f)
  | skipped => Checker.fallback raw .cancelled

/-- The result of a call of one check. -/
def result : Ending → Except CallFailure Outcome
  | found o | made o => .ok o
  | crashed f => .error (.crash f)
  | skipped => .error (.error .cancelled)

theorem countP_tallies {p : Tally → Bool} {q : Ending → Bool}
    (h : ∀ e : Ending, e.tallies.countP p = if q e then 1 else 0) (es : List Ending) :
    (es.flatMap tallies).countP p = es.countP q := by
  induction es with
  | nil => rfl
  | cons e es ih => rw [List.flatMap_cons, List.countP_append, List.countP_cons, ih, h e, Nat.add_comm]

theorem countP_isCheck (es : List Ending) : (es.flatMap tallies).countP (·.isCheck) = es.countP (·.isMade) :=
  countP_tallies (fun e => by cases e <;> rfl) es

theorem countP_isCached (es : List Ending) : (es.flatMap tallies).countP (·.isCached) = es.countP (·.isFound) :=
  countP_tallies (fun e => by cases e <;> rfl) es

theorem countP_isBlocked (es : List Ending) : (es.flatMap tallies).countP (·.isBlocked) = es.countP (·.isBlocked) := by
  refine countP_tallies (fun e => ?_) es
  cases e with
  | made o => exact List.countP_singleton
  | found | crashed | skipped => rfl

theorem countP_isFailed (es : List Ending) : (es.flatMap tallies).countP (·.isFailed) = es.countP (·.isFailed) := by
  refine countP_tallies (fun e => ?_) es
  cases e with
  | made o => exact List.countP_singleton
  | found | crashed | skipped => rfl

end Ending

/-- How the check in a slot has ended, when reads of the cache have brought `hits` to it. -/
def Slot.ending (hits : List Outcome) : Slot Outcome → Ending
  | ended (.ok o) => if o ∈ hits then .found o else .made o
  | ended (.error f) => .crashed f
  | _ => .skipped

theorem Slot.tallies_ending (hits : List Outcome) (s : Slot Outcome) :
    s.tallies checkTally hits = (s.ending hits).tallies := by
  cases s with
  | ended x =>
    cases x with
    | error f => rfl
    | ok o =>
      show (checkTally hits o).toList = (if o ∈ hits then Ending.found o else .made o).tallies
      unfold checkTally
      split <;> rfl
  | queued | exchanging | pausing | sleeping | skipped => rfl

theorem Slot.result_ending (hits : List Outcome) (s : Slot Outcome) (raw : String) :
    s.result (Checker.fallback raw) = (s.ending hits).outcome raw := by
  cases s with
  | ended x =>
    cases x with
    | error f => rfl
    | ok o =>
      show o = (if o ∈ hits then Ending.found o else .made o).outcome raw
      split <;> rfl
  | queued | exchanging | pausing | sleeping | skipped => rfl

def Batch.endings (hits : List (List Outcome)) (b : Batch Outcome) : List Ending :=
  (b.slots.zip hits).map fun x => x.1.ending x.2

theorem Batch.results_endings {b : Batch Outcome} {hits : List (List Outcome)} (hlen : hits.length = b.slots.length)
    (domains : List String) :
    b.results Checker.fallback domains = List.zipWith (fun raw e => e.outcome raw) domains (b.endings hits) := by
  have hslots : (b.slots.zip hits).map Prod.fst = b.slots := List.map_fst_zip (Nat.le_of_eq hlen.symm)
  unfold results endings
  conv_lhs => rw [← hslots]
  rw [List.zipWith_map_right, List.zipWith_map_right]
  refine congrArg (List.zipWith · domains (b.slots.zip hits)) (funext fun raw => funext fun x => ?_)
  exact x.1.result_ending x.2 raw

theorem Batch.tallies_endings (hits : List (List Outcome)) (b : Batch Outcome) :
    b.tallies checkTally hits = (b.endings hits).flatMap Ending.tallies := by
  unfold tallies endings
  rw [List.flatMap_map]
  simp only [Slot.tallies_ending]

/-! ### Uses of a checker -/

namespace Checker

/-- What a caller may do with a checker but for snapshots, and how the checks end that are asked for in it. -/
inductive Does : Checker → List Ending → Checker → Prop
  | checkOne {c net call domain ts b hits} (h : (c.oneBatch net call domain).Finishes net 1 ts b)
      (hfinds : (c.oneBatch net call domain).Finds net 1
        [Slot.finds net (c.policy.check domain) (call.world c.world)] ts b hits) :
    Does c (b.endings hits) { c with world := b.world }
  | checkMany {c net call domains ts b hits} (h : (c.manyBatch call domains).Finishes net c.limit ts b)
      (hfinds : (c.manyBatch call domains).Finds net c.limit (domains.map fun _ => []) ts b hits) :
    Does c (b.endings hits) { c with world := b.world }
  | health {c net call ts b} (h : (c.healthBatch call).Finishes net c.limit ts b) :
    Does c [] { c with world := b.world }
  | upsert {c} (rs : List Resolver) : Does c [] (c.upsert rs)
  | delete {c} (addresses : List String) : Does c [] (c.delete addresses)
  | flush {c} : Does c [] c.flush
  | elapse {c} (d : Duration) : Does c [] (c.afterReal d)

variable {c c' : Checker}

theorem Does.use {es : List Ending} (h : c.Does es c') : c.Use c' := by
  cases h with
  | checkOne h => exact .checkOne h
  | checkMany h => exact .checkMany h
  | health h => exact .health h
  | upsert rs => exact .upsert rs
  | delete addresses => exact .delete addresses
  | flush => exact .flush
  | elapse d => exact .elapse d

/-- Whatever is done with a checker, it counts the checks as they end, and the responses that come. -/
theorem Does.counted {es : List Ending} (h : c.Does es c') :
    ∃ n, c.world.Counted (es.flatMap Ending.tallies) n c'.world := by
  have hcall : ∀ call : Call, c.world.Counted [] 0 (call.world c.world) := fun _ => .of_eq rfl rfl
  cases h with
  | @checkOne net call domain ts b hits h hfinds =>
    have hstart : (c.oneBatch net call domain).Reckoned checkTally (call.world c.world)
        [Slot.finds net (c.policy.check domain) (call.world c.world)] :=
      Batch.reckoned_alone (CheckPolicy.check_reckons domain) _ _
    obtain ⟨n, hn⟩ := (hfinds.reckoned hstart).counted
    rw [Batch.tallies_endings] at hn
    exact ⟨0 + n, (hcall call).trans hn⟩
  | @checkMany net call domains ts b hits h hfinds =>
    have hstart : (c.manyBatch call domains).Reckoned checkTally (call.world c.world) (domains.map fun _ => []) :=
      Batch.reckoned_queue CheckPolicy.check_reckons _ _ _
    obtain ⟨n, hn⟩ := (hfinds.reckoned hstart).counted
    rw [Batch.tallies_endings] at hn
    exact ⟨0 + n, (hcall call).trans hn⟩
  | @health net call ts b h =>
    have hstart : (c.healthBatch call).Reckoned (fun _ _ => none) (call.world c.world) (c.resolvers.map fun _ => []) :=
      Batch.reckoned_queue c.policy.prober.health_reckons _ _ _
    have hlen : (c.resolvers.map fun _ => ([] : List Outcome)).length = (c.healthBatch call).slots.length := by
      simp [healthBatch, Batch.queue]
    obtain ⟨hits, hfinds, -⟩ := h.schedule.finds hlen
    obtain ⟨n, hn⟩ := (hfinds.reckoned hstart).counted
    -- a probe for health is no check, whatever it ends with
    have hnone : b.tallies (fun _ _ => none) hits = [] := by
      refine List.flatMap_eq_nil_iff.mpr fun x _ => ?_
      obtain ⟨s, brought⟩ := x
      cases s with
      | ended y => cases y <;> rfl
      | queued | exchanging | pausing | sleeping | skipped => rfl
    rw [hnone] at hn
    exact ⟨0 + n, (hcall call).trans hn⟩
  | upsert rs => exact ⟨0, c.world.counted_apply (.upsert rs)⟩
  | delete addresses => exact ⟨0, c.world.counted_apply (.delete addresses)⟩
  | flush => exact ⟨0, c.world.counted_apply .flush⟩
  | elapse d => exact ⟨0, c.world.counted_apply (.elapse d)⟩

end Checker

/-- What happened between one snapshot and the next, and the snapshot at the end. -/
structure Account where
  endings : List Ending
  /-- How many exchanges brought a response. -/
  answers : Nat
  snapshot : Snapshot

namespace Account

/-- Whether the snapshot says what happened; its counters are 64-bit words. -/
structure Balanced (a : Account) : Prop where
  checks : a.snapshot.checks = .ofNat (a.endings.countP (·.isMade))
  cached : a.snapshot.cached = .ofNat (a.endings.countP (·.isFound))
  blocked : a.snapshot.blocked = .ofNat (a.endings.countP (·.isBlocked))
  failed : a.snapshot.failed = .ofNat (a.endings.countP (·.isFailed))
  probes : a.snapshot.probes = .ofNat a.answers

theorem Balanced.counted {es es' : List Ending} {n n' : Nat} {c c' : Checker}
    (h : (⟨es, n, c.snapshot.2⟩ : Account).Balanced)
    (hcounted : c.world.Counted (es'.flatMap Ending.tallies) n' c'.world) :
    (⟨es ++ es', n + n', c'.snapshot.2⟩ : Account).Balanced := by
  obtain ⟨hchecks, hcached, hblocked, hfailed, hprobes, -⟩ := hcounted
  rw [Ending.countP_isCheck] at hchecks
  rw [Ending.countP_isCached] at hcached
  rw [Ending.countP_isBlocked] at hblocked
  rw [Ending.countP_isFailed] at hfailed
  constructor
  · rw [List.countP_append, UInt64.ofNat_add, ← h.checks]
    exact hchecks
  · rw [List.countP_append, UInt64.ofNat_add, ← h.cached]
    exact hcached
  · rw [List.countP_append, UInt64.ofNat_add, ← h.blocked]
    exact hblocked
  · rw [List.countP_append, UInt64.ofNat_add, ← h.failed]
    exact hfailed
  · rw [UInt64.ofNat_add, ← h.probes]
    exact hprobes

/-- Whether the words are wide enough for what happened. -/
def Fits (a : Account) : Prop := a.endings.length < UInt64.size ∧ a.answers < UInt64.size

structure Reconciled (as : List Account) : Prop where
  checks : (as.map (·.snapshot.checks.toNat)).sum = (as.flatMap (·.endings)).countP (·.isMade)
  cached : (as.map (·.snapshot.cached.toNat)).sum = (as.flatMap (·.endings)).countP (·.isFound)
  blocked : (as.map (·.snapshot.blocked.toNat)).sum = (as.flatMap (·.endings)).countP (·.isBlocked)
  failed : (as.map (·.snapshot.failed.toNat)).sum = (as.flatMap (·.endings)).countP (·.isFailed)
  probes : (as.map (·.snapshot.probes.toNat)).sum = (as.map (·.answers)).sum

theorem sum_toNat {as : List Account} {word : Account → UInt64} {p : Ending → Bool}
    (hword : ∀ a ∈ as, word a = .ofNat (a.endings.countP p)) (hfits : ∀ a ∈ as, a.Fits) :
    (as.map fun a => (word a).toNat).sum = (as.flatMap (·.endings)).countP p := by
  rw [List.countP_flatMap]
  refine congrArg List.sum (List.map_congr_left fun a ha => ?_)
  rw [hword a ha]
  exact UInt64.toNat_ofNat_of_lt' (Nat.lt_of_le_of_lt List.countP_le_length (hfits a ha).1)

theorem reconciled_of_balanced {as : List Account} (h : ∀ a ∈ as, a.Balanced) (hfits : ∀ a ∈ as, a.Fits) :
    Reconciled as where
  checks := sum_toNat (fun a ha => (h a ha).checks) hfits
  cached := sum_toNat (fun a ha => (h a ha).cached) hfits
  blocked := sum_toNat (fun a ha => (h a ha).blocked) hfits
  failed := sum_toNat (fun a ha => (h a ha).failed) hfits
  probes := by
    refine congrArg List.sum (List.map_congr_left fun a ha => ?_)
    rw [(h a ha).probes]
    exact UInt64.toNat_ofNat_of_lt' (hfits a ha).2

end Account

namespace Checker

/-- With an account for a snapshot that is taken now. -/
def closed (c : Checker) (as : List Account) (es : List Ending) (n : Nat) : List Account :=
  as ++ [⟨es, n, c.snapshot.2⟩]

/-- Uses of a checker one after the other, with an account for each snapshot that was taken, and with the endings and
the number of responses since the last one. -/
inductive Audited (c₀ : Checker) : List Account → List Ending → Nat → Checker → Prop
  | start : Audited c₀ [] [] 0 c₀
  | does {as es n c es' n' c'} (h : Audited c₀ as es n c) (hdoes : c.Does es' c')
      (hn : c'.world.answers = c.world.answers + n') : Audited c₀ as (es ++ es') (n + n') c'
  | snapshot {as es n c} (h : Audited c₀ as es n c) : Audited c₀ (c.closed as es n) [] 0 c.snapshot.1

variable {c c₀ c' : Checker} {as : List Account} {es : List Ending} {n : Nat}

theorem Audited.used (h : Audited c₀ as es n c) : c₀.Used c := by
  induction h with
  | start => exact .refl
  | does _ hdoes _ ih => exact ih.tail hdoes.use
  | snapshot _ ih => exact ih.tail .snapshot

theorem Audited.answers_eq (h : Audited c₀ as es n c) :
    c.world.answers = c₀.world.answers + ((c.closed as es n).map (·.answers)).sum := by
  induction h with
  | start => rfl
  | @does as es n c es' n' c' _ _ hn ih =>
    rw [hn, ih]
    simp only [closed, List.map_append, List.sum_append, List.map_singleton, List.sum_singleton]
    omega
  | @snapshot as es n c _ ih =>
    show c.world.answers = _
    rw [ih]
    simp [closed]

theorem Audited.goes_on {es' : List Ending} (h : Audited c₀ as es n c) (hdoes : c.Does es' c') :
    ∃ n', Audited c₀ as (es ++ es') n' c' := by
  obtain ⟨m, hm⟩ := hdoes.counted
  exact ⟨n + m, h.does hdoes hm.answers⟩

theorem Audited.balanced (h : Audited c₀ as es n c) (hstart : (⟨[], 0, c₀.snapshot.2⟩ : Account).Balanced) :
    ∀ a ∈ c.closed as es n, a.Balanced := by
  induction h with
  | start =>
    intro a ha
    rw [List.mem_singleton.mp ha]
    exact hstart
  | @does as es n c es' n' c' _ hdoes hn ih =>
    obtain ⟨hclosed, hopen⟩ := List.forall_mem_append.mp ih
    -- a use adds to the account at the end only, which no snapshot has closed yet
    have hlast : (⟨es, n, c.snapshot.2⟩ : Account).Balanced := hopen _ (.head _)
    obtain ⟨m, hm⟩ := hdoes.counted
    obtain rfl : m = n' := Nat.add_left_cancel (hm.answers.symm.trans hn)
    refine List.forall_mem_append.mpr ⟨hclosed, fun a ha => ?_⟩
    rw [List.mem_singleton.mp ha]
    exact hlast.counted hm
  | snapshot _ ih =>
    refine List.forall_mem_append.mpr ⟨ih, fun a ha => ?_⟩
    rw [List.mem_singleton.mp ha]
    exact ⟨rfl, rfl, rfl, rfl, rfl⟩

/-- A check of one domain comes to an ending, and its result is that of the ending. -/
theorem checkOne_does (net : Network) (call : Call) (h : c.resolvers ≠ []) (domain : String) :
    ∃ e, c.Does [e] (c.checkOne net call domain).1 ∧ e ≠ .skipped ∧ (c.checkOne net call domain).2 = e.result := by
  obtain ⟨ts, b, x, hfin, hslots, heq⟩ := checkOne_finishes net call h domain
  have hfirst : [Slot.finds net (c.policy.check domain) (call.world c.world)].length =
      (c.oneBatch net call domain).slots.length := by simp [oneBatch, Batch.alone]
  obtain ⟨hits, hfinds, hlen⟩ := hfin.schedule.finds hfirst
  obtain ⟨brought, rfl⟩ : ∃ brought, hits = [brought] := List.length_eq_one_iff.mp (by rw [hlen, hslots]; rfl)
  have hendings : b.endings [brought] = [(Slot.ended x).ending brought] := by
    rw [Batch.endings, hslots]
    rfl
  refine ⟨(Slot.ended x).ending brought, ?_, ?_⟩
  · rw [← hendings, heq]
    exact .checkOne hfin hfinds
  · rw [heq]
    cases x with
    | error f => exact ⟨Ending.noConfusion, rfl⟩
    | ok o =>
      have hending : (Slot.ended (.ok o)).ending brought = if o ∈ brought then .found o else .made o := rfl
      rw [hending]
      split <;> exact ⟨Ending.noConfusion, rfl⟩

/-- A check of many domains comes to an ending for each of them, and lists their outcomes. -/
theorem checkMany_does (net : Network) (call : Call) (h : c.resolvers ≠ []) (domains : List String) :
    ∃ es, c.Does es (c.checkMany net call domains).1 ∧ es.length = domains.length ∧
      (c.checkMany net call domains).2 = .ok (List.zipWith (fun raw e => e.outcome raw) domains es) := by
  obtain ⟨ts, b, hfin, heq⟩ := checkMany_finishes net call h domains
  have hslots : b.slots.length = domains.length := by
    rw [hfin.schedule.length_eq]
    exact List.length_map _
  have hfirst : (domains.map fun _ => ([] : List Outcome)).length = (c.manyBatch call domains).slots.length := by
    simp [manyBatch, Batch.queue]
  obtain ⟨hits, hfinds, hlen⟩ := hfin.schedule.finds hfirst
  refine ⟨b.endings hits, ?_, ?_, ?_⟩
  · rw [heq]
    exact .checkMany hfin hfinds
  · simp [Batch.endings, hlen, hslots]
  · rw [heq, Batch.results_endings hlen]

/-- Whatever is done with a checker, in any schedules of its calls, each snapshot says what happened since the one
before, so the totals over all snapshots say what happened at all: how many checks were made, how many were answered by
the cache, how many of those that were made are blocked and how many have an error, and how many exchanges brought a
response, with no response left out. A check that crashes or is skipped is none of these. Between calls no probe waits.
And calls are done with a checker like that, with the results of the endings, unless there are no resolvers. -/
theorem reconciles (config : Config) (cache : Option Cache) {as : List Account} {es : List Ending} {n : Nat}
    {c : Checker} (h : (Checker.build config cache).Audited as es n c) :
    (∀ a ∈ c.closed as es n, a.Balanced) ∧
    ((∀ a ∈ c.closed as es n, a.Fits) → Account.Reconciled (c.closed as es n)) ∧
    ((c.closed as es n).map (·.answers)).sum = c.world.answers ∧
    c.world.stats.inFlight = 0 ∧
    ∀ net call,
      (c.resolvers ≠ [] → ∀ domain, ∃ e n', (Checker.build config cache).Audited as (es ++ [e]) n'
        (c.checkOne net call domain).1 ∧ e ≠ .skipped ∧ (c.checkOne net call domain).2 = e.result) ∧
      (c.resolvers ≠ [] → ∀ domains, ∃ es' n', (Checker.build config cache).Audited as (es ++ es') n'
        (c.checkMany net call domains).1 ∧ es'.length = domains.length ∧
        (c.checkMany net call domains).2 = .ok (List.zipWith (fun raw e => e.outcome raw) domains es')) ∧
      (c.resolvers = [] → ∀ domain domains,
        (c.checkOne net call domain).1 = c ∧ (c.checkMany net call domains).1 = c) := by
  have hbalanced : ∀ a ∈ c.closed as es n, a.Balanced := h.balanced ⟨rfl, rfl, rfl, rfl, rfl⟩
  have hbuilt : (Checker.build config cache).Quiescent := ⟨rfl, Nat.zero_le _⟩
  have hquiescent := (h.used.quiescent hbuilt).1.inFlight
  have hanswers : c.world.answers = 0 + ((c.closed as es n).map (·.answers)).sum := h.answers_eq
  refine ⟨hbalanced, Account.reconciled_of_balanced hbalanced, (hanswers.trans (Nat.zero_add _)).symm,
    UInt64.toNat_inj.mp hquiescent, fun net call => ?_⟩
  refine ⟨fun hne domain => ?_, fun hne domains => ?_, fun hempty domain domains => ?_⟩
  · obtain ⟨e, hdoes, hresult⟩ := checkOne_does net call hne domain
    obtain ⟨n', haudited⟩ := h.goes_on hdoes
    exact ⟨e, n', haudited, hresult⟩
  · obtain ⟨es', hdoes, hlen, hresult⟩ := checkMany_does net call hne domains
    obtain ⟨n', haudited⟩ := h.goes_on hdoes
    exact ⟨es', n', haudited, hlen, hresult⟩
  · obtain ⟨hone, hmany, -⟩ := calls_of_empty net call hempty
    exact ⟨congrArg Prod.fst (hone domain), congrArg Prod.fst (hmany domains)⟩

/-- A domain that is checked twice: of the two checks one was made, for which one response came, and the other one was
answered by the cache. -/
theorem reconciles_rechecked :
    let first := ((ofTtl (.ofSeconds 300)).checkOne .answering {} "reddit.com").1
    let second := (first.checkOne .answering {} "reddit.com").1
    ∃ e e', (ofTtl (.ofSeconds 300)).Audited [] [e, e'] 1 second ∧
      [e, e'].countP (·.isMade) = 1 ∧ [e, e'].countP (·.isFound) = 1 := by
  intro first second
  have hfirst : first = ((ofTtl (.ofSeconds 300)).atOnce .answering {} "reddit.com").1 :=
    congrArg Prod.fst (checkOne_of_atOnce (x := .ok (.verdict "reddit.com" "10.0.0.1" false)) (by decide)
      (by decide +kernel))
  have hsecond : second =
      ((((ofTtl (.ofSeconds 300)).atOnce .answering {} "reddit.com").1).atOnce .answering {} "reddit.com").1 := by
    show (first.checkOne .answering {} "reddit.com").1 = _
    rw [hfirst]
    exact congrArg Prod.fst (checkOne_of_atOnce (x := .ok (.verdict "reddit.com" "10.0.0.1" false))
      (by decide +kernel) (by decide +kernel))
  have hresolvers : first.resolvers ≠ [] := by
    rw [hfirst]
    decide +kernel
  have hstart : (ofTtl (.ofSeconds 300)).Audited [] [] 0 (ofTtl (.ofSeconds 300)) := .start
  obtain ⟨-, -, -, -, hcalls⟩ := reconciles _ none hstart
  obtain ⟨e, n, haudited, -⟩ := (hcalls .answering {}).1 (by decide) "reddit.com"
  obtain ⟨-, -, -, -, hcalls'⟩ := reconciles _ none haudited
  obtain ⟨e', n', haudited', -⟩ := (hcalls' .answering {}).1 hresolvers "reddit.com"
  obtain ⟨-, hreconciled, hanswers, -, -⟩ := reconciles _ none haudited'
  obtain rfl : n' = 1 := by
    have hone : n' = second.world.answers := by
      rw [← hanswers]
      simp [closed]
    rw [hone, hsecond]
    decide +kernel
  have hfits : ∀ a ∈ second.closed [] [e, e'] 1, a.Fits := by
    intro a ha
    rw [List.mem_singleton.mp ha]
    exact ⟨(by decide : 2 < UInt64.size), (by decide : 1 < UInt64.size)⟩
  have htotals : Account.Reconciled [⟨[e, e'], 1, second.snapshot.2⟩] := hreconciled hfits
  refine ⟨e, e', haudited', ?_, ?_⟩
  · have hchecks : second.snapshot.2.checks.toNat = [e, e'].countP (·.isMade) := by simpa using htotals.checks
    rw [← hchecks, hsecond]
    decide +kernel
  · have hcached : second.snapshot.2.cached.toNat = [e, e'].countP (·.isFound) := by simpa using htotals.cached
    rw [← hcached, hsecond]
    decide +kernel

end Checker
end FilterWatch
