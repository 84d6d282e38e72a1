import FilterWatch.Stats
import Mathlib.Algebra.GroupWithZero.Nat
import Mathlib.Data.Finset.Card
import Mathlib.Data.List.Forall2
import Mathlib.Data.UInt
import Mathlib.Order.Bounds.Basic

/-!
# The counters over a history

What one caller after the other does with the counters is a history of events. It is orderly when each probe ends at
most once, and after its start (`Stats.Orderly`). The number in flight is then the number of probes that were started
and have not ended (`Stats.Orderly.inFlight_after`). A snapshot sets everything back but that, so probes outlive it, and
the peak is the largest number in flight from the last snapshot on (`Stats.Orderly.isGreatest_peak`). The other counters
only add up: the snapshots cut the history in parts, and each of them tells its own part (`Stats.forall₂_tells`).
-/

namespace FilterWatch.Stats

/-- What can happen to the counters. Probes have numbers, from 0 on in the order of their starts. -/
inductive Event where
  | check (blocked failed : Bool)
  | cached
  | start
  | finish (probe : Nat) (elapsed : Duration)
  /-- The probe ends without a response. -/
  | drop (probe : Nat)
  | snapshot
deriving DecidableEq

namespace Event

def isStart : Event → Bool
  | start => true
  | _ => false

def isSnapshot : Event → Bool
  | snapshot => true
  | _ => false

def ends? : Event → Option Nat
  | finish probe _ | drop probe => some probe
  | _ => none

theorem eq_snapshot {e : Event} (h : e.isSnapshot) : e = snapshot := by
  cases e with
  | snapshot => rfl
  | check | cached | start | finish | drop => cases h

end Event

def on (s : Stats) : Event → Stats
  | .check blocked failed => s.recordCheck blocked failed
  | .cached => s.recordCached
  | .start => s.probeStarted
  | .finish _ elapsed => s.probeFinished elapsed
  | .drop _ => s.probeDropped
  | .snapshot => s.snapshot.1

/-- New counters after a history, latest event first. -/
def after : List Event → Stats
  | [] => {}
  | e :: es => (after es).on e

def snapshots : List Event → List Snapshot
  | [] => []
  | .snapshot :: es => (after es).snapshot.2 :: snapshots es
  | _ :: es => snapshots es

variable {es es' part : List Event} {e : Event} {i : Nat} {s : Stats}

/-! ### Probes in flight -/

def started (es : List Event) : Nat := es.countP (·.isStart)

def ended (es : List Event) : List Nat := es.filterMap (·.ends?)

/-- Each probe ends at most once, and after its start. -/
def Orderly : List Event → Prop
  | [] => True
  | e :: es => Orderly es ∧ ∀ i ∈ e.ends?, i < started es ∧ i ∉ ended es

instance : ∀ es : List Event, Decidable (Orderly es)
  | [] => inferInstanceAs (Decidable True)
  | _ :: es =>
    have : Decidable (Orderly es) := instDecidableOrderly es
    inferInstanceAs (Decidable (_ ∧ _))

/-- The probes that were started and have not ended. -/
def running (es : List Event) : Finset Nat := Finset.range (started es) \ (ended es).toFinset

def level (es : List Event) : Nat := (running es).card

/-- At no moment more probes are in flight than a word can count. -/
def Fits (es : List Event) : Prop := ∀ es', es' <:+ es → level es' < UInt64.size

@[simp] theorem started_start (es : List Event) : started (.start :: es) = started es + 1 := List.countP_cons_of_pos rfl

theorem mem_running : i ∈ running es ↔ i < started es ∧ i ∉ ended es := by
  simp [running]

theorem Orderly.lt_started (h : Orderly es) (hi : i ∈ ended es) : i < started es := by
  induction es with
  | nil => cases hi
  | cons e es ih =>
    have hle : started es ≤ started (e :: es) := List.Sublist.countP_le (List.sublist_cons_self e es)
    rw [ended, List.filterMap_cons] at hi
    cases he : e.ends? with
    | none =>
      rw [he] at hi
      exact Nat.lt_of_lt_of_le (ih h.1 hi) hle
    | some j =>
      rw [he] at hi
      rcases List.mem_cons.mp hi with rfl | hi
      · exact Nat.lt_of_lt_of_le (h.2 i he).1 hle
      · exact Nat.lt_of_lt_of_le (ih h.1 hi) hle

theorem level_start (h : Orderly es) : level (.start :: es) = level es + 1 := by
  have hnew : started es ∉ (ended es).toFinset := fun hmem =>
    Nat.lt_irrefl _ (h.lt_started (List.mem_toFinset.mp hmem))
  have hrunning : running (.start :: es) = insert (started es) (running es) := by
    rw [running, started_start, Finset.range_add_one]
    exact Finset.insert_sdiff_of_notMem _ hnew
  have hout : started es ∉ running es := fun hmem => Nat.lt_irrefl _ (mem_running.mp hmem).1
  rw [level, hrunning, Finset.card_insert_of_notMem hout, level]

theorem level_end (h : Orderly (e :: es)) (hi : e.ends? = some i) : level es = level (e :: es) + 1 := by
  have hmem : i ∈ running es := mem_running.mpr (h.2 i hi)
  have hrunning : running (e :: es) = (running es).erase i := by
    have hstarted : started (e :: es) = started es := by
      cases e with
      | finish | drop => rfl
      | check | cached | start | snapshot => cases hi
    have hended : ended (e :: es) = i :: ended es := by rw [ended, List.filterMap_cons_some hi, ended]
    rw [running, hstarted, hended, List.toFinset_cons, Finset.sdiff_insert, running]
  rw [level, level, hrunning, Finset.card_erase_add_one hmem]

theorem Orderly.started_eq (h : Orderly es) : started es = (ended es).length + level es := by
  induction es with
  | nil => rfl
  | cons e es ih =>
    have hes := ih h.1
    cases e with
    | check | cached | snapshot => exact hes
    | start =>
      rw [started_start, level_start h.1, hes, ← Nat.add_assoc]
      rfl
    | finish probe | drop probe =>
      have hlevel := level_end h rfl
      show started es = (ended es).length + 1 + _
      omega

theorem Orderly.inFlight_after (h : Orderly es) : (after es).inFlight = .ofNat (level es) := by
  induction es with
  | nil => rfl
  | cons e es ih =>
    have hes := ih h.1
    cases e with
    | check | cached | snapshot => exact hes
    | start =>
      show (after es).inFlight + 1 = _
      rw [hes, level_start h.1, UInt64.ofNat_add]
      rfl
    | finish | drop =>
      show (after es).inFlight - 1 = _
      rw [hes, level_end h rfl, UInt64.ofNat_add]
      exact UInt64.add_sub_cancel _ _

theorem Fits.tail (h : Fits (e :: es)) : Fits es := fun es' hes' => h es' (hes'.trans (List.suffix_cons e es))

theorem Fits.cons_end (h : Fits es) (he : Orderly (e :: es)) (hi : e.ends? = some i) : Fits (e :: es) := by
  intro es' hes'
  rcases List.suffix_cons_iff.mp hes' with rfl | hes'
  · have hlevel := level_end he hi
    have hlt := h es List.suffix_rfl
    omega
  · exact h es' hes'

theorem level_le_length (es : List Event) : level es ≤ es.length :=
  calc level es ≤ (Finset.range (started es)).card := Finset.card_le_card Finset.sdiff_subset
    _ = started es := Finset.card_range _
    _ ≤ es.length := List.countP_le_length

theorem Fits.of_length (h : es.length < UInt64.size) : Fits es := fun es' hes' =>
  Nat.lt_of_le_of_lt ((level_le_length es').trans hes'.length_le) h

theorem Orderly.toNat_inFlight (h : Orderly es) (hfits : Fits es) : (after es).inFlight.toNat = level es := by
  rw [h.inFlight_after, UInt64.toNat_ofNat_of_lt' (hfits es List.suffix_rfl)]

/-! ### The peak -/

/-- The moments of a history from its last snapshot on, with that of the snapshot itself. -/
def moments (es : List Event) : Set (List Event) := {es' | es.dropWhile (!·.isSnapshot) <:+ es' ∧ es' <:+ es}

theorem self_mem_moments (es : List Event) : es ∈ moments es := ⟨List.dropWhile_suffix _, List.suffix_rfl⟩

theorem moments_nil : moments [] = {[]} := by
  ext es'
  simp [moments]

theorem moments_snapshot (es : List Event) : moments (.snapshot :: es) = {.snapshot :: es} := by
  ext es'
  constructor
  · exact fun h => h.2.eq_of_length_le h.1.length_le
  · rintro rfl
    exact self_mem_moments _

theorem moments_cons (he : e.isSnapshot = false) : moments (e :: es) = insert (e :: es) (moments es) := by
  ext es'
  have hdrop : (e :: es).dropWhile (!·.isSnapshot) = es.dropWhile (!·.isSnapshot) :=
    List.dropWhile_cons_of_pos (by simp [he])
  have hsuffix : es.dropWhile (!·.isSnapshot) <:+ e :: es :=
    (List.dropWhile_suffix _).trans (List.suffix_cons e es)
  simp only [moments, Set.mem_ofPred_eq, Set.mem_insert_iff, hdrop, List.suffix_cons_iff]
  constructor
  · rintro ⟨hback, rfl | hfront⟩
    · exact .inl rfl
    · exact .inr ⟨hback, hfront⟩
  · rintro (rfl | ⟨hback, hfront⟩)
    · exact ⟨hsuffix, .inl rfl⟩
    · exact ⟨hback, .inr hfront⟩

theorem toNat_raisePeak (s : Stats) (reached : UInt64) :
    (s.raisePeak reached).peak.toNat = max s.peak.toNat reached.toNat := by
  show (if s.peak ≤ reached then reached else s.peak).toNat = _
  split
  · rename_i hle
    exact (Nat.max_eq_right (UInt64.le_iff_toNat_le.mp hle)).symm
  · rename_i hlt
    exact (Nat.max_eq_left (Nat.le_of_not_le fun hle => hlt (UInt64.le_iff_toNat_le.mpr hle))).symm

theorem Orderly.isGreatest_peak (h : Orderly es) (hfits : Fits es) :
    IsGreatest (level '' moments es) (after es).peak.toNat := by
  induction es with
  | nil =>
    rw [moments_nil, Set.image_singleton]
    exact isGreatest_singleton
  | cons e es ih =>
    have hbefore := ih h.1 hfits.tail
    cases he : e.isSnapshot with
    | true =>
      -- the peak starts again from the probes that outlive the snapshot
      obtain rfl := Event.eq_snapshot he
      have hes : Orderly es := h.1
      have hpeak : (after (.snapshot :: es)).peak.toNat = level (.snapshot :: es) := hes.toNat_inFlight hfits.tail
      rw [moments_snapshot, Set.image_singleton, hpeak]
      exact isGreatest_singleton
    | false =>
      have hmax : (after (e :: es)).peak.toNat = max (level (e :: es)) (after es).peak.toNat := by
        have hnow : level es ≤ (after es).peak.toNat := hbefore.2 ⟨es, self_mem_moments es, rfl⟩
        cases e with
        | check | cached => exact (Nat.max_eq_right hnow).symm
        | start =>
          rw [← h.toNat_inFlight hfits, Nat.max_comm]
          exact toNat_raisePeak _ _
        | finish | drop =>
          have hlevel := level_end h rfl
          show (after es).peak.toNat = _
          omega
        | snapshot => cases he
      rw [moments_cons he, Set.image_insert_eq, hmax]
      exact hbefore.insert _

theorem Orderly.inFlight_le_peak (h : Orderly es) (hfits : Fits es) : (after es).inFlight ≤ (after es).peak := by
  rw [UInt64.le_iff_toNat_le, h.toNat_inFlight hfits]
  exact (h.isGreatest_peak hfits).2 ⟨es, self_mem_moments es, rfl⟩

/-! ### What snapshots tell -/

/-- The counters that a snapshot sets back to zero. -/
inductive Counter where
  | checks | cached | blocked | failed | probes | probeMicros
deriving DecidableEq

namespace Counter

def read (s : Stats) : Counter → UInt64
  | checks => s.checks
  | cached => s.cached
  | blocked => s.blocked
  | failed => s.failed
  | probes => s.probes
  | probeMicros => s.probeMicros

/-- What a snapshot says that the counter was. -/
def told (r : Snapshot) : Counter → UInt64
  | checks => r.checks
  | cached => r.cached
  | blocked => r.blocked
  | failed => r.failed
  | probes => r.probes
  | probeMicros => r.probeMicros

/-- How much an event counts. The time of a probe counts in whole microseconds, cut to a word. -/
def adds : Counter → Event → Nat
  | checks, .check .. => 1
  | cached, .cached => 1
  | blocked, .check isBlocked _ => isBlocked.toNat
  | failed, .check _ isFailed => isFailed.toNat
  | probes, .finish .. => 1
  | probeMicros, .finish _ elapsed => elapsed.micros % UInt64.size
  | _, _ => 0

def total (c : Counter) (es : List Event) : Nat := (es.map c.adds).sum

theorem total_cons (c : Counter) (e : Event) (es : List Event) : c.total (e :: es) = c.adds e + c.total es :=
  List.sum_cons

end Counter

variable {c : Counter}

theorem snapshots_cons (he : e.isSnapshot = false) : snapshots (e :: es) = snapshots es := by
  cases e with
  | snapshot => cases he
  | check | cached | start | finish | drop => rfl

theorem told_snapshot (s : Stats) (c : Counter) : c.told s.snapshot.2 = c.read s := by
  cases c <;> rfl

theorem read_on (s : Stats) (c : Counter) (he : e.isSnapshot = false) :
    c.read (s.on e) = c.read s + .ofNat (c.adds e) := by
  cases e with
  | check b f => cases c <;> cases b <;> cases f <;> simp [Counter.read, Counter.adds, Stats.on, recordCheck]
  | cached => cases c <;> simp [Counter.read, Counter.adds, Stats.on, recordCached]
  | start => cases c <;> simp [Counter.read, Counter.adds, Stats.on, probeStarted, enter, raisePeak]
  | finish probe elapsed =>
    have hmicros : UInt64.ofNat (elapsed.micros % UInt64.size) = .ofNat elapsed.micros := UInt64.ofNat_mod_size
    cases c <;> simp [Counter.read, Counter.adds, Stats.on, probeFinished, leave, hmicros]
  | drop probe => cases c <;> simp [Counter.read, Counter.adds, Stats.on, probeDropped, leave]
  | snapshot => cases he

/-- The snapshot tells what happened in the part, modulo the size of a word. -/
def Tells (part : List Event) (r : Snapshot) : Prop := ∀ c : Counter, c.told r = .ofNat (c.total part)

theorem Tells.on (h : Tells part s.snapshot.2) (he : e.isSnapshot = false) : Tells (e :: part) (s.on e).snapshot.2 := by
  intro c
  rw [told_snapshot, read_on s c he, ← told_snapshot, h c, ← UInt64.ofNat_add, Nat.add_comm, Counter.total_cons]

/-- Each snapshot tells the part of the history since the one before, and one that is taken now tells what came after
the last one. -/
theorem forall₂_tells (es : List Event) :
    List.Forall₂ Tells (es.splitOnP (·.isSnapshot)) ((after es).snapshot.2 :: snapshots es) := by
  induction es with
  | nil =>
    have hnew : Tells [] (after []).snapshot.2 := fun c => by cases c <;> rfl
    exact .cons hnew .nil
  | cons e es ih =>
    rw [List.splitOnP_cons_eq_if_modifyHead]
    cases he : e.isSnapshot with
    | true =>
      obtain rfl := Event.eq_snapshot he
      have hnew : Tells [] (after (.snapshot :: es)).snapshot.2 := fun c => by cases c <;> rfl
      exact .cons hnew ih
    | false =>
      obtain ⟨part, parts, hparts⟩ := List.exists_cons_of_ne_nil (List.splitOnP_ne_nil (·.isSnapshot) es)
      rw [hparts] at ih ⊢
      rw [snapshots_cons he]
      obtain ⟨hnow, hbefore⟩ := List.forall₂_cons.mp ih
      exact .cons (hnow.on he) hbefore

/-- Over all snapshots, with one that is taken now, the counters come to what they come to over the whole history. -/
theorem sum_told (es : List Event) (c : Counter) :
    (((after es).snapshot.2 :: snapshots es).map c.told).sum = .ofNat (c.total es) := by
  induction es with
  | nil => cases c <;> rfl
  | cons e es ih =>
    rw [List.map_cons, List.sum_cons, told_snapshot] at ih ⊢
    cases he : e.isSnapshot with
    | true =>
      obtain rfl := Event.eq_snapshot he
      have hnew : c.read (after (.snapshot :: es)) = 0 := by cases c <;> rfl
      have hadds : c.adds .snapshot = 0 := by cases c <;> rfl
      rw [hnew, UInt64.zero_add, snapshots, List.map_cons, List.sum_cons, told_snapshot, ih, Counter.total_cons, hadds,
        Nat.zero_add]
    | false =>
      have hcomm (x y z : UInt64) : x + y + z = y + (x + z) := by ac_rfl
      rw [snapshots_cons he, after, read_on _ c he, hcomm, ih, ← UInt64.ofNat_add, Counter.total_cons]

/-! ### A history as a whole -/

/-- What the counters are after a history, and what snapshots told of it. -/
structure Faithful (es : List Event) : Prop where
  started_eq : started es = (ended es).length + level es
  inFlight : (after es).inFlight = .ofNat (level es)
  toNat_inFlight : Fits es → (after es).inFlight.toNat = level es
  /-- A probe that ends takes one from what is there. -/
  ends : Fits es → ∀ e, Orderly (e :: es) → e.ends?.isSome →
    (after (e :: es)).inFlight.toNat + 1 = (after es).inFlight.toNat
  peak : Fits es → IsGreatest (level '' moments es) (after es).peak.toNat
  inFlight_le_peak : Fits es → (after es).inFlight ≤ (after es).peak
  told_peak : (after es).snapshot.2.peak = (after es).peak
  told : List.Forall₂ Tells (es.splitOnP (·.isSnapshot)) ((after es).snapshot.2 :: snapshots es)
  sum_told : ∀ c : Counter, (((after es).snapshot.2 :: snapshots es).map c.told).sum = .ofNat (c.total es)

/-- After every orderly history the counters are those of the history: the number in flight is that of the probes which
have not ended, the peak the largest such number from the last snapshot on, and every snapshot told what had happened
since the one before. -/
theorem faithful_of_orderly (h : Orderly es) : Faithful es where
  started_eq := h.started_eq
  inFlight := h.inFlight_after
  toNat_inFlight := h.toNat_inFlight
  ends hfits e he hends := by
    obtain ⟨i, hi⟩ := Option.isSome_iff_exists.mp hends
    rw [he.toNat_inFlight (hfits.cons_end he hi), h.toNat_inFlight hfits, level_end he hi]
  peak := h.isGreatest_peak
  inFlight_le_peak := h.inFlight_le_peak
  told_peak := rfl
  told := forall₂_tells es
  sum_told := sum_told es

/-- Two probes start, one of them ends before a snapshot, and the other one after it. -/
theorem faithful_of_orderly_outlived :
    let es : List Event := [.drop 1, .snapshot, .check true false, .finish 0 (.ofMillis 10), .start, .start]
    Orderly es ∧ Fits es ∧ (after es).inFlight.toNat = 0 ∧ IsGreatest (level '' moments es) 1 ∧
      snapshots es = [⟨1, 0, 1, 0, 1, 2, 10000⟩] := by
  intro es
  have horderly : Orderly es := by decide
  have hfits : Fits es := .of_length (by decide)
  have hfaithful := faithful_of_orderly horderly
  exact ⟨horderly, hfits, (hfaithful.toNat_inFlight hfits).trans (by decide), hfaithful.peak hfits, by decide⟩

end FilterWatch.Stats
