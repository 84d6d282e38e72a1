import FilterWatch.Proofs.Counters
import Mathlib.Data.Fintype.Basic
import Mathlib.Logic.Function.Basic

/-!
# The peak among concurrent callers

The start of a probe is two steps: it adds itself to the probes in flight, and then raises the peak to the number that
it has reached. A snapshot is two steps as well: it reads the number in flight, and then makes that the peak. Any number
of callers take such steps, and end probes, in any order (`Crowd.Step`). When a whole start falls between the two steps
of a snapshot, the snapshot takes back the peak that the start has raised, and more probes are in flight than the peak
says (`Crowd.peak_overtaken`). Nothing else does that: whatever has made the number in flight larger since a snapshot
read it is still to raise the peak, or a whole start has gone by (`Crowd.Watched`), and `Crowd.peak_covers` follows.
-/

namespace FilterWatch

/-- Where a caller of shared counters stands. -/
inductive Caller where
  | idle
  /-- In the start of a probe that has added itself and made `reached` of them. -/
  | entered (reached : UInt64)
  /-- In a snapshot that has read the number in flight. -/
  | loaded (level : UInt64)
deriving DecidableEq, Repr

structure Crowd (ι : Type) where
  stats : Stats
  callers : ι → Caller
  /-- How many probes wait whose start is over. -/
  waiting : Nat

inductive CrowdEvent (ι : Type) where
  | enter (i : ι)
  | raise (i : ι)
  | leave (i : ι)
  | load (i : ι)
  | swap (i : ι)
deriving DecidableEq

namespace Crowd
variable {ι : Type}

def start : Crowd ι := ⟨{}, fun _ => .idle, 0⟩

/-- How many probes were added and not yet taken away by these steps, of which the latest comes first. -/
def level : List (CrowdEvent ι) → Nat
  | [] => 0
  | .enter _ :: es => level es + 1
  | .leave _ :: es => level es - 1
  | _ :: es => level es

/-- At no moment more probes are in flight than a word can count. -/
def Fits (es : List (CrowdEvent ι)) : Prop := ∀ es', es' <:+ es → level es' < UInt64.size

/-- A whole start of a probe is among the steps. -/
def Swallows (es : List (CrowdEvent ι)) : Prop := ∃ j, List.Sublist [.raise j, .enter j] es

instance [Fintype ι] [DecidableEq ι] (es : List (CrowdEvent ι)) : Decidable (Swallows es) :=
  inferInstanceAs (Decidable (∃ _, _))

section
variable {s s' : Crowd ι} {e : CrowdEvent ι} {es w w' : List (CrowdEvent ι)} {peak : UInt64}

theorem level_le_length (es : List (CrowdEvent ι)) : level es ≤ es.length := by
  induction es with
  | nil => exact Nat.le_refl _
  | cons e es ih =>
    rw [List.length_cons]
    cases e with
    | enter => exact Nat.succ_le_succ ih
    | leave => exact (Nat.sub_le _ _).trans (ih.trans (Nat.le_succ _))
    | raise | load | swap => exact ih.trans (Nat.le_succ _)

theorem Fits.of_length (h : es.length < UInt64.size) : Fits es := fun es' hes' =>
  Nat.lt_of_le_of_lt ((level_le_length es').trans hes'.length_le) h

theorem Fits.tail (h : Fits (e :: es)) : Fits es := fun es' hes' => h es' (hes'.trans (List.suffix_cons e es))

/-- The number in flight is that of the probes that wait and of those whose start is under way. -/
def Counted (es : List (CrowdEvent ι)) (s : Crowd ι) : Prop :=
  s.stats.inFlight = .ofNat (level es) ∧ ∃ entering : Finset ι,
    (∀ i, i ∈ entering ↔ ∃ reached, s.callers i = .entered reached) ∧ level es = s.waiting + entering.card

theorem Counted.start : Counted [] (start : Crowd ι) := ⟨rfl, ∅, by simp [Crowd.start], rfl⟩

theorem Counted.leave_le (hs : Counted es s) (hfits : level es < UInt64.size) {n : Nat} (hn : s.waiting = n + 1) :
    s.stats.leave.inFlight ≤ s.stats.inFlight := by
  obtain ⟨hin, entering, -, hlevel⟩ := hs
  have hpos : 1 ≤ s.stats.inFlight := by
    rw [UInt64.le_iff_toNat_le, hin, UInt64.toNat_ofNat_of_lt' hfits]
    show 1 ≤ level es
    omega
  exact UInt64.sub_le hpos

/-- No more probes are in flight than the peak says, or the one that has made them so many was added in these steps and
is still to raise the peak. -/
def Covers (s : Crowd ι) (peak : UInt64) (w : List (CrowdEvent ι)) : Prop :=
  s.stats.inFlight ≤ peak ∨
    ∃ j reached, s.callers j = .entered reached ∧ .enter j ∈ w ∧ s.stats.inFlight ≤ reached

/-- What is known of a peak that a snapshot is about to set, when these are the steps since it read the number in
flight. -/
def Watched (s : Crowd ι) (peak : UInt64) (w : List (CrowdEvent ι)) : Prop := Swallows w ∨ s.Covers peak w

theorem Covers.mono (h : s.Covers peak w) (hle : s'.stats.inFlight ≤ s.stats.inFlight)
    (hcallers : ∀ j reached, s.callers j = .entered reached → s'.callers j = .entered reached)
    (hw : ∀ e ∈ w, e ∈ w') : s'.Covers peak w' := by
  rcases h with h | ⟨j, reached, hj, hmem, h⟩
  · exact .inl (UInt64.le_trans hle h)
  · exact .inr ⟨j, reached, hcallers j reached hj, hw _ hmem, UInt64.le_trans hle h⟩

end

/-! ### Steps -/

variable [DecidableEq ι]

def move (s : Crowd ι) (i : ι) (c : Caller) : Crowd ι := { s with callers := Function.update s.callers i c }

inductive Step (s : Crowd ι) : CrowdEvent ι → Crowd ι → Prop
  | enter {i : ι} (h : s.callers i = .idle) :
      Step s (.enter i) { s.move i (.entered s.stats.enter.2) with stats := s.stats.enter.1 }
  | raise {i : ι} {reached : UInt64} (h : s.callers i = .entered reached) :
      Step s (.raise i) { s.move i .idle with stats := s.stats.raisePeak reached, waiting := s.waiting + 1 }
  | leave {i : ι} {n : Nat} (h : s.callers i = .idle) (hn : s.waiting = n + 1) :
      Step s (.leave i) { s with stats := s.stats.leave, waiting := n }
  | load {i : ι} (h : s.callers i = .idle) : Step s (.load i) (s.move i (.loaded s.stats.inFlight))
  | swap {i : ι} {level : UInt64} (h : s.callers i = .loaded level) :
      Step s (.swap i) { s.move i .idle with stats := (s.stats.swapPeak level).1 }

/-- The steps of the callers in any order, from new counters on. -/
inductive Run : List (CrowdEvent ι) → Crowd ι → Prop
  | start : Run [] start
  | step {es e s s'} (h : Run es s) (hstep : s.Step e s') : Run (e :: es) s'

/-- The steps since the caller has read the number in flight. -/
def since (i : ι) (es : List (CrowdEvent ι)) : List (CrowdEvent ι) := es.takeWhile (· ≠ .load i)

/-- The steps between the two steps of the latest snapshot that is over. -/
def window : List (CrowdEvent ι) → List (CrowdEvent ι)
  | [] => []
  | .swap i :: es => since i es
  | _ :: es => window es

variable {s s' : Crowd ι} {c c' : Caller} {e : CrowdEvent ι} {es w : List (CrowdEvent ι)} {i j : ι}
  {peak level' reached : UInt64}

theorem move_move (s : Crowd ι) (i : ι) (c c' : Caller) : (s.move i c).move i c' = s.move i c' := by
  simp [move]

theorem move_self (h : s.callers i = c) : s.move i c = s := by
  subst h
  simp [move]

theorem callers_move_self (s : Crowd ι) (i : ι) (c : Caller) : (s.move i c).callers i = c := Function.update_self ..

theorem callers_move_of_ne (h : j ≠ i) (s : Crowd ι) (c : Caller) : (s.move i c).callers j = s.callers j :=
  Function.update_of_ne h ..

/-- The two steps of a start with nothing in between are the start of a probe for one caller. -/
theorem steps_start (h : s.callers i = .idle) : ∃ s', s.Step (.enter i) s' ∧
    s'.Step (.raise i) { s with stats := s.stats.probeStarted, waiting := s.waiting + 1 } := by
  refine ⟨_, .enter h, ?_⟩
  have hback : { s with stats := s.stats.probeStarted, waiting := s.waiting + 1 } =
      { (s.move i (.entered s.stats.enter.2)).move i .idle with
        stats := s.stats.enter.1.raisePeak s.stats.enter.2, waiting := s.waiting + 1 } := by
    rw [move_move, move_self h]
    rfl
  rw [hback]
  exact .raise (callers_move_self s i _)

/-- The two steps of a snapshot with nothing in between do to the number in flight and to the peak what a snapshot does
for one caller. -/
theorem steps_snapshot (h : s.callers i = .idle) : ∃ s' s'' : Crowd ι, s.Step (.load i) s' ∧ s'.Step (.swap i) s'' ∧
    s''.callers = s.callers ∧ s''.waiting = s.waiting ∧
    s''.stats.inFlight = s.stats.snapshot.1.inFlight ∧ s''.stats.peak = s.stats.snapshot.1.peak := by
  refine ⟨_, _, .load h, .swap (callers_move_self s i _), ?_, rfl, rfl, rfl⟩
  show ((s.move i _).move i .idle).callers = s.callers
  rw [move_move, move_self h]

theorem entered_move (hi : ∀ reached, s.callers i ≠ .entered reached) (j : ι) (reached : UInt64)
    (hj : s.callers j = .entered reached) : (s.move i c).callers j = .entered reached := by
  have hne : j ≠ i := by
    rintro rfl
    exact hi reached hj
  rw [callers_move_of_ne hne, hj]

theorem of_loaded_move (h : (s.move j c).callers i = .loaded level') :
    i = j ∧ c = .loaded level' ∨ i ≠ j ∧ s.callers i = .loaded level' := by
  by_cases hij : i = j
  · subst hij
    exact .inl ⟨rfl, (callers_move_self s i c).symm.trans h⟩
  · exact .inr ⟨hij, (callers_move_of_ne hij s c).symm.trans h⟩

theorem Step.loaded (h : s.Step e s') (hi : s'.callers i = .loaded level') :
    e = .load i ∧ s'.stats.inFlight = level' ∨ e ≠ .load i ∧ s.callers i = .loaded level' := by
  cases h with
  | enter | raise | swap =>
    rcases of_loaded_move hi with ⟨-, hc⟩ | ⟨-, hi⟩
    · cases hc
    · exact .inr ⟨nofun, hi⟩
  | leave => exact .inr ⟨nofun, hi⟩
  | load =>
    rcases of_loaded_move hi with ⟨rfl, hc⟩ | ⟨hne, hi⟩
    · exact .inl ⟨rfl, Caller.loaded.inj hc⟩
    · exact .inr ⟨fun heq => hne (CrowdEvent.load.inj heq).symm, hi⟩

/-! ### What steps keep -/

theorem Step.counted (h : s.Step e s') (hs : Counted es s) : Counted (e :: es) s' := by
  obtain ⟨hin, entering, hentering, hlevel⟩ := hs
  cases h with
  | @enter i hi =>
    have hout : i ∉ entering := by simp [hentering, hi]
    refine ⟨?_, insert i entering, fun j => ?_, ?_⟩
    · show s.stats.inFlight + 1 = .ofNat (level es + 1)
      rw [hin, UInt64.ofNat_add]
      rfl
    · by_cases hj : j = i <;> simp [move, hj, hentering]
    · rw [Finset.card_insert_of_notMem hout, ← Nat.add_assoc]
      exact congrArg (· + 1) hlevel
  | @raise i reached hi =>
    have hcard : (entering.erase i).card + 1 = entering.card := Finset.card_erase_add_one ((hentering i).mpr ⟨_, hi⟩)
    refine ⟨hin, entering.erase i, fun j => ?_, ?_⟩
    · by_cases hj : j = i <;> simp [move, hj, hentering]
    · show level es = s.waiting + 1 + _
      omega
  | @leave i n hi hn =>
    have hpos : level es = level es - 1 + 1 := by omega
    refine ⟨?_, entering, hentering, ?_⟩
    · show s.stats.inFlight - 1 = .ofNat (level es - 1)
      rw [hin, hpos, UInt64.ofNat_add]
      exact UInt64.add_sub_cancel _ _
    · show level es - 1 = n + _
      omega
  | @load i hi | @swap i level hi =>
    refine ⟨hin, entering, fun j => ?_, hlevel⟩
    by_cases hj : j = i <;> simp [move, hj, hentering, hi]

/-- Whatever the next step is, what the snapshot will leave out of the peak is still to be made up for, or a whole start
has gone by. -/
theorem Step.watched (h : s.Step e s') (hs : Counted es s) (hfits : level es < UInt64.size)
    (hw : s.Watched peak w) : s'.Watched peak (e :: w) := by
  rcases hw with ⟨j, hj⟩ | hw
  · exact .inl ⟨j, hj.cons e⟩
  · have hlater : ∀ e' ∈ w, e' ∈ e :: w := fun _ => .tail e
    cases h with
    | @enter i hi => exact .inr (.inr ⟨i, _, callers_move_self s i _, .head _, UInt64.le_refl _⟩)
    | @raise i reached hi =>
      rcases hw with hw | ⟨j, reached', hj, hmem, hw⟩
      · exact .inr (.inl hw)
      · by_cases hji : j = i
        · -- the start that was to make up for it is over, and all of it was in these steps
          subst hji
          exact .inl ⟨j, (List.singleton_sublist.mpr hmem).cons_cons _⟩
        · exact .inr (.inr ⟨j, reached', (callers_move_of_ne hji s _).trans hj, .tail _ hmem, hw⟩)
    | leave hi hn => exact .inr (hw.mono (hs.leave_le hfits hn) (fun _ _ hj => hj) hlater)
    | load hi => exact .inr (hw.mono (UInt64.le_refl _) (entered_move (by simp [hi])) hlater)
    | swap hi => exact .inr (hw.mono (UInt64.le_refl _) (entered_move (by simp [hi])) hlater)

/-- What is known after any steps: the number in flight, what each snapshot under way will make of the peak, and the
peak. -/
structure Sound (es : List (CrowdEvent ι)) (s : Crowd ι) : Prop where
  counted : Counted es s
  loaded : ∀ i level, s.callers i = .loaded level → s.Watched level (since i es)
  peak : Swallows (window es) ∨ s.Covers s.stats.peak es

/-- A start that raises the peak makes up for itself, and takes nothing from the others. -/
theorem Covers.raise (h : s.Covers s.stats.peak es) (hi : s.callers i = .entered reached) :
    Covers { s.move i .idle with stats := s.stats.raisePeak reached, waiting := s.waiting + 1 }
      (s.stats.raisePeak reached).peak (.raise i :: es) := by
  have hmax := s.stats.toNat_raisePeak reached
  rcases h with h | ⟨j, reached', hj, hmem, h⟩
  · refine .inl (UInt64.le_trans h (UInt64.le_iff_toNat_le.mpr ?_))
    rw [hmax]
    exact Nat.le_max_left _ _
  · by_cases hji : j = i
    · subst hji
      obtain rfl : reached = reached' := Caller.entered.inj (hi.symm.trans hj)
      refine .inl (UInt64.le_trans h (UInt64.le_iff_toNat_le.mpr ?_))
      rw [hmax]
      exact Nat.le_max_right _ _
    · exact .inr ⟨j, reached', (callers_move_of_ne hji s _).trans hj, .tail _ hmem, h⟩

theorem Step.sound (h : s.Step e s') (hfits : level es < UInt64.size) (hs : Sound es s) : Sound (e :: es) s' := by
  have hlater : ∀ e' ∈ es, e' ∈ e :: es := fun _ => .tail e
  refine ⟨h.counted hs.counted, fun i level hi => ?_, ?_⟩
  · rcases h.loaded hi with ⟨rfl, rfl⟩ | ⟨hne, hi⟩
    · exact .inr (.inl (UInt64.le_refl _))
    · have hsince : since i (e :: es) = e :: since i es := List.takeWhile_cons_of_pos (by simpa using hne)
      rw [hsince]
      exact h.watched hs.counted hfits (hs.loaded i level hi)
  · cases h with
    | @enter i hi => exact .inr (.inr ⟨i, _, callers_move_self s i _, .head _, UInt64.le_refl _⟩)
    | raise hi => exact hs.peak.imp_right fun hpeak => hpeak.raise hi
    | leave hi hn =>
      refine hs.peak.imp_right fun hpeak => ?_
      exact hpeak.mono (hs.counted.leave_le hfits hn) (fun _ _ hj => hj) hlater
    | load hi =>
      refine hs.peak.imp_right fun hpeak => ?_
      exact hpeak.mono (UInt64.le_refl _) (entered_move (by simp [hi])) hlater
    | @swap i level hi =>
      -- the peak is now what the snapshot has read, whatever it was before
      refine (hs.loaded i level hi).imp_right fun hlevel => ?_
      refine hlevel.mono (UInt64.le_refl _) (entered_move (by simp [hi])) fun e he => ?_
      exact hlater e ((List.takeWhile_sublist _).mem he)

theorem Run.sound (h : Run es s) (hfits : Fits es) : Sound es s := by
  induction h with
  | start => exact ⟨.start, fun _ _ hi => (nomatch hi), .inr (.inl (UInt64.le_refl _))⟩
  | step _ hstep ih => exact hstep.sound (hfits.tail _ List.suffix_rfl) (ih hfits.tail)

/-- Any number of callers of the same counters, after any steps of theirs, when none of them is within a start or a
snapshot. The number in flight is that of the probes which wait, and the peak is no less, unless a whole start fell
between the two steps of the latest snapshot. -/
theorem peak_covers (h : Run es s) (hfits : Fits es) (hidle : ∀ i, s.callers i = .idle) :
    s.stats.inFlight.toNat = s.waiting ∧ (s.stats.inFlight ≤ s.stats.peak ∨ Swallows (window es)) := by
  have hs := h.sound hfits
  constructor
  · obtain ⟨hin, entering, hentering, hlevel⟩ := hs.counted
    have hnone : entering = ∅ := Finset.eq_empty_of_forall_notMem fun i hi => by simp [hidle, hentering] at hi
    rw [hnone, Finset.card_empty, Nat.add_zero] at hlevel
    rw [hin, UInt64.toNat_ofNat_of_lt' (hfits es List.suffix_rfl), hlevel]
  · rcases hs.peak with hswallowed | hpeak | ⟨j, reached, hj, -⟩
    · exact .inr hswallowed
    · exact .inl hpeak
    · rw [hidle] at hj
      cases hj

/-- A start that has added itself between the two steps of a snapshot, and raises the peak after them. -/
theorem peak_covers_straddled : ∃ s : Crowd Bool, Run [.raise true, .swap false, .enter true, .load false] s ∧
    (∀ i, s.callers i = .idle) ∧ s.waiting = 1 ∧ s.stats.inFlight ≤ s.stats.peak := by
  obtain ⟨s, hrun, hidle, hwaiting⟩ : ∃ s : Crowd Bool,
      Run [.raise true, .swap false, .enter true, .load false] s ∧ (∀ i, s.callers i = .idle) ∧ s.waiting = 1 :=
    ⟨_, .step (.step (.step (.step .start (.load rfl)) (.enter rfl)) (.swap rfl)) (.raise rfl),
      fun i => by cases i <;> rfl, rfl⟩
  have hapart : ¬ Swallows (window [.raise true, .swap false, .enter true, .load (false : Bool)]) := by decide
  exact ⟨s, hrun, hidle, hwaiting, (peak_covers hrun (.of_length (by decide)) hidle).2.resolve_right hapart⟩

/-- A whole start between the two steps of a snapshot: one probe is in flight, and the peak is zero. -/
theorem peak_overtaken : ∃ s : Crowd Bool, Run [.swap false, .raise true, .enter true, .load false] s ∧
    (∀ i, s.callers i = .idle) ∧ s.stats.inFlight = 1 ∧ s.stats.peak = 0 ∧ ¬ s.stats.inFlight ≤ s.stats.peak :=
  ⟨_, .step (.step (.step (.step .start (.load rfl)) (.enter rfl)) (.raise rfl)) (.swap rfl),
    fun i => by cases i <;> rfl, rfl, rfl, by decide⟩

end Crowd
end FilterWatch
