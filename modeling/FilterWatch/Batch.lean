import FilterWatch.Slot

/-!
# Running many jobs

A batch is a list of slots in shared surroundings, and an agenda of what is done from outside meanwhile. `step` does
one thing: it starts the first job that has not been started if fewer than `limit` run; with nothing to start it
lets time pass, to the next entry of the agenda or to the first end of a wait; after a cancellation it first ends the
waits that heed the caller and skips what has not been started. Each step takes an entry off the agenda or makes one
slot smaller, so `run` reaches the state in which nothing is left to do.
-/

namespace FilterWatch

/-- What is done from outside while jobs run. -/
inductive Intervention where
  | cancel
  | upsert (rs : List Resolver)
  | delete (addresses : List String)
  | flush
  /-- Time passes on the cache's clock. -/
  | elapse (d : Duration)
deriving DecidableEq, Repr

def Intervention.apply (w : World) : Intervention → World
  | cancel => { w with cancelled := true }
  | upsert rs => w.upsert rs
  | delete addresses => w.delete addresses
  | flush => w.flush
  | elapse d => w.elapse d

/-- An intervention and its moment. -/
structure AgendaEntry where
  time : Nat
  what : Intervention
deriving DecidableEq, Repr

/-- Slots in shared surroundings. -/
structure Batch (α : Type) where
  world : World
  slots : List (Slot α)
  /-- Earliest entry first. -/
  agenda : List AgendaEntry

variable {α : Type}

namespace Slot

def isQueued : Slot α → Bool
  | queued _ => true
  | _ => false

/-- Gives up a job that has not been started. -/
def skip : Slot α → World → World × Slot α
  | queued _, w => (w, skipped)
  | s, w => (w, s)

/-- Changes the first slot with a property. -/
def changeFirst (p : Slot α → Bool) (f : Slot α → World → World × Slot α) (w : World) :
    List (Slot α) → World × List (Slot α)
  | [] => (w, [])
  | s :: rest =>
    if p s then ((f s w).1, (f s w).2 :: rest)
    else ((changeFirst p f w rest).1, s :: (changeFirst p f w rest).2)

/-- The first end of a wait. -/
def earliestDue? (slots : List (Slot α)) : Option Nat := (slots.filterMap due?).min?

def running (slots : List (Slot α)) : Nat := slots.countP isRunning

end Slot

namespace Batch

variable (net : Network) (limit : Nat)

def change (b : Batch α) (p : Slot α → Bool) (f : Slot α → World → World × Slot α) : Batch α :=
  let (world, slots) := Slot.changeFirst p f b.world b.slots
  { b with world, slots }

def atTime (b : Batch α) (time : Nat) : Batch α := { b with world := b.world.atTime time }

/-- Ends the first of the waits that end at `due`. -/
def wakeAt (b : Batch α) (due : Nat) : Batch α :=
  (b.atTime due).change (fun s => s.due? == some due) (Slot.wake net)

/-- The next thing to happen, if anything is left. -/
def step (b : Batch α) : Option (Batch α) :=
  if b.world.cancelled ∧ b.slots.any Slot.isCancellable then
    some (b.change Slot.isCancellable (Slot.abort net))
  else if b.world.cancelled ∧ b.slots.any Slot.isQueued then some (b.change Slot.isQueued Slot.skip)
  else if Slot.running b.slots < limit ∧ b.slots.any Slot.isQueued then
    some (b.change Slot.isQueued (Slot.start net))
  else
    match Slot.earliestDue? b.slots, b.agenda with
    | none, _ => none
    | some due, [] => some (b.wakeAt net due)
    | some due, e :: rest =>
      if e.time ≤ due then
        some { b with world := e.what.apply (b.world.atTime e.time), agenda := rest }
      else some (b.wakeAt net due)

/-! ### Every run ends -/

/-- One element of the second list is replaced by a smaller one in the first. -/
inductive Shrinks (r : α → α → Prop) : List α → List α → Prop
  | head {a b l} (h : r a b) : Shrinks r (a :: l) (b :: l)
  | tail {a l m} (h : Shrinks r l m) : Shrinks r (a :: l) (a :: m)

variable {r : α → α → Prop}

theorem Shrinks.acc_cons {a : α} (ha : Acc r a) : ∀ {l}, Acc (Shrinks r) l → Acc (Shrinks r) (a :: l) := by
  induction ha with
  | intro a _ iha =>
    intro l hl
    induction hl with
    | intro l hl ihl =>
      constructor
      intro m hm
      cases hm with
      | head h => exact iha _ h (.intro l hl)
      | tail h => exact ihl _ h

theorem Shrinks.wellFounded (h : WellFounded r) : WellFounded (Shrinks r) := by
  constructor
  intro l
  induction l with
  | nil => exact .intro _ fun m hm => by cases hm
  | cons a l ih => exact acc_cons (h.apply a) ih

/-- What is left to do: entries of the agenda first, then slots. -/
structure Remaining (net : Network) (α : Type) where
  agenda : Nat
  slots : List (Slot α)

instance : WellFoundedRelation (Remaining net α) where
  rel := InvImage (Prod.Lex (· < ·) (Shrinks (Slot.Next net))) fun r => (r.agenda, r.slots)
  wf := InvImage.wf _ (Prod.lex ⟨_, Nat.lt_wfRel.wf⟩ ⟨_, Shrinks.wellFounded Slot.next_wellFounded⟩).wf

/-- What a batch has left to do. -/
def remaining (b : Batch α) : Remaining net α := ⟨b.agenda.length, b.slots⟩

variable {net} {limit}

theorem shrinks_changeFirst {p : Slot α → Bool} {f : Slot α → World → World × Slot α} {w : World}
    (hf : ∀ s, p s → Slot.Next net (f s w).2 s) :
    ∀ {slots : List (Slot α)}, slots.any p → Shrinks (Slot.Next net) (Slot.changeFirst p f w slots).2 slots
  | s :: rest, h => by
    rw [Slot.changeFirst]
    split
    · exact .head (hf s ‹_›)
    · exact .tail (shrinks_changeFirst hf (by simp_all))

theorem lt_change {b c : Batch α} {p : Slot α → Bool} {f : Slot α → World → World × Slot α}
    (hslots : c.slots = b.slots) (hagenda : c.agenda = b.agenda)
    (hf : ∀ s, p s → Slot.Next net (f s c.world).2 s) (hp : b.slots.any p) :
    WellFoundedRelation.rel (remaining net (c.change p f)) (remaining net b) := by
  have h := shrinks_changeFirst (w := c.world) hf hp
  show Prod.Lex _ _ (c.agenda.length, (Slot.changeFirst p f c.world c.slots).2) (b.agenda.length, b.slots)
  rw [hagenda, hslots]
  exact .right _ h

theorem lt_dropEntry {b : Batch α} {w : World} {e : AgendaEntry} {rest : List AgendaEntry}
    (h : b.agenda = e :: rest) :
    WellFoundedRelation.rel (remaining net { b with world := w, agenda := rest }) (remaining net b) := by
  show Prod.Lex _ _ (rest.length, b.slots) (b.agenda.length, b.slots)
  exact .left _ _ (by simp [h])

theorem any_due_of_earliestDue? {slots : List (Slot α)} {due : Nat} (h : Slot.earliestDue? slots = some due) :
    slots.any fun s => s.due? == some due := by
  have hmem := List.min?_mem h
  obtain ⟨s, hs, hd⟩ := List.mem_filterMap.mp hmem
  exact List.any_eq_true.mpr ⟨s, hs, by simp [hd]⟩

theorem next_of_isQueued {s : Slot α} (h : s.isQueued) (w : World) : Slot.Next net (s.start net w).2 s := by
  cases s with
  | queued job => exact .started job w
  | _ => simp [Slot.isQueued] at h

theorem next_skip {s : Slot α} (h : s.isQueued) (w : World) : Slot.Next net (s.skip w).2 s := by
  cases s with
  | queued job => exact .skipped job
  | _ => simp [Slot.isQueued] at h

theorem lt_wakeAt {b : Batch α} {due : Nat} (h : Slot.earliestDue? b.slots = some due) :
    WellFoundedRelation.rel (remaining net (b.wakeAt net due)) (remaining net b) :=
  lt_change (c := b.atTime due) rfl rfl
    (fun s hs => Slot.next_wake (by simp only [beq_iff_eq] at hs; simp [Slot.isRunning, hs]) _)
    (any_due_of_earliestDue? h)

/-- Each step leaves less to do. -/
theorem lt_of_step {b c : Batch α} (h : b.step net limit = some c) :
    WellFoundedRelation.rel (remaining net c) (remaining net b) := by
  unfold step at h
  split at h
  · cases h
    exact lt_change rfl rfl (fun s hs => Slot.next_abort hs _) (‹_ ∧ _›).2
  · split at h
    · cases h
      exact lt_change rfl rfl (fun s hs => next_skip hs _) (‹_ ∧ _›).2
    · split at h
      · cases h
        exact lt_change rfl rfl (fun s hs => next_of_isQueued hs _) (‹_ ∧ _›).2
      · split at h
        · cases h
        · cases h
          exact lt_wakeAt ‹_›
        · split at h
          · cases h
            exact lt_dropEntry ‹_›
          · cases h
            exact lt_wakeAt ‹_›

variable (net) (limit)

/-- The state in which nothing is left to do. -/
def run (b : Batch α) : Batch α :=
  match _ : b.step net limit with
  | none => b
  | some c => c.run
termination_by remaining net b
decreasing_by exact lt_of_step ‹_›

variable {net} {limit}

theorem run_of_step {b c : Batch α} (h : b.step net limit = some c) : b.run net limit = c.run net limit := by
  rw [run]
  split
  · simp_all
  · rw [h] at *; simp_all

theorem run_of_step_none {b : Batch α} (h : b.step net limit = none) : b.run net limit = b := by
  rw [run]
  split
  · rfl
  · simp_all

end Batch

/-! ### Results -/

/-- The result of a job: what it ended with, and what `fallback` makes of a crash and of a job that was never
started. -/
def Slot.result (fallback : CheckError → α) : Slot α → α
  | ended (.ok a) => a
  | ended (.error f) => fallback (.ofFault f)
  | _ => fallback .cancelled

/-- The most jobs that can run at once. -/
def maxRunning : Nat := 0x1FFFFFFFFFFFFFFF

/-- How many jobs run at once under a configured concurrency. -/
def runningLimit (concurrency : Nat) : Nat := max 1 (min concurrency maxRunning)

/-- Runs the work of every item, and lists the results in the order of the items. -/
def dispatch {ι : Type} (net : Network) (concurrency : Nat) (agenda : List AgendaEntry) (work : ι → Job α)
    (fallback : ι → CheckError → α) (items : List ι) (w : World) : World × List α :=
  let b := Batch.run net (runningLimit concurrency) ⟨w, items.map fun i => .queued (work i), agenda⟩
  (b.world, List.zipWith (fun i s => s.result (fallback i)) items b.slots)

/-- Runs one job by itself. It is started even when the caller cancelled before. -/
def runAlone (net : Network) (agenda : List AgendaEntry) (job : Job α) (w : World) : World × Except Fault α :=
  let (w, s) := Slot.advance net job w
  let b := Batch.run net 1 ⟨w, [s], agenda⟩
  (b.world, match b.slots with
    | [.ended result] => result
    | _ => .error ⟨none⟩)

end FilterWatch
