import FilterWatch.Proofs.TimedMap
import Mathlib.Logic.Function.Basic

/-!
# Eviction among concurrent clients

A read is three steps: it reads the clock, it looks its key up, and if it found an expired entry, it removes what is
under the key, provided that this still expires when the one that it saw did. Any number of clients take such steps and
write and flush in any order, on a clock that does not go back (`Shared.Step`). Whatever a read has seen expired stays
expired (`Shared.Sound`), so a removal never hits an entry that is still alive, and a read answers only what was alive
when it began (`Shared.evicts_expired`).
-/

namespace FilterWatch

inductive Client where
  | idle
  | timed (key : String) (now : Nat)
  /-- In a read that has found an entry which expired at `seen`. -/
  | stale (key : String) (seen : Nat)
deriving DecidableEq, Repr

structure Shared (ι : Type) where
  clock : Nat
  cache : MemoryCache
  clients : ι → Client
  /-- The writes and flushes so far, latest first. -/
  past : List CacheCall

inductive SharedEvent (ι : Type) where
  | tick (time : Nat)
  | begin (i : ι) (key : String)
  /-- A read looks up its key and is over. -/
  | answer (i : ι) (hit : Option Outcome)
  | expired (i : ι)
  /-- A read removes the entry that it has seen, if it is still there, and finds nothing. -/
  | evict (i : ι)
  | set (i : ι) (key : String) (o : Outcome)
  | flush (i : ι)

namespace Shared

variable {ι : Type} [DecidableEq ι]

def start (ttl : Duration) (clock : Nat) : Shared ι := ⟨clock, { ttl }, fun _ => .idle, []⟩

def move (s : Shared ι) (i : ι) (c : Client) : Shared ι := { s with clients := Function.update s.clients i c }

inductive Step (s : Shared ι) : SharedEvent ι → Shared ι → Prop
  | tick (time : Nat) : Step s (.tick time) { s with clock := s.clock + time }
  | begin {i : ι} {key : String} (h : s.clients i = .idle) : Step s (.begin i key) (s.move i (.timed key s.clock))
  | hit {i : ι} {key : String} {now : Nat} {o : Outcome} (h : s.clients i = .timed key now)
      (hlook : s.cache.look key now = .hit o) : Step s (.answer i (some o)) (s.move i .idle)
  | miss {i : ι} {key : String} {now : Nat} (h : s.clients i = .timed key now)
      (hlook : s.cache.look key now = .miss) : Step s (.answer i none) (s.move i .idle)
  | expired {i : ι} {key : String} {now seen : Nat} (h : s.clients i = .timed key now)
      (hlook : s.cache.look key now = .stale seen) : Step s (.expired i) (s.move i (.stale key seen))
  | evict {i : ι} {key : String} {seen : Nat} (h : s.clients i = .stale key seen) :
      Step s (.evict i) { s.move i .idle with cache := s.cache.evictIfUnchanged key seen }
  | set {i : ι} {key : String} {o : Outcome} (h : s.clients i = .idle) : Step s (.set i key o)
      { s with cache := (s.cache.set key o s.clock).1, past := .set key o s.clock :: s.past }
  | flush {i : ι} (h : s.clients i = .idle) :
      Step s (.flush i) { s with cache := s.cache.flush, past := .flush :: s.past }

/-- The steps of the clients in any order. -/
inductive Run : Shared ι → List (SharedEvent ι) → Shared ι → Prop
  | nil {s} : Run s [] s
  | cons {s s' s'' e es} (h : s.Step e s') (hrun : Run s' es s'') : Run s (e :: es) s''

/-! ### An undisturbed read -/

theorem move_move (s : Shared ι) (i : ι) (c c' : Client) : (s.move i c).move i c' = s.move i c' := by
  simp [move]

theorem move_self {s : Shared ι} {i : ι} {c : Client} (h : s.clients i = c) : s.move i c = s := by
  subst h
  simp [move]

/-- The steps of a read, with nothing in between, are the read of a cache that has one client. -/
theorem run_get {s : Shared ι} {i : ι} (h : s.clients i = .idle) (key : String) :
    let after : Shared ι := { s with cache := (s.cache.get key s.clock).1 }
    (∃ o, (s.cache.get key s.clock).2 = some o ∧ s.Run [.begin i key, .answer i (some o)] after) ∨
      (s.cache.get key s.clock).2 = none ∧
        (s.Run [.begin i key, .answer i none] after ∨ s.Run [.begin i key, .expired i, .evict i] after) := by
  intro after
  have htimed : (s.move i (.timed key s.clock)).clients i = .timed key s.clock := Function.update_self ..
  have hidle : (s.move i (.timed key s.clock)).move i .idle = s := by rw [move_move, move_self h]
  have hkept : ∀ {hit}, s.cache.get key s.clock = (s.cache, hit) →
      after = (s.move i (.timed key s.clock)).move i .idle := by
    intro hit hget
    rw [hidle]
    simp only [after, hget]
  cases hlook : s.cache.look key s.clock with
  | hit o =>
    have hget : s.cache.get key s.clock = (s.cache, some o) := by simp only [MemoryCache.get, hlook]
    refine .inl ⟨o, congrArg Prod.snd hget, .cons (.begin h) (.cons ?_ .nil)⟩
    rw [hkept hget]
    exact .hit htimed hlook
  | miss =>
    have hget : s.cache.get key s.clock = (s.cache, none) := by simp only [MemoryCache.get, hlook]
    refine .inr ⟨congrArg Prod.snd hget, .inl (.cons (.begin h) (.cons ?_ .nil))⟩
    rw [hkept hget]
    exact .miss htimed hlook
  | stale seen =>
    have hget : s.cache.get key s.clock = (s.cache.evictIfUnchanged key seen, none) := by
      simp only [MemoryCache.get, hlook]
    have hevicted : after = { ((s.move i (.timed key s.clock)).move i (.stale key seen)).move i .idle with
        cache := s.cache.evictIfUnchanged key seen } := by
      rw [move_move, hidle]
      simp only [after, hget]
    refine .inr ⟨congrArg Prod.snd hget, .inr (.cons (.begin h) (.cons (.expired htimed hlook) (.cons ?_ .nil)))⟩
    rw [hevicted]
    exact .evict (Function.update_self ..)

/-! ### What has expired stays expired -/

end Shared

/-- What a client has read of the clock, or has seen expired, lies no later than `now`. -/
def Client.NotAfter (now : Nat) : Client → Prop
  | idle => True
  | timed _ t => t ≤ now
  | stale _ seen => seen ≤ now

theorem Client.NotAfter.mono {c : Client} {now now' : Nat} (hle : now ≤ now') (h : c.NotAfter now) :
    c.NotAfter now' := by
  cases c with
  | idle => trivial
  | timed | stale => exact Nat.le_trans h hle

namespace Shared

variable {ι : Type} [DecidableEq ι] {ttl : Duration} {s s' : Shared ι} {e : SharedEvent ι}
  {es : List (SharedEvent ι)} {i : ι} {c : Client}

/-- The cache goes with the writes and flushes so far, and no client is ahead of the clock. -/
structure Sound (ttl : Duration) (s : Shared ι) : Prop where
  tracks : s.cache.Tracks ttl s.past s.clock
  clients : ∀ i, (s.clients i).NotAfter s.clock

omit [DecidableEq ι] in
theorem Sound.start (ttl : Duration) (clock : Nat) : (start ttl clock : Shared ι).Sound ttl :=
  ⟨.empty ttl clock, fun _ => trivial⟩

omit [DecidableEq ι] in
theorem Sound.notAfter (hs : s.Sound ttl) (h : s.clients i = c) : c.NotAfter s.clock := h ▸ hs.clients i

theorem Sound.move (h : s.Sound ttl) (i : ι) (hc : c.NotAfter s.clock) : (s.move i c).Sound ttl := by
  refine ⟨h.tracks, fun j => ?_⟩
  show (Function.update s.clients i c j).NotAfter s.clock
  by_cases hj : j = i
  · rw [hj, Function.update_self]
    exact hc
  · rw [Function.update_of_ne hj]
    exact h.clients j

theorem Step.sound (h : s.Step e s') (hs : s.Sound ttl) : s'.Sound ttl := by
  cases h with
  | tick time =>
    have hle : s.clock ≤ s.clock + time := Nat.le_add_right _ _
    exact ⟨hs.tracks.mono hle, fun i => (hs.clients i).mono hle⟩
  | begin => exact hs.move _ (Nat.le_refl s.clock)
  | hit | miss => exact hs.move (c := .idle) _ trivial
  | @expired i key now seen hi hlook =>
    -- the entry had expired at the reading of the clock, and that is in the past
    have hnow : now ≤ s.clock := hs.notAfter hi
    obtain ⟨entry, -, hexp, rfl⟩ := MemoryCache.look_eq_stale.mp hlook
    exact hs.move i (Nat.le_trans hexp hnow)
  | @evict i key seen hi =>
    exact ⟨hs.tracks.evict (hs.notAfter hi), (hs.move (c := .idle) i trivial).clients⟩
  | set => exact ⟨hs.tracks.set _ _, hs.clients⟩
  | flush => exact ⟨hs.tracks.flush, hs.clients⟩

theorem Run.sound (h : s.Run es s') (hs : s.Sound ttl) : s'.Sound ttl := by
  induction h with
  | nil => exact hs
  | cons h _ ih => exact ih (h.sound hs)

/-- Any number of clients of one cache, after any steps of theirs. What an eviction removes has expired when it is
removed, and nothing else goes with it. As long as no write came too late for the clock, the latest write under a key
since the last flush is there until it expires. And an outcome that a read answers is the one that was written last, as
it was found there when the read looked its key up, and its entry expired after the reading of the clock. -/
theorem evicts_expired {clock : Nat} (h : (start ttl clock).Run es s) :
    (∀ i s', s.Step (.evict i) s' → s'.cache = s.cache ∨ ∃ key, s.cache.Drops key s.clock s'.cache) ∧
    (s.past.any (·.overruns ttl) = false → ∀ key entry, CacheCall.latest? ttl key s.past = some entry →
      s.clock < entry.expires → s.cache.find? key = some entry) ∧
    ∀ i o s', s.Step (.answer i (some o)) s' → ∃ key now entry, s.clients i = .timed key now ∧ now ≤ s.clock ∧
      s.cache.find? key = some entry ∧ CacheCall.latest? ttl key s.past = some entry ∧ now < entry.expires ∧
      entry.outcome = o := by
  have hs : s.Sound ttl := h.sound (.start ttl clock)
  refine ⟨?_, ?_, ?_⟩
  · rintro i s' hstep
    cases hstep with
    | @evict _ key seen hi =>
      have hseen : seen ≤ s.clock := hs.notAfter hi
      rcases MemoryCache.evictIfUnchanged_eq s.cache key seen with hsame | ⟨entry, he, rfl, -⟩
      · exact .inl hsame
      · exact .inr ⟨key, hs.tracks.drops he hseen⟩
  · intro hroom key entry he hlive
    exact hs.tracks.find?_of_latest (hs.tracks.poisoned.trans hroom) he hlive
  · rintro i o s' hstep
    cases hstep with
    | @hit _ key now _ hi hlook =>
      have hnow : now ≤ s.clock := hs.notAfter hi
      obtain ⟨entry, he, hlive, ho⟩ := MemoryCache.look_eq_hit.mp hlook
      exact ⟨key, now, entry, hi, hnow, he, hs.tracks.latest_of_find? he, hlive, ho⟩

/-- An entry with five nanoseconds to live. After it expired one client sees it, another one writes, and then the first
one evicts: the fresh entry stays. -/
theorem evicts_expired_refreshed :
    let stored : Outcome := .verdict "reddit.com" "10.0.0.1" true
    let fresh : Outcome := .verdict "reddit.com" "10.0.0.1" false
    ∃ s : Shared Bool, (start ⟨5⟩ 0).Run [.set true "reddit.com" stored, .tick 10, .begin false "reddit.com",
        .expired false, .set true "reddit.com" fresh, .evict false] s ∧
      s.cache.find? "reddit.com" = some ⟨fresh, 15⟩ := by
  intro stored fresh
  have hrun : (start ⟨5⟩ 0 : Shared Bool).Run [.set true "reddit.com" stored, .tick 10, .begin false "reddit.com",
      .expired false, .set true "reddit.com" fresh, .evict false] _ :=
    .cons (.set rfl) (.cons (.tick 10) (.cons (.begin rfl) (.cons (.expired rfl rfl) (.cons (.set rfl)
      (.cons (.evict rfl) .nil)))))
  exact ⟨_, hrun, (evicts_expired hrun).2.1 (by decide) _ _ rfl (by decide)⟩

end Shared
end FilterWatch
