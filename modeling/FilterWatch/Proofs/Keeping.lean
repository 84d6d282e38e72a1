import FilterWatch.Proofs.Traces

/-!
# What caches keep

Of all that a cache was told it keeps what no flush has dropped since, and a read brings nothing else
(`World.Backed`). The built-in cache that has crashed is the exception: it drops nothing any more, but it does not hand
out anything either.
-/

namespace FilterWatch

theorem MemoryCache.mem_insertEntry {key key' : String} {e e' : CacheEntry} {l : List (String × CacheEntry)}
    (h : (key', e') ∈ insertEntry key e l) : (key', e') ∈ l ∨ key' = key ∧ e' = e := by
  induction l with
  | nil => exact .inr (by simpa [insertEntry] using h)
  | cons x rest ih =>
    obtain ⟨k, x⟩ := x
    rw [insertEntry] at h
    split at h
    · rcases List.mem_cons.mp h with h | h
      · exact .inr (Prod.mk.injEq .. ▸ h)
      · exact .inl (.tail _ h)
    · rcases List.mem_cons.mp h with h | h
      · exact .inl (h ▸ .head _)
      · exact (ih h).imp_left (.tail _)

namespace Cache
variable {c : Cache} {key key' : String} {o o' : Outcome} {now : Nat}

/-- An outcome is kept under a key, expired or not. A cache of a caller's own keeps what it was told since the last
flush. -/
def Holds (key : String) (o : Outcome) : Cache → Prop
  | off => False
  | memory m => ∃ e, (key, e) ∈ m.entries ∧ e.outcome = o
  | plain c => (key, o) ∈ c.entries
  | custom c => ∃ now, .set key o now ∈ c.calls.takeWhile (· ≠ .flush)

/-- Nothing can be read or written any more. -/
def isPoisoned : Cache → Bool
  | memory m => m.poisoned
  | _ => false

/-- A cache of a caller's own answers what it was told under the key since the last flush, or nothing. -/
def IsFaithful : Cache → Prop
  | custom c => ∀ calls key now o, c.answer calls key now = .ok (some o) →
      ∃ now', .set key o now' ∈ calls.takeWhile (· ≠ .flush)
  | _ => True

/-- A faithful cache that has not been told anything yet. -/
structure IsUnused (c : Cache) : Prop where
  faithful : c.IsFaithful
  empty : ∀ key o, ¬ c.Holds key o

/-! ### Reads -/

theorem Holds.get (h : (c.get key now).1.Holds key' o) : c.Holds key' o := by
  cases c with
  | off => exact h
  | memory m =>
    obtain ⟨e, he, rfl⟩ := h
    refine ⟨e, ?_, rfl⟩
    rcases m.get_fst key now with hm | ⟨-, hm⟩
    · rwa [hm] at he
    · rw [hm] at he
      exact List.mem_of_mem_filter he
  | plain c => exact h
  | custom c =>
    obtain ⟨now', h⟩ := h
    rw [CustomCache.get, List.takeWhile_cons_of_pos (by simp)] at h
    exact ⟨now', (List.mem_cons.mp h).resolve_left (by simp)⟩

theorem isPoisoned_get : (c.get key now).1.isPoisoned = c.isPoisoned := by
  cases c with
  | memory m => exact MemoryCache.poisoned_get
  | off | plain | custom => rfl

theorem IsFaithful.get (h : c.IsFaithful) : (c.get key now).1.IsFaithful := by
  cases c with
  | custom c => exact h
  | off | memory | plain => trivial

theorem IsFaithful.holds_of_get (h : c.IsFaithful) (hget : (c.get key now).2 = .ok (some o)) :
    c.Holds key o ∧ c.isPoisoned = false := by
  cases c with
  | off => cases hget
  | memory m =>
    obtain ⟨e, hfind, -, rfl⟩ := MemoryCache.get_eq_some.mp (Except.ok.inj hget)
    cases hp : m.poisoned with
    | true => simp [MemoryCache.find?, hp] at hfind
    | false =>
      rw [MemoryCache.find?, hp, if_neg Bool.false_ne_true] at hfind
      obtain ⟨before, after, hentries, -⟩ := List.lookup_eq_some_iff.mp hfind
      exact ⟨⟨e, by simp [hentries], rfl⟩, hp⟩
  | plain c =>
    have hlookup : c.entries.lookup key = some o := by
      simp only [Cache.get, PlainCache.get] at hget
      split at hget
      · cases hget
      · exact Except.ok.inj hget
    obtain ⟨before, after, hentries, -⟩ := List.lookup_eq_some_iff.mp hlookup
    exact ⟨by simp [Holds, hentries], rfl⟩
  | custom c => exact ⟨h _ _ _ _ hget, rfl⟩

/-! ### Writes -/

theorem Holds.set (h : (c.set key o now).1.Holds key' o') : c.Holds key' o' ∨ key' = key ∧ o' = o := by
  cases c with
  | off => exact .inl h
  | memory m =>
    obtain ⟨e, he, rfl⟩ := h
    simp only [MemoryCache.set] at he
    split at he
    · exact .inl ⟨e, he, rfl⟩
    · split at he
      · rcases MemoryCache.mem_insertEntry he with he | ⟨hkey, rfl⟩
        · exact .inl ⟨e, he, rfl⟩
        · exact .inr ⟨hkey, rfl⟩
      · exact .inl ⟨e, he, rfl⟩
  | plain c =>
    simp only [Cache.set, PlainCache.set] at h
    split at h
    · exact .inl h
    · rcases List.mem_cons.mp h with h | h
      · exact .inr (Prod.mk.injEq .. ▸ h)
      · exact .inl (List.mem_of_mem_filter h)
  | custom c =>
    obtain ⟨now', h⟩ := h
    rw [CustomCache.set, List.takeWhile_cons_of_pos (by simp)] at h
    rcases List.mem_cons.mp h with h | h
    · cases h
      exact .inr ⟨rfl, rfl⟩
    · exact .inl ⟨now', h⟩

theorem isPoisoned_of_set (h : (c.set key o now).1.isPoisoned = false) : c.isPoisoned = false := by
  cases c with
  | memory m =>
    cases hp : m.poisoned with
    | false => exact hp
    | true => simp [Cache.set, isPoisoned, MemoryCache.set, hp] at h
  | off | plain | custom => rfl

theorem IsFaithful.set (h : c.IsFaithful) : (c.set key o now).1.IsFaithful := by
  cases c with
  | custom c => exact h
  | off | memory | plain => trivial

/-! ### Flushes -/

/-- Only a cache that has crashed keeps something through a flush. -/
theorem Holds.flush (h : c.flush.Holds key o) : c.Holds key o ∧ c.isPoisoned := by
  cases c with
  | off => cases h
  | memory m =>
    obtain ⟨e, he, rfl⟩ := h
    cases hp : m.poisoned with
    | true =>
      rw [MemoryCache.flush, hp, if_pos rfl] at he
      exact ⟨⟨e, he, rfl⟩, hp⟩
    | false => simp [MemoryCache.flush, hp] at he
  | plain c => cases h
  | custom c =>
    obtain ⟨now, h⟩ := h
    simp [CustomCache.flush] at h

theorem isPoisoned_flush : c.flush.isPoisoned = c.isPoisoned := by
  cases c with
  | memory m => exact MemoryCache.poisoned_flush
  | off | plain | custom => rfl

theorem IsFaithful.flush (h : c.IsFaithful) : c.flush.IsFaithful := by
  cases c with
  | custom c => exact h
  | off | memory | plain => trivial

end Cache

/-! ### What is kept and what was told -/

namespace World
variable {w : World} {key : String} {o : Outcome} {J : List Event}

/-- The cache was told the outcome, and unless it has `crashed` it was not flushed since. -/
def Told (J : List Event) (crashed : Bool) (key : String) (o : Outcome) : Prop :=
  ∃ newer time older, J = newer ++ ⟨time, .store key o⟩ :: older ∧ (crashed = false → ∀ e ∈ newer, e.isFlush = false)

theorem Told.append {crashed : Bool} (h : Told J crashed key o) (new : List Event)
    (hnew : crashed = false → ∀ e ∈ new, e.isFlush = false) : Told (new ++ J) crashed key o := by
  obtain ⟨newer, time, older, rfl, hnone⟩ := h
  exact ⟨new ++ newer, time, older, (List.append_assoc ..).symm,
    fun hc => List.forall_mem_append.mpr ⟨hnew hc, hnone hc⟩⟩

/-- What the cache keeps it was told. -/
structure Backed (w : World) : Prop where
  faithful : w.cache.IsFaithful
  told : ∀ {key o}, w.cache.Holds key o → Told w.journal w.cache.isPoisoned key o

theorem lasting_backed : Lasting Backed where
  lookup key h := by
    refine ⟨h.faithful.get, fun hholds => ?_⟩
    have htold := h.told hholds.get
    rw [← Cache.isPoisoned_get] at htold
    exact htold.append [_] fun _ => by simp [Event.isFlush]
  store key o h := by
    refine ⟨h.faithful.set, fun hholds => ?_⟩
    rcases hholds.set with hholds | ⟨rfl, rfl⟩
    · obtain ⟨newer, time, older, hJ, hnone⟩ := h.told hholds
      refine ⟨⟨_, .store key o⟩ :: newer, time, older, congrArg _ hJ, fun hc => ?_⟩
      exact List.forall_mem_cons.mpr ⟨by simp [Event.isFlush], hnone (Cache.isPoisoned_of_set hc)⟩
    · exact ⟨[], _, _, rfl, fun _ => by simp⟩
  flush h := by
    refine ⟨h.faithful.flush, fun hholds => ?_⟩
    obtain ⟨hholds, hpoisoned⟩ := hholds.flush
    have hcrashed : (Cache.flush _).isPoisoned = true := Cache.isPoisoned_flush.trans hpoisoned
    obtain ⟨newer, time, older, hJ, -⟩ := h.told hholds
    exact ⟨⟨_, .flush⟩ :: newer, time, older, congrArg _ hJ, fun hc => absurd (hcrashed.symm.trans hc) (by simp)⟩
  aside h hcache hadds := by
    obtain ⟨es, hes, hmessages⟩ := hadds
    refine ⟨hcache ▸ h.faithful, fun hholds => ?_⟩
    rw [hcache] at hholds ⊢
    rw [hes]
    exact (h.told hholds).append es fun _ e he => by
      have := hmessages e he
      cases hwhat : e.what <;> simp_all [Event.isFlush, Happening.isMessage]

theorem Backed.of_lookup (h : w.Backed) (hfound : (w.lookup key).2 = .ok (some o)) : Told w.journal false key o := by
  obtain ⟨hholds, hpoisoned⟩ := h.faithful.holds_of_get hfound
  have htold := h.told hholds
  rwa [hpoisoned] at htold

end World

theorem Checker.backed_build {config : Config} {cache : Option Cache} (h : ∀ k ∈ cache, k.IsUnused) :
    (build config cache).world.Backed := by
  cases cache with
  | none => exact ⟨trivial, fun ⟨e, he, _⟩ => absurd he List.not_mem_nil⟩
  | some k => exact ⟨(h k rfl).faithful, fun hholds => absurd hholds ((h k rfl).empty _ _)⟩

end FilterWatch
