import FilterWatch.Cache.Memory

/-!
# What the built-in cache holds

Each operation of the built-in cache, said through `find?`, the entry under a key: a read gives the live outcome and
drops the entry that has expired, a write puts an entry under its key and leaves those under other keys, a flush drops
them all.
-/

namespace FilterWatch.MemoryCache

variable {m : MemoryCache} {key k : String} {o : Outcome} {now : Nat}

theorem lookup_insertEntry (e : CacheEntry) (l : List (String × CacheEntry)) :
    (insertEntry key e l).lookup k = if k = key then some e else l.lookup k := by
  induction l with
  | nil =>
    by_cases h : k = key
    · simp [insertEntry, h]
    · rw [insertEntry, if_neg h, List.lookup_cons, beq_false_of_ne h]
  | cons x rest ih =>
    obtain ⟨k', x⟩ := x
    unfold insertEntry
    by_cases hx : k' = key
    · subst hx
      by_cases h : k = k'
      · simp [h]
      · rw [if_pos rfl, if_neg h, List.lookup_cons, List.lookup_cons, beq_false_of_ne h]
    · by_cases h : k = k'
      · subst h; simp [hx]
      · rw [if_neg hx, List.lookup_cons, List.lookup_cons, beq_false_of_ne h, ih]

theorem lookup_filter_ne (l : List (String × CacheEntry)) :
    (l.filter (·.1 != key)).lookup k = if k = key then none else l.lookup k := by
  induction l with
  | nil => simp
  | cons x rest ih =>
    obtain ⟨k', x⟩ := x
    by_cases hx : k' = key
    · subst hx
      rw [List.filter_cons_of_neg (by simp), ih]
      by_cases h : k = k'
      · simp [h]
      · rw [List.lookup_cons, beq_false_of_ne h]
    · rw [List.filter_cons_of_pos (by simpa using hx), List.lookup_cons, List.lookup_cons, ih]
      by_cases h : k = key
      · subst h; simp [beq_false_of_ne (Ne.symm hx)]
      · simp [h]

/-! ### Reads -/

theorem look_eq_hit : m.look key now = .hit o ↔ ∃ e, m.find? key = some e ∧ now < e.expires ∧ e.outcome = o := by
  unfold look
  cases m.find? key with
  | none => simp
  | some e => by_cases h : now < e.expires <;> simp [h]

theorem look_eq_stale {seen : Nat} :
    m.look key now = .stale seen ↔ ∃ e, m.find? key = some e ∧ e.expires ≤ now ∧ e.expires = seen := by
  unfold look
  cases m.find? key with
  | none => simp
  | some e =>
    by_cases h : now < e.expires
    · simp [h, Nat.not_le.mpr h]
    · simp [h, Nat.not_lt.mp h]

theorem get_snd : (m.get key now).2 = ((m.find? key).filter (now < ·.expires)).map (·.outcome) := by
  unfold get look
  cases m.find? key with
  | none => rfl
  | some e => by_cases h : now < e.expires <;> simp [h, Option.filter]

theorem get_eq_some : (m.get key now).2 = some o ↔ ∃ e, m.find? key = some e ∧ now < e.expires ∧ e.outcome = o := by
  rw [get_snd]
  cases m.find? key <;> simp [and_assoc]

variable (m key now) in
theorem get_fst : (m.get key now).1 = m ∨ (m.get key now).2 = none ∧
    (m.get key now).1 = { m with entries := m.entries.filter (·.1 != key) } := by
  unfold get look evictIfUnchanged
  cases m.find? key with
  | none => exact .inl rfl
  | some e => by_cases h : now < e.expires <;> simp [h]

theorem poisoned_get : (m.get key now).1.poisoned = m.poisoned := by
  rcases get_fst m key now with h | ⟨-, h⟩ <;> rw [h]

theorem ttl_get : (m.get key now).1.ttl = m.ttl := by
  rcases get_fst m key now with h | ⟨-, h⟩ <;> rw [h]

theorem find?_filter_ne : { m with entries := m.entries.filter (·.1 != key) }.find? k =
    if k = key then none else m.find? k := by
  simp only [find?, lookup_filter_ne]
  split <;> simp

theorem find?_get_self (h : (m.get key now).2 = none) : (m.get key now).1.find? key = none := by
  rcases get_fst m key now with h' | ⟨-, h'⟩
  · rw [h']
    cases he : m.find? key with
    | none => rfl
    | some e =>
      rw [get_snd, he] at h
      have hexp : ¬ now < e.expires := by simpa [Option.filter] using h
      have := congrArg (·.find? key) h'
      simpa [get, look, evictIfUnchanged, he, hexp, find?_filter_ne] using this.symm
  · rw [h', find?_filter_ne, if_pos rfl]

theorem find?_get {e : CacheEntry} (h : (m.get key now).1.find? k = some e) : m.find? k = some e := by
  rcases get_fst m key now with h' | ⟨-, h'⟩
  · rwa [h'] at h
  · rw [h', find?_filter_ne] at h
    split at h
    · cases h
    · exact h

/-! ### Writes -/

theorem set_eq (hm : m.poisoned = false) (h : (m.set key o now).2 = none) :
    (m.set key o now).1 = { m with entries := insertEntry key ⟨o, now + m.ttl.nanos⟩ m.entries } := by
  unfold set at h ⊢
  by_cases hlt : now + m.ttl.nanos < endOfTime
  · simp [hm, hlt]
  · simp [hm, hlt] at h

theorem find?_set (hm : m.poisoned = false) (h : (m.set key o now).2 = none) :
    (m.set key o now).1.find? k = if k = key then some ⟨o, now + m.ttl.nanos⟩ else m.find? k := by
  rw [set_eq hm h]
  simp only [find?, hm, Bool.false_eq_true, if_false, lookup_insertEntry]

theorem poisoned_set (hm : m.poisoned = false) (h : (m.set key o now).2 = none) :
    (m.set key o now).1.poisoned = false := by
  rw [set_eq hm h, hm]

theorem set_snd (h : now + m.ttl.nanos < endOfTime) : (m.set key o now).2 = none := by
  unfold set
  cases m.poisoned <;> simp [h]

theorem set_of_overdue (hm : m.poisoned = false) (h : endOfTime ≤ now + m.ttl.nanos) :
    m.set key o now = ({ m with poisoned := true }, some expiryFault) := by
  have hlt : ¬ now + m.ttl.nanos < endOfTime := Nat.not_lt.mpr h
  simp only [set, hm, Bool.false_eq_true, if_false, hlt]

theorem poisoned_of_set {f : Fault} (h : (m.set key o now).2 = some f) :
    (m.set key o now).1.poisoned = true ∧ endOfTime ≤ now + m.ttl.nanos := by
  cases hm : m.poisoned with
  | true => simp [set, hm] at h
  | false =>
    rcases Nat.lt_or_ge (now + m.ttl.nanos) endOfTime with hlt | hover
    · rw [set_snd hlt] at h
      cases h
    · rw [set_of_overdue hm hover]
      exact ⟨rfl, hover⟩

theorem set_of_poisoned (hm : m.poisoned = true) : m.set key o now = (m, none) := by
  simp only [set, hm, if_true]

theorem get_of_poisoned (hm : m.poisoned = true) : (m.get key now).2 = none := by
  simp [get_snd, find?, hm]

theorem ttl_set : (m.set key o now).1.ttl = m.ttl := by
  unfold set
  split
  · rfl
  · split <;> rfl

/-! ### Flushes -/

theorem find?_flush : m.flush.find? k = none := by
  unfold flush
  split
  · simp [find?, ‹_›]
  · simp [find?]

theorem poisoned_flush : m.flush.poisoned = m.poisoned := by
  unfold flush
  split
  · rfl
  · rfl

theorem ttl_flush : m.flush.ttl = m.ttl := by
  unfold flush
  split
  · rfl
  · rfl

/-! ### All entries -/

def All (P : String → CacheEntry → Prop) (m : MemoryCache) : Prop := ∀ key e, m.find? key = some e → P key e

variable {P : String → CacheEntry → Prop}

theorem All.get (h : m.All P) : (m.get key now).1.All P := fun k e hf => h k e (find?_get hf)

theorem All.flush : m.flush.All P := by
  intro k e hf
  rw [find?_flush] at hf
  cases hf

theorem All.set (h : m.All P) (ho : P key ⟨o, now + m.ttl.nanos⟩) : (m.set key o now).1.All P := by
  intro k e hf
  cases hp : m.poisoned with
  | true =>
    simp only [MemoryCache.set, hp, if_true] at hf
    exact h k e hf
  | false =>
    cases hok : (m.set key o now).2 with
    | none =>
      rw [find?_set hp hok] at hf
      split at hf
      · rename_i hkey
        cases hf
        rw [hkey]; exact ho
      · exact h k e hf
    | some f =>
      -- a write that crashes leaves nothing that could be found
      have hcrash : ¬ now + m.ttl.nanos < endOfTime := fun hlt => by rw [set_snd hlt] at hok; cases hok
      simp only [MemoryCache.set, hp, hcrash, Bool.false_eq_true, if_false, find?, if_true] at hf
      cases hf

end FilterWatch.MemoryCache
