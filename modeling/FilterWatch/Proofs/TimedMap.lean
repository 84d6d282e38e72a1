import FilterWatch.Cache
import FilterWatch.Proofs.MemoryCache
import Mathlib.Data.List.Nodup

/-!
# The built-in cache is a timed map

A timed map (`timedMap`) knows the calls that it got and nothing else: a read answers the latest write under its key
since the last flush, if the time to live of that write is not over. The built-in cache keeps entries instead, and drops
an expired one when a read finds it. `MemoryCache.Tracks` says how these entries go with the calls so far; it is kept by
every call that comes no earlier than the one before, and by every removal of an entry that has expired. So both answer
alike (`MemoryCache.refines_timedMap`), until a write crashes because the clock cannot show its expiry; from then on the
built-in cache answers as no cache at all.
-/

namespace FilterWatch

/-- What a cache answers to a call. -/
inductive CacheReply where
  | found (hit : Except Fault (Option Outcome))
  /-- A write is over, with the crash that it ended in. -/
  | stored (crash : Option Fault)
  | flushed
deriving DecidableEq

namespace CacheCall

def moment? : CacheCall → Option Nat
  | get _ now | set _ _ now => some now
  | flush => none

/-- Whether the call is a write whose expiry the clock cannot show. -/
def overruns (ttl : Duration) : CacheCall → Bool
  | set _ _ now => MemoryCache.endOfTime ≤ now + ttl.nanos
  | get _ _ | flush => false

/-- The entry of the latest write under a key since the last flush; the calls are given latest first. -/
def latest? (ttl : Duration) (key : String) : List CacheCall → Option CacheEntry
  | [] => none
  | get _ _ :: past => latest? ttl key past
  | set k o now :: past => if k = key then some ⟨o, now + ttl.nanos⟩ else latest? ttl key past
  | flush :: _ => none

/-- The readings of the clock do not decrease, from `now` on. -/
def InOrder (now : Nat) (calls : List CacheCall) : Prop := (now :: calls.filterMap moment?).Pairwise (· ≤ ·)

theorem InOrder.cons {now : Nat} {call : CacheCall} {calls : List CacheCall} (h : InOrder now (call :: calls)) :
    now ≤ call.moment?.getD now ∧ InOrder (call.moment?.getD now) calls := by
  unfold InOrder at h ⊢
  cases hm : call.moment? with
  | none =>
    rw [List.filterMap_cons_none hm] at h
    exact ⟨Nat.le_refl now, h⟩
  | some t =>
    rw [List.filterMap_cons_some hm, List.pairwise_cons] at h
    exact ⟨h.1 t (.head _), h.2⟩

end CacheCall

/-- A cache that answers the latest write under a key until its time to live is over. A write whose expiry the clock
cannot show crashes, and from then on nothing is found and no write crashes. -/
def timedMap (ttl : Duration) : CustomCache where
  answer past key now := .ok <|
    if past.any (·.overruns ttl) then none
    else ((CacheCall.latest? ttl key past).filter (now < ·.expires)).map (·.outcome)
  refusal past key o now :=
    if past.any (·.overruns ttl) then none
    else if (CacheCall.set key o now).overruns ttl then some MemoryCache.expiryFault else none

namespace Cache

def call (c : Cache) : CacheCall → Cache × CacheReply
  | .get key now => ((c.get key now).1, .found (c.get key now).2)
  | .set key o now => ((c.set key o now).1, .stored (c.set key o now).2)
  | .flush => (c.flush, .flushed)

def replies (c : Cache) : List CacheCall → List CacheReply
  | [] => []
  | call :: calls => (c.call call).2 :: (c.call call).1.replies calls

end Cache

namespace MemoryCache

variable {ttl : Duration} {past calls : List CacheCall} {now now' seen : Nat} {m m' : MemoryCache} {key k : String}
  {o : Outcome}

def apply (m : MemoryCache) : CacheCall → MemoryCache
  | .get key now => (m.get key now).1
  | .set key o now => (m.set key o now).1
  | .flush => m.flush

def after (m : MemoryCache) (calls : List CacheCall) : MemoryCache := calls.foldl apply m

theorem call_fst (call : CacheCall) : ((Cache.memory m).call call).1 = .memory (m.apply call) := by
  cases call <;> rfl

/-! ### Entries by key -/

theorem keys_insertEntry (e : CacheEntry) (l : List (String × CacheEntry)) :
    (insertEntry key e l).map (·.1) = if key ∈ l.map (·.1) then l.map (·.1) else l.map (·.1) ++ [key] := by
  induction l with
  | nil => rfl
  | cons x rest ih =>
    obtain ⟨k, x⟩ := x
    unfold insertEntry
    by_cases hk : k = key
    · simp [hk]
    · simp only [if_neg hk, List.map_cons, ih, List.mem_cons, Ne.symm hk, false_or]
      split <;> rfl

theorem nodup_insertEntry (e : CacheEntry) {l : List (String × CacheEntry)} (h : (l.map (·.1)).Nodup) :
    ((insertEntry key e l).map (·.1)).Nodup := by
  rw [keys_insertEntry]
  split
  · exact h
  · rename_i hmem
    refine List.nodup_append.mpr ⟨h, List.nodup_singleton key, fun a ha b hb hab => hmem ?_⟩
    rwa [← List.mem_singleton.mp hb, ← hab]

theorem perm_filter_ne {e : CacheEntry} {l : List (String × CacheEntry)} (h : (l.map (·.1)).Nodup)
    (he : l.lookup key = some e) : l.Perm ((key, e) :: l.filter (·.1 != key)) := by
  induction l with
  | nil => cases he
  | cons x rest ih =>
    obtain ⟨k, x⟩ := x
    rw [List.map_cons, List.nodup_cons] at h
    by_cases hk : k = key
    · subst hk
      obtain rfl : x = e := by simpa using he
      -- none of the others has this key, so all of them stay
      have hrest : rest.filter (·.1 != k) = rest :=
        List.filter_eq_self.mpr fun y hy => bne_iff_ne.mpr fun hyk => h.1 (List.mem_map.mpr ⟨y, hy, hyk⟩)
      rw [List.filter_cons_of_neg (by simp), hrest]
    · rw [List.lookup_cons, beq_false_of_ne (Ne.symm hk)] at he
      rw [List.filter_cons_of_pos (by simpa using hk)]
      exact ((ih h.2 he).cons _).trans (.swap ..)

/-! ### Removals -/

theorem poisoned_of_find? {e : CacheEntry} (he : m.find? key = some e) : m.poisoned = false := by
  cases hm : m.poisoned with
  | false => rfl
  | true => simp [find?, hm] at he

/-- `m'` is `m` without the entry under `key`, which had expired by `now`. -/
def Drops (key : String) (now : Nat) (m m' : MemoryCache) : Prop :=
  ∃ e, m.find? key = some e ∧ e.expires ≤ now ∧ m.entries.Perm ((key, e) :: m'.entries) ∧ m.size = m'.size + 1

theorem evictIfUnchanged_eq (m : MemoryCache) (key : String) (seen : Nat) :
    m.evictIfUnchanged key seen = m ∨ ∃ e, m.find? key = some e ∧ e.expires = seen ∧
      m.evictIfUnchanged key seen = { m with entries := m.entries.filter (·.1 != key) } := by
  unfold evictIfUnchanged
  cases m.find? key with
  | none => exact .inl rfl
  | some e =>
    by_cases h : e.expires = seen
    · exact .inr ⟨e, rfl, h, if_pos h⟩
    · exact .inl (if_neg h)

/-- A read that finds no expired entry leaves the cache alone; another one removes what it saw. -/
theorem get_fst_eq (m : MemoryCache) (key : String) (now : Nat) :
    ((m.get key now).1 = m ∧ ∀ e, m.find? key = some e → now < e.expires) ∨
      ∃ e, m.find? key = some e ∧ e.expires ≤ now ∧ (m.get key now).1 = m.evictIfUnchanged key e.expires := by
  unfold get look
  cases m.find? key with
  | none => exact .inl ⟨rfl, fun e he => nomatch he⟩
  | some e =>
    by_cases h : now < e.expires
    · exact .inl ⟨by simp [h], fun _ he => Option.some.inj he ▸ h⟩
    · exact .inr ⟨e, rfl, Nat.not_lt.mp h, by simp [h]⟩

/-! ### The entries and the calls so far -/

/-- How the entries go with the calls so far, latest first, the last of them made at `now`. -/
structure Tracks (ttl : Duration) (past : List CacheCall) (now : Nat) (m : MemoryCache) : Prop where
  ttl_eq : m.ttl = ttl
  poisoned : m.poisoned = past.any (·.overruns ttl)
  keys : (m.entries.map (·.1)).Nodup
  find : m.poisoned = false → ∀ key, m.find? key = CacheCall.latest? ttl key past ∨
    m.find? key = none ∧ ∃ e, CacheCall.latest? ttl key past = some e ∧ e.expires ≤ now

namespace Tracks

theorem empty (ttl : Duration) (now : Nat) : Tracks ttl [] now { ttl } := ⟨rfl, rfl, .nil, fun _ _ => .inl rfl⟩

theorem mono (h : m.Tracks ttl past now) (hle : now ≤ now') : m.Tracks ttl past now' := by
  refine ⟨h.ttl_eq, h.poisoned, h.keys, fun hm key => ?_⟩
  rcases h.find hm key with hfind | ⟨hnone, e, he, hexp⟩
  · exact .inl hfind
  · exact .inr ⟨hnone, e, he, Nat.le_trans hexp hle⟩

theorem of_get (h : m.Tracks ttl past now) (key : String) (t : Nat) : m.Tracks ttl (.get key t :: past) now :=
  ⟨h.ttl_eq, h.poisoned, h.keys, h.find⟩

/-- The latest write under a key is there as long as it has not expired. -/
theorem find?_of_latest (h : m.Tracks ttl past now) (hm : m.poisoned = false) {e : CacheEntry}
    (he : CacheCall.latest? ttl key past = some e) (hlive : now < e.expires) : m.find? key = some e := by
  rcases h.find hm key with hfind | ⟨-, e', he', hexp⟩
  · rw [hfind, he]
  · rw [he] at he'
    cases he'
    omega

theorem latest_of_find? (h : m.Tracks ttl past now) {e : CacheEntry} (he : m.find? key = some e) :
    CacheCall.latest? ttl key past = some e := by
  rcases h.find (poisoned_of_find? he) key with hfind | ⟨hnone, -⟩
  · rw [← hfind, he]
  · rw [hnone] at he
    cases he

theorem get_snd (h : m.Tracks ttl past now) (key : String) :
    .ok (m.get key now).2 = (timedMap ttl).answer past key now := by
  unfold timedMap
  dsimp only
  rw [← h.poisoned]
  cases hm : m.poisoned with
  | true => rw [get_of_poisoned hm, if_pos rfl]
  | false =>
    rw [if_neg Bool.false_ne_true, MemoryCache.get_snd]
    rcases h.find hm key with hfind | ⟨hnone, e, he, hexp⟩
    · rw [hfind]
    · have hover : ¬ now < e.expires := Nat.not_lt.mpr hexp
      simp [hnone, he, Option.filter, hover]

theorem evict (h : m.Tracks ttl past now) (hseen : seen ≤ now) :
    (m.evictIfUnchanged key seen).Tracks ttl past now := by
  rcases evictIfUnchanged_eq m key seen with heq | ⟨e, he, rfl, heq⟩
  · rw [heq]
    exact h
  · rw [heq]
    refine ⟨h.ttl_eq, h.poisoned, h.keys.sublist (List.filter_sublist.map _), fun hm k => ?_⟩
    rw [find?_filter_ne]
    split
    · rename_i hk
      rw [hk]
      -- the latest write under this key is the one that was removed
      exact .inr ⟨rfl, e, h.latest_of_find? he, hseen⟩
    · exact h.find hm k

/-- The entry that is removed is the only one under its key, and nothing else goes with it. -/
theorem drops (h : m.Tracks ttl past now) {e : CacheEntry} (he : m.find? key = some e) (hexp : e.expires ≤ now) :
    m.Drops key now (m.evictIfUnchanged key e.expires) := by
  have hm : m.poisoned = false := poisoned_of_find? he
  have hlookup : m.entries.lookup key = some e := by simpa [find?, hm] using he
  have hevict : m.evictIfUnchanged key e.expires = { m with entries := m.entries.filter (·.1 != key) } := by
    simp only [evictIfUnchanged, he, if_true]
  have hperm := perm_filter_ne h.keys hlookup
  rw [hevict]
  exact ⟨e, he, hexp, hperm, by simpa [size, hm] using hperm.length_eq⟩

theorem get (h : m.Tracks ttl past now) (key : String) : (m.get key now).1.Tracks ttl (.get key now :: past) now := by
  refine of_get ?_ key now
  rcases get_fst_eq m key now with ⟨heq, -⟩ | ⟨e, -, hexp, heq⟩
  · rw [heq]
    exact h
  · rw [heq]
    exact h.evict hexp

theorem set_snd (h : m.Tracks ttl past now) (key : String) (o : Outcome) :
    (m.set key o now).2 = (timedMap ttl).refusal past key o now := by
  unfold timedMap
  dsimp only
  rw [← h.poisoned]
  cases hm : m.poisoned with
  | true => rw [set_of_poisoned hm, if_pos rfl]
  | false =>
    rw [if_neg Bool.false_ne_true]
    rcases Nat.lt_or_ge (now + ttl.nanos) endOfTime with hlt | hover
    · rw [MemoryCache.set_snd (h.ttl_eq ▸ hlt), if_neg (by simpa [CacheCall.overruns] using hlt)]
    · rw [set_of_overdue hm (h.ttl_eq ▸ hover), if_pos (by simpa [CacheCall.overruns] using hover)]

theorem set (h : m.Tracks ttl past now) (key : String) (o : Outcome) :
    (m.set key o now).1.Tracks ttl (.set key o now :: past) now := by
  cases hm : m.poisoned with
  | true =>
    rw [set_of_poisoned hm]
    refine ⟨h.ttl_eq, ?_, h.keys, fun hm' => ?_⟩
    · rw [List.any_cons, ← h.poisoned, hm, Bool.or_true]
    · rw [hm] at hm'
      cases hm'
  | false =>
    have hpast : past.any (·.overruns ttl) = false := h.poisoned ▸ hm
    rcases Nat.lt_or_ge (now + ttl.nanos) endOfTime with hlt | hover
    · have hok : (m.set key o now).2 = none := MemoryCache.set_snd (h.ttl_eq ▸ hlt)
      have hover : (CacheCall.set key o now).overruns ttl = false := by simpa [CacheCall.overruns] using hlt
      refine ⟨ttl_set.trans h.ttl_eq, ?_, ?_, fun _ k => ?_⟩
      · rw [poisoned_set hm hok, List.any_cons, hover, hpast]
        rfl
      · rw [set_eq hm hok]
        exact nodup_insertEntry _ h.keys
      · rw [find?_set hm hok, CacheCall.latest?, h.ttl_eq]
        by_cases hk : k = key
        · rw [if_pos hk, if_pos hk.symm]
          exact .inl rfl
        · rw [if_neg hk, if_neg (Ne.symm hk)]
          exact h.find hm k
    · rw [set_of_overdue hm (h.ttl_eq ▸ hover)]
      have hover' : (CacheCall.set key o now).overruns ttl = true := by simpa [CacheCall.overruns] using hover
      refine ⟨h.ttl_eq, ?_, h.keys, fun hm' => nomatch hm'⟩
      rw [List.any_cons, hover', Bool.true_or]

theorem flush (h : m.Tracks ttl past now) : m.flush.Tracks ttl (.flush :: past) now := by
  refine ⟨ttl_flush.trans h.ttl_eq, poisoned_flush.trans h.poisoned, ?_, fun _ k => .inl find?_flush⟩
  unfold MemoryCache.flush
  split
  · exact h.keys
  · exact List.nodup_nil

theorem apply (h : m.Tracks ttl past now) {call : CacheCall} (hnow : now ≤ call.moment?.getD now) :
    (m.apply call).Tracks ttl (call :: past) (call.moment?.getD now) := by
  cases call with
  | get key t => exact (h.mono hnow).get key
  | set key o t => exact (h.mono hnow).set key o
  | flush => exact h.flush

theorem reply (h : m.Tracks ttl past now) {call : CacheCall} (hnow : now ≤ call.moment?.getD now) :
    ((Cache.memory m).call call).2 = ((Cache.custom { timedMap ttl with calls := past }).call call).2 := by
  cases call with
  | get key t => exact congrArg CacheReply.found ((h.mono hnow).get_snd key)
  | set key o t => exact congrArg CacheReply.stored ((h.mono hnow).set_snd key o)
  | flush => rfl

theorem after {back : List CacheCall} (h : m.Tracks ttl past now) (hcalls : CacheCall.InOrder now (calls ++ back)) :
    ∃ now', (m.after calls).Tracks ttl (calls.reverse ++ past) now' ∧ CacheCall.InOrder now' back := by
  induction calls generalizing m past now with
  | nil => exact ⟨now, h, hcalls⟩
  | cons call calls ih =>
    obtain ⟨hnow, hcalls⟩ := hcalls.cons
    rw [List.reverse_cons, List.append_assoc]
    exact ih (h.apply hnow) hcalls

theorem replies (h : m.Tracks ttl past now) (hcalls : CacheCall.InOrder now calls) :
    (Cache.memory m).replies calls = (Cache.custom { timedMap ttl with calls := past }).replies calls := by
  induction calls generalizing m past now with
  | nil => rfl
  | cons call calls ih =>
    obtain ⟨hnow, hcalls⟩ := hcalls.cons
    have hcustom : ((Cache.custom { timedMap ttl with calls := past }).call call).1 =
        .custom { timedMap ttl with calls := call :: past } := by
      cases call <;> rfl
    unfold Cache.replies
    rw [h.reply hnow, call_fst, hcustom, ih (h.apply hnow) hcalls]

end Tracks

/-! ### A cache that keeps nothing any more -/

theorem apply_of_poisoned (hm : m.poisoned = true) (call : CacheCall) : m.apply call = m := by
  cases call with
  | get key now =>
    rcases get_fst_eq m key now with ⟨heq, -⟩ | ⟨e, he, -, -⟩
    · exact heq
    · rw [poisoned_of_find? he] at hm
      cases hm
  | set key o now => exact congrArg Prod.fst (set_of_poisoned hm)
  | flush => exact if_pos hm

theorem after_of_poisoned (hm : m.poisoned = true) (calls : List CacheCall) : m.after calls = m := by
  induction calls with
  | nil => rfl
  | cons call calls ih =>
    show (m.apply call).after calls = m
    rw [apply_of_poisoned hm, ih]

theorem replies_of_poisoned (hm : m.poisoned = true) (calls : List CacheCall) :
    (Cache.memory m).replies calls = Cache.off.replies calls := by
  induction calls with
  | nil => rfl
  | cons call calls ih =>
    have hreply : ((Cache.memory m).call call).2 = (Cache.off.call call).2 := by
      cases call with
      | get key now => exact congrArg (fun hit => CacheReply.found (.ok hit)) (get_of_poisoned hm)
      | set key o now => exact congrArg (fun s => CacheReply.stored s.2) (set_of_poisoned hm)
      | flush => rfl
    have hoff : (Cache.off.call call).1 = .off := by
      cases call <;> rfl
    unfold Cache.replies
    rw [call_fst, apply_of_poisoned hm, hreply, hoff, ih]

/-! ### The timed map -/

/-- The built-in cache, in every course of calls by a clock that does not go back. It answers as the timed map does. A
read leaves it as it is, unless the entry under the key of the read has expired; then it removes this entry and no
other, and all calls that follow are answered as they would have been without the read. After a write whose expiry the
clock cannot show the cache has no entries and never changes again, and whatever it is asked, it answers as no cache
at all. -/
theorem refines_timedMap (ttl : Duration) (calls : List CacheCall) (hcalls : CacheCall.InOrder 0 calls) :
    (Cache.memory { ttl }).replies calls = (Cache.custom (timedMap ttl)).replies calls ∧
    (∀ front key now back, calls = front ++ .get key now :: back →
      let m := after { ttl } front
      ((m.get key now).1 = m ∧ (∀ e, m.find? key = some e → now < e.expires) ∨ m.Drops key now (m.get key now).1) ∧
        (Cache.memory (m.get key now).1).replies back = (Cache.memory m).replies back) ∧
    ∀ front back, calls = front ++ back → front.any (·.overruns ttl) = true →
      let m := after { ttl } front
      m.size = 0 ∧ ∀ later, m.after later = m ∧ (Cache.memory m).replies later = Cache.off.replies later := by
  refine ⟨(Tracks.empty ttl 0).replies hcalls, ?_, ?_⟩
  · rintro front key now back rfl
    obtain ⟨t, hm, hrest⟩ := (Tracks.empty ttl 0).after hcalls
    obtain ⟨ht, hback⟩ := hrest.cons
    have hm := hm.mono ht
    -- with the read and without it the cache tracks the same writes
    refine ⟨?_, ((hm.get key).replies hback).trans ((hm.of_get key now).replies hback).symm⟩
    rcases get_fst_eq (after { ttl } front) key now with hsame | ⟨e, he, hexp, heq⟩
    · exact .inl hsame
    · rw [heq]
      exact .inr (hm.drops he hexp)
  · rintro front back rfl hover
    obtain ⟨t, hm, -⟩ := (Tracks.empty ttl 0).after hcalls
    have hpoisoned : (after { ttl } front).poisoned = true := by
      rw [hm.poisoned, List.append_nil, List.any_reverse, hover]
    exact ⟨if_pos hpoisoned, fun later => ⟨after_of_poisoned hpoisoned later, replies_of_poisoned hpoisoned later⟩⟩

/-- An entry with five nanoseconds to live, read just before and at its end, and then a write that is too late. -/
theorem refines_timedMap_late :
    let o : Outcome := .verdict "reddit.com" "10.0.0.1" true
    let calls : List CacheCall := [.set "reddit.com" o 0, .get "reddit.com" 4, .get "reddit.com" 5,
      .set "reddit.com" o endOfTime, .get "reddit.com" endOfTime]
    CacheCall.InOrder 0 calls ∧ (Cache.memory { ttl := ⟨5⟩ }).replies calls =
      [.stored none, .found (.ok (some o)), .found (.ok none), .stored (some expiryFault), .found (.ok none)] := by
  intro o calls
  have hcalls : CacheCall.InOrder 0 calls := by
    unfold CacheCall.InOrder
    decide
  exact ⟨hcalls, (refines_timedMap ⟨5⟩ calls hcalls).1.trans (by decide)⟩

end MemoryCache
end FilterWatch
