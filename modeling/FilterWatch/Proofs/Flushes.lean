import FilterWatch.Proofs.Expiry
import FilterWatch.Proofs.Provenance
import FilterWatch.Proofs.Reload

/-!
# What a flush takes effect on

A check that is started after a flush has no verdict from the cache that was there at the flush. A check that runs at
the flush is not held up by it: it tells the cache its verdict afterwards, and from then on this verdict is found,
although its queries may have been sent before the flush.
-/

namespace FilterWatch

/-- A flush stands on top of `before` in a journal, and entries that are not flushes on top of an entry `e`, which is
not one either. If the journal with the flush is the end of the other one, `e` came after the flush. -/
theorem Event.older_of_flush {newer older before : List Event} {e f : Event} (hf : f.isFlush) (he : e.isFlush = false)
    (hnewer : ∀ e' ∈ newer, e'.isFlush = false) (h : f :: before <:+ newer ++ e :: older) :
    ∃ mid, older = mid ++ f :: before := by
  have hne : f ≠ e := by
    rintro rfl
    exact absurd (hf.symm.trans he) (by simp)
  obtain ⟨front, hfront⟩ := h
  rcases List.append_eq_append_iff.mp hfront with ⟨mid, rfl, hrest⟩ | ⟨mid, rfl, hrest⟩
  · cases mid with
    | nil => exact absurd (List.cons.inj hrest).1 hne
    | cons f' mid =>
      obtain ⟨rfl, -⟩ := List.cons.inj hrest
      exact absurd (hf.symm.trans (hnewer f (by simp))) (by simp)
  · cases mid with
    | nil => exact absurd (List.cons.inj hrest).1.symm hne
    | cons e' mid => exact ⟨mid, (List.cons.inj hrest).2⟩

theorem Call.journal_world {call : Call} {w : World} : (call.world w).journal = w.journal := rfl

namespace Checker
variable {c₀ c : Checker} {net : Network} {call : Call}

/-- A verdict that a check has from the cache when it was started after a flush: `before` stood in the journal at the
flush, the flush and `mid` when the cache was told the verdict. The check that has told it was started after the flush
as well, so that all that it has written was written after it, or it was running at the flush. -/
structure ToldSince (c₀ : Checker) (w : World) (time : Nat) (before : List Event) (key : String) (o : Outcome)
    (raw : String) (w₀ : World) (es mid : List Event) : Prop where
  stores : ∃ r blocked e, e.what = .store key o ∧ c₀.Stores w raw w₀ r blocked es e (mid ++ ⟨time, .flush⟩ :: before)
  since : es.Sublist mid ∨ w₀.journal <:+ before

/-- Checks that are started after a flush find in the cache what it was told since. -/
def HeedsFlushes (c₀ c : Checker) (net : Network) (call : Call) : Prop :=
  ∀ raw w₀ es w o, c.Checked net call raw w₀ es w (.ok o) → o.IsFromCache es →
    ∀ after time before, w₀.journal = after ++ ⟨time, .flush⟩ :: before →
      ∃ r ∈ w₀.registry.resolvers, (∃ t found rest, es = ⟨t, .lookup (cacheKey (normalize raw) r) found⟩ :: rest) ∧
        ∃ raw' w₀' es' mid, c₀.ToldSince w time before (cacheKey (normalize raw) r) o raw' w₀' es' mid

theorem heedsFlushes (hbacked : c.world.Backed) (hvouches : ∀ w, c.Passes w → c₀.Vouches w) :
    c₀.HeedsFlushes c net call := by
  intro raw w₀ es w o h ho after time before hflush
  obtain ⟨-, r, hr, t, found, rest, hes, hbrings⟩ := (h.ends World.lasting_backed hbacked).found ho
  obtain ⟨newer, e, older, hsince, hnewer, hwhat, raw', w₀', r', blocked, es', hstores⟩ :=
    (hvouches w h.passes).source hbrings
  have hsuffix : ⟨time, .flush⟩ :: before <:+ newer ++ e :: older := by
    rw [hflush] at hsince
    exact (List.suffix_append _ _).trans hsince
  obtain ⟨mid, rfl⟩ := Event.older_of_flush (by simp [Event.isFlush]) (by simp [Event.isFlush, hwhat]) hnewer hsuffix
  refine ⟨r, hr, ⟨t, found, rest, hes⟩, raw', w₀', es', mid, ⟨r', blocked, e, hwhat, hstores⟩, ?_⟩
  obtain ⟨seg, hseg, hsub⟩ := hstores.since
  -- the check that told the verdict was started before the flush, or after it
  rcases List.append_eq_append_iff.mp hseg with ⟨m, rfl, hm⟩ | ⟨m, rfl, hm⟩
  · cases m with
    | nil => exact .inl (by simpa using hsub)
    | cons e' m =>
      obtain ⟨-, rfl⟩ := List.cons.inj hm
      exact .inr (List.suffix_append _ _)
  · exact .inl (hsub.trans (List.sublist_append_left _ _))

/-- Whatever was done with a checker before, a check that is started after a flush has no verdict from the cache but
what the cache was told since the flush: by a check that was started after the flush as well, or by one that was
running at the flush. It is taken for granted that a cache of the caller's own starts empty and does not hand out what
it was never told, or was told before a flush. -/
theorem heedsFlushes_of_used (config : Config) (cache : Option Cache) (hcache : ∀ k ∈ cache, k.IsUnused) (c : Checker)
    (hc : (Checker.build config cache).Used c) (net : Network) (call : Call) :
    (c.resolvers ≠ [] → c.Answers net call) ∧ (Checker.build config cache).HeedsFlushes c net call :=
  ⟨answers net call, heedsFlushes (backed_of_used hcache hc) fun _ hw => hw.vouches_build hc⟩

/-- A checker whose only check so far was running at a flush: its query was sent and not answered yet. -/
def flushedMeanwhile : Checker :=
  ((ofTtl (.ofSeconds 300)).checkOne (.answeringAfter 10) { agenda := [⟨5, .flush⟩] } "reddit.com").1

theorem flushedMeanwhile_eq : flushedMeanwhile = { ofTtl (.ofSeconds 300) with
    world := ((Batch.alone (.answeringAfter 10) ((ofTtl (.ofSeconds 300)).policy.check "reddit.com")
      (Call.world { agenda := [⟨5, .flush⟩] } (ofTtl (.ofSeconds 300)).world)
      [⟨5, .flush⟩]).steps (.answeringAfter 10) 1 3).world } := by
  have hagenda : Call.agendaFrom { agenda := [⟨5, .flush⟩] } (ofTtl (.ofSeconds 300)).world = [⟨5, .flush⟩] := by
    simp [Call.agendaFrom, ofTtl, build]
  rw [flushedMeanwhile, checkOne_eq_of_steps (x := .ok (.verdict "reddit.com" "10.0.0.1" false)) (by decide) _ hagenda
    3 rfl (by decide +kernel) (by decide +kernel)]

theorem checkOne_flushedMeanwhile : flushedMeanwhile.checkOne (.answeringAfter 10) {} "reddit.com" =
    ((flushedMeanwhile.atOnce (.answeringAfter 10) {} "reddit.com").1,
      .ok (.verdict "reddit.com" "10.0.0.1" false)) := by
  rw [flushedMeanwhile_eq]
  exact checkOne_of_atOnce (by decide +kernel) (by decide +kernel)

theorem heedsFlushes_of_used_meanwhile : ∃ w r before raw w₀ es mid, (ofTtl (.ofSeconds 300)).ToldSince w 5 before
    (cacheKey (normalize "reddit.com") r) (.verdict "reddit.com" "10.0.0.1" false) raw w₀ es mid := by
  have hused : (ofTtl (.ofSeconds 300)).Used flushedMeanwhile :=
    used_checkOne (ofTtl (.ofSeconds 300)) (.answeringAfter 10) { agenda := [⟨5, .flush⟩] } "reddit.com"
  obtain ⟨-, hheeds⟩ := heedsFlushes_of_used _ none (by simp) flushedMeanwhile hused (.answeringAfter 10) {}
  have hflush : flushedMeanwhile.world.journal =
      flushedMeanwhile.world.journal.take 2 ++ ⟨5, .flush⟩ :: flushedMeanwhile.world.journal.drop 3 := by
    rw [flushedMeanwhile_eq]
    decide +kernel
  have hres : (flushedMeanwhile.checkOne (.answeringAfter 10) {} "reddit.com").2 =
      .ok (.verdict "reddit.com" "10.0.0.1" false) := by
    rw [checkOne_flushedMeanwhile]
  have hnew : (flushedMeanwhile.checkOne (.answeringAfter 10) {} "reddit.com").1.world.journal =
      [⟨10, .lookup "reddit.com:10.0.0.1:internetpositif:1" true⟩] ++ flushedMeanwhile.world.journal := by
    rw [checkOne_flushedMeanwhile, flushedMeanwhile_eq]
    decide +kernel
  obtain ⟨es, w, hchecked, hfound⟩ := fromCache_of_checkOne hres rfl hnew (by simp [Happening.isStore])
  obtain ⟨r, -, -, raw, w₀, es', mid, htold⟩ := hheeds _ _ _ _ _ hchecked hfound _ 5 _ (Call.journal_world.trans hflush)
  exact ⟨w, r, _, raw, w₀, es', mid, htold⟩

/-- After a flush no query is sent any more, and still a check that is started after it has a verdict from the cache. -/
theorem flush_outlived :
    let second := flushedMeanwhile.checkOne (.answeringAfter 10) {} "reddit.com"
    (∃ after before, flushedMeanwhile.world.journal = after ++ ⟨5, .flush⟩ :: before ∧
      after.countP (·.what.isExchange) = 0 ∧ before.countP (·.what.isExchange) = 1) ∧
    second.2 = .ok (.verdict "reddit.com" "10.0.0.1" false) ∧
    second.1.world.exchanges = flushedMeanwhile.world.exchanges := by
  intro second
  have hsecond : second = _ := checkOne_flushedMeanwhile
  refine ⟨⟨flushedMeanwhile.world.journal.take 2, flushedMeanwhile.world.journal.drop 3, ?_⟩, by rw [hsecond], ?_⟩
  · rw [flushedMeanwhile_eq]
    decide +kernel
  · rw [hsecond, flushedMeanwhile_eq]
    decide +kernel

end Checker
end FilterWatch
