import FilterWatch.Proofs.CacheKey
import FilterWatch.Proofs.Filing

/-!
# The domain of an outcome

A check names the domain in its outcome as it has normalized it, whether it comes to a verdict or an error or finds an
outcome in the cache. An item of many that was not started, or whose check has crashed, has an outcome of the
dispatcher's instead, and this one has the text as the user wrote it.
-/

namespace FilterWatch.Checker
variable {c₀ c : Checker} {net : Network} {call : Call} {raw : String} {w₀ w : World} {es : List Event} {o : Outcome}

theorem CheckedAs.domain_eq {p : CheckPolicy} (h : CheckedAs World.Backed p raw w₀ es w (.ok o))
    (hw : c₀.Vouches w) : o.domain = normalize raw := by
  have hends := h.ends
  generalize Event.story es = hs, hx : Except.ok o = x at hends
  cases hends with
  | hit hvalid _ _ hhit =>
    cases hx
    have hfiled := hw.isFiled_of_brings hhit
    obtain ⟨r', -, hkey⟩ := hfiled.key_eq
    exact ((cacheKey_eq_cacheKey hvalid hfiled.valid).mp hkey).1.symm
  | stored _ _ _ _ _ hx' =>
    subst hx
    rcases hx' with ho | ⟨f, hf, -⟩
    · rw [Except.ok.inj ho]
      rfl
    · cases hf
  | failed _ hx' =>
    obtain ⟨e, rfl⟩ := hx' o hx.symm
    rfl

/-- How the outcomes of a call name what was checked. An item of many has an outcome of its check, or one that says that
it was not started, or that its check has crashed. -/
structure Names (c : Checker) (net : Network) (call : Call) : Prop where
  checked : ∀ raw w₀ es w o, c.Checked net call raw w₀ es w (.ok o) → o.domain = normalize raw
  checkOne : ∀ raw o, (c.checkOne net call raw).2 = .ok o → o.domain = normalize raw
  checkMany : ∀ raws outcomes, (c.checkMany net call raws).2 = .ok outcomes → outcomes.length = raws.length ∧
    ∀ (i : Nat) raw o, raws[i]? = some raw → outcomes[i]? = some o → o.domain = normalize raw ∨
      o = .failed raw .cancelled ∨ ∃ w₀ es w f, c.Checked net call raw w₀ es w (.error f) ∧ o = .failed raw (.ofFault f)

theorem names (hbacked : c.world.Backed) (hvouches : ∀ w, c.Passes w → c₀.Vouches w) : c.Names net call := by
  have hchecked : ∀ raw w₀ es w o, c.Checked net call raw w₀ es w (.ok o) → o.domain = normalize raw :=
    fun _ _ _ w _ h => (h.ends World.lasting_backed hbacked).domain_eq (hvouches w h.passes)
  refine ⟨hchecked, fun raw o ho => ?_, fun raws outcomes houtcomes => ?_⟩
  · obtain ⟨es, h⟩ := checked_of_checkOne ho
    exact hchecked _ _ _ _ _ h
  · obtain ⟨hlength, hitems⟩ := checked_of_checkMany houtcomes
    refine ⟨hlength, fun i raw o hraw ho => ?_⟩
    rcases hitems i raw o hraw ho with hskipped | ⟨w₀, es, w, x, h, rfl⟩
    · exact .inr (.inl hskipped)
    · cases x with
      | ok o => exact .inl (hchecked _ _ _ _ _ h)
      | error f => exact .inr (.inr ⟨w₀, es, w, f, h, rfl⟩)

/-- Whatever was done with a checker before, the outcome of a check names the domain as it was normalized, wherever
the outcome comes from. Only the outcomes of items that were not started and of checks that have crashed do not: they
have the domain as the user wrote it. It is taken for granted that a cache of the caller's own starts empty and does
not hand out what it was never told. -/
theorem names_of_used (config : Config) (cache : Option Cache) (hcache : ∀ k ∈ cache, k.IsUnused) (c : Checker)
    (hc : (Checker.build config cache).Used c) (net : Network) (call : Call) :
    (c.resolvers ≠ [] → c.Answers net call) ∧ c.Names net call :=
  ⟨answers net call, names (backed_of_used hcache hc) fun _ hw => hw.vouches_build hc⟩

theorem names_of_used_reddit : ∃ o, ((ofTtl (.ofSeconds 300)).checkOne .answering {} " Reddit.COM. ").2 = .ok o ∧
    o.domain = normalize " Reddit.COM. " := by
  have ho : ((ofTtl (.ofSeconds 300)).checkOne .answering {} " Reddit.COM. ").2 =
      .ok (.verdict "reddit.com" "10.0.0.1" false) := by
    rw [checkOne_of_atOnce (by decide) (x := .ok (.verdict "reddit.com" "10.0.0.1" false)) (by decide +kernel)]
  obtain ⟨-, hnames⟩ := names_of_used _ none (by simp) (ofTtl (.ofSeconds 300)) .refl .answering {}
  exact ⟨_, ho, hnames.checkOne _ _ ho⟩

/-- The same text names a domain in one way when its check is made, and in another way when it is not started. -/
theorem named_as_written :
    let c := ofTtl (.ofSeconds 300)
    (c.checkOne .answering {} " Reddit.COM. ").2 = .ok (.verdict "reddit.com" "10.0.0.1" false) ∧
      (c.checkMany .answering { cancelled := true } [" Reddit.COM. "]).2 = .ok [.failed " Reddit.COM. " .cancelled] ∧
      normalize " Reddit.COM. " = "reddit.com" := by
  intro c
  refine ⟨?_, (checkMany_cancelled (by decide) rfl _).1, by decide +kernel⟩
  rw [checkOne_of_atOnce (by decide) (x := .ok (.verdict "reddit.com" "10.0.0.1" false)) (by decide +kernel)]

end FilterWatch.Checker
