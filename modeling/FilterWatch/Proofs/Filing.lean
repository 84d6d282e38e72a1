import FilterWatch.Proofs.Expiry
import FilterWatch.Proofs.Provenance

/-!
# What is filed in the cache

The cache keeps verdicts only, each under a key of its own domain and resolver (`Outcome.IsFiled`), as long as a
checker is used and in the middle of its calls. A check that comes to an error tells the cache nothing. One that
crashes tells it nothing either, unless it is the cache that crashes when it is told (`TellsByResult`).
-/

namespace FilterWatch

/-- The outcome is a verdict about a valid domain, and the key is one of this domain and of the resolver. -/
structure Outcome.IsFiled (key : String) (o : Outcome) : Prop where
  verdict : o.error = none
  normalized : ∃ raw, o.domain = normalize raw
  valid : isValidDomain o.domain
  key_eq : ∃ r : Resolver, r.address = o.resolver ∧ key = cacheKey o.domain r

/-- With an error, the outcome says that nothing is blocked, by no resolver. -/
def Outcome.IsBlankOnError (o : Outcome) : Prop := o.error ≠ none → o.blocked = false ∧ o.resolver = ""

/-- All that the cache keeps, and all that it was ever told, is filed under its key. -/
structure World.IsFiled (w : World) : Prop where
  kept : ∀ key o, w.cache.Holds key o → o.IsFiled key
  told : ∀ time key o, ⟨time, .store key o⟩ ∈ w.journal → o.IsFiled key

/-- What a check tells the cache, by what it comes to. -/
structure TellsByResult (w₀ w : World) (es : List Event) (x : Except Fault Outcome) : Prop where
  failed : ∀ o, x = .ok o → o.error ≠ none → ∀ e ∈ es, e.what.isStore = false
  /-- The crash of a check that has told the cache something is that of the cache, when it was told. -/
  crashed : ∀ f, x = .error f → (∀ e ∈ es, e.what.isStore = false) ∨
    ∃ (time : Nat) (key : String) (o : Outcome) (rest : List Event) (w₁ : World), es = ⟨time, .store key o⟩ :: rest ∧
      (∀ e ∈ rest, e.what.isStore = false) ∧ w₀.journal <:+ w₁.journal ∧
      (w₁.store key o).1.journal <:+ w.journal ∧ (w₁.store key o).2 = some f
  blank : ∀ o, x = .ok o → o.IsBlankOnError

theorem Outcome.IsFiled.isBlankOnError {key : String} {o : Outcome} (h : o.IsFiled key) : o.IsBlankOnError :=
  fun he => absurd h.verdict he

theorem Outcome.isBlankOnError_failed (domain : String) (e : CheckError) : (failed domain e).IsBlankOnError :=
  fun _ => ⟨rfl, rfl⟩

namespace Checker
variable {c₀ c : Checker} {net : Network} {call : Call} {raw key : String} {w₀ w : World} {es older : List Event}
  {x : Except Fault Outcome} {J₀ : List Event} {o : Outcome} {e : Event} {r : Resolver} {blocked : Bool}

theorem Stores.isFiled (h : c₀.Stores w raw w₀ r blocked es e older) (hwhat : e.what = .store key o) :
    o.IsFiled key := by
  rw [h.what, Happening.store.injEq] at hwhat
  obtain ⟨rfl, rfl⟩ := hwhat
  exact ⟨rfl, ⟨raw, rfl⟩, h.valid, r, rfl, rfl⟩

theorem Vouches.isFiled {time : Nat} (hw : c₀.Vouches w) (h : ⟨time, .store key o⟩ ∈ w.journal) : o.IsFiled key := by
  obtain ⟨newer, older, hJ⟩ := List.append_of_mem h
  obtain ⟨raw, w₀, r, blocked, es, hstores⟩ := hw newer _ older hJ rfl
  exact (hstores w rfl).isFiled rfl

theorem Vouches.isFiled_of_brings (hw : c₀.Vouches w)
    (h : (World.replies (World.Since World.Backed J₀) w.journal).brings key o) : o.IsFiled key := by
  obtain ⟨-, e, older, -, -, hwhat, raw, w₀, r, blocked, es, hstores⟩ := hw.source h
  exact hstores.isFiled hwhat

theorem CheckedAs.tellsByResult {p : CheckPolicy} (h : CheckedAs World.Backed p raw w₀ es w x)
    (hw : c₀.Vouches w) : TellsByResult w₀ w es x := by
  have hends := h.ends
  generalize hstory : Event.story es = hs at hends
  cases hends with
  | hit _ _ _ hhit =>
    have hfiled := hw.isFiled_of_brings hhit
    refine ⟨?_, fun f hf => (nomatch hf), ?_⟩
    · rintro _ ⟨⟩ he
      exact absurd hfiled.verdict he
    · rintro _ ⟨⟩
      exact hfiled.isBlankOnError
  | @stored hs r b q _ _ _ hnone _ _ hx =>
    obtain ⟨time, rest, rfl, rfl⟩ := Event.eq_cons_of_story hstory
    rcases hx with rfl | ⟨f, rfl, w₁, ⟨-, hsince⟩, htold, hcrash⟩
    · refine ⟨?_, fun f hf => (nomatch hf), ?_⟩
      · rintro _ ⟨⟩ he
        exact absurd rfl he
      · rintro _ ⟨⟩ he
        exact absurd rfl he
    · refine ⟨fun o ho => (nomatch ho), ?_, fun o ho => (nomatch ho)⟩
      rintro _ ⟨⟩
      exact .inr ⟨time, _, _, rest, w₁, rfl, Event.forall_story.mp hnone, hsince, htold, hcrash⟩
  | failed hnone hx =>
    subst hstory
    have huntold := Event.forall_story.mp hnone
    refine ⟨fun _ _ _ => huntold, fun _ _ => .inl huntold, fun o ho => ?_⟩
    obtain ⟨e, rfl⟩ := hx o ho
    exact Outcome.isBlankOnError_failed _ _

/-- What the checks of a call tell the cache, and what the call answers. -/
structure FilesVerdicts (c : Checker) (net : Network) (call : Call) : Prop where
  checked : ∀ raw w₀ es w x, c.Checked net call raw w₀ es w x → TellsByResult w₀ w es x
  checkOne : ∀ raw o, (c.checkOne net call raw).2 = .ok o → o.IsBlankOnError
  checkMany : ∀ raws outcomes, (c.checkMany net call raws).2 = .ok outcomes → ∀ o ∈ outcomes, o.IsBlankOnError

theorem filesVerdicts (hbacked : c.world.Backed) (hvouches : ∀ w, c.Passes w → c₀.Vouches w) :
    c.FilesVerdicts net call := by
  have hchecked : ∀ raw w₀ es w x, c.Checked net call raw w₀ es w x → TellsByResult w₀ w es x :=
    fun _ _ _ w _ h => (h.ends World.lasting_backed hbacked).tellsByResult (hvouches w h.passes)
  refine ⟨hchecked, fun raw o ho => ?_, fun raws outcomes houtcomes o ho => ?_⟩
  · obtain ⟨es, h⟩ := checked_of_checkOne ho
    exact (hchecked _ _ _ _ _ h).blank o rfl
  · obtain ⟨i, hi⟩ := List.getElem?_of_mem ho
    obtain ⟨hlength, hitems⟩ := checked_of_checkMany houtcomes
    have hlt : i < raws.length := hlength ▸ (List.getElem?_eq_some_iff.mp hi).1
    rcases hitems i _ o (List.getElem?_eq_getElem hlt) hi with rfl | ⟨w₀, es, w, x, h, rfl⟩
    · exact Outcome.isBlankOnError_failed _ _
    · cases x with
      | ok o => exact (hchecked _ _ _ _ _ h).blank o rfl
      | error f => exact Outcome.isBlankOnError_failed _ _

/-- Whatever was done with a checker before, all that its cache keeps are verdicts, each under a key of its own domain
and resolver, between calls and in the middle of one. The cache was told nothing else. A check that has come to an error
has told it nothing, and neither has one that has crashed, unless the cache has crashed when it was told, which is then
all that this check has told it. Outcomes with an error say that nothing is blocked, by no resolver. It is taken for
granted that a cache of the caller's own starts empty and does not hand out what it was never told. -/
theorem filed_of_used (config : Config) (cache : Option Cache) (hcache : ∀ k ∈ cache, k.IsUnused) (c : Checker)
    (hc : (Checker.build config cache).Used c) (net : Network) (call : Call) :
    (∀ w, c.Passes w → w.IsFiled) ∧ (c.resolvers ≠ [] → c.Answers net call) ∧ c.FilesVerdicts net call := by
  have hbacked := backed_of_used hcache hc
  refine ⟨fun w hw => ⟨fun key o hholds => ?_, fun time key o htold => (hw.vouches_build hc).isFiled htold⟩,
    answers net call, filesVerdicts hbacked fun w hw => hw.vouches_build hc⟩
  obtain ⟨newer, time, older, hJ, -⟩ := (hw.lasting World.lasting_backed hbacked).told hholds
  have htold : ⟨time, .store key o⟩ ∈ w.journal := by simp [hJ]
  exact (hw.vouches_build hc).isFiled htold

/-- A checker with a cache without expiry, that makes one attempt at one resolver. -/
def onPlainCache : Checker :=
  .build { Config.default with maxRetries := 0, resolvers := [⟨"10.0.0.1", "internetpositif", .a⟩] } (some (.plain {}))

theorem filed_of_used_reddit :
    ⟨0, .store "reddit.com:10.0.0.1:internetpositif:1" (.verdict "reddit.com" "10.0.0.1" false)⟩ ∈
      (onPlainCache.checkOne .answering {} "Reddit.COM.").1.world.journal ∧
    (Outcome.verdict "reddit.com" "10.0.0.1" false).IsFiled "reddit.com:10.0.0.1:internetpositif:1" := by
  have htold : ⟨0, .store "reddit.com:10.0.0.1:internetpositif:1" (.verdict "reddit.com" "10.0.0.1" false)⟩ ∈
      (onPlainCache.checkOne .answering {} "Reddit.COM.").1.world.journal := by
    rw [checkOne_of_atOnce (by decide) (x := .ok (.verdict "reddit.com" "10.0.0.1" false)) (by decide +kernel)]
    decide +kernel
  have hunused : Cache.IsUnused (.plain {}) := ⟨trivial, fun _ _ => List.not_mem_nil⟩
  have hused := used_checkOne onPlainCache .answering {} "Reddit.COM."
  obtain ⟨hfiled, -, -⟩ := filed_of_used _ (some (.plain {})) (by simpa using hunused) _ hused .answering {}
  exact ⟨htold, (hfiled _ .idle).told _ _ _ htold⟩

/-- A check crashes, and it has told the cache its verdict. -/
theorem told_by_crash :
    let c := (ofTtl (.ofSeconds 0x8000000000000000)).checkOne .answering {} "reddit.com"
    c.2 = .error (.crash MemoryCache.expiryFault) ∧
      ⟨0, .store "reddit.com:10.0.0.1:internetpositif:1" (.verdict "reddit.com" "10.0.0.1" false)⟩ ∈
        c.1.world.journal := by
  intro c
  have hc : c = _ := checkOne_of_atOnce (by decide) (x := .error (.crash MemoryCache.expiryFault)) (by decide +kernel)
  rw [hc]
  exact ⟨rfl, by decide +kernel⟩

end Checker
end FilterWatch
