import FilterWatch.Proofs.Crashes
import FilterWatch.Proofs.Naming
import FilterWatch.Proofs.Reload

/-!
# What comes of the items of a call

The outcomes that a call of a new checker can have for an item, as long as nobody changes the resolvers meanwhile
(`Outcome.Concerns`, `Checker.concerns`). A verdict names one of the resolvers that the checker was made with, also when
the check has it from the cache: what the cache was told in the call was told by one of its checks, and these know no
other resolvers (`Checker.isListed_of_told`).
-/

namespace FilterWatch

/-- Nobody changes the resolvers while the call is under way. -/
def Call.KeepsResolvers (call : Call) : Prop := ∀ e ∈ call.agenda, e.what.isReload = false

theorem Intervention.registry_apply {i : Intervention} (h : i.isReload = false) (w : World) :
    (i.apply w).registry = w.registry := by
  cases i with
  | cancel | flush | elapse => rfl
  | upsert | delete => cases h

namespace Outcome

/-- A verdict of one of the resolvers, whatever it is about. -/
def IsListed (rs : List Resolver) (o : Outcome) : Prop :=
  ∃ domain, ∃ r ∈ rs, ∃ blocked, o = .verdict domain r.address blocked

/-- What may come of an item that is written `raw` and checked with the resolvers `rs`. -/
inductive Concerns (net : Network) (rs : List Resolver) (raw : String) : Outcome → Prop
  | verdict {r} (hr : r ∈ rs) (blocked : Bool) : Concerns net rs raw (.verdict (normalize raw) r.address blocked)
  | invalid : Concerns net rs raw (.failed (normalize raw) (.invalidInput (normalize raw)))
  | exhausted : Concerns net rs raw (.failed (normalize raw) .allResolversFailed)
  | cancelled : Concerns net rs raw (.failed (normalize raw) .cancelled)
  | skipped : Concerns net rs raw (.failed raw .cancelled)
  /-- Apart from exchanges, a check crashes for one of two reasons. -/
  | crashed {f} (hf : net.NeverCrashes → f = Dns.noTextFault ∨ f = MemoryCache.expiryFault) :
    Concerns net rs raw (.failed raw (.ofFault f))

end Outcome

/-! ### Traces of jobs that heed the caller -/

section
variable {α : Type} {Kept : Outcome → Prop} {Q C : α → Prop} {R : Cache.Replies} {job : Job α} {hs : List Happening}
  {a : α}

theorem Job.Quits.trace (hjob : job.Quits C) (h : job.Trace R hs (.ok a)) : C a := by
  induction hjob generalizing hs with
  | done hC => cases h; exact hC
  | count _ ih =>
    cases h with
    | count h => exact ih h

theorem Job.Heeds.trace (hjob : job.Heeds Kept Q C) (hR : ∀ key o, R.brings key o → Kept o)
    (h : job.Trace R hs (.ok a)) : Q a ∨ C a := by
  induction hjob generalizing hs with
  | done hQ => cases h; exact .inl hQ
  | crash => cases h
  | resolvers _ ih =>
    cases h with
    | resolvers h => exact ih _ h
  | lookup _ _ ihmiss ihhit =>
    cases h with
    | hit hhit h => exact ihhit _ (hR _ _ hhit) h
    | miss h => exact ihmiss h
  | store _ _ ih =>
    cases h with
    | store h => exact ih h
  | count _ ih =>
    cases h with
    | count h => exact ih h
  | exchange hquit _ ih =>
    cases h with
    | withheld h => exact .inr (hquit.trace h)
    | answered h => exact ih _ (by simp) h
    | @unanswered _ _ _ _ reply _ _ _ h =>
      by_cases hreply : reply = .cancelled
      · subst hreply
        exact .inr (hquit.trace h)
      · exact ih _ hreply h
  | pause hquit _ ih =>
    cases h with
    | @pause _ _ passed _ _ h =>
      cases passed with
      | false => exact .inr (hquit.trace h)
      | true => exact ih h

end

/-- What a check against a list may come to, unless it is cancelled. -/
def CheckPolicy.Decides (domain : String) (rs : List Resolver) (o : Outcome) : Prop :=
  o.IsListed rs ∨ o = .failed domain (.invalidInput domain) ∨ o = .failed domain .allResolversFailed

theorem CheckPolicy.check_decides (p : CheckPolicy) (raw : String) (rs : List Resolver) :
    ((p.check raw).given rs).Heeds (Outcome.IsListed rs) (Decides (normalize raw) rs)
      (· = .failed (normalize raw) .cancelled) := by
  cases hv : isValidDomain (normalize raw) with
  | true =>
    rw [check_of_valid hv]
    exact against_heeds (fun r hr blocked => ⟨normalize raw, r, hr, blocked, rfl⟩) (fun _ => .inl) (.inr (.inl rfl))
      (.inr (.inr rfl)) rfl
  | false =>
    rw [check_of_invalid hv]
    exact .count (.done (.inr (.inl rfl)))

/-! ### Calls that nobody interferes with -/

namespace Checker
variable {c : Checker} {net : Network} {call : Call} {limit : Nat} {raws : List String} {ts : List Turn}
  {b : Batch Outcome} {config : Config}

theorem registry_manyBatch (hcall : call.KeepsResolvers) (h : (c.manyBatch call raws).Schedule net limit ts b) :
    b.world.registry = c.world.registry := by
  have hall : b.world.registry = c.world.registry ∧ ∀ e ∈ b.agenda, e.what.isReload = false := by
    refine h.preserves (P := fun b => b.world.registry = c.world.registry ∧ ∀ e ∈ b.agenda, e.what.isReload = false)
      ?_ ?_
    · intro b t b' hmove ⟨hreg, hagenda⟩
      rcases hmove.keeps (World.kept_registry c.world.registry) with ⟨-, heq, hkeeps⟩ | ⟨e, -, heq, hworld⟩
      · exact ⟨hkeeps hreg, heq ▸ hagenda⟩
      · obtain ⟨hquiet, hrest⟩ := List.forall_mem_cons.mp (heq ▸ hagenda)
        rw [hworld, Intervention.registry_apply hquiet]
        exact ⟨hreg, hrest⟩
    · refine ⟨rfl, fun e he => ?_⟩
      obtain ⟨e', he', hwhat⟩ := Call.what_of_mem_agendaFrom he
      rw [← hwhat]
      exact hcall e' he'
  exact hall.1

/-- What the cache was told in a call, it was told by a check of that call. -/
theorem isListed_of_told (hcall : call.KeepsResolvers) (hJ : c.world.journal = [])
    (h : (c.manyBatch call raws).Schedule net limit ts b) {time : Nat} {key : String} {o : Outcome}
    (ho : ⟨time, .store key o⟩ ∈ b.world.journal) : o.IsListed c.resolvers := by
  obtain ⟨newer, older, hsplit⟩ := List.append_of_mem ho
  rcases h.author_of_store hsplit rfl with ⟨front, hfront⟩ |
    ⟨i, raw, ts', b', s, front, es, ts₀, b₀, hraw, -, hauthors⟩
  · have hnil : front ++ ⟨time, .store key o⟩ :: older = [] := hfront.symm.trans hJ
    simp at hnil
  · obtain ⟨r, blocked, hstores⟩ := stores_of_authors .refl hraw hauthors rfl
    have hstores := hstores _ (.within .nil)
    have hregistry := registry_manyBatch hcall hauthors.recorded.began.schedule
    have hlisted := hstores.listed
    rw [hregistry] at hlisted
    obtain ⟨-, rfl⟩ := Happening.store.inj hstores.what
    exact ⟨_, r, hlisted, blocked, rfl⟩

variable {i : Nat} {raw : String} {o : Outcome}

theorem decides_of_ended (hcall : call.KeepsResolvers)
    (h : ((build config none).manyBatch call raws).Finishes net limit ts b) (hraw : raws[i]? = some raw)
    (ho : b.slots[i]? = some (.ended (.ok o))) :
    o.domain = normalize raw ∧
      (CheckPolicy.Decides (normalize raw) config.resolvers o ∨ o = .failed (normalize raw) .cancelled) := by
  have hbacked : (build config none).world.Backed := backed_build (by simp)
  obtain ⟨es, hwrote⟩ := h.schedule.wrote i
  obtain ⟨s, hs, hnot | ⟨ts₀, b₀, hrec⟩⟩ := hwrote.recorded World.lasting_backed (Batch.isPunctual_queue _ _ _ _)
    (slots_manyBatch hraw) (lasting_call World.lasting_backed hbacked call) List.suffix_rfl
  · obtain rfl := Option.some.inj (ho.symm.trans hs)
    cases hnot.1
  · obtain rfl := Option.some.inj (ho.symm.trans hs)
    have hchecked : (build config none).Checked net call raw b₀.world es b.world (.ok o) :=
      .item h hraw ho hrec.began hwrote
    refine ⟨(hchecked.ends World.lasting_backed hbacked).domain_eq (hchecked.passes.vouches_build .refl), ?_⟩
    have htrace := hrec.trace [] (.ok o) ⟨rfl, rfl⟩
    rw [registry_manyBatch hcall hrec.began.schedule] at htrace
    refine (CheckPolicy.check_decides _ raw config.resolvers).trace (fun key o hbrings => ?_) htrace
    obtain ⟨w₁, ⟨hbacked₁, -⟩, hread, hfound⟩ := hbrings
    obtain ⟨newer, time, older, hw₁, -⟩ := hbacked₁.of_lookup hfound
    have hmem : ⟨time, .store key o⟩ ∈ w₁.journal := by simp [hw₁]
    exact isListed_of_told hcall rfl h.schedule (hread.subset (.tail _ hmem))

/-- A check of a new checker crashes for one of two reasons, if no exchange crashes. -/
theorem fault_of_ended (hnet : net.NeverCrashes)
    (h : ((build config none).manyBatch call raws).Finishes net limit ts b) (hraw : raws[i]? = some raw) {f : Fault}
    (hf : b.slots[i]? = some (.ended (.error f))) : f = Dns.noTextFault ∨ f = MemoryCache.expiryFault := by
  rcases made_of_manyBatch h hraw with hs | ⟨w, ds, w', x, hmade, hs⟩
  · cases Option.some.inj (hf.symm.trans hs)
  · cases Option.some.inj (hf.symm.trans hs)
    have hstock : (call.world (build config none).world).cache.IsStock := trivial
    obtain ⟨hw, meanwhile, hmean, hruns⟩ := hmade.runs World.kept_isStock (fun i w => i.isStock_apply) hstock
    rcases hruns.check_course (Cache.IsStock.tame hnet hmean) hw with hcourse | ⟨o, ho, -⟩
    · exact hcourse.fault_eq.imp_left And.left
    · cases ho

/-- Every outcome of a call of a new checker is one that its item can have. -/
theorem concerns (hcall : call.KeepsResolvers)
    (h : ((build config none).manyBatch call raws).Finishes net limit ts b) (hraw : raws[i]? = some raw)
    (ho : (b.results fallback raws)[i]? = some o) : o.Concerns net config.resolvers raw := by
  rcases h.began hraw with hs | ⟨x, -, -, hs, -⟩
  · rw [Batch.getElem?_results hraw hs] at ho
    cases ho
    exact .skipped
  · rw [Batch.getElem?_results hraw hs] at ho
    cases ho
    cases x with
    | error f => exact .crashed fun hnet => fault_of_ended hnet h hraw hs
    | ok o =>
      obtain ⟨hdomain, (⟨domain, r, hr, blocked, rfl⟩ | rfl | rfl) | rfl⟩ := decides_of_ended hcall h hraw hs
      · obtain rfl : domain = normalize raw := hdomain
        exact .verdict hr blocked
      · exact .invalid
      · exact .exhausted
      · exact .cancelled

end Checker
end FilterWatch
