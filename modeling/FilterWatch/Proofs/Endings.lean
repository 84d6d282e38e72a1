import FilterWatch.Proofs.Traces

/-!
# How checks end

The traces of a check, and what follows for its entries in the journal of a schedule. A check looks for its verdict in
the cache, or it asks for it, and then it ends with the entry that tells the cache; a check that ends in any other way
tells the cache nothing (`CheckPolicy.Ends`).
-/

namespace FilterWatch
namespace CheckPolicy

/-- How a check of a domain against a list ends, by what it has left in the journal: with what a read of the cache
brought, or with telling the cache a verdict that it has asked for, or without one. -/
inductive Ends (p : CheckPolicy) (domain : String) (rs : List Resolver) (R : Cache.Replies) :
    List Happening → Except Fault Outcome → Prop
  | hit {hs r found o} (hvalid : isValidDomain domain) (hr : r ∈ rs) (hnone : ∀ h ∈ hs, h.isStore = false)
      (hhit : R.brings (cacheKey domain r) o) :
    Ends p domain rs R (hs ++ [.lookup (cacheKey domain r) found]) (.ok o)
  | stored {hs r b q x} (hvalid : isValidDomain domain) (hr : r ∈ rs) (hnone : ∀ h ∈ hs, h.isStore = false)
      (hq : Dns.Query.ofDomain domain r.recordType p.prober.payload = .ok q)
      (hasked : .exchange (withDefaultPort r.address) q ∈ hs) (hx : x = .ok (.verdict domain r.address b) ∨
        ∃ f, x = .error f ∧ R.refuses (cacheKey domain r) (.verdict domain r.address b) f) :
    Ends p domain rs R (hs ++ [.store (cacheKey domain r) (.verdict domain r.address b)]) x
  | failed {hs x} (hnone : ∀ h ∈ hs, h.isStore = false) (hx : ∀ o, x = .ok o → ∃ e, o = .failed domain e) :
    Ends p domain rs R hs x

variable {p : CheckPolicy} {domain raw : String} {r : Resolver} {rs : List Resolver} {R : Cache.Replies}
  {hs front : List Happening} {x : Except Fault Outcome} {q : Dns.Query}

theorem Ends.after (hfront : ∀ h ∈ front, h.isStore = false) (h : Ends p domain rs R hs x) :
    Ends p domain (r :: rs) R (front ++ hs) x := by
  have happend : ∀ {hs : List Happening}, (∀ h ∈ hs, h.isStore = false) → ∀ h ∈ front ++ hs, h.isStore = false :=
    fun hnone => List.forall_mem_append.mpr ⟨hfront, hnone⟩
  cases h with
  | hit hvalid hr hnone hhit =>
    rw [← List.append_assoc]
    exact .hit hvalid (.tail _ hr) (happend hnone) hhit
  | stored hvalid hr hnone hq hasked hx =>
    rw [← List.append_assoc]
    exact .stored hvalid (.tail _ hr) (happend hnone) hq (List.mem_append_right _ hasked) hx
  | failed hnone hx => exact .failed (happend hnone) hx

/-- What attempts at a resolver leave and what they come to: messages only, and no verdict unless there was a clear
answer before or the query was sent. -/
structure Attempted (domain : String) (r : Resolver) (q : Dns.Query) (clear : Bool) (hs : List Happening)
    (x : Except Fault (Except CheckError Outcome)) : Prop where
  messages : ∀ h ∈ hs, h.isMessage
  verdict : ∀ o, x = .ok (.ok o) → ∃ b, o = .verdict domain r.address b
  asked : ∀ o, x = .ok (.ok o) → clear ∨ .exchange (withDefaultPort r.address) q ∈ hs

section
variable {clear clear' : Bool} {attempt left : Nat} {y : Except Fault (Except CheckError Outcome)}

theorem Attempted.of_error (hmessages : ∀ h ∈ hs, h.isMessage) (hy : ∀ o, y ≠ .ok (.ok o)) :
    Attempted domain r q clear hs y :=
  ⟨hmessages, fun o ho => absurd ho (hy o), fun o ho => absurd ho (hy o)⟩

/-- Once the query was sent, a clear answer before it does not matter any more. -/
theorem Attempted.sent (h : Attempted domain r q clear hs y) (front : List Happening)
    (hfront : ∀ h ∈ front, h.isMessage) (hmem : .exchange (withDefaultPort r.address) q ∈ front) :
    Attempted domain r q clear' (front ++ hs) y :=
  ⟨List.forall_mem_append.mpr ⟨hfront, h.messages⟩, h.verdict, fun _ _ => .inr (List.mem_append_left _ hmem)⟩

theorem exchangeOf_attempted
    (hleft : ∀ {attempt clear failure hs y}, (p.attempts domain r attempt clear failure left).Trace R hs y →
      Attempted domain r q clear hs y)
    (h : (p.exchangeOf domain r q attempt clear left).Trace R hs y) : Attempted domain r q clear hs y := by
  cases h with
  | withheld h =>
    cases h
    exact .of_error (by simp) (by simp)
  | @answered _ _ _ _ m elapsed hs y h =>
    simp only [afterReply] at h
    rcases hm : m.carries r.keyword with f | _ | _ <;> rw [hm] at h
    · cases h
      exact .of_error (by simp [Happening.isMessage]) (by simp)
    · exact (hleft h).sent [_, _] (by simp [Happening.isMessage]) (by simp)
    · cases h
      exact ⟨by simp [Happening.isMessage], fun o ho => ⟨true, (Except.ok.inj (Except.ok.inj ho)).symm⟩, by simp⟩
  | @unanswered _ _ _ _ reply hs y hreply h =>
    cases reply with
    | message m elapsed => exact absurd rfl (hreply m elapsed)
    | failed | timedOut => exact (hleft h).sent [_] (by simp [Happening.isMessage]) (by simp)
    | cancelled =>
      cases h
      exact .of_error (by simp [Happening.isMessage]) (by simp)
  | exchangeCrash => exact .of_error (by simp [Happening.isMessage]) (by simp)

theorem attempts_attempted {failure : Option CheckError}
    (hq : Dns.Query.ofDomain domain r.recordType p.prober.payload = .ok q)
    (h : (p.attempts domain r attempt clear failure left).Trace R hs y) : Attempted domain r q clear hs y := by
  induction left generalizing attempt clear failure hs y with
  | zero =>
    cases h
    cases clear with
    | true => exact ⟨by simp, fun o ho => ⟨false, (Except.ok.inj (Except.ok.inj ho)).symm⟩, fun _ _ => .inl rfl⟩
    | false => exact .of_error (by simp) (by simp [afterAttempts])
  | succ left ih =>
    rw [attempts_succ hq] at h
    cases failure with
    | none => exact exchangeOf_attempted ih h
    | some e =>
      cases h with
      | @pause _ _ passed _ _ h =>
        cases passed with
        | true => exact exchangeOf_attempted ih h
        | false =>
          cases h
          exact .of_error (by simp) (by simp)

theorem attempts_attempted_first (h : (p.attempts domain r 0 false none (left + 1)).Trace R hs y) :
    (∀ h ∈ hs, h.isMessage) ∧ ∀ o, y = .ok (.ok o) → ∃ b q, o = .verdict domain r.address b ∧
      Dns.Query.ofDomain domain r.recordType p.prober.payload = .ok q ∧
      .exchange (withDefaultPort r.address) q ∈ hs := by
  cases hq : Dns.Query.ofDomain domain r.recordType p.prober.payload with
  | ok q =>
    have hattempted := attempts_attempted hq h
    refine ⟨hattempted.messages, fun o ho => ?_⟩
    obtain ⟨b, rfl⟩ := hattempted.verdict o ho
    exact ⟨b, q, rfl, rfl, (hattempted.asked _ ho).resolve_left Bool.false_ne_true⟩
  | error e =>
    rw [attempts_of_no_query hq] at h
    cases h
    exact ⟨by simp, by simp⟩

end

theorem fail_ends {e : CheckError} (h : (fail domain e).Trace R hs x) : Ends p domain rs R hs x := by
  cases h with
  | count h =>
    cases h
    exact .failed (by simp) fun o ho => ⟨e, (Except.ok.inj ho).symm⟩

theorem against_ends (hvalid : isValidDomain domain) (h : (p.against domain rs).Trace R hs x) :
    Ends p domain rs R hs x := by
  induction rs generalizing hs with
  | nil => exact fail_ends h
  | cons r rest ih =>
    rw [against_cons] at h
    cases h with
    | @hit _ _ found o _ _ hhit h =>
      cases h with
      | count h =>
        cases h
        have hend : Ends p domain (r :: rest) R ([] ++ [.lookup (cacheKey domain r) found]) (.ok o) :=
          .hit hvalid (.head _) (by simp) hhit
        exact hend
    | @miss _ _ found hs _ h =>
      rcases h.splits with ⟨y, hs₁, hs₂, h₁, h₂, rfl⟩ | ⟨f, h₁, rfl⟩
      · obtain ⟨hmessages, hverdict⟩ := attempts_attempted_first h₁
        have hnone : ∀ h ∈ .lookup (cacheKey domain r) found :: hs₁, h.isStore = false :=
          List.forall_mem_cons.mpr ⟨rfl, fun h hh => Happening.isStore_of_isMessage (hmessages h hh)⟩
        rw [← List.cons_append]
        cases y with
        | ok o =>
          obtain ⟨b, q, rfl, hq, hasked⟩ := hverdict o rfl
          cases h₂ with
          | store h₂ =>
            cases h₂ with
            | count h₂ =>
              cases h₂
              exact .stored hvalid (.head _) hnone hq (.tail _ hasked) (.inl rfl)
          | storeCrash hcrash => exact .stored hvalid (.head _) hnone hq (.tail _ hasked) (.inr ⟨_, rfl, hcrash⟩)
        | error e =>
          simp only [afterAttemptsAt] at h₂
          split at h₂
          · exact (ih h₂).after hnone
          · have hend : Ends p domain rest R _ x := fail_ends h₂
            exact hend.after hnone
      · have hmessages := (attempts_attempted_first h₁).1
        refine .failed (List.forall_mem_cons.mpr ⟨rfl, fun h hh => ?_⟩) (by simp)
        exact Happening.isStore_of_isMessage (hmessages h hh)
    | lookupCrash => exact .failed (by simp [Happening.isStore]) (by simp)

end CheckPolicy

/-- The job when it has been given the resolvers that it asks for first. -/
def Job.given {α : Type} (rs : List Resolver) : Job α → Job α
  | .resolvers next => next rs
  | job => job

theorem Slot.Advances.given {α : Type} {net : Network} {w w' : World} {job : Job α} {s : Slot α}
    (h : Slot.Advances net w job w' s) : Slot.Advances net w (job.given w.registry.resolvers) w' s := by
  cases job with
  | resolvers next =>
    cases h with
    | resolvers h => exact h
  | done | crash | lookup | store | count | exchange | pause | sleep => exact h

theorem CheckPolicy.check_ends {p : CheckPolicy} {raw : String} {rs : List Resolver} {R : Cache.Replies}
    {hs : List Happening} {x : Except Fault Outcome} (h : ((p.check raw).given rs).Trace R hs x) :
    Ends p (normalize raw) rs R hs x := by
  cases hv : isValidDomain (normalize raw) with
  | true =>
    rw [check_of_valid hv] at h
    exact against_ends hv h
  | false =>
    rw [check_of_invalid hv] at h
    exact fail_ends h

end FilterWatch
