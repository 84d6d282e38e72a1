import FilterWatch.Check
import FilterWatch.Proofs.History

/-!
# Attempts at one resolver

What the attempts at a resolver do and come to, said on the list of replies that they bring. `attemptDeeds` is the
course of the attempts: one exchange for each reply, and a pause before each one that follows a failure. `Verdict` is
what makes them end in a verdict: a reply that blocks ends them, clear ones count only when all attempts are made.
Every run of the attempts takes that course (`Runs.attempts`), and either reaches a verdict or has failed every time.
-/

namespace FilterWatch

namespace Reply

def fails : Reply → Bool
  | failed _ | timedOut => true
  | _ => false

def Blocks (keyword : String) : Reply → Prop
  | message m _ => m.carries keyword = .ok true
  | _ => False

def Clears (keyword : String) : Reply → Prop
  | message m _ => m.carries keyword = .ok false
  | _ => False

end Reply

/-- The deeds of the attempts from number `attempt` on that bring these replies. `waits` says whether the attempt
before failed. -/
def attemptDeeds (server : String) (q : Dns.Query) : (attempt : Nat) → (waits : Bool) → List Reply → List Deed
  | _, _, [] => []
  | attempt, waits, reply :: rest =>
    (if waits then [.pause (backoff attempt) true] else []) ++
      .exchange server q reply :: attemptDeeds server q (attempt + 1) reply.fails rest

/-- What the replies to at most `most` attempts say of a block. -/
inductive Verdict (keyword : String) (most : Nat) : List Reply → Bool → Prop
  | blocked (earlier : List Reply) {last : Reply} (hlt : earlier.length < most)
      (hearlier : ∀ reply ∈ earlier, reply.fails ∨ reply.Clears keyword) (hlast : last.Blocks keyword) :
    Verdict keyword most (earlier ++ [last]) true
  | clear {replies : List Reply} (hlen : replies.length = most)
      (hall : ∀ reply ∈ replies, reply.fails ∨ reply.Clears keyword) (hsome : ∃ reply ∈ replies, reply.Clears keyword) :
    Verdict keyword most replies false

theorem Dns.Query.error_of_ofDomain {domain : String} {type : RecordType} {payload : UInt16} {e : CheckError}
    (h : Dns.Query.ofDomain domain type payload = .error e) : e = .invalidInput domain := by
  unfold Dns.Query.ofDomain at h
  dsimp only at h
  split at h
  · cases h
  · exact (Except.error.inj h).symm

theorem CheckError.isRetryable_ofIo (server : String) (e : IoError) : (CheckError.ofIo server e).isRetryable := by
  unfold CheckError.ofIo; split <;> rfl

namespace CheckPolicy
variable {p : CheckPolicy} {domain : String} {r : Resolver}

/-- What an attempt makes of a reply: it ends the attempts, or `left` more of them go on. -/
def afterReply (p : CheckPolicy) (domain : String) (r : Resolver) (attempt : Nat) (clear : Bool) (left : Nat) :
    Reply → Job (Except CheckError Outcome)
  | .message m _ =>
    match m.carries r.keyword with
    | .error f => .crash f
    | .ok true => .done (.ok (.verdict domain r.address true))
    | .ok false => p.attempts domain r (attempt + 1) true none left
  | .failed e => p.attempts domain r (attempt + 1) clear (some (.ofIo (withDefaultPort r.address) e)) left
  | .timedOut => p.attempts domain r (attempt + 1) clear (some (.timeout (withDefaultPort r.address))) left
  | .cancelled => .done (.error .cancelled)

/-- The exchange of an attempt, with what is made of its reply. -/
def exchangeOf (p : CheckPolicy) (domain : String) (r : Resolver) (q : Dns.Query) (attempt : Nat) (clear : Bool)
    (left : Nat) : Job (Except CheckError Outcome) :=
  .exchange p.prober.timeout (withDefaultPort r.address) q (p.afterReply domain r attempt clear left)

theorem probe_eq {q : Dns.Query} (hq : Dns.Query.ofDomain domain r.recordType p.prober.payload = .ok q) :
    p.prober.probe domain r = .exchange p.prober.timeout (withDefaultPort r.address) q fun reply =>
      .done ((Prober.verdict (withDefaultPort r.address) reply).map (·.1)) := by
  unfold Prober.probe Prober.ask
  rw [hq]; rfl

/-- The probe of an attempt and what is done with its result are the exchange of the attempt. -/
theorem bind_probe {q : Dns.Query} (hq : Dns.Query.ofDomain domain r.recordType p.prober.payload = .ok q)
    {attempt : Nat} {clear : Bool} {left : Nat} {f : Except CheckError Dns.Message → Job (Except CheckError Outcome)}
    (hok : ∀ m, f (.ok m) = (Job.ofExcept (m.carries r.keyword)).bind fun b =>
      if b then .done (.ok (.verdict domain r.address true)) else p.attempts domain r (attempt + 1) true none left)
    (herror : ∀ e, f (.error e) =
      if e.isRetryable then p.attempts domain r (attempt + 1) clear (some e) left else .done (.error e)) :
    (p.prober.probe domain r).bind f = p.exchangeOf domain r q attempt clear left := by
  rw [probe_eq hq]
  show Job.exchange _ _ _ _ = Job.exchange _ _ _ _
  congr 1; funext reply
  cases reply with
  | message m elapsed =>
    show f (.ok m) = p.afterReply domain r attempt clear left _
    rw [hok]
    simp only [afterReply]
    rcases m.carries r.keyword with f | _ | _ <;> rfl
  | failed e =>
    show f (.error (.ofIo (withDefaultPort r.address) e)) = _
    rw [herror, CheckError.isRetryable_ofIo]; rfl
  | timedOut => exact herror _
  | cancelled => exact herror _

theorem attempts_succ {q : Dns.Query} (hq : Dns.Query.ofDomain domain r.recordType p.prober.payload = .ok q)
    (attempt : Nat) (clear : Bool) (failure : Option CheckError) (left : Nat) :
    p.attempts domain r attempt clear failure (left + 1) =
      if failure.isSome then
        .pause (backoff attempt) fun passed =>
          if passed then p.exchangeOf domain r q attempt clear left else .done (.error .cancelled)
      else p.exchangeOf domain r q attempt clear left := by
  rw [attempts]
  cases failure with
  | none => exact bind_probe hq (fun _ => rfl) fun _ => rfl
  | some e =>
    show Job.pause _ _ = Job.pause _ _
    congr 1; funext passed
    cases passed with
    | false => rfl
    | true => exact bind_probe hq (fun _ => rfl) fun _ => rfl

theorem attempts_of_no_query {e : CheckError}
    (he : Dns.Query.ofDomain domain r.recordType p.prober.payload = .error e) (left : Nat) :
    p.attempts domain r 0 false none (left + 1) = .done (.error e) := by
  have hprobe : p.prober.probe domain r = .done (.error e) := by
    unfold Prober.probe Prober.ask
    rw [he]; rfl
  rw [attempts, hprobe]
  cases Dns.Query.error_of_ofDomain he
  rfl

end CheckPolicy

/-! ### The runs of the attempts -/

/-- What `left` attempts come to that bring these replies. `kept` says whether an attempt before brought a clear
answer, and `waits` whether the last one before failed. -/
inductive AttemptsEnd (domain : String) (r : Resolver) :
    (kept waits : Bool) → (left : Nat) → List Reply → Except CheckError Outcome → Prop
  | kept {waits} : AttemptsEnd domain r true waits 0 [] (.ok (.verdict domain r.address false))
  | exhausted {e : CheckError} (he : e.isRetryable) : AttemptsEnd domain r false true 0 [] (.error e)
  | blocks {kept waits left reply} (h : reply.Blocks r.keyword) :
    AttemptsEnd domain r kept waits (left + 1) [reply] (.ok (.verdict domain r.address true))
  | clears {kept waits left reply rest x} (h : reply.Clears r.keyword)
      (hrest : AttemptsEnd domain r true false left rest x) :
    AttemptsEnd domain r kept waits (left + 1) (reply :: rest) x
  | fails {kept waits left reply rest x} (h : reply.fails) (hrest : AttemptsEnd domain r kept true left rest x) :
    AttemptsEnd domain r kept waits (left + 1) (reply :: rest) x

namespace AttemptsEnd
variable {domain : String} {r : Resolver} {kept waits : Bool} {left : Nat} {replies : List Reply}

/-- Attempts end in a verdict on a blocking reply, or on a clear one when all of them are made. -/
theorem verdict {o : Outcome} (h : AttemptsEnd domain r kept waits left replies (.ok o)) :
    ∃ b, o = .verdict domain r.address b ∧ (Verdict r.keyword left replies b ∨
      b = false ∧ kept = true ∧ replies.length = left ∧ ∀ reply ∈ replies, reply.fails) := by
  generalize hx : Except.ok o = x at h
  induction h with
  | kept => cases hx; exact ⟨false, rfl, .inr ⟨rfl, rfl, rfl, by simp⟩⟩
  | exhausted => cases hx
  | blocks h => cases hx; exact ⟨true, rfl, .inl (.blocked [] (by simp) (by simp) h)⟩
  | @clears _ _ left reply rest _ h _ ih =>
    obtain ⟨b, ho, hv | ⟨rfl, -, hlen, hall⟩⟩ := ih hx
    · refine ⟨b, ho, .inl ?_⟩
      cases hv with
      | blocked earlier hlt he hb =>
        exact .blocked (reply :: earlier) (by simpa using hlt) (List.forall_mem_cons.mpr ⟨.inr h, he⟩) hb
      | clear hlen he hs =>
        exact .clear (by simp [hlen]) (List.forall_mem_cons.mpr ⟨.inr h, he⟩) ⟨reply, .head _, h⟩
    · exact ⟨false, ho, .inl (.clear (by simp [hlen])
        (List.forall_mem_cons.mpr ⟨.inr h, fun x hx => .inl (hall x hx)⟩) ⟨reply, .head _, h⟩)⟩
  | @fails _ _ left reply rest _ h _ ih =>
    obtain ⟨b, ho, hv | ⟨rfl, hk, hlen, hall⟩⟩ := ih hx
    · refine ⟨b, ho, .inl ?_⟩
      cases hv with
      | blocked earlier hlt he hb =>
        exact .blocked (reply :: earlier) (by simpa using hlt) (List.forall_mem_cons.mpr ⟨.inl h, he⟩) hb
      | clear hlen he hs =>
        obtain ⟨c, hc, hclear⟩ := hs
        exact .clear (by simp [hlen]) (List.forall_mem_cons.mpr ⟨.inl h, he⟩) ⟨c, .tail _ hc, hclear⟩
    · exact ⟨false, ho, .inr ⟨rfl, hk, by simp [hlen], List.forall_mem_cons.mpr ⟨h, hall⟩⟩⟩

/-- Attempts end in an error when each of them has failed, and then another resolver may be tried. -/
theorem all_fail {e : CheckError} (h : AttemptsEnd domain r kept waits left replies (.error e)) :
    e.isRetryable ∧ kept = false ∧ replies.length = left ∧ ∀ reply ∈ replies, reply.fails := by
  generalize hx : Except.error e = x at h
  induction h with
  | kept | blocks => cases hx
  | exhausted he => cases hx; exact ⟨he, rfl, rfl, by simp⟩
  | clears _ _ ih => exact absurd (ih hx).2.1 (by simp)
  | fails h _ ih =>
    obtain ⟨he, hk, hlen, hall⟩ := ih hx
    exact ⟨he, hk, by simp [hlen], List.forall_mem_cons.mpr ⟨h, hall⟩⟩

end AttemptsEnd

namespace Job.Runs
variable {net : Network} {meanwhile : World → World → Prop} {p : CheckPolicy} {domain : String} {r : Resolver}
  {w w' : World} {ds : List Deed} {x : Except CheckError Outcome}

theorem exchangeOf {q : Dns.Query} {attempt left : Nat} {kept waits : Bool}
    (h : (p.exchangeOf domain r q attempt kept left).Runs net meanwhile w ds w' (.ok x))
    (hcalm : ∀ d ∈ ds, d.isCalm)
    (hnext : ∀ {w₂ ds kept} {failure : Option CheckError},
      (p.attempts domain r (attempt + 1) kept failure left).Runs net meanwhile w₂ ds w' (.ok x) →
      (∀ d ∈ ds, d.isCalm) → (∀ e ∈ failure, e.isRetryable) → (left = 0 → kept ∨ failure.isSome) →
      ∃ rest, ds = attemptDeeds (withDefaultPort r.address) q (attempt + 1) failure.isSome rest ∧
        AttemptsEnd domain r kept failure.isSome left rest x) :
    ∃ reply rest, ds = .exchange (withDefaultPort r.address) q reply ::
        attemptDeeds (withDefaultPort r.address) q (attempt + 1) reply.fails rest ∧
      AttemptsEnd domain r kept waits (left + 1) (reply :: rest) x := by
  unfold CheckPolicy.exchangeOf at h
  cases h with
  | @exchange _ _ _ _ _ _ _ _ reply _ ds _ _ _ _ _ _ _ h =>
    obtain ⟨hreply, htail⟩ := List.forall_mem_cons.mp hcalm
    cases reply with
    | message m elapsed =>
      simp only [CheckPolicy.afterReply] at h
      cases hm : m.carries r.keyword with
      | error f => rw [hm] at h; cases h
      | ok b =>
        rw [hm] at h
        cases b with
        | true => cases h; exact ⟨_, [], rfl, .blocks hm⟩
        | false =>
          obtain ⟨rest, rfl, hend⟩ := hnext h htail (by simp) (fun _ => .inl rfl)
          exact ⟨_, rest, rfl, .clears hm hend⟩
    | failed e =>
      obtain ⟨rest, rfl, hend⟩ := hnext h htail (by simp [CheckError.isRetryable_ofIo]) (by simp)
      exact ⟨_, rest, rfl, .fails rfl hend⟩
    | timedOut =>
      obtain ⟨rest, rfl, hend⟩ := hnext h htail (by simp [CheckError.isRetryable]) (by simp)
      exact ⟨_, rest, rfl, .fails rfl hend⟩
    | cancelled => cases hreply
  | exchangeAborted => cases (List.forall_mem_cons.mp hcalm).1
  | withheld => cases (List.forall_mem_cons.mp hcalm).1

/-- Without cancellation, attempts take the course of the replies that they bring. -/
theorem attempts {q : Dns.Query} (hq : Dns.Query.ofDomain domain r.recordType p.prober.payload = .ok q)
    {attempt : Nat} {kept : Bool} {failure : Option CheckError} {left : Nat}
    (h : (p.attempts domain r attempt kept failure left).Runs net meanwhile w ds w' (.ok x))
    (hcalm : ∀ d ∈ ds, d.isCalm) (hfail : ∀ e ∈ failure, e.isRetryable)
    (hsome : left = 0 → kept ∨ failure.isSome) :
    ∃ replies, ds = attemptDeeds (withDefaultPort r.address) q attempt failure.isSome replies ∧
      AttemptsEnd domain r kept failure.isSome left replies x := by
  induction left generalizing attempt kept failure w ds with
  | zero =>
    cases h
    refine ⟨[], rfl, ?_⟩
    cases kept with
    | true => exact .kept
    | false =>
      obtain ⟨e, rfl⟩ := Option.isSome_iff_exists.mp ((hsome rfl).resolve_left (by simp))
      exact .exhausted (hfail e rfl)
  | succ left ih =>
    rw [CheckPolicy.attempts_succ hq] at h
    cases failure with
    | none =>
      obtain ⟨reply, rest, rfl, hend⟩ := exchangeOf h hcalm ih
      exact ⟨reply :: rest, rfl, hend⟩
    | some e =>
      cases h with
      | pause _ _ _ h =>
        obtain ⟨reply, rest, rfl, hend⟩ := exchangeOf h (List.forall_mem_cons.mp hcalm).2 ih
        exact ⟨reply :: rest, rfl, hend⟩
      | pauseAborted => cases (List.forall_mem_cons.mp hcalm).1

end Job.Runs
end FilterWatch
