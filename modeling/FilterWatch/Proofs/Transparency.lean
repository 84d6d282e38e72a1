import FilterWatch.Proofs.Addresses
import FilterWatch.Proofs.Settled
import FilterWatch.Session

/-!
# Caching is transparent

With a stationary network and keywords without colons, a session has the answers of `Operation.answer`, which knows
the resolvers and the network and no cache (`Steady.serve`). This holds of a checker without a cache and of one with
the built-in cache alike, so their sessions have equal answers, however the entries expire and whenever the cache is
flushed.
-/

namespace FilterWatch

namespace Operation

def incoming : Operation → List Resolver
  | upsert rs => rs
  | _ => []

def resolversAfter (rs : List Resolver) : Operation → List Resolver
  | upsert incoming => Registry.placeAll rs incoming
  | delete addresses => rs.filter (!addresses.contains ·.address)
  | _ => rs

/-- The answer to an operation when every check has its settled outcome. -/
def answer (p : CheckPolicy) (net : Network) (rs : List Resolver) : Operation → Answer
  | checkOne domain => .one <|
    if rs.isEmpty then .error (.error .noResolversConfigured)
    else (p.settledCheck net rs domain).mapError .crash
  | checkMany domains => .many <|
    if rs.isEmpty then .error .noResolversConfigured
    else .ok (domains.map fun d => (Slot.ended (p.settledCheck net rs d)).result (Checker.fallback d))
  | _ => .done

/-- The answers to operations one after the other. -/
def answers (p : CheckPolicy) (net : Network) : List Resolver → List Operation → List Answer
  | _, [] => []
  | rs, op :: rest => op.answer p net rs :: answers p net (op.resolversAfter rs) rest

end Operation

def Step.IsQuiet (s : Step) : Prop := s.call.IsQuiet

def Step.elapsed (s : Step) : Nat :=
  match s.op with
  | .elapse d => d.nanos
  | .checkOne _ | .checkMany _ => s.call.elapsed
  | _ => 0

def NoColons (rs : List Resolver) : Prop := ∀ r ∈ rs, ':' ∉ r.keyword.toList

theorem NoColons.placeAll {rs incoming : List Resolver} (h : NoColons rs) (hin : NoColons incoming) :
    NoColons (Registry.placeAll rs incoming) := by
  unfold Registry.placeAll
  induction incoming generalizing rs with
  | nil => exact h
  | cons r rest ih =>
    obtain ⟨hr, hrest⟩ := List.forall_mem_cons.mp hin
    refine ih (fun x hx => ?_) hrest
    rcases Registry.mem_place hx with rfl | hx
    · exact hr
    · exact h x hx

theorem NoColons.resolversAfter {rs : List Resolver} {op : Operation} (h : NoColons rs)
    (hin : NoColons op.incoming) : NoColons (op.resolversAfter rs) := by
  cases op with
  | upsert incoming => exact h.placeAll hin
  | delete addresses => exact fun r hr => h r (List.mem_filter.mp hr).1
  | checkOne | checkMany | flush | elapse => exact h

/-- A checker whose surroundings are steady, with these resolvers, and whose cache keeps settled verdicts. -/
structure Checker.Steady (p : CheckPolicy) (net : Network) (rs : List Resolver) (room : Nat) (c : Checker) :
    Prop where
  policy : c.policy = p
  world : c.world.Steady (p.IsSettled net) rs room

namespace Checker
variable {p : CheckPolicy} {net : Network} {rs : List Resolver} {room : Nat} {c : Checker}

theorem isEmpty_eq (h : c.resolvers = rs) : c.world.registry.isEmpty = rs.isEmpty := by
  rw [Registry.isEmpty, ← h]
  rfl

theorem Steady.of_world {w : World} (hw : w.Steady (c.policy.IsSettled net) rs room) :
    ({ c with world := w } : Checker).Steady c.policy net rs room :=
  ⟨rfl, hw⟩

theorem Steady.checkOne (hnet : net.Stationary p.prober.timeout) (hk : NoColons rs) {call : Call}
    (hcall : call.IsQuiet) (domain : String) (hc : c.Steady p net rs (call.elapsed + room)) :
    (c.checkOne net call domain).1.Steady p net rs room ∧
      Answer.one (c.checkOne net call domain).2 = (Operation.checkOne domain).answer p net rs := by
  obtain ⟨rfl, hw⟩ := hc
  have hempty : c.world.registry.isEmpty = rs.isEmpty := isEmpty_eq hw.resolvers
  obtain ⟨hend, hres⟩ := runCall_steady (CheckPolicy.check_yields hnet hk domain) hcall hw
  cases hrs : rs.isEmpty with
  | true =>
    have heq : c.checkOne net call domain = (c, .error (.error .noResolversConfigured)) := by
      simp only [Checker.checkOne, hempty, hrs, if_true]
    rw [heq]
    exact ⟨⟨rfl, hw.mono (Nat.le_add_left _ _)⟩, by simp only [Operation.answer, hrs, if_true]⟩
  | false =>
    have heq : c.checkOne net call domain = ({ c with world := (runCall net call (c.policy.check domain) c.world).1 },
        (runCall net call (c.policy.check domain) c.world).2.mapError .crash) := by
      simp only [Checker.checkOne, hempty, hrs, Bool.false_eq_true, if_false]
    rw [heq, hres]
    exact ⟨.of_world hend, by simp only [Operation.answer, hrs, Bool.false_eq_true, if_false]⟩

theorem Steady.checkMany (hnet : net.Stationary p.prober.timeout) (hk : NoColons rs) {call : Call}
    (hcall : call.IsQuiet) (domains : List String) (hc : c.Steady p net rs (call.elapsed + room)) :
    (c.checkMany net call domains).1.Steady p net rs room ∧
      Answer.many (c.checkMany net call domains).2 = (Operation.checkMany domains).answer p net rs := by
  obtain ⟨rfl, hw⟩ := hc
  have hempty : c.world.registry.isEmpty = rs.isEmpty := isEmpty_eq hw.resolvers
  obtain ⟨hend, hres⟩ :=
    dispatch_steady (CheckPolicy.check_yields hnet hk) hcall c.concurrency fallback domains hw
  cases hrs : rs.isEmpty with
  | true =>
    have heq : c.checkMany net call domains = (c, .error .noResolversConfigured) := by
      simp only [Checker.checkMany, hempty, hrs, if_true]
    rw [heq]
    exact ⟨⟨rfl, hw.mono (Nat.le_add_left _ _)⟩, by simp only [Operation.answer, hrs, if_true]⟩
  | false =>
    have heq : c.checkMany net call domains = ({ c with world := (dispatch net c.concurrency
        (call.agendaFrom c.world) c.policy.check fallback domains (call.world c.world)).1 }, .ok (dispatch net
          c.concurrency (call.agendaFrom c.world) c.policy.check fallback domains (call.world c.world)).2) := by
      simp only [Checker.checkMany, hempty, hrs, Bool.false_eq_true, if_false]
    rw [heq, hres]
    exact ⟨.of_world hend, by simp only [Operation.answer, hrs, Bool.false_eq_true, if_false]⟩

theorem Steady.perform (hnet : net.Stationary p.prober.timeout) (hk : NoColons rs) {s : Step} (hs : s.IsQuiet)
    (hc : c.Steady p net rs (s.elapsed + room)) :
    (c.perform net s).1.Steady p net (s.op.resolversAfter rs) room ∧ (c.perform net s).2 = s.op.answer p net rs := by
  obtain ⟨op, call⟩ := s
  cases op with
  | checkOne domain => exact hc.checkOne hnet hk hs domain
  | checkMany domains => exact hc.checkMany hnet hk hs domains
  | upsert incoming =>
    have hw := hc.world.mono (Nat.le_add_left room _)
    refine ⟨⟨hc.policy, hw.calm, ?_, hw.cache⟩, rfl⟩
    exact (Registry.resolvers_upsert _ _).trans (by rw [hw.resolvers]; rfl)
  | delete addresses =>
    have hw := hc.world.mono (Nat.le_add_left room _)
    refine ⟨⟨hc.policy, hw.calm, ?_, hw.cache⟩, rfl⟩
    exact (Registry.resolvers_delete _ _).trans (by rw [hw.resolvers]; rfl)
  | flush => exact ⟨⟨hc.policy, World.Steady.apply (i := .flush) trivial hc.world⟩, rfl⟩
  | elapse d => exact ⟨⟨hc.policy, World.Steady.apply (i := .elapse d) trivial hc.world⟩, rfl⟩

theorem Steady.serve (hnet : net.Stationary p.prober.timeout) {steps : List Step} (hk : NoColons rs)
    (hquiet : ∀ s ∈ steps, s.IsQuiet) (hin : ∀ s ∈ steps, NoColons s.op.incoming)
    (hc : c.Steady p net rs ((steps.map Step.elapsed).sum + room)) :
    c.serve net steps = Operation.answers p net rs (steps.map (·.op)) := by
  induction steps generalizing c rs with
  | nil => rfl
  | cons s rest ih =>
    obtain ⟨hs, hrest⟩ := List.forall_mem_cons.mp hquiet
    obtain ⟨his, hirest⟩ := List.forall_mem_cons.mp hin
    rw [List.map_cons, List.sum_cons, Nat.add_assoc] at hc
    obtain ⟨hc', hanswer⟩ := hc.perform hnet hk hs
    rw [Checker.serve, hanswer, ih (hk.resolversAfter his) hrest hirest hc']
    rfl

/-- A checker without a cache and one with the built-in cache give the same answers in the same session, when what comes
of an exchange depends on the server and the question only and no keyword has a colon. -/
theorem serve_off_eq_serve_memory (net : Network) (config : Config) (ttl : Duration) (steps steps' : List Step)
    (hnet : net.Stationary config.normalized.timeout) (hops : steps.map (·.op) = steps'.map (·.op))
    (hquiet : ∀ s ∈ steps, s.IsQuiet) (hquiet' : ∀ s ∈ steps', s.IsQuiet) (hk : NoColons config.resolvers)
    (hin : ∀ op ∈ steps.map (·.op), NoColons op.incoming)
    (htime : (steps'.map Step.elapsed).sum + ttl.nanos < MemoryCache.endOfTime) :
    (Checker.build config (some .off)).serve net steps =
      (Checker.build config (some (.memory { ttl }))).serve net steps' := by
  have hoff : (Checker.build config (some .off)).Steady (Checker.build config none).policy net config.resolvers
      ((steps.map Step.elapsed).sum + 0) := ⟨rfl, rfl, rfl, trivial⟩
  have hmemory : (Checker.build config (some (.memory { ttl }))).Steady (Checker.build config none).policy net
      config.resolvers ((steps'.map Step.elapsed).sum + 0) := by
    refine ⟨rfl, rfl, rfl, rfl, ?_, ?_⟩
    · show 0 + (_ + 0) + ttl.nanos < _
      omega
    · intro key e hf
      cases hf
  have hin' : ∀ s ∈ steps', NoColons s.op.incoming := fun s hs => hin s.op (hops ▸ List.mem_map_of_mem hs)
  rw [hoff.serve hnet hk hquiet (fun s hs => hin s.op (List.mem_map_of_mem hs)), hops,
    hmemory.serve hnet hk hquiet' hin']

end Checker

theorem Checker.serve_off_eq_serve_memory_failover :
    let config := { Config.default with resolvers := [⟨"10.0.0.1", "block", .a⟩, ⟨"10.0.0.2", "block", .a⟩] }
    let before : List Operation := [.checkOne "example.com", .elapse (.ofSeconds 10), .checkMany ["Example.com", "x"]]
    let after : List Operation := [.upsert [⟨"10.0.0.3", "other", .txt⟩], .delete ["10.0.0.1"], .flush,
      .checkOne "example.com"]
    (Checker.build config (some .off)).serve (.failing "10.0.0.1:53") ((before ++ after).map (⟨·, {}⟩)) =
      (Checker.build config (some (.memory { ttl := .ofSeconds 11 }))).serve (.failing "10.0.0.1:53")
        ((before ++ after).map (⟨·, { agenda := [⟨5, .elapse (.ofSeconds 2)⟩] }⟩)) := by
  intro config before after
  refine serve_off_eq_serve_memory _ config (.ofSeconds 11) _ _ (Network.stationary_failing _ _) rfl ?_ ?_ ?_ ?_ ?_
  · rw [List.forall_mem_map]
    exact fun op _ => ⟨rfl, by simp⟩
  · rw [List.forall_mem_map]
    refine fun op _ => ⟨rfl, fun e he => ?_⟩
    rw [List.mem_singleton.mp he]
    trivial
  · simp [config, NoColons]
  · simp [before, after, NoColons, Operation.incoming]
  · decide

end FilterWatch
