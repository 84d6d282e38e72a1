import FilterWatch.Proofs.Placing
import Mathlib.Data.List.Pairwise

/-!
# Changes in any order

Changes that name different addresses come to the same in every order but for the places of the new resolvers. They
amount to one deletion of all the addresses that any of them deletes, followed by one upsert of all that they bring
(`resolvers_after`); and of the resolvers that an upsert brings only the last one of each address counts, which is that
of the one change that names the address (`lastOf_flatMap`).
-/

namespace FilterWatch.Registry

section
variable {rs incoming incoming' : List Resolver} {r : Resolver} {a : String} {addresses : List String}

theorem without_place (addresses : List String) (r : Resolver) (rs : List Resolver) : without addresses (place r rs) =
    if r.address ∈ addresses then without addresses rs else place r (without addresses rs) := by
  induction rs with
  | nil =>
    split
    case isTrue h => exact without_cons_of_mem h
    case isFalse h => exact without_cons_of_notMem h
  | cons x rs ih =>
    rw [place]
    by_cases hx : x.address = r.address
    · rw [if_pos hx]
      split
      case isTrue h => rw [without_cons_of_mem h, without_cons_of_mem (hx ▸ h)]
      case isFalse h => rw [without_cons_of_notMem h, without_cons_of_notMem (hx ▸ h), place, if_pos hx]
    · rw [if_neg hx]
      by_cases hdel : x.address ∈ addresses
      · rw [without_cons_of_mem hdel, without_cons_of_mem hdel, ih]
      · rw [without_cons_of_notMem hdel, without_cons_of_notMem hdel, ih, place, if_neg hx]
        split <;> rfl

/-- It makes no difference whether resolvers are left out before or after the upsert. -/
theorem without_placeAll (addresses : List String) (rs incoming : List Resolver) :
    without addresses (placeAll rs incoming) = placeAll (without addresses rs) (without addresses incoming) := by
  induction incoming generalizing rs with
  | nil => rfl
  | cons r incoming ih =>
    show without addresses (placeAll (place r rs) incoming) = _
    rw [ih, without_place]
    split
    case isTrue h => rw [without_cons_of_mem h]
    case isFalse h =>
      rw [without_cons_of_notMem h]
      rfl

theorem placeAll_append (rs front back : List Resolver) :
    placeAll rs (front ++ back) = placeAll (placeAll rs front) back :=
  List.foldl_append

/-- Nothing changes where the first entry of each address is already the last resolver that comes with it. -/
theorem placeAll_eq_self (h : ∀ a r, lastOf a incoming = some r → (entriesOf a rs).head? = some r) :
    placeAll rs incoming = rs := by
  induction rs generalizing incoming with
  | nil =>
    cases incoming with
    | nil => rfl
    | cons r incoming => cases h _ _ (lastOf_cons_self rfl)
  | cons x rs ih =>
    rw [placeAll_cons]
    congr 1
    · cases hlast : lastOf x.address incoming with
      | none => rfl
      | some r =>
        have hhead := h _ _ hlast
        rw [entriesOf_cons_self rfl] at hhead
        exact (Option.some.inj hhead).symm
    · refine ih fun a r hlast => ?_
      rw [lastOf_without] at hlast
      split at hlast
      case isTrue => cases hlast
      case isFalse ha => rw [← h a r hlast, entriesOf_cons_of_ne (by simpa [eq_comm] using ha)]

theorem mem_placeAll_of_lastOf (h : lastOf a incoming = some r) : r ∈ placeAll rs incoming := by
  have hentries : r ∈ entriesOf a (placeAll rs incoming) := by
    rw [entriesOf_placeAll, h]
    exact .head _
  exact (List.mem_filter.mp hentries).1

/-! ### Only the last resolver of each address counts -/

theorem take_placeAll_congr (h : ∀ a, lastOf a incoming = lastOf a incoming') :
    (placeAll rs incoming).take rs.length = (placeAll rs incoming').take rs.length := by
  rw [take_placeAll, take_placeAll]
  refine List.ext_getElem? fun i => ?_
  rw [getElem?_refreshed, getElem?_refreshed]
  simp only [h]

theorem nodup_placeAll_nil (incoming : List Resolver) : (placeAll [] incoming).Nodup :=
  (nodup_addresses.mpr fun a => tail_entriesOf_placeAll a [] incoming).of_map _

theorem placeAll_perm (h : ∀ a, lastOf a incoming = lastOf a incoming') :
    (placeAll rs incoming).Perm (placeAll rs incoming') := by
  have hdrop : ((placeAll rs incoming).drop rs.length).Perm ((placeAll rs incoming').drop rs.length) := by
    rw [drop_placeAll, drop_placeAll, List.perm_ext_iff_of_nodup (nodup_placeAll_nil _) (nodup_placeAll_nil _)]
    intro r
    rw [mem_placeAll_nil, mem_placeAll_nil, lastOf_without, lastOf_without, h]
  rw [← List.take_append_drop rs.length (placeAll rs incoming),
    ← List.take_append_drop rs.length (placeAll rs incoming'), take_placeAll_congr h]
  exact hdrop.append_left _

end

/-! ### Changes that name different addresses -/

namespace Change

def incoming : Change → List Resolver
  | upsert incoming => incoming
  | delete _ => []

def doomed : Change → List String
  | upsert _ => []
  | delete addresses => addresses

def addresses (change : Change) : List String := change.incoming.map (·.address) ++ change.doomed

def Apart (c d : Change) : Prop := c.addresses.Disjoint d.addresses

instance : Std.Symm Apart := ⟨fun _ _ => List.disjoint_symm⟩

instance (c d : Change) : Decidable (c.Apart d) :=
  inferInstanceAs (Decidable (∀ a ∈ c.addresses, a ∉ d.addresses))

theorem mem_addresses_of_mem {c : Change} {r : Resolver} (h : r ∈ c.incoming) : r.address ∈ c.addresses :=
  List.mem_append_left _ (List.mem_map_of_mem h)

theorem mem_addresses_of_doomed {c : Change} {a : String} (h : a ∈ c.doomed) : a ∈ c.addresses :=
  List.mem_append_right _ h

theorem mem_addresses_of_lastOf {c : Change} {a : String} {r : Resolver} (h : lastOf a c.incoming = some r) :
    a ∈ c.addresses := by
  obtain ⟨hr, rfl⟩ := mem_of_lastOf h
  exact mem_addresses_of_mem hr

end Change

theorem resolvers_apply (reg : Registry) (change : Change) :
    (reg.apply change).resolvers = placeAll (without change.doomed reg.resolvers) change.incoming := by
  cases change with
  | upsert incoming => exact (resolvers_upsert reg incoming).trans (by rw [Change.doomed, without_nil]; rfl)
  | delete addresses => exact resolvers_delete reg addresses

/-- The entries whose addresses the changes do not delete. -/
def survivors (changes : List Change) (rs : List Resolver) : List Resolver :=
  without (changes.flatMap Change.doomed) rs

section
variable {changes changes' : List Change} {c d : Change}
  {r : Resolver} {a : String} {addresses : List String}

theorem eq_of_mem_addresses (h : changes.Pairwise Change.Apart) (hc : c ∈ changes) (hd : d ∈ changes)
    (hac : a ∈ c.addresses) (had : a ∈ d.addresses) : c = d := by
  by_contra hne
  have hapart : c.Apart d := h.forall hc hd hne
  exact hapart hac had

theorem resolvers_after (reg : Registry) (h : changes.Pairwise Change.Apart) : (reg.after changes).resolvers =
    placeAll (survivors changes reg.resolvers) (changes.flatMap Change.incoming) := by
  induction changes generalizing reg with
  | nil => exact (without_nil _).symm
  | cons c changes ih =>
    obtain ⟨hc, h⟩ := List.pairwise_cons.mp h
    -- what the first change brings is not deleted by the others
    have hkeep : without (changes.flatMap Change.doomed) c.incoming = c.incoming := by
      refine without_eq_self fun r hr hdel => ?_
      obtain ⟨d, hd, hdel⟩ := List.mem_flatMap.mp hdel
      exact hc d hd (Change.mem_addresses_of_mem hr) (Change.mem_addresses_of_doomed hdel)
    show ((reg.apply c).after changes).resolvers = _
    rw [ih _ h, resolvers_apply, survivors, without_placeAll, hkeep, without_without, ← placeAll_append]
    rfl

theorem exists_of_lastOf_flatMap (h : lastOf a (changes.flatMap Change.incoming) = some r) :
    ∃ c ∈ changes, lastOf a c.incoming = some r := by
  induction changes with
  | nil => cases h
  | cons c changes ih =>
    rw [List.flatMap_cons, lastOf_append, Option.or_eq_some_iff] at h
    rcases h with h | ⟨-, h⟩
    · obtain ⟨d, hd, hr⟩ := ih h
      exact ⟨d, .tail _ hd, hr⟩
    · exact ⟨c, .head _, h⟩

theorem lastOf_flatMap (h : changes.Pairwise Change.Apart) : lastOf a (changes.flatMap Change.incoming) = some r ↔
    ∃ c ∈ changes, lastOf a c.incoming = some r := by
  refine ⟨exists_of_lastOf_flatMap, ?_⟩
  rintro ⟨c, hc, hr⟩
  obtain ⟨hmem, rfl⟩ := mem_of_lastOf hr
  cases hlast : lastOf r.address (changes.flatMap Change.incoming) with
  | none => exact absurd (List.mem_map_of_mem (List.mem_flatMap.mpr ⟨c, hc, hmem⟩)) (lastOf_eq_none.mp hlast)
  | some s =>
    -- the change that `s` comes from names the address too
    obtain ⟨d, hd, hs⟩ := exists_of_lastOf_flatMap hlast
    obtain rfl := eq_of_mem_addresses h hc hd (Change.mem_addresses_of_lastOf hr) (Change.mem_addresses_of_lastOf hs)
    rw [← hr, hs]

theorem pairwise_of_perm (h : changes.Pairwise Change.Apart) (hperm : changes.Perm changes') :
    changes'.Pairwise Change.Apart :=
  hperm.pairwise h List.disjoint_symm

theorem lastOf_flatMap_perm (h : changes.Pairwise Change.Apart) (hperm : changes.Perm changes') (a : String) :
    lastOf a (changes.flatMap Change.incoming) = lastOf a (changes'.flatMap Change.incoming) := by
  refine Option.ext fun r => ?_
  rw [lastOf_flatMap h, lastOf_flatMap (pairwise_of_perm h hperm)]
  simp only [hperm.mem_iff]

theorem survivors_perm (hperm : changes.Perm changes') (rs : List Resolver) :
    survivors changes rs = survivors changes' rs :=
  without_congr fun _ => (hperm.flatMap_right _).mem_iff

theorem lastOf_flatMap_of_doomed (h : changes.Pairwise Change.Apart) (hc : .delete addresses ∈ changes)
    (ha : a ∈ addresses) : lastOf a (changes.flatMap Change.incoming) = none := by
  refine Option.eq_none_iff_forall_ne_some.mpr fun r hr => ?_
  obtain ⟨d, hd, hr⟩ := exists_of_lastOf_flatMap hr
  obtain rfl := eq_of_mem_addresses h hc hd (Change.mem_addresses_of_doomed ha) (Change.mem_addresses_of_lastOf hr)
  cases hr

/-- What the changes leave of the list `rs`. -/
structure Applied (rs : List Resolver) (changes : List Change) (after : List Resolver) : Prop where
  /-- They come to one upsert into the entries that are not deleted. -/
  upserted : Upserted (survivors changes rs) (changes.flatMap Change.incoming) after
  unnamed : without (changes.flatMap Change.addresses) after = without (changes.flatMap Change.addresses) rs
  present : ∀ incoming a r, .upsert incoming ∈ changes → lastOf a incoming = some r → r ∈ after
  absent : ∀ addresses, .delete addresses ∈ changes → ∀ x ∈ after, x.address ∉ addresses

theorem applied_after (reg : Registry) (h : changes.Pairwise Change.Apart) :
    Applied reg.resolvers changes (reg.after changes).resolvers := by
  rw [resolvers_after reg h]
  refine ⟨upserted_placeAll _ _, ?_, ?_, ?_⟩
  · have hbrought : without (changes.flatMap Change.addresses) (changes.flatMap Change.incoming) = [] := by
      refine without_eq_nil fun r hr => ?_
      obtain ⟨c, hc, hr⟩ := List.mem_flatMap.mp hr
      exact List.mem_flatMap.mpr ⟨c, hc, Change.mem_addresses_of_mem hr⟩
    rw [without_placeAll, hbrought, survivors, without_without]
    refine without_congr fun a => ?_
    rw [List.mem_append, or_iff_right_of_imp]
    intro ha
    obtain ⟨c, hc, ha⟩ := List.mem_flatMap.mp ha
    exact List.mem_flatMap.mpr ⟨c, hc, Change.mem_addresses_of_doomed ha⟩
  · intro incoming a r hc hr
    exact mem_placeAll_of_lastOf ((lastOf_flatMap h).mpr ⟨_, hc, hr⟩)
  · intro addresses hc x hx hdel
    have hentries := entriesOf_placeAll x.address (survivors changes reg.resolvers) (changes.flatMap Change.incoming)
    rw [lastOf_flatMap_of_doomed h hc hdel, survivors, entriesOf_without,
      if_pos (List.mem_flatMap.mpr ⟨_, hc, hdel⟩)] at hentries
    exact List.filter_eq_nil_iff.mp hentries x hx (by simp)

end

/-- No change is lost, whatever the order. -/
theorem any_order (reg : Registry) :
    (∀ changes changes' : List Change, changes.Pairwise Change.Apart → changes.Perm changes' →
      Applied reg.resolvers changes (reg.after changes).resolvers ∧
      (reg.after changes).resolvers.Perm (reg.after changes').resolvers ∧
      (reg.after changes).resolvers.take (survivors changes reg.resolvers).length =
        (reg.after changes').resolvers.take (survivors changes reg.resolvers).length) ∧
    (∀ a b, (reg.upsert (a ++ b)).resolvers = ((reg.upsert a).upsert b).resolvers) ∧
    (∀ a, ((reg.upsert a).upsert a).resolvers = (reg.upsert a).resolvers) ∧
    ∀ a : List Resolver, ((reg.upsert a).delete (a.map (·.address))).resolvers =
      (reg.delete (a.map (·.address))).resolvers := by
  refine ⟨fun changes changes' h hperm => ⟨applied_after reg h, ?_⟩, fun a b => ?_, fun a => ?_, fun a => ?_⟩
  · have hlast := lastOf_flatMap_perm h hperm
    rw [resolvers_after reg h, resolvers_after reg (pairwise_of_perm h hperm), ← survivors_perm hperm]
    exact ⟨placeAll_perm hlast, take_placeAll_congr hlast⟩
  · rw [resolvers_upsert, resolvers_upsert, resolvers_upsert, placeAll_append]
  · rw [resolvers_upsert, resolvers_upsert]
    refine placeAll_eq_self fun b r hr => ?_
    rw [entriesOf_placeAll, hr]
    rfl
  · rw [resolvers_delete, resolvers_delete, resolvers_upsert, without_placeAll,
      without_eq_nil fun r hr => List.mem_map_of_mem hr]
    rfl

/-- Two orders with different results, on a list that has an address twice. -/
theorem any_order_reversed :
    let reg := ofList [⟨"1.1.1.1", "a", .a⟩, ⟨"8.8.8.8", "b", .a⟩, ⟨"9.9.9.9", "c", .a⟩, ⟨"1.1.1.1", "d", .a⟩]
    let changes := [Change.upsert [⟨"7.7.7.7", "e", .a⟩, ⟨"1.1.1.1", "f", .a⟩, ⟨"7.7.7.7", "g", .a⟩],
      Change.delete ["9.9.9.9", "5.5.5.5"], Change.upsert [⟨"6.6.6.6", "h", .a⟩]]
    (changes.Pairwise Change.Apart ∧ changes.Perm changes.reverse) ∧
    (reg.after changes).resolvers ≠ (reg.after changes.reverse).resolvers ∧
    (reg.after changes).resolvers.Perm (reg.after changes.reverse).resolvers ∧
    (reg.after changes).resolvers.take 3 = (reg.after changes.reverse).resolvers.take 3 := by
  intro reg changes
  have hapart : changes.Pairwise Change.Apart := by decide
  have hperm : changes.Perm changes.reverse := (List.reverse_perm changes).symm
  exact ⟨⟨hapart, hperm⟩, by decide, ((any_order reg).1 changes changes.reverse hapart hperm).2⟩

end FilterWatch.Registry
