import FilterWatch.Registry
import Mathlib.Data.List.Nodup

/-!
# The addresses of a registry

A registry is read as a table keyed by address: `entriesOf` are the entries of one address, in order. Of the resolvers
with an address that an upsert brings, the last one takes the place of the first entry (`entriesOf_placeAll`), and
nobody looks at the others, so all entries but the first one of an address are those of the list that the registry was
made of, until a deletion drops them (`tail_entriesOf_after`). The addresses are distinct from then on; without a
deletion they are distinct only if they were so in that list.
-/

namespace FilterWatch.Registry

variable {rs incoming : List Resolver} {r : Resolver} {a : String}

theorem resolvers_upsert (reg : Registry) (incoming : List Resolver) :
    (reg.upsert incoming).resolvers = placeAll reg.resolvers incoming := by
  unfold upsert
  cases incoming <;> rfl

theorem mem_place {x : Resolver} (h : x ∈ place r rs) : x = r ∨ x ∈ rs := by
  induction rs with
  | nil => exact .inl (List.mem_singleton.mp h)
  | cons y rs ih =>
    rw [place] at h
    split at h
    · rcases List.mem_cons.mp h with rfl | h
      · exact .inl rfl
      · exact .inr (.tail _ h)
    · rcases List.mem_cons.mp h with rfl | h
      · exact .inr (.head _)
      · exact (ih h).imp_right (.tail _)

theorem place_ne_nil (r : Resolver) (rs : List Resolver) : place r rs ≠ [] := by
  cases rs with
  | nil => simp [place]
  | cons x xs =>
    rw [place]
    split <;> simp

theorem placeAll_ne_nil (hrs : rs ≠ []) (incoming : List Resolver) : placeAll rs incoming ≠ [] := by
  induction incoming generalizing rs with
  | nil => exact hrs
  | cons r incoming ih => exact ih (place_ne_nil r rs)

/-! ### The entries with other addresses -/

/-- The entries with other addresses than these. -/
def without (addresses : List String) (rs : List Resolver) : List Resolver :=
  rs.filter (!addresses.contains ·.address)

section
variable {addresses addresses' : List String}

theorem without_cons_of_mem (h : r.address ∈ addresses) : without addresses (r :: rs) = without addresses rs :=
  List.filter_cons_of_neg (by simpa using h)

theorem without_cons_of_notMem (h : r.address ∉ addresses) : without addresses (r :: rs) = r :: without addresses rs :=
  List.filter_cons_of_pos (by simpa using h)

theorem without_without (addresses addresses' : List String) (rs : List Resolver) :
    without addresses (without addresses' rs) = without (addresses' ++ addresses) rs := by
  unfold without
  rw [List.filter_filter]
  exact List.filter_congr fun x _ => by simp [Bool.and_comm]

theorem without_eq_self (h : ∀ r ∈ rs, r.address ∉ addresses) : without addresses rs = rs :=
  List.filter_eq_self.mpr fun r hr => by simpa using h r hr

theorem without_nil (rs : List Resolver) : without [] rs = rs :=
  without_eq_self fun _ _ => List.not_mem_nil

theorem without_eq_nil (h : ∀ r ∈ rs, r.address ∈ addresses) : without addresses rs = [] :=
  List.filter_eq_nil_iff.mpr fun r hr => by simpa using h r hr

theorem without_congr (h : ∀ a, a ∈ addresses ↔ a ∈ addresses') : without addresses rs = without addresses' rs := by
  unfold without
  exact List.filter_congr fun r _ => by simp [h]

end

theorem resolvers_delete (reg : Registry) (addresses : List String) :
    (reg.delete addresses).resolvers = without addresses reg.resolvers := by
  unfold delete
  split
  · rfl
  · rename_i h
    exact (without_eq_self fun r hr hdel => h (List.any_eq_true.mpr ⟨r, hr, by simpa using hdel⟩)).symm

/-! ### The entries of one address -/

def entriesOf (a : String) (rs : List Resolver) : List Resolver := rs.filter (·.address == a)

theorem entriesOf_cons_self (h : r.address = a) : entriesOf a (r :: rs) = r :: entriesOf a rs :=
  List.filter_cons_of_pos (by simpa using h)

theorem entriesOf_cons_of_ne (h : r.address ≠ a) : entriesOf a (r :: rs) = entriesOf a rs :=
  List.filter_cons_of_neg (by simpa using h)

theorem count_addresses (a : String) (rs : List Resolver) : (rs.map (·.address)).count a = (entriesOf a rs).length := by
  rw [List.count, List.countP_map, List.countP_eq_length_filter]
  rfl

theorem nodup_addresses : (rs.map (·.address)).Nodup ↔ ∀ a, (entriesOf a rs).tail = [] := by
  rw [List.nodup_iff_count_le_one]
  refine forall_congr' fun a => ?_
  rw [count_addresses, ← List.length_eq_zero_iff, List.length_tail]
  omega

theorem entriesOf_place : entriesOf a (place r rs) =
    if r.address = a then r :: (entriesOf a rs).tail else entriesOf a rs := by
  -- along the list, up to the first entry with the address of `r`
  induction rs with
  | nil =>
    by_cases ha : r.address = a
    · rw [place, if_pos ha, entriesOf_cons_self ha]
      rfl
    · rw [place, if_neg ha, entriesOf_cons_of_ne ha]
  | cons x rs ih =>
    rw [place]
    by_cases hx : x.address = r.address
    · rw [if_pos hx]
      by_cases ha : r.address = a
      · rw [if_pos ha, entriesOf_cons_self ha, entriesOf_cons_self (hx.trans ha), List.tail_cons]
      · rw [if_neg ha, entriesOf_cons_of_ne ha, entriesOf_cons_of_ne (hx ▸ ha)]
    · rw [if_neg hx]
      by_cases ha : x.address = a
      · -- the entry in front has this address, so `r` has another one
        have hr : ¬ r.address = a := fun hr => hx (ha.trans hr.symm)
        rw [if_neg hr, entriesOf_cons_self ha, entriesOf_cons_self ha, ih, if_neg hr]
      · rw [entriesOf_cons_of_ne ha, entriesOf_cons_of_ne ha, ih]

def lastOf (a : String) (rs : List Resolver) : Option Resolver := (entriesOf a rs).getLast?

theorem lastOf_cons_self (h : r.address = a) : lastOf a (r :: rs) = some ((lastOf a rs).getD r) := by
  rw [lastOf, entriesOf_cons_self h, List.getLast?_cons]
  rfl

theorem lastOf_cons_of_ne (h : r.address ≠ a) : lastOf a (r :: rs) = lastOf a rs := by
  rw [lastOf, entriesOf_cons_of_ne h]
  rfl

theorem lastOf_append (front back : List Resolver) : lastOf a (front ++ back) = (lastOf a back).or (lastOf a front) := by
  rw [lastOf, entriesOf, List.filter_append, List.getLast?_append]
  rfl

theorem lastOf_eq_none : lastOf a rs = none ↔ a ∉ rs.map (·.address) := by
  simp [lastOf, entriesOf]

theorem mem_of_lastOf (h : lastOf a rs = some r) : r ∈ rs ∧ r.address = a := by
  have hmem := List.mem_filter.mp (List.mem_of_getLast? h)
  exact ⟨hmem.1, by simpa using hmem.2⟩

theorem entriesOf_placeAll (a : String) (rs incoming : List Resolver) : entriesOf a (placeAll rs incoming) =
    (lastOf a incoming).elim (entriesOf a rs) (· :: (entriesOf a rs).tail) := by
  induction incoming generalizing rs with
  | nil => rfl
  | cons x incoming ih =>
    show entriesOf a (placeAll (place x rs) incoming) = _
    rw [ih, entriesOf_place]
    by_cases hx : x.address = a
    · rw [if_pos hx, lastOf_cons_self hx]
      cases lastOf a incoming <;> rfl
    · rw [if_neg hx, lastOf_cons_of_ne hx]

theorem tail_entriesOf_placeAll (a : String) (rs incoming : List Resolver) :
    (entriesOf a (placeAll rs incoming)).tail = (entriesOf a rs).tail := by
  rw [entriesOf_placeAll]
  cases lastOf a incoming <;> rfl

theorem entriesOf_placeAll_append {front back : List Resolver} (h : ∀ x ∈ back, x.address ≠ r.address) :
    entriesOf r.address (placeAll rs (front ++ r :: back)) = r :: (entriesOf r.address rs).tail := by
  rw [entriesOf_placeAll, lastOf_append, lastOf_cons_self rfl, lastOf_eq_none.mpr (by simpa using h)]
  rfl

theorem entriesOf_without (a : String) (rs : List Resolver) (addresses : List String) :
    entriesOf a (without addresses rs) = if a ∈ addresses then [] else entriesOf a rs := by
  unfold entriesOf without
  rw [List.filter_filter]
  split
  · refine List.filter_eq_nil_iff.mpr fun x _ hx => ?_
    obtain ⟨hxa, hx⟩ := Bool.and_eq_true_iff.mp hx
    have hxa : x.address = a := by simpa using hxa
    simp_all
  · refine List.filter_congr fun x _ => ?_
    by_cases hxa : x.address = a
    · simp_all
    · simp [hxa]

theorem lastOf_without (a : String) (addresses : List String) (rs : List Resolver) :
    lastOf a (without addresses rs) = if a ∈ addresses then none else lastOf a rs := by
  rw [lastOf, entriesOf_without]
  split <;> rfl

/-! ### Changes one after the other -/

inductive Change where
  | upsert (incoming : List Resolver)
  | delete (addresses : List String)
deriving DecidableEq, Repr

def apply (reg : Registry) : Change → Registry
  | .upsert incoming => reg.upsert incoming
  | .delete addresses => reg.delete addresses

def after (reg : Registry) (changes : List Change) : Registry := changes.foldl apply reg

def Change.Deletes (a : String) : Change → Prop
  | upsert _ => False
  | delete addresses => a ∈ addresses

instance (a : String) : DecidablePred (Change.Deletes a)
  | .upsert _ => inferInstanceAs (Decidable False)
  | .delete addresses => inferInstanceAs (Decidable (a ∈ addresses))

theorem tail_entriesOf_apply (reg : Registry) (change : Change) :
    (entriesOf a (reg.apply change).resolvers).tail =
      if change.Deletes a then [] else (entriesOf a reg.resolvers).tail := by
  cases change with
  | upsert incoming =>
    show (entriesOf a (reg.upsert incoming).resolvers).tail = _
    rw [resolvers_upsert, tail_entriesOf_placeAll]
    exact (if_neg fun h => h).symm
  | delete addresses =>
    show (entriesOf a (reg.delete addresses).resolvers).tail = if a ∈ addresses then [] else _
    rw [resolvers_delete, entriesOf_without]
    split <;> rfl

/-- Behind the first entry of an address there is what was there at first, until the address is deleted. -/
theorem tail_entriesOf_after (reg : Registry) (changes : List Change) :
    (entriesOf a (reg.after changes).resolvers).tail =
      if ∃ change ∈ changes, change.Deletes a then [] else (entriesOf a reg.resolvers).tail := by
  induction changes generalizing reg with
  | nil => simp [after]
  | cons change changes ih =>
    show (entriesOf a ((reg.apply change).after changes).resolvers).tail = _
    rw [ih, tail_entriesOf_apply]
    by_cases h : change.Deletes a <;> simp [h]

/-- What the address of a registry identifies, after any changes to any list. The addresses are distinct exactly when
those that the list has more than once were deleted on the way; so they are always distinct in a registry that was
made empty. And an upsert leaves of its address the last resolver that it brings, in front of those that an earlier
upsert would not have replaced either. -/
theorem distinct_after (rs : List Resolver) (changes : List Change) :
    ((((ofList rs).after changes).resolvers.map (·.address)).Nodup ↔
      ∀ a, 1 < (rs.map (·.address)).count a → ∃ change ∈ changes, change.Deletes a) ∧
    ∀ front r back, (∀ x ∈ back, x.address ≠ r.address) →
      entriesOf r.address (((ofList rs).after changes).upsert (front ++ r :: back)).resolvers =
        r :: if ∃ change ∈ changes, change.Deletes r.address then [] else (entriesOf r.address rs).tail := by
  constructor
  · rw [nodup_addresses]
    refine forall_congr' fun a => ?_
    rw [tail_entriesOf_after, count_addresses]
    by_cases hdel : ∃ change ∈ changes, change.Deletes a
    · rw [if_pos hdel]
      exact ⟨fun _ _ => hdel, fun _ => rfl⟩
    · have htail : (entriesOf a rs).tail = [] ↔ ¬ 1 < (entriesOf a rs).length := by
        rw [← List.length_eq_zero_iff, List.length_tail]
        omega
      rw [if_neg hdel]
      exact htail.trans ⟨fun h hlt => absurd hlt h, fun h hlt => hdel (h hlt)⟩
  · intro front r back hback
    rw [resolvers_upsert, entriesOf_placeAll_append hback, tail_entriesOf_after]
    rfl

/-- A list with one address twice, after an upsert of that address: the second entry is still there. -/
theorem replaced_once :
    let r : Resolver := ⟨"1.1.1.1", "c", .a⟩
    let reg := (ofList [⟨"1.1.1.1", "a", .a⟩, ⟨"1.1.1.1", "b", .a⟩]).after [.upsert [r]]
    reg.resolvers = [r, ⟨"1.1.1.1", "b", .a⟩] ∧ ¬ (reg.resolvers.map (·.address)).Nodup ∧
      entriesOf r.address reg.resolvers ≠ [r] := by
  decide

theorem distinct_after_deletion :
    let reg := (ofList [⟨"1.1.1.1", "a", .a⟩, ⟨"1.1.1.1", "b", .a⟩, ⟨"8.8.8.8", "", .a⟩]).after [.delete ["1.1.1.1"]]
    (reg.resolvers.map (·.address)).Nodup ∧
      entriesOf "1.1.1.1" (reg.upsert [⟨"1.1.1.1", "c", .a⟩, ⟨"1.1.1.1", "d", .a⟩, ⟨"9.9.9.9", "", .a⟩]).resolvers =
        [⟨"1.1.1.1", "d", .a⟩] := by
  obtain ⟨hnodup, hupsert⟩ := distinct_after
    [⟨"1.1.1.1", "a", .a⟩, ⟨"1.1.1.1", "b", .a⟩, ⟨"8.8.8.8", "", .a⟩] [.delete ["1.1.1.1"]]
  refine ⟨hnodup.mpr fun a ha => ⟨_, .head _, ?_⟩, ?_⟩
  · by_contra hdel
    have hne : ¬ a = "1.1.1.1" := fun h => hdel (List.mem_singleton.mpr h)
    simp [List.count_cons, Ne.symm hne] at ha
    split at ha <;> omega
  · exact hupsert [⟨"1.1.1.1", "c", .a⟩] ⟨"1.1.1.1", "d", .a⟩ [⟨"9.9.9.9", "", .a⟩] (by decide)

end FilterWatch.Registry
