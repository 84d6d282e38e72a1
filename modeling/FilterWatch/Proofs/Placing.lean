import FilterWatch.Proofs.Addresses

/-!
# Where an upsert leaves each resolver

An upsert searches the list that it is itself extending. What comes of that is read off the first entry of the list,
which nothing but its own address concerns (`placeAll_cons`): the entries that were there keep their places
(`refreshed`), and behind them the other resolvers are placed as into an empty list (`placeAll_eq`).
-/

namespace FilterWatch.Registry

variable {rs incoming : List Resolver} {x r : Resolver} {a : String}

/-- The first entry is replaced by the last resolver with its address, and the others never see that address. -/
theorem placeAll_cons (x : Resolver) (rs incoming : List Resolver) : placeAll (x :: rs) incoming =
    (lastOf x.address incoming).getD x :: placeAll rs (without [x.address] incoming) := by
  induction incoming generalizing x rs with
  | nil => rfl
  | cons r incoming ih =>
    show placeAll (place r (x :: rs)) incoming = _
    rw [place]
    by_cases h : x.address = r.address
    · rw [if_pos h, ih, lastOf_cons_self h.symm, without_cons_of_mem (by simp [h]), h]
      rfl
    · rw [if_neg h, ih, lastOf_cons_of_ne (Ne.symm h), without_cons_of_notMem (by simpa using Ne.symm h)]
      rfl

/-- What an upsert makes of the entries that are there. -/
def refreshed (incoming : List Resolver) : List Resolver → List Resolver
  | [] => []
  | x :: rs => (lastOf x.address incoming).getD x :: refreshed (without [x.address] incoming) rs

theorem placeAll_eq (rs incoming : List Resolver) : placeAll rs incoming =
    refreshed incoming rs ++ placeAll [] (without (rs.map (·.address)) incoming) := by
  induction rs generalizing incoming with
  | nil => simp [refreshed, without]
  | cons x rs ih =>
    rw [placeAll_cons, ih, refreshed, without_without]
    rfl

@[simp] theorem length_refreshed (incoming rs : List Resolver) : (refreshed incoming rs).length = rs.length := by
  induction rs generalizing incoming with
  | nil => rfl
  | cons x rs ih => simp [refreshed, ih]

/-- An entry behind another one of its address is never found. -/
theorem getElem?_refreshed (incoming rs : List Resolver) (i : Nat) : (refreshed incoming rs)[i]? = rs[i]?.map fun x =>
    if x.address ∈ (rs.take i).map (·.address) then x else (lastOf x.address incoming).getD x := by
  induction rs generalizing incoming i with
  | nil => rfl
  | cons x rs ih =>
    cases i with
    | zero => rfl
    | succ i =>
      rw [refreshed, List.getElem?_cons_succ, ih, List.getElem?_cons_succ]
      refine congrArg (rs[i]?.map ·) (funext fun y => ?_)
      rw [lastOf_without, List.take_succ_cons, List.map_cons]
      by_cases hx : y.address = x.address <;> simp [hx]

theorem getElem?_placeAll (incoming : List Resolver) {i : Nat} (h : rs[i]? = some x) : (placeAll rs incoming)[i]? =
    some (if x.address ∈ (rs.take i).map (·.address) then x else (lastOf x.address incoming).getD x) := by
  have hi : i < rs.length := (List.getElem?_eq_some_iff.mp h).1
  rw [placeAll_eq, List.getElem?_append_left (by simpa using hi), getElem?_refreshed, h]
  rfl

theorem drop_placeAll (rs incoming : List Resolver) :
    (placeAll rs incoming).drop rs.length = placeAll [] (without (rs.map (·.address)) incoming) := by
  rw [placeAll_eq, List.drop_left' (length_refreshed incoming rs)]

theorem take_placeAll (rs incoming : List Resolver) : (placeAll rs incoming).take rs.length = refreshed incoming rs := by
  rw [placeAll_eq, List.take_left' (length_refreshed incoming rs)]

/-! ### The new addresses -/

theorem map_address_place (r : Resolver) (rs : List Resolver) : (place r rs).map (·.address) =
    if r.address ∈ rs.map (·.address) then rs.map (·.address) else rs.map (·.address) ++ [r.address] := by
  induction rs with
  | nil => rfl
  | cons x rs ih =>
    rw [place]
    by_cases h : x.address = r.address
    · simp [h]
    · rw [if_neg h, List.map_cons, ih]
      by_cases hr : r.address ∈ rs.map (·.address) <;> simp [hr, Ne.symm h]

/-- The addresses keep their places, and each new one comes behind them when it first occurs. -/
theorem map_address_placeAll (rs incoming : List Resolver) : (placeAll rs incoming).map (·.address) =
    rs.map (·.address) ++ ((incoming.map (·.address)).filter (· ∉ rs.map (·.address))).eraseDups := by
  induction incoming generalizing rs with
  | nil => simp [placeAll]
  | cons r incoming ih =>
    show (placeAll (place r rs) incoming).map (·.address) = _
    rw [ih, map_address_place]
    by_cases h : r.address ∈ rs.map (·.address)
    · rw [if_pos h, List.map_cons, List.filter_cons_of_neg (by simpa using h)]
    · rw [if_neg h, List.map_cons, List.filter_cons_of_pos (by simpa using h), List.eraseDups_cons, List.filter_filter,
        List.append_assoc, List.singleton_append]
      congr 3
      exact List.filter_congr fun a _ => by simp [Bool.and_comm, beq_eq_decide]

/-- Placed into an empty list, the last resolver of each address is there, and no other. -/
theorem mem_placeAll_nil : r ∈ placeAll [] incoming ↔ lastOf r.address incoming = some r := by
  have hmem : r ∈ placeAll [] incoming ↔ r ∈ entriesOf r.address (placeAll [] incoming) := by simp [entriesOf]
  rw [hmem, entriesOf_placeAll]
  cases lastOf r.address incoming <;> simp [entriesOf, eq_comm]

/-! ### The list after an update -/

/-- The list `after` is what an upsert of `incoming` makes of `rs`. -/
structure Upserted (rs incoming after : List Resolver) : Prop where
  /-- An entry stays in its place when no resolver comes with its address -/
  kept : ∀ (i : Nat) x, rs[i]? = some x → x.address ∉ incoming.map (·.address) → after[i]? = some x
  /-- or when another entry in front of it has that address; -/
  shadowed : ∀ (i : Nat) x, rs[i]? = some x → x.address ∈ (rs.take i).map (·.address) → after[i]? = some x
  /-- the first entry of an address leaves its place to the last resolver with it. -/
  replaced : ∀ (i : Nat) x r, rs[i]? = some x → x.address ∉ (rs.take i).map (·.address) →
    lastOf x.address incoming = some r → after[i]? = some r
  /-- The other addresses come behind, once each and in the order in which they first occur, -/
  appended : (after.drop rs.length).map (·.address) =
    ((incoming.map (·.address)).filter (· ∉ rs.map (·.address))).eraseDups
  /-- with the last resolver of each. -/
  latest : ∀ x ∈ after.drop rs.length, lastOf x.address incoming = some x

theorem upserted_placeAll (rs incoming : List Resolver) : Upserted rs incoming (placeAll rs incoming) := by
  refine ⟨?_, ?_, ?_, ?_, ?_⟩
  · intro i x hx hnew
    rw [getElem?_placeAll incoming hx, lastOf_eq_none.mpr hnew]
    simp
  · intro i x hx hfront
    rw [getElem?_placeAll incoming hx, if_pos hfront]
  · intro i x r hx hfront hr
    rw [getElem?_placeAll incoming hx, if_neg hfront, hr]
    rfl
  · rw [List.map_drop, map_address_placeAll, List.drop_left' (by simp)]
  · intro x hx
    rw [drop_placeAll, mem_placeAll_nil, lastOf_without] at hx
    split at hx
    · cases hx
    · exact hx

namespace Upserted
variable {after after' : List Resolver}

/-- All places are accounted for: there is only one such list. -/
theorem unique (h : Upserted rs incoming after) (h' : Upserted rs incoming after') : after = after' := by
  have hdrop {l : List Resolver} (hl : Upserted rs incoming l) : l.drop rs.length =
      ((incoming.map (·.address)).filter (· ∉ rs.map (·.address))).eraseDups.filterMap (lastOf · incoming) := by
    rw [← hl.appended, List.filterMap_map]
    calc l.drop rs.length = (l.drop rs.length).filterMap some := List.filterMap_some.symm
      _ = (l.drop rs.length).filterMap (lastOf ·.address incoming) :=
        List.filterMap_congr fun x hx => (hl.latest x hx).symm
  have hplace {i : Nat} {x : Resolver} (hx : rs[i]? = some x) : after[i]? = after'[i]? := by
    by_cases hfront : x.address ∈ (rs.take i).map (·.address)
    · rw [h.shadowed i x hx hfront, h'.shadowed i x hx hfront]
    · cases hr : lastOf x.address incoming with
      | none => rw [h.kept i x hx (lastOf_eq_none.mp hr), h'.kept i x hx (lastOf_eq_none.mp hr)]
      | some r => rw [h.replaced i x r hx hfront hr, h'.replaced i x r hx hfront hr]
  refine List.ext_getElem? fun i => ?_
  by_cases hi : i < rs.length
  · exact hplace (List.getElem?_eq_getElem hi)
  · obtain ⟨j, rfl⟩ : ∃ j, i = rs.length + j := ⟨i - rs.length, by omega⟩
    rw [← List.getElem?_drop, ← List.getElem?_drop, hdrop h, hdrop h']

end Upserted

theorem upsert_eq_self_iff (reg : Registry) (incoming : List Resolver) : reg.upsert incoming = reg ↔ incoming = [] := by
  unfold upsert
  cases incoming with
  | nil => simp
  | cons r incoming =>
    refine iff_of_false (fun h => ?_) (by simp)
    have hversion : reg.version + 1 = reg.version := congrArg version h
    omega

theorem delete_eq_self_iff (reg : Registry) (addresses : List String) :
    reg.delete addresses = reg ↔ ∀ r ∈ reg.resolvers, r.address ∉ addresses := by
  have hany : reg.resolvers.any (addresses.contains ·.address) ↔ ∃ r ∈ reg.resolvers, r.address ∈ addresses := by simp
  unfold delete
  split
  case isTrue h =>
    refine iff_of_false (fun heq => ?_) (by simpa using hany.mp h)
    have hversion : reg.version + 1 = reg.version := congrArg version heq
    omega
  case isFalse h =>
    exact iff_of_true rfl fun r hr hdel => h (hany.mpr ⟨r, hr, hdel⟩)

/-- What becomes of the list of a registry, which may have an address more than once. The list is left in place, with
its version, by the updates that have nothing to do, and by no others. -/
theorem updated (reg : Registry) :
    (∀ incoming after, (reg.upsert incoming).resolvers = after ↔ Upserted reg.resolvers incoming after) ∧
    (∀ addresses, (reg.delete addresses).resolvers = reg.resolvers.filter (·.address ∉ addresses)) ∧
    (∀ incoming, reg.upsert incoming = reg ↔ incoming = []) ∧
    ∀ addresses, reg.delete addresses = reg ↔ ∀ r ∈ reg.resolvers, r.address ∉ addresses := by
  refine ⟨fun incoming after => ?_, fun addresses => ?_, upsert_eq_self_iff reg, delete_eq_self_iff reg⟩
  · have hplaced := upserted_placeAll reg.resolvers incoming
    rw [resolvers_upsert]
    constructor
    · rintro rfl
      exact hplaced
    · exact hplaced.unique
  · rw [resolvers_delete]
    exact List.filter_congr fun r _ => by simp

example :
    ((ofList [⟨"1.1.1.1", "a", .a⟩, ⟨"8.8.8.8", "b", .a⟩, ⟨"1.1.1.1", "c", .a⟩]).upsert
      [⟨"9.9.9.9", "d", .a⟩, ⟨"1.1.1.1", "e", .a⟩, ⟨"9.9.9.9", "f", .a⟩]).resolvers =
      [⟨"1.1.1.1", "e", .a⟩, ⟨"8.8.8.8", "b", .a⟩, ⟨"1.1.1.1", "c", .a⟩, ⟨"9.9.9.9", "f", .a⟩] := by
  decide

end FilterWatch.Registry
