import FilterWatch.Address.Server
import FilterWatch.Proofs.Numbers
import FilterWatch.Proofs.Separators

/-!
# IP addresses read and written

Every address is read back from the text that it is written as (`IPv4.ofChars?_render`, `IPv6.ofChars?_render`). In an
IPv6 address the longest run of zero groups is left out (`IPv6.take_longestZeros`), and it is what reading puts back
between the groups on both sides of the double colon. An IPv4 address is written in one way only
(`IPv4.render_of_ofChars?`). Texts that are read as addresses have no other characters than digits, dots and colons, and
the IPv6 ones have two colons at least, which tells them from a host with a port.
-/

namespace FilterWatch
open Text

/-! ### The characters of addresses -/

/-- A hexadecimal digit, a colon or a dot. -/
def isAddressChar (c : Char) : Bool := (digit? 16 c).isSome || c == ':' || c == '.'

namespace Text
variable {base n : Nat} {c : Char} {cs : List Char}

theorem isAddressChar_of_digit (hbase : base ≤ 16) (h : (digit? base c).isSome) : isAddressChar c := by
  obtain ⟨d, hd⟩ := Option.isSome_iff_exists.mp h
  rw [isAddressChar, digit?_mono hbase hd]
  rfl

theorem not_blank_of_isAddressChar (h : isAddressChar c) : isBlank c = false := by
  simp only [isAddressChar, Bool.or_eq_true, beq_iff_eq] at h
  rcases h with (h | rfl) | rfl
  · have hall : ∀ n < 0x80, (digit? 16 (Char.ofNat n)).isSome → !isBlank (Char.ofNat n) := by decide
    simpa using of_isSome_digit? (p := fun c => !isBlank c) hall (Nat.le_refl 16) h
  · decide
  · decide

theorem head?_ne_bracket (h : ∀ c ∈ cs, isAddressChar c) : cs.head? ≠ some '[' :=
  fun hhead => absurd (h _ (List.mem_of_head? hhead)) (by decide)

theorem ne_of_isSome_digit? {d : Char} (hd : digit? 16 d = none) (hbase : base ≤ 16) (h : (digit? base c).isSome) :
    c ≠ d := by
  rintro rfl
  obtain ⟨e, he⟩ := Option.isSome_iff_exists.mp h
  rw [digit?_mono hbase he] at hd
  cases hd

theorem not_mem_of_number? {d : Char} (hd : digit? 16 d = none) (hbase : base ≤ 16) (h : number? base cs = some n) :
    d ∉ cs := fun hmem => ne_of_isSome_digit? hd hbase (isSome_digit?_of_number? h d hmem) rfl

theorem not_mem_toDigits {d : Char} (hd : digit? 16 d = none) (h1 : 1 < base) (h16 : base ≤ 16) (n : Nat) :
    d ∉ Nat.toDigits base n :=
  not_mem_of_number? hd h16 (number?_toDigits h1 h16 n)

end Text

/-! ### IPv4 -/

namespace IPv4
variable {cs : List Char} {ip : IPv4} {o : UInt8}

def digits (o : UInt8) : List Char := Nat.toDigits 10 o.toNat

theorem toList_render (ip : IPv4) : ip.render.toList = ['.'].intercalate (ip.octets.map digits) := by
  have hdigits : String.toList ∘ (fun o : UInt8 => toString o.toNat) = digits := by
    funext o
    simp [digits]
  rw [render, String.toList_intercalate, List.map_map, hdigits]
  rfl

theorem octet?_digits (o : UInt8) : octet? (digits o) = some o := by
  have hall : ∀ n < 256, octet? (Nat.toDigits 10 n) = some (UInt8.ofNat n) := by decide +kernel
  rw [digits, hall _ o.toNat_lt, UInt8.ofNat_toNat]

theorem ofChars?_render (ip : IPv4) : ofChars? ip.render.toList = some ip := by
  have hfields : fields '.' ip.render.toList = [digits ip.a, digits ip.b, digits ip.c, digits ip.d] := by
    rw [toList_render, fields_intercalate_eq (by simp [octets])]
    · rfl
    · simp only [List.forall_mem_map]
      exact fun _ _ => not_mem_toDigits (by decide) (by decide) (by decide) _
  rw [ofChars?, hfields]
  simp only [octet?_digits]
  rfl

/-- The parts of a text that is read as an address. -/
theorem exists_octets (h : ofChars? cs = some ip) : ∃ a b c d, fields '.' cs = [a, b, c, d] ∧
    octet? a = some ip.a ∧ octet? b = some ip.b ∧ octet? c = some ip.c ∧ octet? d = some ip.d := by
  unfold ofChars? at h
  split at h
  · rename_i a b c d hfields
    simp only [bind, Option.bind_eq_some_iff, pure, Option.some.injEq] at h
    obtain ⟨a', ha, b', hb, c', hc, d', hd, rfl⟩ := h
    exact ⟨a, b, c, d, hfields, ha, hb, hc, hd⟩
  · cases h

theorem digits_of_octet? (h : octet? cs = some o) : digits o = cs := by
  unfold octet? at h
  split at h
  · rename_i hform
    obtain ⟨n, hn, rfl⟩ := Option.map_eq_some_iff.mp h
    rw [Option.filter_eq_some_iff, decide_eq_true_eq] at hn
    rw [digits, UInt8.toNat_ofNat_of_lt' hn.2]
    exact toDigits_of_number? hn.1 hform.2
  · cases h

/-- There is one text for each address. -/
theorem render_of_ofChars? (h : ofChars? cs = some ip) : ip.render.toList = cs := by
  obtain ⟨a, b, c, d, hfields, ha, hb, hc, hd⟩ := exists_octets h
  rw [toList_render, ← joinFields_fields '.' cs, joinFields_eq_intercalate, hfields, ← digits_of_octet? ha,
    ← digits_of_octet? hb, ← digits_of_octet? hc, ← digits_of_octet? hd]
  rfl

theorem dot_mem_of_ofChars? (h : ofChars? cs = some ip) : '.' ∈ cs := by
  obtain ⟨a, b, c, d, hfields, -⟩ := exists_octets h
  have hlength := length_fields '.' cs
  rw [hfields] at hlength
  exact List.count_pos_iff.mp (by simp at hlength; omega)

theorem eq_dot_or_digit (h : ofChars? cs = some ip) : ∀ c ∈ cs, c = '.' ∨ (digit? 10 c).isSome := by
  intro c hc
  rw [← render_of_ofChars? h, toList_render] at hc
  by_cases hdot : c = '.'
  · exact .inl hdot
  · obtain ⟨part, hpart, hmem⟩ := (mem_intercalate hdot).mp hc
    obtain ⟨o, -, rfl⟩ := List.mem_map.mp hpart
    exact .inr (isSome_digit?_of_number? (number?_toDigits (by decide) (by decide) _) c hmem)

theorem forall_isAddressChar (h : ofChars? cs = some ip) : ∀ c ∈ cs, isAddressChar c := by
  intro c hc
  rcases eq_dot_or_digit h c hc with rfl | hdigit
  · rfl
  · exact isAddressChar_of_digit (by decide) hdigit

theorem colon_not_mem (h : ofChars? cs = some ip) : ':' ∉ cs := by
  intro hc
  rcases eq_dot_or_digit h _ hc with hdot | hdigit
  · exact absurd hdot (by decide)
  · exact absurd hdigit (by decide)

end IPv4

/-! ### IPv6 -/

namespace IPv6
variable {cs ds front back : List Char} {gs : List UInt16} {fs : List (List Char)} {ip : IPv6} {g : UInt16}
  {dotted : Bool}

theorem ofGroups?_toList (ip : IPv6) : ofGroups? ip.groups.toList = some ip := by
  rw [ofGroups?, dif_pos (by simp)]
  rfl

theorem length_of_ofGroups? (h : ofGroups? gs = some ip) : gs.length = 8 := by
  unfold ofGroups? at h
  split at h
  · rename_i hsize
    simpa using hsize
  · cases h

/-! #### Groups -/

def digits (g : UInt16) : List Char := Nat.toDigits 16 g.toNat

def joined (gs : List UInt16) : List Char := [':'].intercalate (gs.map digits)

theorem toList_renderGroups (gs : List UInt16) : (renderGroups gs).toList = joined gs := by
  have hdigits : String.toList ∘ (fun g : UInt16 => hex g.toNat) = digits := by
    funext g
    simp [hex, digits]
  rw [renderGroups, String.toList_intercalate, List.map_map, hdigits]
  rfl

theorem joined_cons_cons (g g' : UInt16) (gs : List UInt16) :
    joined (g :: g' :: gs) = digits g ++ ':' :: joined (g' :: gs) := by
  rw [joined, List.map_cons, List.map_cons, List.intercalate_cons_cons, List.append_assoc, List.singleton_append]
  rfl

theorem digits_ne_nil (g : UInt16) : digits g ≠ [] := Nat.toDigits_ne_nil

theorem colon_not_mem_digits (g : UInt16) : ':' ∉ digits g :=
  not_mem_toDigits (by decide) (by decide) (by decide) _

theorem group?_digits (g : UInt16) : group? (digits g) = some g := by
  have hlength : (digits g).length ≤ 4 := (Nat.length_toDigits_le_iff (by decide) (by decide)).mpr g.toNat_lt
  rw [group?, if_pos hlength, digits, number?_toDigits (by decide) (by decide), Option.map_some, UInt16.ofNat_toNat]

theorem groupsOfFields?_digits (dotted : Bool) (gs : List UInt16) :
    groupsOfFields? dotted (gs.map digits) = some gs := by
  induction gs with
  | nil => rfl
  | cons g gs ih =>
    cases gs with
    | nil => simp [groupsOfFields?, group?_digits]
    | cons g' gs =>
      rw [List.map_cons, List.map_cons, groupsOfFields?, group?_digits, ← List.map_cons, ih]
      · rfl
      · simp

theorem joined_ne_nil (g : UInt16) (gs : List UInt16) : joined (g :: gs) ≠ [] := by
  cases gs with
  | nil => simpa [joined] using digits_ne_nil g
  | cons g' gs => rw [joined_cons_cons]; simp

theorem groups?_joined (dotted : Bool) (gs : List UInt16) : groups? dotted (joined gs) = some gs := by
  cases gs with
  | nil => rfl
  | cons g gs =>
    have hfields : fields ':' (joined (g :: gs)) = (g :: gs).map digits :=
      fields_intercalate_eq (by simp) (by simpa using ⟨colon_not_mem_digits g, fun g _ => colon_not_mem_digits g⟩)
    rw [groups?, if_neg (by simpa using joined_ne_nil g gs), hfields, groupsOfFields?_digits]

/-! #### The double colon -/

theorem cutDoubleColon_cons {c : Char} (h : c = ':' → cs.head? ≠ some ':') :
    cutDoubleColon (c :: cs) = (cutDoubleColon cs).map fun cut => (c :: cut.1, cut.2) := by
  rw [cutDoubleColon]
  intro cs' hc hcs
  exact h hc (by rw [hcs]; rfl)

theorem cutDoubleColon_append (h : ':' ∉ front) (cs : List Char) :
    cutDoubleColon (front ++ cs) = (cutDoubleColon cs).map fun cut => (front ++ cut.1, cut.2) := by
  induction front with
  | nil => simp
  | cons c front ih =>
    rw [List.cons_append, cutDoubleColon_cons fun hc => absurd (hc ▸ .head _) h, ih fun hmem => h (.tail _ hmem),
      Option.map_map]
    rfl

theorem head?_joined_append (g : UInt16) (gs : List UInt16) (cs : List Char) :
    (joined (g :: gs) ++ cs).head? ≠ some ':' := by
  obtain ⟨c, rest, hdigits⟩ := List.exists_cons_of_ne_nil (digits_ne_nil g)
  have hc : c ≠ ':' := fun hc => colon_not_mem_digits g (by rw [hdigits, hc]; exact .head _)
  cases gs with
  | nil => simpa [joined, hdigits] using hc
  | cons g' gs => simpa [joined_cons_cons, hdigits] using hc

theorem cutDoubleColon_joined (gs : List UInt16) (cs : List Char) :
    cutDoubleColon (joined gs ++ cs) = (cutDoubleColon cs).map fun cut => (joined gs ++ cut.1, cut.2) := by
  induction gs with
  | nil => simp [joined]
  | cons g gs ih =>
    cases gs with
    | nil => simpa [joined] using cutDoubleColon_append (colon_not_mem_digits g) cs
    | cons g' gs =>
      rw [joined_cons_cons, List.append_assoc, List.cons_append, cutDoubleColon_append (colon_not_mem_digits g),
        cutDoubleColon_cons fun _ => head?_joined_append g' gs cs, ih, Option.map_map, Option.map_map]
      simp [Function.comp_def]

theorem eq_of_cutDoubleColon (h : cutDoubleColon cs = some (front, back)) : cs = front ++ ':' :: ':' :: back := by
  induction cs generalizing front with
  | nil => cases h
  | cons c cs ih =>
    by_cases hcolons : c = ':' ∧ cs.head? = some ':'
    · obtain ⟨rfl, hhead⟩ := hcolons
      obtain ⟨rest, rfl⟩ := List.head?_eq_some_iff.mp hhead
      cases h
      rfl
    · rw [cutDoubleColon_cons fun hc hhead => hcolons ⟨hc, hhead⟩] at h
      obtain ⟨cut, hcut, heq⟩ := Option.map_eq_some_iff.mp h
      cases heq
      rw [ih hcut]
      rfl

/-! #### Runs of zero groups -/

theorem eq_replicate_zerosAhead (gs : List UInt16) :
    gs = List.replicate (zerosAhead gs) 0 ++ gs.drop (zerosAhead gs) := by
  induction gs with
  | nil => rfl
  | cons g gs ih =>
    by_cases hg : g = 0
    · have hahead : zerosAhead (g :: gs) = zerosAhead gs + 1 := by simp [zerosAhead, hg]
      rw [hahead, List.replicate_succ, List.drop_succ_cons, List.cons_append, ← ih, hg]
    · have hahead : zerosAhead (g :: gs) = 0 := by simp [zerosAhead, hg]
      rw [hahead]
      rfl

/-- Between what stands before and after the longest run of zeros there are as many zeros as it is long. -/
theorem take_longestZeros (gs : List UInt16) : gs = gs.take (longestZeros gs).1 ++
    List.replicate (longestZeros gs).2 0 ++ gs.drop ((longestZeros gs).1 + (longestZeros gs).2) := by
  induction gs with
  | nil => rfl
  | cons g gs ih =>
    rw [longestZeros]
    dsimp only
    split
    · simpa using eq_replicate_zerosAhead (g :: gs)
    · rw [List.take_succ_cons, Nat.add_right_comm, List.drop_succ_cons, List.cons_append, List.cons_append, ← ih]

/-! #### Whole addresses -/

theorem word_bytes (x : UInt16) : (x >>> 8).toUInt8.toUInt16 <<< 8 ||| x.toUInt8.toUInt16 = x := by
  have hx : x.toNat < 65536 := x.toNat_lt
  have hquot : x.toNat / 256 < 256 := by omega
  have hmod : x.toNat % 256 < 2 ^ 8 := by omega
  have hhigh : ((x >>> 8).toUInt8.toUInt16 <<< 8).toNat = (x.toNat / 256) <<< 8 := by
    simp [Nat.shiftRight_eq_div_pow, Nat.shiftLeft_eq, Nat.mod_eq_of_lt hquot]
    omega
  have hlow : x.toUInt8.toUInt16.toNat = x.toNat % 256 := by simp
  rw [← UInt16.toNat_inj, UInt16.toNat_or, hhigh, hlow, ← Nat.shiftLeft_add_eq_or_of_lt hmod, Nat.shiftLeft_eq]
  omega

theorem group?_eq_none (h : '.' ∈ cs) : group? cs = none := by
  unfold group?
  split
  · rw [Option.map_eq_none_iff]
    cases hn : number? 16 cs with
    | none => rfl
    | some n => exact absurd h (not_mem_of_number? (by decide) (Nat.le_refl 16) hn)
  · rfl

theorem groups?_dotted (ip : IPv4) : groups? true ("ffff:".toList ++ ip.render.toList) =
    some (0xFFFF :: groupsOfIPv4 ip) := by
  have hip := IPv4.ofChars?_render ip
  have hfields : fields ':' ("ffff:".toList ++ ip.render.toList) = ["ffff".toList, ip.render.toList] := by
    have htext : "ffff:".toList ++ ip.render.toList = "ffff".toList ++ ':' :: ip.render.toList := rfl
    rw [htext, fields_append_sep, fields_eq_singleton.mpr (by decide),
      fields_eq_singleton.mpr (IPv4.colon_not_mem hip)]
    rfl
  have hffff : group? "ffff".toList = some 0xFFFF := by decide
  rw [groups?, if_neg (by simp), hfields, groupsOfFields?, hffff, groupsOfFields?,
    group?_eq_none (IPv4.dot_mem_of_ofChars? hip), hip]
  · rfl
  · simp

theorem ofChars?_joined (gs : List UInt16) : ofChars? (joined gs) = ofGroups? gs := by
  have hcut := cutDoubleColon_joined gs []
  rw [List.append_nil] at hcut
  rw [ofChars?, hcut]
  simp [cutDoubleColon, groups?_joined]

/-- The double colon stands for the groups that are missing. -/
theorem ofChars?_joined_append {front back : List UInt16} (h : front.length + back.length < 8) :
    ofChars? (joined front ++ ':' :: ':' :: joined back) =
      ofGroups? (front ++ List.replicate (8 - front.length - back.length) 0 ++ back) := by
  have hcolons : cutDoubleColon (':' :: ':' :: joined back) = some ([], joined back) := rfl
  rw [ofChars?, cutDoubleColon_joined, hcolons]
  simp [groups?_joined, h]

theorem toList_renderGroups_append (front back : List UInt16) :
    (renderGroups front ++ "::" ++ renderGroups back).toList = joined front ++ ':' :: ':' :: joined back := by
  simp [toList_renderGroups]

theorem ofChars?_render (ip : IPv6) : ofChars? ip.render.toList = some ip := by
  have hip := ofGroups?_toList ip
  have hlength : ip.groups.toList.length = 8 := by simp
  unfold render
  split
  · rename_i x y hgroups
    have hcut : ∀ cs, cutDoubleColon (':' :: ':' :: cs) = some ([], cs) := fun _ => rfl
    have htext : ∀ s : String, ("::ffff:" ++ s).toList = ':' :: ':' :: ("ffff:".toList ++ s.toList) := by simp
    have hbytes : groupsOfIPv4 (IPv4.mk (x >>> 8).toUInt8 x.toUInt8 (y >>> 8).toUInt8 y.toUInt8) = [x, y] :=
      congrArg₂ (fun x y => [x, y]) (word_bytes x) (word_bytes y)
    rw [ofChars?, htext, hcut]
    simp only [groups?_dotted, hbytes]
    rw [hgroups] at hip
    exact hip
  · have hzeros := take_longestZeros ip.groups.toList
    generalize longestZeros ip.groups.toList = run at hzeros ⊢
    obtain ⟨start, length⟩ := run
    dsimp only at hzeros ⊢
    split
    · rw [toList_renderGroups, ofChars?_joined, hip]
    · rename_i hrun
      have hall : start + length ≤ 8 := by
        have hsum := congrArg List.length hzeros
        simp at hsum
        omega
      have htake : (ip.groups.toList.take start).length = start := by
        rw [List.length_take, hlength]
        omega
      have hdrop : (ip.groups.toList.drop (start + length)).length = 8 - (start + length) := by
        rw [List.length_drop, hlength]
      have hbetween : 8 - start - (8 - (start + length)) = length := by omega
      rw [toList_renderGroups_append, ofChars?_joined_append (by omega), htake, hdrop, hbetween, ← hzeros, hip]

/-! #### The texts of addresses -/

theorem isAddressChar_of_group? (h : group? cs = some g) : ∀ c ∈ cs, isAddressChar c := by
  unfold group? at h
  split at h
  · obtain ⟨n, hn, -⟩ := Option.map_eq_some_iff.mp h
    exact fun c hc => isAddressChar_of_digit (Nat.le_refl 16) (isSome_digit?_of_number? hn c hc)
  · cases h

/-- Only the last field can be more than one group, and it is two at most. -/
theorem of_groupsOfFields? (h : groupsOfFields? dotted fs = some gs) :
    gs.length ≤ fs.length + 1 ∧ ∀ f ∈ fs, ∀ c ∈ f, isAddressChar c := by
  induction fs using groupsOfFields?.induct dotted generalizing gs with
  | case1 => cases h; simp
  | case2 f g hg =>
    rw [groupsOfFields?, hg] at h
    cases h
    simpa using isAddressChar_of_group? hg
  | case3 f hg hdotted =>
    rw [groupsOfFields?, hg] at h
    obtain ⟨ip, hip, rfl⟩ := Option.map_eq_some_iff.mp (by simpa [hdotted] using h)
    simpa [groupsOfIPv4] using IPv4.forall_isAddressChar hip
  | case4 f hg hdotted =>
    rw [groupsOfFields?, hg] at h
    simp [hdotted] at h
  | case5 f fs hfs ih =>
    rw [groupsOfFields?] at h
    · simp only [Option.bind_eq_bind, Option.bind_eq_some_iff, Option.pure_def, Option.some.injEq] at h
      obtain ⟨g, hg, rest, hrest, rfl⟩ := h
      obtain ⟨hlength, hchars⟩ := ih hrest
      exact ⟨by simpa using hlength, List.forall_mem_cons.mpr ⟨isAddressChar_of_group? hg, hchars⟩⟩
    · exact hfs

theorem of_groups? (h : groups? dotted cs = some gs) :
    gs.length ≤ cs.count ':' + 2 ∧ ∀ c ∈ cs, isAddressChar c := by
  unfold groups? at h
  split at h
  · rename_i hnil
    cases h
    simp [List.isEmpty_iff.mp hnil]
  · obtain ⟨hlength, hchars⟩ := of_groupsOfFields? h
    rw [length_fields] at hlength
    refine ⟨hlength, fun c hc => ?_⟩
    rcases @mem_fields ':' _ _ hc with rfl | ⟨f, hf, hmem⟩
    · rfl
    · exact hchars f hf c hmem

/-- What a text that is read as an address looks like. -/
theorem of_ofChars? (h : ofChars? cs = some ip) : 2 ≤ cs.count ':' ∧ ∀ c ∈ cs, isAddressChar c := by
  unfold ofChars? at h
  split at h
  · obtain ⟨gs, hgs, hip⟩ := Option.bind_eq_some_iff.mp h
    obtain ⟨hlength, hchars⟩ := of_groups? hgs
    have height := length_of_ofGroups? hip
    exact ⟨by omega, hchars⟩
  · rename_i before after hcut
    obtain ⟨front, hfront, h⟩ := Option.bind_eq_some_iff.mp h
    obtain ⟨back, hback, -⟩ := Option.bind_eq_some_iff.mp h
    have hbefore := (of_groups? hfront).2
    have hafter := (of_groups? hback).2
    have hcolon : isAddressChar ':' := rfl
    rw [eq_of_cutDoubleColon hcut]
    simp only [List.count_append, List.count_cons_self, List.forall_mem_append, List.forall_mem_cons]
    exact ⟨by omega, hbefore, hcolon, hcolon, hafter⟩

end IPv6

/-! ### Addresses of either kind -/

namespace IP
variable {cs : List Char} {ip : IP}

theorem ofChars?_render (ip : IP) : ofChars? ip.render.toList = some ip := by
  cases ip with
  | v4 ip => simp [ofChars?, render, IPv4.ofChars?_render]
  | v6 ip =>
    have hcolons := (IPv6.of_ofChars? (IPv6.ofChars?_render ip)).1
    have hv4 : IPv4.ofChars? ip.render.toList = none := by
      cases hip : IPv4.ofChars? ip.render.toList with
      | none => rfl
      | some ip' => rw [List.count_eq_zero.mpr (IPv4.colon_not_mem hip)] at hcolons; omega
    simp [ofChars?, render, hv4, IPv6.ofChars?_render]

theorem ofChars?_cases (h : ofChars? cs = some ip) :
    (∃ ip', ip = .v4 ip' ∧ IPv4.ofChars? cs = some ip') ∨ ∃ ip', ip = .v6 ip' ∧ IPv6.ofChars? cs = some ip' := by
  unfold ofChars? at h
  cases hip : IPv4.ofChars? cs with
  | some ip' =>
    rw [hip] at h
    cases h
    exact .inl ⟨ip', rfl, rfl⟩
  | none =>
    rw [hip] at h
    obtain ⟨ip', hip', rfl⟩ := Option.map_eq_some_iff.mp h
    exact .inr ⟨ip', rfl, hip'⟩

/-- There is no colon in an IPv4 address, and there are several in an IPv6 one. -/
theorem count_colon_ne_one (h : ofChars? cs = some ip) : cs.count ':' ≠ 1 := by
  rcases ofChars?_cases h with ⟨ip', -, hip⟩ | ⟨ip', -, hip⟩
  · rw [List.count_eq_zero.mpr (IPv4.colon_not_mem hip)]
    decide
  · have htwo := (IPv6.of_ofChars? hip).1
    omega

theorem forall_isAddressChar (h : ofChars? cs = some ip) : ∀ c ∈ cs, isAddressChar c := by
  rcases ofChars?_cases h with ⟨ip', -, hip⟩ | ⟨ip', -, hip⟩
  · exact IPv4.forall_isAddressChar hip
  · exact (IPv6.of_ofChars? hip).2

theorem not_mem {c : Char} (h : ofChars? cs = some ip) (hc : isAddressChar c = false) : c ∉ cs := by
  intro hmem
  rw [forall_isAddressChar h c hmem] at hc
  cases hc

end IP
end FilterWatch
