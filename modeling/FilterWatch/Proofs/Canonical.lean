import FilterWatch.Proofs.NormalForm

/-!
# One spelling for each name

Two texts spell the same name when they differ in the case of letters, in the root dot and in the blanks around them at
most (`SameName`, `Surrounded`). Normalizing takes them, and no others, to one text (`normalize_eq_iff`), which is in
the plain characters of `IsCanonical`. So a name has one cache key for each resolver, and shares it with no other name.
-/

namespace FilterWatch
open Text

/-- The texts differ in the case of ASCII letters and in a root dot at most. -/
def SameName (a b : String) : Prop := SameLetters (dropRootDot a.toList) (dropRootDot b.toList)

instance (a b : String) : Decidable (SameName a b) := inferInstanceAs (Decidable (SameLetters _ _))

/-- Small letters, digits, hyphens, underscores and dots, with no dot at either end. -/
structure IsCanonical (name : String) : Prop where
  chars : ∀ c ∈ name.toList, 'a' ≤ c ∧ c ≤ 'z' ∨ '0' ≤ c ∧ c ≤ '9' ∨ c = '-' ∨ c = '_' ∨ c = '.'
  head : name.toList.head? ≠ some '.'
  last : name.toList.getLast? ≠ some '.'
  colon : ':' ∉ name.toList

section
variable {c : Char} {cs : List Char} {a b x y : String}

theorem not_blank_of_isLabelChar (h : isLabelChar c) : isBlank c = false := by
  have hall : isLabelChar c → isBlank c = false := of_ascii (ascii_of_isLabelChar h) (by decide)
  exact hall h

theorem not_blank_of_isValidDomain (h : isValidDomain a) : ∀ c ∈ a.toList, isBlank c = false := by
  intro c hc
  rcases isLabelChar_of_isValidDomain h hc with rfl | hlabel
  · decide
  · exact not_blank_of_isLabelChar hlabel

theorem dropLoneRootDot_of_isValidDomain (h : isValidDomain a) :
    dropLoneRootDot a.toList = dropRootDot a.toList := by
  obtain ⟨-, hlabels⟩ := isLabel_of_isValidDomain h
  by_cases hdot : a.toList.getLast? = some '.'
  · rw [dropRootDot, if_pos hdot] at hlabels ⊢
    refine dropLoneRootDot_of ⟨hdot, ?_⟩
    cases hlast : a.toList.dropLast.getLast? with
    | none => rfl
    | some c =>
      have hne : c ≠ '.' := by
        rintro rfl
        exact (ends_of_labels hlabels).2 hlast
      have hc := (List.dropLast_sublist _).mem (List.mem_of_getLast? hlast)
      simp [hne, not_blank_of_isValidDomain h c hc]
  · rw [dropRootDot, if_neg hdot]
    exact dropLoneRootDot_of_not fun hlone => hdot hlone.1

/-- The normal spelling of a valid domain with blanks around it. -/
theorem toList_normalize (h : isValidDomain a) (hx : Surrounded a.toList x.toList) :
    (normalize x).toList = (dropRootDot a.toList).map asciiLower := by
  have hlatin : ∀ c ∈ x.toList, IsLatin c ∨ isBlank c := by
    obtain ⟨front, back, hfront, hback, htext⟩ := hx
    intro c hc
    rw [htext, List.mem_append, List.mem_append] at hc
    rcases hc with (hc | hc) | hc
    · exact .inr (hfront c hc)
    · exact .inl (.inl (ascii_of_isValidDomain h hc))
    · exact .inr (hback c hc)
  have hkelvin : kelvin ∉ a.toList := fun hk => absurd (ascii_of_isValidDomain h hk) (by decide)
  have hblank : ∀ c, isBlank ((asciiLower ∘ spelled) c) = isBlank c := by simp
  have htrimmed := hx.trimmed_eq (.of_forall (not_blank_of_isValidDomain h))
  rw [normalize, String.toList_ofList, lower_eq_map hlatin, trimmed_map hblank, htrimmed, ← List.map_map,
    map_spelled hkelvin, dropLoneRootDot_map (fun _ => asciiLower_eq_dot) isBlank_asciiLower,
    dropLoneRootDot_of_isValidDomain h]

theorem normalize_eq_iff (ha : isValidDomain a) (hb : isValidDomain b) (hx : Surrounded a.toList x.toList)
    (hy : Surrounded b.toList y.toList) : normalize x = normalize y ↔ SameName a b := by
  rw [← String.toList_inj, toList_normalize ha hx, toList_normalize hb hy]
  rfl

theorem isValidDomain_normalize_of_surrounded (h : isValidDomain a) (hx : Surrounded a.toList x.toList) :
    isValidDomain (normalize x) := by
  refine isValidDomain_normalize_of_trim ?_
  rw [trim, hx.trimmed_eq (.of_forall (not_blank_of_isValidDomain h)), String.ofList_toList]
  exact h

theorem of_isLabelChar_of_isSmall (h : isLabelChar c) (hsmall : IsSmall c) :
    'a' ≤ c ∧ c ≤ 'z' ∨ '0' ≤ c ∧ c ≤ '9' ∨ c = '-' ∨ c = '_' := by
  have hcapital : ¬ ('A' ≤ c ∧ c ≤ 'Z') := by
    intro hc
    have hne : asciiLower c ≠ c := of_capital hc (by decide)
    exact hne hsmall.asciiLower_eq
  simp only [isLabelChar, isAsciiLetter, isAsciiDigit, Bool.or_eq_true, Bool.and_eq_true, decide_eq_true_eq,
    beq_iff_eq] at h
  tauto

theorem isCanonical_of_isNormal (h : isValidDomain a) (hnormal : IsNormal a.toList) : IsCanonical a := by
  have hroot : dropRootDot a.toList = a.toList := by
    rw [← dropLoneRootDot_of_isValidDomain h, dropLoneRootDot_of_not hnormal.rootless]
  have hends := ends_of_labels (isLabel_of_isValidDomain h).2
  rw [hroot] at hends
  refine ⟨fun c hc => ?_, hends.1, hends.2, colon_notMem_of_isValidDomain h⟩
  rcases isLabelChar_of_isValidDomain h hc with rfl | hlabel
  · simp
  · have := of_isLabelChar_of_isSmall hlabel (hnormal.small c hc)
    tauto

/-- How two texts compare that have valid domains between blanks. -/
structure Compared (a b x y : String) : Prop where
  spelling : normalize x = normalize y ↔ SameName a b
  key : ∀ r, cacheKey (normalize x) r = cacheKey (normalize y) r ↔ SameName a b
  apart : ¬ SameName a b → ∀ r s, cacheKey (normalize x) r ≠ cacheKey (normalize y) s
  check : SameName a b → ∀ p : CheckPolicy, p.check x = p.check y

theorem compared_of_surrounded (ha : isValidDomain a) (hb : isValidDomain b) (hx : Surrounded a.toList x.toList)
    (hy : Surrounded b.toList y.toList) : Compared a b x y := by
  have hspelling := normalize_eq_iff ha hb hx hy
  have hkeys {r s : Resolver} (h : cacheKey (normalize x) r = cacheKey (normalize y) s) : SameName a b :=
    hspelling.mp ((cacheKey_eq_cacheKey (isValidDomain_normalize_of_surrounded ha hx)
      (isValidDomain_normalize_of_surrounded hb hy)).mp h).1
  refine ⟨hspelling, fun r => ⟨hkeys, fun hsame => by rw [hspelling.mpr hsame]⟩, fun hne r s h => hne (hkeys h), ?_⟩
  intro hsame p
  rw [CheckPolicy.check, CheckPolicy.check, hspelling.mpr hsame]

end

/-- The normal spelling of a name, for the texts that are a valid domain between blanks and, more widely, for all those
that normalizing makes one of. -/
theorem canonical_spelling :
    (∀ a b x y : String, isValidDomain a → isValidDomain b → Surrounded a.toList x.toList →
      Surrounded b.toList y.toList → Compared a b x y) ∧
    ∀ x : String, isValidDomain (normalize x) → IsCanonical (normalize x) ∧
      ∀ y r s, isValidDomain (normalize y) → cacheKey (normalize x) r = cacheKey (normalize y) s →
        normalize x = normalize y := by
  refine ⟨fun a b x y => compared_of_surrounded, fun x hx => ⟨?_, ?_⟩⟩
  · exact isCanonical_of_isNormal hx (isNormal_normalize x)
  · intro y r s hy hkey
    exact ((cacheKey_eq_cacheKey hx hy).mp hkey).1

theorem canonical_spelling_padded :
    let r : Resolver := ⟨"10.0.0.1", "53:block", .a⟩
    (isValidDomain "Reddit.COM." ∧ Surrounded "Reddit.COM.".toList "\t Reddit.COM.\u00A0".toList ∧
      isValidDomain "reddit.com" ∧ Surrounded "reddit.com".toList "reddit.com\n".toList) ∧
    cacheKey (normalize "\t Reddit.COM.\u00A0") r = cacheKey (normalize "reddit.com\n") r ∧
    cacheKey (normalize "\t Reddit.COM.\u00A0") r ≠ cacheKey (normalize "reddit.co") r ∧
    IsCanonical (normalize "\t Reddit.COM.\u00A0") := by
  intro r
  have hvalid : isValidDomain "Reddit.COM." := by decide +kernel
  have hvalid' : isValidDomain "reddit.com" := by decide +kernel
  have hsurrounded : Surrounded "Reddit.COM.".toList "\t Reddit.COM.\u00A0".toList :=
    ⟨['\t', ' '], ['\u00A0'], List.all_eq_true.mp (by decide), List.all_eq_true.mp (by decide), by decide⟩
  have hsurrounded' : Surrounded "reddit.com".toList "reddit.com\n".toList :=
    ⟨[], ['\n'], List.all_eq_true.mp (by decide), List.all_eq_true.mp (by decide), by decide⟩
  refine ⟨⟨hvalid, hsurrounded, hvalid', hsurrounded'⟩, ?_, ?_, ?_⟩
  · exact ((canonical_spelling.1 _ _ _ _ hvalid hvalid' hsurrounded hsurrounded').key r).mpr (by decide +kernel)
  · exact (canonical_spelling.1 _ "reddit.co" _ _ hvalid (by decide +kernel) hsurrounded (.refl _)).apart
      (by decide +kernel) r r
  · exact (canonical_spelling.2 _ (isValidDomain_normalize_of_surrounded hvalid hsurrounded)).1

end FilterWatch
