import FilterWatch.Proofs.CacheKey
import FilterWatch.Proofs.Lowercase
import FilterWatch.Proofs.Trimming

/-!
# Names as they are written

A check judges the normal spelling of a name. The steps to that spelling commute with the map that lower case is on
letters (`trimmed_map`, `dropLoneRootDot_map`), and neither the case of letters nor a root dot matters to the grammar,
so the normal spelling is a name exactly if the text is one, without the blanks around it and with each Kelvin sign
read as the letter that it becomes (`isValidDomain_normalize`). A text that is no name in this reading is refused
without asking the cache or the network.
-/

namespace FilterWatch
open Text

section
variable {f : Char → Char} {c : Char} {cs : List Char}

theorem getLast?_map_eq_dot (hdot : ∀ c, f c = '.' ↔ c = '.') :
    (cs.map f).getLast? = some '.' ↔ cs.getLast? = some '.' := by
  rw [List.getLast?_map]
  cases cs.getLast? <;> simp [hdot]

theorem dropRootDot_map (hdot : ∀ c, f c = '.' ↔ c = '.') : dropRootDot (cs.map f) = (dropRootDot cs).map f := by
  simp only [dropRootDot, getLast?_map_eq_dot hdot, ← List.map_dropLast]
  split <;> rfl

theorem dropLoneRootDot_map (hdot : ∀ c, f c = '.' ↔ c = '.') (hblank : ∀ c, isBlank (f c) = isBlank c) :
    dropLoneRootDot (cs.map f) = (dropLoneRootDot cs).map f := by
  have hbefore : (cs.dropLast.map f).getLast?.all (fun c => c != '.' && !isBlank c) =
      cs.dropLast.getLast?.all (fun c => c != '.' && !isBlank c) := by
    rw [List.getLast?_map]
    cases cs.dropLast.getLast? with
    | none => rfl
    | some c =>
      have hne : (f c != '.') = (c != '.') := by simp [bne, hdot]
      simp only [Option.map_some, Option.all_some, hne, hblank]
  simp only [dropLoneRootDot, getLast?_map_eq_dot hdot, ← List.map_dropLast, hbefore]
  split <;> rfl

theorem mem_dropLoneRootDot (h : c ∈ cs) (hc : c ≠ '.') : c ∈ dropLoneRootDot cs := by
  unfold dropLoneRootDot
  split
  · rename_i hlast
    rw [← List.dropLast_append_getLast? '.' hlast.1, List.mem_append, List.mem_singleton] at h
    exact h.resolve_right hc
  · exact h

theorem mem_of_mem_dropLoneRootDot (h : c ∈ dropLoneRootDot cs) : c ∈ cs := by
  unfold dropLoneRootDot at h
  split at h
  · exact (List.dropLast_sublist _).mem h
  · exact h

theorem dropRootDot_dropLoneRootDot (cs : List Char) : dropRootDot (dropLoneRootDot cs) = dropRootDot cs := by
  unfold dropLoneRootDot
  split
  · rename_i h
    obtain ⟨hlast, hbefore⟩ := h
    have hne : cs.dropLast.getLast? ≠ some '.' := by
      intro hdot
      simp [hdot] at hbefore
    rw [dropRootDot, dropRootDot, if_neg hne, if_pos hlast]
  · rfl

/-! ### The grammar and the case of letters -/

theorem isLabelChar_asciiLower (c : Char) : isLabelChar (asciiLower c) = isLabelChar c :=
  apply_asciiLower isLabelChar (by decide) c

theorem isAsciiLetter_asciiLower (c : Char) : isAsciiLetter (asciiLower c) = isAsciiLetter c :=
  apply_asciiLower isAsciiLetter (by decide) c

theorem isLabel_map_asciiLower (cs : List Char) : isLabel (cs.map asciiLower) = isLabel cs := by
  have hhyphen : ∀ c? : Option Char, (c?.map asciiLower != some '-') = (c? != some '-') := by
    intro c?
    cases c? <;> simp [bne]
  have hchars : isLabelChar ∘ asciiLower = isLabelChar := funext isLabelChar_asciiLower
  simp only [isLabel, List.isEmpty_map, List.length_map, List.head?_map, List.getLast?_map, List.all_map, hhyphen,
    hchars]

theorem isTopLabel_map_asciiLower (cs : List Char) : isTopLabel (cs.map asciiLower) = isTopLabel cs := by
  have hletters : isAsciiLetter ∘ asciiLower = isAsciiLetter := funext isAsciiLetter_asciiLower
  have htwice : asciiLower ∘ asciiLower = asciiLower := funext asciiLower_asciiLower
  simp only [isTopLabel, List.length_map, ← List.map_take, List.map_map, List.all_map, hletters, htwice]

theorem areNameLabels_map_asciiLower (labels : List (List Char)) :
    areNameLabels (labels.map (List.map asciiLower)) = areNameLabels labels := by
  have hlabel : isLabel ∘ List.map asciiLower = isLabel := funext isLabel_map_asciiLower
  simp only [areNameLabels, List.length_map, List.all_map, List.getLast?_map, Option.all_map, hlabel,
    isTopLabel_map_asciiLower]

theorem isValidDomain_map_asciiLower (cs : List Char) :
    isValidDomain (.ofList (cs.map asciiLower)) = isValidDomain (.ofList cs) := by
  simp only [isValidDomain, String.toList_ofList, dropRootDot_map fun _ => asciiLower_eq_dot,
    fields_map fun _ => asciiLower_eq_dot, List.length_map, areNameLabels_map_asciiLower]

theorem isValidDomain_dropLoneRootDot (cs : List Char) :
    isValidDomain (.ofList (dropLoneRootDot cs)) = isValidDomain (.ofList cs) := by
  simp only [isValidDomain, String.toList_ofList, dropRootDot_dropLoneRootDot]

theorem isValidDomain_of_foreign (hmem : c ∈ cs) (hc : 0x80 ≤ c.toNat) : isValidDomain (.ofList cs) = false := by
  refine Bool.eq_false_iff.mpr fun hvalid => ?_
  have := ascii_of_isValidDomain hvalid (c := c) (by simpa using hmem)
  omega

end

/-! ### The normal spelling -/

def trim (text : String) : String := .ofList (trimmed text.toList)

/-- The text without the blanks around it, with a letter for each Kelvin sign. -/
def respelled (text : String) : String := .ofList ((trimmed text.toList).map spelled)

section
variable {raw : String} {c : Char}

theorem respelled_eq_trim (h : kelvin ∉ raw.toList) : respelled raw = trim raw := by
  rw [respelled, map_spelled fun hk => h (mem_of_mem_trimmed hk)]
  rfl

/-- The normal spelling of a text is a name exactly if the text as it is written is one, when each Kelvin sign in it is
read as a letter. -/
theorem isValidDomain_normalize (raw : String) : isValidDomain (normalize raw) = isValidDomain (respelled raw) := by
  by_cases hall : ∀ c ∈ raw.toList, IsLatin c ∨ isBlank c
  · have hblank : ∀ c, isBlank ((asciiLower ∘ spelled) c) = isBlank c := by simp
    rw [normalize, lower_eq_map hall, trimmed_map hblank, isValidDomain_dropLoneRootDot, ← List.map_map,
      isValidDomain_map_asciiLower, respelled]
  · push Not at hall
    obtain ⟨c, hmem, hlatin, hnonblank⟩ := hall
    have hblank : isBlank c = false := Bool.eq_false_iff.mpr hnonblank
    have hforeign : 0x80 ≤ c.toNat := Nat.le_of_not_lt fun hlt => hlatin (.inl hlt)
    have hwritten : isValidDomain (respelled raw) = false := by
      refine isValidDomain_of_foreign (List.mem_map.mpr ⟨c, mem_trimmed hmem hblank, ?_⟩) hforeign
      exact spelled_of_not_latin hlatin
    obtain ⟨d, hd, hdforeign, hdblank⟩ := exists_mem_lowerFrom hlatin hblank hmem []
    have hdot : d ≠ '.' := by
      rintro rfl
      exact absurd hdforeign (by decide)
    rw [hwritten, normalize]
    exact isValidDomain_of_foreign (mem_dropLoneRootDot (mem_trimmed hd hdblank) hdot) hdforeign

theorem isValidDomain_normalize_of_no_kelvin (h : kelvin ∉ raw.toList) :
    isValidDomain (normalize raw) = isValidDomain (trim raw) := by
  rw [isValidDomain_normalize, respelled_eq_trim h]

theorem isValidDomain_normalize_of_trim (h : isValidDomain (trim raw)) : isValidDomain (normalize raw) := by
  have hkelvin : kelvin ∉ trimmed raw.toList := fun hk =>
    absurd (ascii_of_isValidDomain h (by simpa [trim] using hk)) (by decide)
  rw [isValidDomain_normalize, respelled, map_spelled hkelvin]
  exact h

theorem isValidDomain_normalize_of_foreign (hmem : c ∈ (trim raw).toList) (hc : 0x80 ≤ c.toNat) (hk : c ≠ kelvin) :
    isValidDomain (normalize raw) = false := by
  have hwritten : c ∈ trimmed raw.toList := by simpa [trim] using hmem
  rw [isValidDomain_normalize]
  exact isValidDomain_of_foreign (List.mem_map.mpr ⟨c, hwritten, if_neg hk⟩) hc

end

theorem mem_of_mem_normalize {raw : String} {c : Char} (h : c ∈ (normalize raw).toList) (hc : isBlank c) :
    c ∈ raw.toList := by
  rw [normalize, String.toList_ofList] at h
  exact mem_of_mem_lowerFrom (mem_of_mem_trimmed (mem_of_mem_dropLoneRootDot h)) hc

/-! ### Checks -/

/-- How checks judge a text. -/
structure JudgedAsWritten (raw : String) : Prop where
  /-- A text counts as a name if it is one as it is written, apart from the blanks around it and from Kelvin signs. -/
  judged : isValidDomain (normalize raw) = isValidDomain (respelled raw)
  literal : kelvin ∉ raw.toList → isValidDomain (normalize raw) = isValidDomain (trim raw)
  accepted : isValidDomain (trim raw) → isValidDomain (normalize raw)
  /-- No other character outside of ASCII passes. -/
  foreign : ∀ c ∈ (trim raw).toList, 0x80 ≤ c.toNat → c ≠ kelvin → isValidDomain (normalize raw) = false
  ascii : isValidDomain (normalize raw) → ∀ c ∈ (normalize raw).toList, c.toNat < 0x80
  /-- In any surroundings, all that a check of another text does is to count itself. -/
  refused : isValidDomain (respelled raw) = false → ∀ (p : CheckPolicy) net meanwhile w ds w' x,
    (p.check raw).Runs net meanwhile w ds w' x →
      ds = [.count (.check false true)] ∧ x = .ok (.failed (normalize raw) (.invalidInput (normalize raw)))
  /-- A check of one domain leaves the cache and the journal as they are then: nothing is exchanged, read or stored. -/
  checkOne : isValidDomain (respelled raw) = false → ∀ (c : Checker) net call, c.resolvers ≠ [] →
    c.checkOne net call raw = ({ c with world := (call.world c.world).count (.check false true) },
      .ok (.failed (normalize raw) (.invalidInput (normalize raw))))

theorem refused_runs {raw : String} (h : isValidDomain (normalize raw) = false) {p : CheckPolicy} {net : Network}
    {meanwhile : World → World → Prop} {w w' : World} {ds : List Deed} {x : Except Fault Outcome}
    (hruns : (p.check raw).Runs net meanwhile w ds w' x) :
    ds = [.count (.check false true)] ∧ x = .ok (.failed (normalize raw) (.invalidInput (normalize raw))) := by
  rw [CheckPolicy.check_of_invalid h] at hruns
  cases hruns with
  | count hruns =>
    cases hruns
    exact ⟨rfl, rfl⟩

theorem Checker.checkOne_of_invalid {c : Checker} {net : Network} {call : Call} {raw : String}
    (hne : c.resolvers ≠ []) (h : isValidDomain (normalize raw) = false) :
    c.checkOne net call raw = ({ c with world := (call.world c.world).count (.check false true) },
      .ok (.failed (normalize raw) (.invalidInput (normalize raw)))) := by
  have hcheck : c.policy.check raw =
      .count (.check false true) (.done (.failed (normalize raw) (.invalidInput (normalize raw)))) :=
    CheckPolicy.check_of_invalid h
  have hatOnce : c.atOnce net call raw = ({ c with world := (call.world c.world).count (.check false true) },
      some (.ok (.failed (normalize raw) (.invalidInput (normalize raw))))) := by
    rw [Checker.atOnce, hcheck]
    rfl
  rw [Checker.checkOne_of_atOnce hne (congrArg (·.2) hatOnce), hatOnce]

/-- Texts are judged as they are written, but for the Kelvin sign: a check refuses every other text that is no name
before it asks the cache or the network. -/
theorem judged_as_written (raw : String) : JudgedAsWritten raw where
  judged := isValidDomain_normalize raw
  literal := isValidDomain_normalize_of_no_kelvin
  accepted := isValidDomain_normalize_of_trim
  foreign _ := isValidDomain_normalize_of_foreign
  ascii h _ := ascii_of_isValidDomain h
  refused h _ _ _ _ _ _ _ := refused_runs ((isValidDomain_normalize raw).trans h)
  checkOne h _ _ _ hne := Checker.checkOne_of_invalid hne ((isValidDomain_normalize raw).trans h)

theorem judged_as_written_umlaut :
    kelvin ∉ " B\u00FCcher.de".toList ∧ isValidDomain (trim " B\u00FCcher.de") = false ∧
    isValidDomain (normalize " B\u00FCcher.de") = false ∧
    ((Checker.ofAddresses ["10.0.0.1"]).checkOne (.failingFirst "") {} " B\u00FCcher.de").2 =
      .ok (.failed "b\u00FCcher.de" (.invalidInput "b\u00FCcher.de")) := by
  have hjudged := judged_as_written " B\u00FCcher.de"
  have hkelvin : kelvin ∉ " B\u00FCcher.de".toList := by decide
  have hinvalid : isValidDomain (trim " B\u00FCcher.de") = false := by decide +kernel
  refine ⟨hkelvin, hinvalid, (hjudged.literal hkelvin).trans hinvalid, ?_⟩
  rw [hjudged.checkOne ((respelled_eq_trim hkelvin).symm ▸ hinvalid) _ _ _ (by decide)]
  decide +kernel

/-- A text with a Kelvin sign in it is no name, and the name in whose place it stands is asked for. -/
theorem judged_with_kelvin_sign : isValidDomain (trim "faceboo\u212A.com") = false ∧
    ((Checker.ofAddresses ["10.0.0.1"]).checkOne (.failingFirst "") {} "faceboo\u212A.com").2 =
      .ok (.verdict "facebook.com" "10.0.0.1" false) ∧
    ((Checker.ofAddresses ["10.0.0.1"]).checkOne (.failingFirst "") {} "faceboo\u212A.com").1.world.exchanges = 1 := by
  have hinvalid : isValidDomain (trim "faceboo\u212A.com") = false := by decide +kernel
  rw [Checker.checkOne_of_atOnce (by decide) (x := .ok (.verdict "facebook.com" "10.0.0.1" false)) (by decide +kernel)]
  exact ⟨hinvalid, rfl, by decide +kernel⟩

end FilterWatch
