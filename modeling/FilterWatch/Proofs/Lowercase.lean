import FilterWatch.Domain

/-!
# Lower-casing names

What lower case does to the text of a name, character by character. Two kinds of characters have a lower case in
ASCII: those of ASCII themselves, and the Kelvin sign, which becomes a `k` (`IsLatin`). Blanks stay as they are, and
every other character leaves one outside of ASCII behind (`exists_mem_lowerChar`). On a text of Latin characters and
blanks, lower case is a map of the characters (`lower_eq_map`).
-/

namespace FilterWatch
open Text

namespace Text
variable {c : Char} {cs : List Char}

theorem toNat_ofNat {n : Nat} (h : n.isValidChar) : (Char.ofNat n).toNat = n := by
  rw [Char.ofNat, dif_pos h]
  rfl

/-! ### ASCII letters -/

@[elab_as_elim]
theorem of_capital {motive : Char → Prop} (hc : 'A' ≤ c ∧ c ≤ 'Z')
    (h : ∀ n ∈ List.range' 65 26, motive (Char.ofNat n)) : motive c := by
  have hle : 65 ≤ c.toNat ∧ c.toNat ≤ 90 := hc
  have hmotive := h c.toNat (List.mem_range'_1.mpr (by omega))
  rwa [Char.ofNat_toNat] at hmotive

theorem apply_asciiLower {α : Type} [DecidableEq α] (f : Char → α)
    (h : ∀ n ∈ List.range' 65 26, f (asciiLower (Char.ofNat n)) = f (Char.ofNat n)) (c : Char) :
    f (asciiLower c) = f c := by
  by_cases hc : 'A' ≤ c ∧ c ≤ 'Z'
  · exact of_capital hc h
  · rw [asciiLower, if_neg hc]

theorem asciiLower_of_not_ascii (h : 0x80 ≤ c.toNat) : asciiLower c = c := by
  refine if_neg fun hc => ?_
  have hle : c.toNat ≤ 90 := hc.2
  omega

@[simp] theorem asciiLower_asciiLower (c : Char) : asciiLower (asciiLower c) = asciiLower c :=
  apply_asciiLower asciiLower (by decide) c

theorem asciiUpper_asciiLower (c : Char) : asciiUpper (asciiLower c) = asciiUpper c :=
  apply_asciiLower asciiUpper (by decide) c

@[simp] theorem isBlank_asciiLower (c : Char) : isBlank (asciiLower c) = isBlank c :=
  apply_asciiLower isBlank (by decide) c

theorem asciiLower_eq_iff {d : Char} (hd : ∀ n ∈ List.range' 65 26,
    decide (asciiLower (Char.ofNat n) = d) = decide (Char.ofNat n = d)) : asciiLower c = d ↔ c = d :=
  decide_eq_decide.mp (apply_asciiLower (fun c => decide (c = d)) hd c)

@[simp] theorem asciiLower_eq_dot : asciiLower c = '.' ↔ c = '.' := asciiLower_eq_iff (by decide)

theorem asciiLower_of_isBlank (h : isBlank c) : asciiLower c = c := by
  refine if_neg fun hc => ?_
  have hnone : isBlank c = false := of_capital hc (by decide)
  rw [h] at hnone
  cases hnone

@[simp] theorem asciiLower_eq_hyphen : asciiLower c = '-' ↔ c = '-' := asciiLower_eq_iff (by decide)

/-! ### The Kelvin sign -/

/-- The sign of the unit, a character of its own. -/
def kelvin : Char := '\u212A'

/-- The letter that stands for the Kelvin sign, and every other character itself. -/
def spelled (c : Char) : Char := if c = kelvin then 'K' else c

/-- The characters whose lower case is ASCII. -/
def IsLatin (c : Char) : Prop := c.toNat < 0x80 ∨ c = kelvin

@[simp] theorem isBlank_spelled (c : Char) : isBlank (spelled c) = isBlank c := by
  unfold spelled
  split
  · rename_i h
    subst h
    decide
  · rfl

theorem spelled_of_not_latin (h : ¬ IsLatin c) : spelled c = c := if_neg fun hk => h (.inr hk)

theorem map_spelled (h : kelvin ∉ cs) : cs.map spelled = cs := by
  have hself : ∀ c ∈ cs, spelled c = c := fun c hc => if_neg (ne_of_mem_of_not_mem hc h)
  rw [List.map_congr_left hself, List.map_id']

/-! ### Runs of capital letters -/

namespace CaseRun
variable {r : CaseRun} {n m : Nat}

theorem map?_eq_some (h : r.map? n = some m) : r.first ≤ n ∧ n ≤ r.last ∧ m = r.target + (n - r.first) := by
  unfold map? at h
  split at h
  · rename_i hc
    simp only [Bool.and_eq_true, decide_eq_true_eq] at hc
    exact ⟨hc.1.1, hc.1.2, (Option.some.inj h).symm⟩
  · cases h

/-- Whether the code points from `a` to `b` are characters outside of ASCII, none of them a blank. -/
def foreign (a b : Nat) : Bool :=
  0x80 ≤ a && (b < 0xD800 || 0xDFFF < a && b < 0x110000) && blanks.all fun s => s.2 < a || b < s.1

theorem foreign_sub {a b : Nat} (h : foreign a b) (ha : a ≤ n) (hb : n ≤ b) :
    n.isValidChar ∧ 0x80 ≤ n ∧ isBlank (Char.ofNat n) = false := by
  simp only [foreign, Bool.and_eq_true, Bool.or_eq_true, decide_eq_true_eq, List.all_eq_true] at h
  have hvalid : n.isValidChar := by
    rcases h.1.2 with h' | h'
    · exact .inl (by omega)
    · exact .inr (by omega)
  refine ⟨hvalid, by omega, Bool.eq_false_iff.mpr fun hblank => ?_⟩
  obtain ⟨s, hs, hle⟩ := CharClass.has_iff.mp hblank
  rw [toNat_ofNat hvalid] at hle
  have := h.2 s hs
  omega

end CaseRun

/-- Apart from the letters of ASCII and the Kelvin sign, capitals and their small letters are outside of ASCII and no
blanks. -/
theorem foreign_of_mem_caseRuns {r : CaseRun} (h : r ∈ caseRuns) : r.last < 0x80 ∨ r = ⟨0x212A, 0x212A, 1, 0x6B⟩ ∨
    CaseRun.foreign r.first r.last ∧ CaseRun.foreign r.target (r.target + (r.last - r.first)) := by
  have hall : ∀ r ∈ caseRuns, r.last < 0x80 ∨ r = ⟨0x212A, 0x212A, 1, 0x6B⟩ ∨
      CaseRun.foreign r.first r.last ∧ CaseRun.foreign r.target (r.target + (r.last - r.first)) := by
    decide +kernel
  exact hall r h

theorem lowerChar_ascii (h : c.toNat < 0x80) : lowerChar c = [asciiLower c] := if_pos h

theorem lowerChar_kelvin : lowerChar kelvin = ['k'] := by decide +kernel

theorem lowerChar_of_latin (h : IsLatin c) : lowerChar c = [asciiLower (spelled c)] := by
  rcases h with h | rfl
  · rw [lowerChar_ascii h, spelled, if_neg]
    rintro rfl
    exact absurd h (by decide)
  · rw [lowerChar_kelvin]
    decide

/-- A character that no run maps stays as it is; the others become the image of a run. -/
theorem lowerChar_foreign (hc : 0x80 ≤ c.toNat) (hi : c ≠ 'İ') :
    lowerChar c = [c] ∨ ∃ r ∈ caseRuns, ∃ m, r.map? c.toNat = some m ∧ lowerChar c = [Char.ofNat m] := by
  rw [lowerChar, if_neg (by omega), if_neg hi]
  cases hfind : caseRuns.findSome? (·.map? c.toNat) with
  | none => exact .inl rfl
  | some m =>
    obtain ⟨r, hr, hm⟩ := List.exists_of_findSome?_eq_some hfind
    exact .inr ⟨r, hr, m, hm, rfl⟩

theorem lowerChar_of_isBlank (h : isBlank c) : lowerChar c = [asciiLower (spelled c)] := by
  by_cases hlatin : IsLatin c
  · exact lowerChar_of_latin hlatin
  · have hc : 0x80 ≤ c.toNat := Nat.le_of_not_lt fun hlt => hlatin (.inl hlt)
    rw [spelled_of_not_latin hlatin, asciiLower_of_not_ascii hc]
    have hi : c ≠ 'İ' := by
      rintro rfl
      exact absurd h (by decide)
    rcases lowerChar_foreign hc hi with hself | ⟨r, hr, m, hm, -⟩
    · exact hself
    · obtain ⟨hfirst, hlast, -⟩ := CaseRun.map?_eq_some hm
      rcases foreign_of_mem_caseRuns hr with hascii | rfl | ⟨hforeign, -⟩
      · omega
      · refine absurd (.inr ?_) hlatin
        rw [← Char.ofNat_toNat c, Nat.le_antisymm hlast hfirst]
        rfl
      · have hblank := (CaseRun.foreign_sub hforeign hfirst hlast).2.2
        rw [Char.ofNat_toNat, h] at hblank
        cases hblank

theorem lowerChar_of_not_latin (hlatin : ¬ IsLatin c) (hblank : isBlank c = false) :
    lowerChar c = ['i', '\u0307'] ∨ ∃ d, lowerChar c = [d] ∧ 0x80 ≤ d.toNat ∧ isBlank d = false := by
  have hc : 0x80 ≤ c.toNat := Nat.le_of_not_lt fun hlt => hlatin (.inl hlt)
  by_cases hi : c = 'İ'
  · subst hi
    exact .inl (by decide)
  · rcases lowerChar_foreign hc hi with h | ⟨r, hr, m, hm, h⟩
    · exact .inr ⟨c, h, hc, hblank⟩
    · obtain ⟨hfirst, hlast, rfl⟩ := CaseRun.map?_eq_some hm
      rcases foreign_of_mem_caseRuns hr with hascii | rfl | ⟨-, hforeign⟩
      · omega
      · refine absurd (.inr ?_) hlatin
        rw [← Char.ofNat_toNat c, Nat.le_antisymm hlast hfirst]
        rfl
      · obtain ⟨hvalid, hge, hblank'⟩ :=
          CaseRun.foreign_sub (n := r.target + (c.toNat - r.first)) hforeign (by omega) (by omega)
        refine .inr ⟨_, h, ?_, hblank'⟩
        rwa [toNat_ofNat hvalid]

theorem exists_mem_lowerChar (hlatin : ¬ IsLatin c) (hblank : isBlank c = false) :
    ∃ d ∈ lowerChar c, 0x80 ≤ d.toNat ∧ isBlank d = false := by
  rcases lowerChar_of_not_latin hlatin hblank with h | ⟨d, h, hd⟩
  · exact ⟨'\u0307', by simp [h], by decide, by decide⟩
  · exact ⟨d, by simp [h], hd⟩

/-- Blanks come only of themselves. -/
theorem eq_of_mem_lowerChar {d : Char} (h : d ∈ lowerChar c) (hd : isBlank d) : d = c := by
  cases hblank : isBlank c with
  | true =>
    have hkelvin : c ≠ kelvin := by
      rintro rfl
      exact absurd hblank (by decide)
    rw [lowerChar_of_isBlank hblank, spelled, if_neg hkelvin, List.mem_singleton] at h
    exact h.trans (asciiLower_of_isBlank hblank)
  | false =>
    have hnone : ∀ d ∈ lowerChar c, isBlank d = false := by
      by_cases hlatin : IsLatin c
      · simp [lowerChar_of_latin hlatin, hblank]
      · rcases lowerChar_of_not_latin hlatin hblank with h | ⟨d, h, -, hd⟩
        · rw [h]
          exact List.forall_mem_cons.mpr ⟨by decide, List.forall_mem_singleton.mpr (by decide)⟩
        · simp [h, hd]
    rw [hnone d h] at hd
    cases hd

/-! ### Whole texts -/

theorem exists_mem_lowerFrom (hlatin : ¬ IsLatin c) (hblank : isBlank c = false) (hmem : c ∈ cs) (before : List Char) :
    ∃ d ∈ lowerFrom before cs, 0x80 ≤ d.toNat ∧ isBlank d = false := by
  induction cs generalizing before with
  | nil => cases hmem
  | cons x cs ih =>
    rw [lowerFrom]
    rcases List.mem_cons.mp hmem with rfl | hmem
    · by_cases hs : c = 'Σ'
      · rw [if_pos hs]
        split
        · exact ⟨'ς', .head _, by decide, by decide⟩
        · exact ⟨'σ', .head _, by decide, by decide⟩
      · rw [if_neg hs]
        obtain ⟨d, hd, hforeign⟩ := exists_mem_lowerChar hlatin hblank
        exact ⟨d, List.mem_append_left _ hd, hforeign⟩
    · obtain ⟨d, hd, hforeign⟩ := ih hmem (x :: before)
      exact ⟨d, List.mem_append_right _ hd, hforeign⟩

theorem mem_of_mem_lowerFrom {before : List Char} (h : c ∈ lowerFrom before cs) (hc : isBlank c) : c ∈ cs := by
  induction cs generalizing before with
  | nil => cases h
  | cons x cs ih =>
    rw [lowerFrom, List.mem_append] at h
    rcases h with h | h
    · by_cases hs : x = 'Σ'
      · have hsigma : c = 'ς' ∨ c = 'σ' := by
          rw [if_pos hs] at h
          split at h
          · exact .inl (List.mem_singleton.mp h)
          · exact .inr (List.mem_singleton.mp h)
        rcases hsigma with rfl | rfl <;> exact absurd hc (by decide)
      · rw [if_neg hs] at h
        exact eq_of_mem_lowerChar h hc ▸ .head _
    · exact .tail _ (ih h)

theorem lower_eq_map (h : ∀ c ∈ cs, IsLatin c ∨ isBlank c) : lower cs = cs.map (asciiLower ∘ spelled) := by
  unfold lower
  generalize [] = before
  induction cs generalizing before with
  | nil => rfl
  | cons c cs ih =>
    obtain ⟨hc, hrest⟩ := List.forall_mem_cons.mp h
    have hs : c ≠ 'Σ' := by
      rintro rfl
      rcases hc with (hc | hc) | hc <;> exact absurd hc (by decide)
    have hchar : lowerChar c = [asciiLower (spelled c)] := hc.elim lowerChar_of_latin lowerChar_of_isBlank
    rw [lowerFrom, if_neg hs, hchar, ih hrest]
    rfl

end Text
end FilterWatch
