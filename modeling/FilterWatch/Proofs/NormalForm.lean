import FilterWatch.Proofs.Casing
import FilterWatch.Proofs.Spelling

/-!
# Normal spellings

A text is in its normal spelling when it has small letters only, no blanks around it and no lone root dot
(`IsNormal`). Normalizing leads there (`isNormal_normalize`) and leaves such texts as they are, and no others
(`normalize_eq_self_iff`).
That small letters stay small rests on the runs of capital letters: what one of them gives, none of them takes
(`apart_of_mem_caseRuns`).
-/

namespace FilterWatch
open Text

namespace Text
variable {c d : Char} {cs before : List Char}

/-! ### Small letters -/

namespace CaseRun
variable {r s : CaseRun} {n m : Nat}

/-- Whether the second run takes nothing that the first one gives: it lies elsewhere, or takes every second code point
while the first one gives those in between. -/
def apart (r s : CaseRun) : Bool :=
  (r.target + (r.last - r.first)).blt s.first || s.last.blt r.target ||
    s.step == 2 && (r.step == 2 || r.first == r.last) && (r.target + s.first) % 2 == 1

theorem map?_eq_none_of_apart (h : r.apart s) (hn : r.map? n = some m) : s.map? m = none := by
  obtain ⟨hfirst, hlast, rfl⟩ := map?_eq_some hn
  unfold map? at hn ⊢
  split at hn
  · rename_i hc
    refine if_neg fun hs => ?_
    simp only [apart, Bool.and_eq_true, Bool.or_eq_true, Nat.blt_eq, decide_eq_true_eq, beq_iff_eq] at h hc hs
    rcases h with (h | h) | ⟨⟨hstep, hr⟩, hodd⟩
    · omega
    · omega
    · rw [hstep] at hs
      rcases hr with hr | hr
      · rw [hr] at hc
        omega
      · omega
  · cases hn

/-- The one capital letter that has two characters for its small letter, as a run. -/
def dottedI : CaseRun := ⟨0x130, 0x130, 1, 0x69⟩

theorem map?_dottedI (h : c ≠ 'İ') : dottedI.map? c.toNat = none := by
  cases hm : dottedI.map? c.toNat with
  | none => rfl
  | some m =>
    obtain ⟨hfirst, hlast, -⟩ := map?_eq_some hm
    have hn : c.toNat = 0x130 := Nat.le_antisymm hlast hfirst
    exact absurd (Char.toNat_inj.mp hn) h

end CaseRun

/-- No run takes what one of them gives. -/
theorem apart_of_mem_caseRuns {r s : CaseRun} (hr : r ∈ caseRuns) (hs : s ∈ CaseRun.dottedI :: caseRuns) :
    r.apart s := by
  have hall : (caseRuns.all fun r => (CaseRun.dottedI :: caseRuns).all r.apart) = true := by decide +kernel
  exact List.all_eq_true.mp (List.all_eq_true.mp hall r hr) s hs

/-- No capital letter: the character is its own lower case. -/
def IsSmall (c : Char) : Prop := ∀ s ∈ CaseRun.dottedI :: caseRuns, s.map? c.toNat = none

instance (c : Char) : Decidable (IsSmall c) := inferInstanceAs (Decidable (∀ s ∈ _, _))

theorem IsSmall.ne_sigma (h : IsSmall c) : c ≠ 'Σ' := by
  rintro rfl
  exact absurd h (by decide +kernel)

theorem IsSmall.ne_dottedI (h : IsSmall c) : c ≠ 'İ' := by
  rintro rfl
  exact absurd h (by decide)

theorem IsSmall.asciiLower_eq (h : IsSmall c) : asciiLower c = c := by
  refine if_neg fun hc => ?_
  have hletters := h ⟨0x41, 0x5A, 1, 0x61⟩ (.tail _ (.head _))
  have hle : 0x41 ≤ c.toNat ∧ c.toNat ≤ 0x5A := hc
  simp [CaseRun.map?, hle, Nat.mod_one] at hletters

theorem IsSmall.lowerChar_eq (h : IsSmall c) : lowerChar c = [c] := by
  by_cases hc : c.toNat < 0x80
  · rw [lowerChar_ascii hc, h.asciiLower_eq]
  · have hnone : caseRuns.findSome? (·.map? c.toNat) = none :=
      List.findSome?_eq_none_iff.mpr fun r hr => h r (.tail _ hr)
    rw [lowerChar, if_neg hc, if_neg h.ne_dottedI, hnone]
    rfl

theorem isSmall_asciiLower (hc : c.toNat < 0x80) : IsSmall (asciiLower c) := by
  have hruns : ∀ s ∈ CaseRun.dottedI :: caseRuns, s = ⟨0x41, 0x5A, 1, 0x61⟩ ∨ 0x80 ≤ s.first := by decide +kernel
  intro s hs
  rcases hruns s hs with rfl | hfirst
  · exact of_ascii hc (by decide)
  · refine if_neg fun hrun => ?_
    simp only [Bool.and_eq_true, decide_eq_true_eq] at hrun
    have hlt := ascii_asciiLower.mpr hc
    omega

theorem CaseRun.toNat_ofNat_of_map? {r : CaseRun} {m : Nat} (hr : r ∈ caseRuns) (hc : 0x80 ≤ c.toNat)
    (hm : r.map? c.toNat = some m) : (Char.ofNat m).toNat = m := by
  obtain ⟨hfirst, hlast, rfl⟩ := map?_eq_some hm
  rcases foreign_of_mem_caseRuns hr with hascii | rfl | ⟨-, hforeign⟩
  · omega
  · rw [Nat.le_antisymm hlast hfirst]
    decide
  · exact toNat_ofNat (foreign_sub hforeign (by omega) (by omega)).1

/-- Lower case leaves no capital letters behind. -/
theorem isSmall_of_mem_lowerChar (h : d ∈ lowerChar c) : IsSmall d := by
  by_cases hc : c.toNat < 0x80
  · rw [lowerChar_ascii hc, List.mem_singleton] at h
    exact h ▸ isSmall_asciiLower hc
  · by_cases hi : c = 'İ'
    · subst hi
      have hall : (lowerChar 'İ').all (fun d => decide (IsSmall d)) := by decide +kernel
      exact of_decide_eq_true (List.all_eq_true.mp hall d h)
    · rw [lowerChar, if_neg hc, if_neg hi, List.mem_singleton] at h
      cases hfind : caseRuns.findSome? (·.map? c.toNat) with
      | none =>
        have hself : d = c := by rw [h, hfind]; rfl
        rw [hself]
        exact List.forall_mem_cons.mpr ⟨CaseRun.map?_dottedI hi, List.findSome?_eq_none_iff.mp hfind⟩
      | some m =>
        obtain ⟨r, hr, hm⟩ := List.exists_of_findSome?_eq_some hfind
        have himage : d = Char.ofNat m := by rw [h, hfind]; rfl
        intro s hs
        rw [himage, CaseRun.toNat_ofNat_of_map? hr (Nat.le_of_not_lt hc) hm]
        exact CaseRun.map?_eq_none_of_apart (apart_of_mem_caseRuns hr hs) hm

theorem isSmall_of_mem_lowerFrom (h : d ∈ lowerFrom before cs) : IsSmall d := by
  induction cs generalizing before with
  | nil => cases h
  | cons c cs ih =>
    rw [lowerFrom, List.mem_append] at h
    rcases h with h | h
    · split at h
      · have hsigmas : IsSmall 'ς' ∧ IsSmall 'σ' := by decide +kernel
        rw [List.mem_singleton] at h
        split at h
        · exact h ▸ hsigmas.1
        · exact h ▸ hsigmas.2
      · exact isSmall_of_mem_lowerChar h
    · exact ih h

/-- A text without capital letters has none that depends on its neighbours either. -/
theorem lowerFrom_of_isSmall (h : ∀ c ∈ cs, IsSmall c) : lowerFrom before cs = cs := by
  induction cs generalizing before with
  | nil => rfl
  | cons c cs ih =>
    obtain ⟨hc, hcs⟩ := List.forall_mem_cons.mp h
    rw [lowerFrom, if_neg hc.ne_sigma, hc.lowerChar_eq, ih hcs]
    rfl

end Text

/-! ### Normal spellings -/

section
variable {cs : List Char} {c : Char}

/-- Whether the text ends with a root dot, and with one only. -/
def HasLoneRootDot (cs : List Char) : Prop :=
  cs.getLast? = some '.' ∧ cs.dropLast.getLast?.all fun c => c != '.' && !isBlank c

theorem dropLoneRootDot_of (h : HasLoneRootDot cs) : dropLoneRootDot cs = cs.dropLast := if_pos h

theorem dropLoneRootDot_of_not (h : ¬ HasLoneRootDot cs) : dropLoneRootDot cs = cs := if_neg h

theorem last_dropLast_of_hasLoneRootDot (h : HasLoneRootDot cs) (hc : cs.dropLast.getLast? = some c) :
    c ≠ '.' ∧ isBlank c = false := by
  have hlast := h.2
  rw [hc] at hlast
  simpa using hlast

theorem not_hasLoneRootDot_dropLoneRootDot (cs : List Char) : ¬ HasLoneRootDot (dropLoneRootDot cs) := by
  by_cases h : HasLoneRootDot cs
  · rw [dropLoneRootDot_of h]
    exact fun hdot => (last_dropLast_of_hasLoneRootDot h hdot.1).1 rfl
  · rwa [dropLoneRootDot_of_not h]

theorem isTrimmed_dropLoneRootDot (h : IsTrimmed cs) : IsTrimmed (dropLoneRootDot cs) := by
  by_cases hdot : HasLoneRootDot cs
  · rw [dropLoneRootDot_of hdot]
    refine ⟨fun c hc => h.head c ?_, fun c hc => (last_dropLast_of_hasLoneRootDot hdot hc).2⟩
    rw [← List.dropLast_append_getLast? '.' hdot.1, List.head?_append, hc, Option.some_or]
  · rwa [dropLoneRootDot_of_not hdot]

/-- The text is in its normal spelling. -/
structure IsNormal (cs : List Char) : Prop where
  small : ∀ c ∈ cs, IsSmall c
  trimmed : IsTrimmed cs
  rootless : ¬ HasLoneRootDot cs

theorem IsNormal.normalize_eq {domain : String} (h : IsNormal domain.toList) : normalize domain = domain := by
  rw [normalize, lower, lowerFrom_of_isSmall h.small, h.trimmed.trimmed_eq, dropLoneRootDot_of_not h.rootless,
    String.ofList_toList]

theorem isNormal_normalize (domain : String) : IsNormal (normalize domain).toList := by
  rw [normalize, String.toList_ofList]
  exact ⟨fun c hc => isSmall_of_mem_lowerFrom (mem_of_mem_trimmed (mem_of_mem_dropLoneRootDot hc)),
    isTrimmed_dropLoneRootDot (isTrimmed_trimmed _), not_hasLoneRootDot_dropLoneRootDot _⟩

theorem normalize_eq_self_iff {domain : String} : normalize domain = domain ↔ IsNormal domain.toList := by
  constructor
  · intro h
    have hnormal := isNormal_normalize domain
    rwa [h] at hnormal
  · exact IsNormal.normalize_eq

end

/-- A spelling that was made normal is so for good. -/
theorem normalize_normalize (domain : String) : normalize (normalize domain) = normalize domain :=
  normalize_eq_self_iff.mpr (isNormal_normalize domain)

end FilterWatch
