import FilterWatch.Domain
import FilterWatch.Proofs.Separators

/-!
# The labels of a name

What a valid domain is made of: labels of label characters, which are ASCII (`ascii_of_isValidDomain`), with single dots
between them (`ends_of_labels`) and one behind them at most.
-/

namespace FilterWatch
open Text

variable {c : Char} {cs : List Char}

/-! ### One label -/

theorem isLabelChar_of_isLabel (h : isLabel cs) : ∀ c ∈ cs, isLabelChar c := by
  simp only [isLabel, Bool.and_eq_true, List.all_eq_true] at h
  exact h.2

theorem ne_nil_of_isLabel (h : isLabel cs) : cs ≠ [] := by
  rintro rfl
  cases h

theorem dot_notMem_of_isLabel (h : isLabel cs) : '.' ∉ cs := fun hdot =>
  absurd (isLabelChar_of_isLabel h _ hdot) (by decide)

theorem ascii_of_isLabelChar (h : isLabelChar c) : c.toNat < 0x80 := by
  have hle : ∀ {a b : Char}, decide (a ≤ b) = true → a.toNat ≤ b.toNat := fun h => of_decide_eq_true h
  simp only [isLabelChar, isAsciiLetter, isAsciiDigit, Bool.or_eq_true, Bool.and_eq_true, beq_iff_eq] at h
  rcases h with (((⟨-, h⟩ | ⟨-, h⟩) | ⟨-, h⟩) | rfl) | rfl
  · exact Nat.lt_of_le_of_lt (hle h) (by decide)
  · exact Nat.lt_of_le_of_lt (hle h) (by decide)
  · exact Nat.lt_of_le_of_lt (hle h) (by decide)
  · decide
  · decide

/-! ### Labels between dots -/

theorem isLabelChar_of_labels (h : ∀ f ∈ fields '.' cs, isLabel f) : ∀ c ∈ cs, c = '.' ∨ isLabelChar c := by
  intro c hc
  rcases mem_fields hc with hdot | ⟨f, hf, hmem⟩
  · exact .inl hdot
  · exact .inr (isLabelChar_of_isLabel (h f hf) c hmem)

theorem ascii_of_labels (h : ∀ f ∈ fields '.' cs, isLabel f) : ∀ c ∈ cs, c.toNat < 0x80 := by
  intro c hc
  rcases isLabelChar_of_labels h c hc with rfl | hlabel
  · decide
  · exact ascii_of_isLabelChar hlabel

theorem ends_of_labels (h : ∀ f ∈ fields '.' cs, isLabel f) : cs.head? ≠ some '.' ∧ cs.getLast? ≠ some '.' := by
  constructor
  · intro hhead
    obtain ⟨rest, rfl⟩ := List.head?_eq_some_iff.mp hhead
    exact ne_nil_of_isLabel (h [] (by simp [fields])) rfl
  · intro hlast
    obtain ⟨front, rfl⟩ := List.getLast?_eq_some_iff.mp hlast
    exact ne_nil_of_isLabel (h [] (by simp [fields_append_sep, fields])) rfl

/-! ### The root dot -/

theorem dropRootDot_append_dot (cs : List Char) : dropRootDot (cs ++ ['.']) = cs := by
  simp [dropRootDot]

theorem dropRootDot_eq_self (h : cs.getLast? ≠ some '.') : dropRootDot cs = cs := if_neg h

theorem eq_or_eq_dropRootDot_append (cs : List Char) : cs = dropRootDot cs ∨ cs = dropRootDot cs ++ ['.'] := by
  unfold dropRootDot
  split
  · rename_i hlast
    exact .inr (List.dropLast_append_getLast? '.' hlast).symm
  · exact .inl rfl

theorem mem_dropRootDot (h : c ∈ cs) : c = '.' ∨ c ∈ dropRootDot cs := by
  rcases eq_or_eq_dropRootDot_append cs with hcs | hcs
  · exact .inr (hcs ▸ h)
  · rw [hcs, List.mem_append, List.mem_singleton] at h
    exact h.symm

/-! ### Valid domains -/

section
variable {domain : String}

theorem areNameLabels_iff {labels : List (List Char)} : areNameLabels labels ↔
    2 ≤ labels.length ∧ (∀ label ∈ labels, isLabel label) ∧ ∀ label ∈ labels.getLast?, isTopLabel label := by
  simp only [areNameLabels, Bool.and_eq_true, decide_eq_true_eq, List.all_eq_true, Option.all_eq_true, and_assoc,
    Option.mem_def]

theorem isLabel_of_isValidDomain (h : isValidDomain domain) :
    dropRootDot domain.toList ≠ [] ∧ ∀ f ∈ fields '.' (dropRootDot domain.toList), isLabel f := by
  simp only [isValidDomain, Bool.and_eq_true, areNameLabels_iff] at h
  obtain ⟨-, htwo, hlabels, -⟩ := h
  refine ⟨fun hnil => ?_, hlabels⟩
  rw [hnil] at htwo
  exact absurd htwo (by decide)

theorem isLabelChar_of_isValidDomain (h : isValidDomain domain) (hc : c ∈ domain.toList) : c = '.' ∨ isLabelChar c := by
  rcases mem_dropRootDot hc with hdot | hc
  · exact .inl hdot
  · exact isLabelChar_of_labels (isLabel_of_isValidDomain h).2 c hc

theorem ascii_of_isValidDomain (h : isValidDomain domain) (hc : c ∈ domain.toList) : c.toNat < 0x80 := by
  rcases isLabelChar_of_isValidDomain h hc with rfl | hlabel
  · decide
  · exact ascii_of_isLabelChar hlabel

end
end FilterWatch
