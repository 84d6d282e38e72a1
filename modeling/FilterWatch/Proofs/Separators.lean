import FilterWatch.Text.Fields
import Mathlib.Data.List.Basic

/-!
# Texts between separators

Cutting a text at a separator undoes what put the separator there: `cut_append` and `cutLast_append` for the first and
the last one, `fields_intercalate` for all of them.
-/

namespace FilterWatch.Text
variable {sep c : Char} {f : Char → Char} {cs ds front back : List Char}

/-! ### The first and the last separator -/

theorem cut_append (h : sep ∉ front) : cut sep (front ++ sep :: back) = (front, some back) := by
  induction front with
  | nil => simp [cut]
  | cons c front ih =>
    have hc : c ≠ sep := fun hc => h (hc ▸ .head _)
    rw [List.cons_append, cut, if_neg hc, ih fun hx => h (.tail _ hx)]

theorem cut_of_not_mem (h : sep ∉ cs) : cut sep cs = (cs, none) := by
  induction cs with
  | nil => rfl
  | cons c cs ih =>
    have hc : c ≠ sep := fun hc => h (hc ▸ .head _)
    rw [cut, if_neg hc, ih fun hx => h (.tail _ hx)]

theorem cutLast_append (h : sep ∉ back) : cutLast sep (front ++ sep :: back) = some (front, back) := by
  have hrev : (front ++ sep :: back).reverse = back.reverse ++ sep :: front.reverse := by simp
  rw [cutLast, hrev, cut_append (by simpa using h)]
  simp

theorem eq_of_cut (h : cut sep cs = (front, some back)) : cs = front ++ sep :: back ∧ sep ∉ front := by
  have hjoin := cut_join sep cs
  have hmem := @not_mem_cut_fst sep cs
  rw [h] at hjoin hmem
  exact ⟨hjoin.symm, hmem⟩

theorem eq_of_cutLast (h : cutLast sep cs = some (front, back)) : cs = front ++ sep :: back ∧ sep ∉ back := by
  unfold cutLast at h
  split at h
  · cases h
  · rename_i after before hcut
    cases h
    obtain ⟨hcs, hafter⟩ := eq_of_cut hcut
    exact ⟨by simpa using congrArg List.reverse hcs, by simpa using hafter⟩

theorem cut_fst_eq (sep : Char) (cs : List Char) : (cut sep cs).1 = cs.takeWhile (· ≠ sep) := by
  induction cs with
  | nil => rfl
  | cons c cs ih => by_cases h : c = sep <;> simp [cut, h, ih]

theorem exists_of_two_le_count (h : 2 ≤ cs.count sep) :
    ∃ first second rest, cs = first ++ sep :: (second ++ sep :: rest) ∧ sep ∉ first ∧ sep ∉ second := by
  have hmem : sep ∈ cs := List.count_pos_iff.mp (by omega)
  obtain ⟨first, others, rfl, hfirst⟩ := List.eq_append_cons_of_mem hmem
  rw [List.count_append, List.count_eq_zero.mpr hfirst, List.count_cons_self] at h
  have hothers : sep ∈ others := List.count_pos_iff.mp (by omega)
  obtain ⟨second, rest, rfl, hsecond⟩ := List.eq_append_cons_of_mem hothers
  exact ⟨first, second, rest, rfl, hfirst, hsecond⟩

/-! ### All separators -/

theorem mem_fields (h : c ∈ cs) : c = sep ∨ ∃ f ∈ fields sep cs, c ∈ f := by
  induction cs with
  | nil => cases h
  | cons x cs ih =>
    by_cases hx : x = sep
    · rcases List.mem_cons.mp h with rfl | h
      · exact .inl hx
      · rcases ih h with hsep | ⟨f, hf, hc⟩
        · exact .inl hsep
        · refine .inr ⟨f, ?_, hc⟩
          rw [fields, if_pos hx]
          exact .tail _ hf
    · cases hfs : fields sep cs with
      | nil => exact absurd hfs (fields_ne_nil sep cs)
      | cons g gs =>
        rw [fields, if_neg hx, hfs]
        rcases List.mem_cons.mp h with rfl | h
        · exact .inr ⟨_, .head _, .head _⟩
        · rw [hfs] at ih
          rcases ih h with hsep | ⟨f, hf, hc⟩
          · exact .inl hsep
          · rcases List.mem_cons.mp hf with rfl | hf
            · exact .inr ⟨_, .head _, .tail _ hc⟩
            · exact .inr ⟨f, .tail _ hf, hc⟩

theorem fields_map (hf : ∀ c, f c = sep ↔ c = sep) :
    fields sep (cs.map f) = (fields sep cs).map (List.map f) := by
  induction cs with
  | nil => rfl
  | cons c cs ih =>
    rw [List.map_cons, fields, fields, ih]
    by_cases hc : c = sep
    · rw [if_pos ((hf c).mpr hc), if_pos hc]
      rfl
    · rw [if_neg (mt (hf c).mp hc), if_neg hc]
      cases fields sep cs <;> rfl

theorem length_fields (sep : Char) (cs : List Char) : (fields sep cs).length = cs.count sep + 1 := by
  induction cs with
  | nil => rfl
  | cons c cs ih =>
    rw [fields]
    by_cases hc : c = sep
    · rw [if_pos hc, List.length_cons, ih, hc, List.count_cons_self]
    · rw [if_neg hc, List.count_cons_of_ne hc, ← ih]
      cases hfs : fields sep cs with
      | nil => exact absurd hfs (fields_ne_nil sep cs)
      | cons f fs => rfl

theorem fields_eq_singleton : fields sep cs = [cs] ↔ sep ∉ cs := by
  constructor
  · intro h
    have hlength := length_fields sep cs
    rw [h, List.length_singleton] at hlength
    exact List.count_eq_zero.mp (by omega)
  · intro h
    induction cs with
    | nil => rfl
    | cons c cs ih =>
      have hne : c ≠ sep := fun hc => h (hc ▸ .head _)
      rw [fields, if_neg hne, ih fun hmem => h (.tail _ hmem)]

theorem fields_append_sep : fields sep (cs ++ sep :: ds) = fields sep cs ++ fields sep ds := by
  induction cs with
  | nil => exact if_pos rfl
  | cons c cs ih =>
    rw [List.cons_append, fields, fields, ih]
    by_cases hc : c = sep
    · rw [if_pos hc, if_pos hc, List.cons_append]
    · rw [if_neg hc, if_neg hc]
      cases hfs : fields sep cs with
      | nil => exact absurd hfs (fields_ne_nil sep cs)
      | cons f fs => rfl

theorem joinFields_eq_intercalate (sep : Char) (parts : List (List Char)) :
    joinFields sep parts = [sep].intercalate parts := by
  induction parts with
  | nil => rfl
  | cons part parts ih =>
    cases parts with
    | nil => rw [joinFields, List.intercalate_singleton]
    | cons next rest => rw [joinFields, ih, List.intercalate_cons_cons, List.append_assoc, List.singleton_append]; simp

theorem fields_intercalate {parts : List (List Char)} (hne : parts ≠ []) :
    fields sep ([sep].intercalate parts) = parts.flatMap (fields sep) := by
  induction parts with
  | nil => exact absurd rfl hne
  | cons part parts ih =>
    cases parts with
    | nil => simp
    | cons next rest =>
      rw [List.intercalate_cons_cons, List.append_assoc, List.singleton_append, fields_append_sep, ih (by simp)]
      rfl

theorem fields_terminated (parts : List (List Char)) :
    fields sep (parts.flatMap (· ++ [sep])) = parts.flatMap (fields sep) ++ [[]] := by
  induction parts with
  | nil => rfl
  | cons part parts ih =>
    rw [List.flatMap_cons, List.append_assoc, List.singleton_append, fields_append_sep, ih, List.flatMap_cons,
      List.append_assoc]

theorem mem_intercalate {c : Char} (hc : c ≠ sep) {parts : List (List Char)} :
    c ∈ [sep].intercalate parts ↔ ∃ part ∈ parts, c ∈ part := by
  induction parts with
  | nil => simp
  | cons part parts ih =>
    cases parts with
    | nil => simp
    | cons next rest =>
      rw [List.intercalate_cons_cons, List.mem_append, List.mem_append, ih, List.mem_singleton]
      simp [hc]

theorem fields_intercalate_eq {parts : List (List Char)} (hne : parts ≠ []) (h : ∀ part ∈ parts, sep ∉ part) :
    fields sep ([sep].intercalate parts) = parts := by
  rw [fields_intercalate hne, List.flatMap_congr fun part hpart => fields_eq_singleton.mpr (h part hpart)]
  exact List.flatMap_singleton' parts

end FilterWatch.Text
