import FilterWatch.Text.Blank
import Mathlib.Data.List.DropRight

/-!
# Trimming

A text is trimmed when no blank stands at either end of it (`IsTrimmed`). That is what trimming comes to
(`isTrimmed_trimmed`), and such a text is what is left of itself with any blanks around it (`Surrounded.trimmed_eq`).
-/

namespace FilterWatch.Text
variable {p : Char → Bool} {f : Char → Char} {c : Char} {cs ds front back : List Char}

theorem dropTrailing_prefix (p : Char → Bool) (cs : List Char) : dropTrailing p cs <+: cs := List.rdropWhile_prefix p cs

theorem head?_dropTrailing {c : Char} (h : (dropTrailing p cs).head? = some c) : cs.head? = some c := by
  obtain ⟨back, hback⟩ := dropTrailing_prefix p cs
  rw [← hback, List.head?_append, h, Option.some_or]

theorem of_head?_dropWhile (h : (cs.dropWhile p).head? = some c) : p c = false := by
  have hnot := List.head?_dropWhile_not p cs
  rwa [h] at hnot

theorem of_getLast?_dropTrailing (h : (dropTrailing p cs).getLast? = some c) : p c = false := by
  rw [dropTrailing, List.getLast?_reverse] at h
  exact of_head?_dropWhile h

theorem dropWhile_eq_self (h : ∀ c, cs.head? = some c → p c = false) : cs.dropWhile p = cs := by
  cases cs with
  | nil => rfl
  | cons c cs => rw [List.dropWhile_cons_of_neg (by simp [h c rfl])]

theorem dropTrailing_eq_self (h : ∀ c, cs.getLast? = some c → p c = false) : dropTrailing p cs = cs := by
  rw [dropTrailing, dropWhile_eq_self (by simpa [List.head?_reverse] using h), List.reverse_reverse]

theorem dropTrailing_append (h : ∀ c ∈ back, p c) : dropTrailing p (cs ++ back) = dropTrailing p cs := by
  rw [dropTrailing, dropTrailing, List.reverse_append, List.dropWhile_append_of_pos (by simpa using h)]

theorem count_dropWhile (hc : p c = false) (cs : List Char) : (cs.dropWhile p).count c = cs.count c := by
  have hnone : c ∉ cs.takeWhile p := fun hmem => by
    rw [List.mem_takeWhile_imp hmem] at hc
    cases hc
  conv_rhs => rw [← @List.takeWhile_append_dropWhile _ p cs, List.count_append, List.count_eq_zero.mpr hnone, Nat.zero_add]

theorem count_dropTrailing (hc : p c = false) (cs : List Char) : (dropTrailing p cs).count c = cs.count c := by
  rw [dropTrailing, List.count_reverse, count_dropWhile hc, List.count_reverse]

theorem count_trimmed (hc : isBlank c = false) (cs : List Char) : (trimmed cs).count c = cs.count c := by
  rw [trimmed, count_dropTrailing hc, count_dropWhile hc]

/-! ### Character by character -/

theorem dropTrailing_map (hf : ∀ c, p (f c) = p c) : dropTrailing p (cs.map f) = (dropTrailing p cs).map f := by
  have hcomp : p ∘ f = p := funext hf
  rw [dropTrailing, dropTrailing, ← List.map_reverse, List.dropWhile_map, hcomp, List.map_reverse]

theorem trimmed_map (hf : ∀ c, isBlank (f c) = isBlank c) : trimmed (cs.map f) = (trimmed cs).map f := by
  have hcomp : isBlank ∘ f = isBlank := funext hf
  rw [trimmed, trimmed, List.dropWhile_map, hcomp, dropTrailing_map hf]

theorem mem_dropWhile (h : c ∈ cs) (hc : p c = false) : c ∈ cs.dropWhile p := by
  induction cs with
  | nil => cases h
  | cons x cs ih =>
    rw [List.dropWhile_cons]
    split
    · rename_i hx
      refine ih ((List.mem_cons.mp h).resolve_left ?_)
      rintro rfl
      rw [hx] at hc
      cases hc
    · exact h

theorem mem_trimmed (h : c ∈ cs) (hc : isBlank c = false) : c ∈ trimmed cs := by
  rw [trimmed, dropTrailing, List.mem_reverse]
  exact mem_dropWhile (List.mem_reverse.mpr (mem_dropWhile h hc)) hc

theorem mem_of_mem_trimmed (h : c ∈ trimmed cs) : c ∈ cs := by
  rw [trimmed, dropTrailing, List.mem_reverse] at h
  exact (List.dropWhile_sublist _).mem (List.mem_reverse.mp ((List.dropWhile_sublist _).mem h))

/-! ### Texts without blanks around them -/

structure IsTrimmed (cs : List Char) : Prop where
  head : ∀ c, cs.head? = some c → isBlank c = false
  last : ∀ c, cs.getLast? = some c → isBlank c = false

theorem isTrimmed_trimmed (cs : List Char) : IsTrimmed (trimmed cs) where
  head _ h := of_head?_dropWhile (head?_dropTrailing h)
  last _ h := of_getLast?_dropTrailing h

theorem IsTrimmed.of_forall (h : ∀ c ∈ cs, isBlank c = false) : IsTrimmed cs where
  head c hc := h c (List.mem_of_head? hc)
  last c hc := h c (List.mem_of_getLast? hc)

theorem IsTrimmed.trimmed_eq (h : IsTrimmed cs) : trimmed cs = cs := by
  rw [trimmed, dropWhile_eq_self h.head, dropTrailing_eq_self h.last]

instance (cs : List Char) : Decidable (IsTrimmed cs) :=
  decidable_of_iff (trimmed cs = cs) ⟨fun h => h ▸ isTrimmed_trimmed cs, IsTrimmed.trimmed_eq⟩

/-- The text is `cs` with nothing but blanks around it. -/
def Surrounded (cs text : List Char) : Prop :=
  ∃ front back, (∀ c ∈ front, isBlank c) ∧ (∀ c ∈ back, isBlank c) ∧ text = front ++ cs ++ back

theorem Surrounded.refl (cs : List Char) : Surrounded cs cs := ⟨[], [], by simp, by simp, by simp⟩

theorem trimmed_append (h : ∀ c ∈ back, isBlank c) : trimmed (cs ++ back) = trimmed cs := by
  rw [trimmed, trimmed, List.dropWhile_append]
  split
  · rename_i hnone
    rw [List.dropWhile_eq_nil_iff.mpr h, List.isEmpty_iff.mp hnone]
  · exact dropTrailing_append h

theorem Surrounded.trimmed_eq (h : Surrounded cs ds) (hcs : IsTrimmed cs) : trimmed ds = cs := by
  obtain ⟨front, back, hfront, hback, rfl⟩ := h
  rw [trimmed_append hback, trimmed, List.dropWhile_append_of_pos hfront]
  exact hcs.trimmed_eq

theorem Surrounded.not_mem (h : Surrounded cs ds) (hblank : isBlank c = false) (hc : c ∉ cs) : c ∉ ds := by
  obtain ⟨front, back, hfront, hback, rfl⟩ := h
  have hnot : ∀ {pad : List Char}, (∀ c ∈ pad, isBlank c) → c ∉ pad := fun hpad hmem => by
    rw [hpad c hmem] at hblank
    cases hblank
  simp [hnot hfront, hnot hback, hc]

theorem trimmed_eq_nil : trimmed cs = [] ↔ ∀ c ∈ cs, isBlank c := by
  constructor
  · intro h c hc
    cases hblank : isBlank c with
    | true => rfl
    | false =>
      have hmem := mem_trimmed hc hblank
      rw [h] at hmem
      cases hmem
  · intro h
    have hsurrounded : Surrounded [] cs := ⟨cs, [], h, by simp, by simp⟩
    exact hsurrounded.trimmed_eq (.of_forall (by simp))

end FilterWatch.Text
