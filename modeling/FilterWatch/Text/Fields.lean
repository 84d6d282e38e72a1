/-!
# Fields of a text

Cutting a text at a separator: `cut` at the first one, `cutLast` at the last one, `fields` at every one. Putting
the separator back restores the text (`cut_join`, `joinFields_fields`).
-/

namespace FilterWatch.Text

variable {sep : Char} {cs : List Char}

/-- What stands before the first separator, and what stands after it if there is one. -/
def cut (sep : Char) : List Char → List Char × Option (List Char)
  | [] => ([], none)
  | c :: cs => if c = sep then ([], some cs) else ((c :: (cut sep cs).1), (cut sep cs).2)

/-- What stands before and after the last separator, if there is one. -/
def cutLast (sep : Char) (cs : List Char) : Option (List Char × List Char) :=
  match cut sep cs.reverse with
  | (_, none) => none
  | (after, some before) => some (before.reverse, after.reverse)

/-- The parts between separators; there is always one more part than there are separators. -/
def fields (sep : Char) : List Char → List (List Char)
  | [] => [[]]
  | c :: cs =>
    if c = sep then [] :: fields sep cs
    else match fields sep cs with
      | f :: fs => (c :: f) :: fs
      | [] => [[c]]

/-- The parts with the separator between them. -/
def joinFields (sep : Char) : List (List Char) → List Char
  | [] => []
  | [f] => f
  | f :: fs => f ++ sep :: joinFields sep fs

theorem fields_ne_nil (sep : Char) (cs : List Char) : fields sep cs ≠ [] := by
  cases cs with
  | nil => simp [fields]
  | cons c cs => simp only [fields]; split <;> (try split) <;> simp

theorem joinFields_fields (sep : Char) (cs : List Char) : joinFields sep (fields sep cs) = cs := by
  induction cs with
  | nil => rfl
  | cons c cs ih =>
    have hne := fields_ne_nil sep cs
    by_cases h : c = sep
    · cases hf : fields sep cs with
      | nil => exact absurd hf hne
      | cons f fs => rw [hf] at ih; simp [fields, h, hf, joinFields, ih]
    · cases hf : fields sep cs with
      | nil => exact absurd hf hne
      | cons f fs =>
        rw [hf] at ih
        cases fs with
        | nil => simpa [fields, h, hf, joinFields] using ih
        | cons g gs => simpa [fields, h, hf, joinFields] using ih

theorem cut_join (sep : Char) (cs : List Char) :
    (match cut sep cs with
      | (before, none) => before
      | (before, some after) => before ++ sep :: after) = cs := by
  induction cs with
  | nil => rfl
  | cons c cs ih =>
    by_cases h : c = sep
    · simp [cut, h]
    · rcases hc : cut sep cs with ⟨before, after⟩
      rw [hc] at ih
      cases after <;> simp_all [cut]

theorem not_mem_cut_fst : sep ∉ (cut sep cs).1 := by
  induction cs with
  | nil => simp [cut]
  | cons c cs ih =>
    by_cases h : c = sep
    · simp [cut, h]
    · simp [cut, h, Ne.symm h, ih]

end FilterWatch.Text
