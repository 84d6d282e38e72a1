import FilterWatch.Proofs.Lowercase

/-!
# Lower case in surroundings

The lower case of a text does not depend on the case of its ASCII letters (`SameLetters.lower_eq`). Of the rest, only a
capital sigma looks at its neighbours: `lowerBetween` is the lower case that a text has where it stands between others,
and `lowerBetween_of_settlesSigmas` says when it is the one that it has by itself.
-/

namespace FilterWatch.Text
variable {c : Char} {cs ds before after : List Char}

/-! ### The case of ASCII letters -/

/-- The texts differ in the case of ASCII letters at most. -/
def SameLetters (cs ds : List Char) : Prop := cs.map asciiLower = ds.map asciiLower

instance (cs ds : List Char) : Decidable (SameLetters cs ds) := inferInstanceAs (Decidable (_ = _))

theorem SameLetters.map_asciiUpper (h : SameLetters cs ds) : cs.map asciiUpper = ds.map asciiUpper := by
  have hcomp : asciiUpper ∘ asciiLower = asciiUpper := funext asciiUpper_asciiLower
  have hmap := congrArg (List.map asciiUpper) h
  rwa [List.map_map, List.map_map, hcomp] at hmap

theorem SameLetters.not_blank (h : SameLetters cs ds) (hds : ∀ d ∈ ds, isBlank d = false) :
    ∀ c ∈ cs, isBlank c = false := by
  intro c hc
  have hmem : asciiLower c ∈ ds.map asciiLower := h ▸ List.mem_map_of_mem hc
  obtain ⟨d, hd, heq⟩ := List.mem_map.mp hmem
  rw [← isBlank_asciiLower, ← heq, isBlank_asciiLower, hds d hd]

@[simp] theorem caseIgnorables_asciiLower (c : Char) : caseIgnorables.has (asciiLower c) = caseIgnorables.has c :=
  apply_asciiLower caseIgnorables.has (by decide +kernel) c

@[simp] theorem casedLetters_asciiLower (c : Char) : casedLetters.has (asciiLower c) = casedLetters.has c :=
  apply_asciiLower casedLetters.has (by decide +kernel) c

@[simp] theorem asciiLower_eq_sigma : asciiLower c = 'Σ' ↔ c = 'Σ' := asciiLower_eq_iff (by decide)

theorem asciiLower_comp_asciiLower : asciiLower ∘ asciiLower = asciiLower := funext asciiLower_asciiLower

theorem ascii_asciiLower : (asciiLower c).toNat < 0x80 ↔ c.toNat < 0x80 :=
  decide_eq_decide.mp (apply_asciiLower (fun c => decide (c.toNat < 0x80)) (by decide) c)

@[simp] theorem touchesLetter_map_asciiLower (cs : List Char) :
    touchesLetter (cs.map asciiLower) = touchesLetter cs := by
  induction cs with
  | nil => rfl
  | cons c cs ih =>
    unfold touchesLetter at ih ⊢
    cases h : caseIgnorables.has c <;> simp [h, ih]

@[simp] theorem lowerChar_asciiLower (c : Char) : lowerChar (asciiLower c) = lowerChar c := by
  by_cases hc : c.toNat < 0x80
  · rw [lowerChar_ascii hc, lowerChar_ascii (ascii_asciiLower.mpr hc), asciiLower_asciiLower]
  · rw [asciiLower_of_not_ascii (Nat.le_of_not_lt hc)]

theorem lowerFrom_map_asciiLower (before cs : List Char) :
    lowerFrom (before.map asciiLower) (cs.map asciiLower) = lowerFrom before cs := by
  induction cs generalizing before with
  | nil => rfl
  | cons c cs ih =>
    rw [List.map_cons, lowerFrom, lowerFrom, ← ih (c :: before)]
    simp

theorem SameLetters.lower_eq (h : SameLetters cs ds) : lower cs = lower ds := by
  rw [lower, lower, ← lowerFrom_map_asciiLower [] cs, ← lowerFrom_map_asciiLower [] ds, h]

/-! ### Between other texts -/

/-- Whether a capital sigma stands at the end of a word, by what is before it, read backwards, and behind it. -/
def endsWord (before rest : List Char) : Bool := touchesLetter before && !touchesLetter rest

/-- Lower case of a text that stands between others; `before` is read backwards. -/
def lowerBetween (before after : List Char) : List Char → List Char
  | [] => []
  | c :: rest =>
    (if c = 'Σ' then [if endsWord before (rest ++ after) then 'ς' else 'σ'] else lowerChar c)
      ++ lowerBetween (c :: before) after rest

theorem lowerBetween_nil (before cs : List Char) : lowerBetween before [] cs = lowerFrom before cs := by
  induction cs generalizing before with
  | nil => rfl
  | cons c cs ih => rw [lowerBetween, lowerFrom, ih, List.append_nil, endsWord]

theorem lowerFrom_append (before cs after : List Char) :
    lowerFrom before (cs ++ after) = lowerBetween before after cs ++ lowerFrom (cs.reverse ++ before) after := by
  induction cs generalizing before with
  | nil => rfl
  | cons c cs ih => simp [lowerFrom, lowerBetween, endsWord, ih]

theorem lower_append_append (front cs back : List Char) : lower (front ++ cs ++ back) =
    lowerBetween [] (cs ++ back) front ++ lowerBetween front.reverse back cs ++
      lowerFrom (cs.reverse ++ front.reverse) back := by
  rw [lower, List.append_assoc, lowerFrom_append, lowerFrom_append, List.append_nil, List.append_assoc]

theorem ascii_of_all (h : cs.all (·.toNat < 0x80)) : ∀ c ∈ cs, c.toNat < 0x80 := by
  simpa using h

theorem lowerBetween_of_ascii (h : ∀ c ∈ cs, c.toNat < 0x80) : lowerBetween before after cs = cs.map asciiLower := by
  induction cs generalizing before with
  | nil => rfl
  | cons c cs ih =>
    obtain ⟨hc, hcs⟩ := List.forall_mem_cons.mp h
    have hs : c ≠ 'Σ' := by
      rintro rfl
      exact absurd hc (by decide)
    rw [lowerBetween, if_neg hs, lowerChar_ascii hc, ih hcs]
    rfl

theorem lower_of_ascii (h : ∀ c ∈ cs, c.toNat < 0x80) : lower cs = cs.map asciiLower := by
  rw [lower, ← lowerBetween_nil, lowerBetween_of_ascii h]

/-- An ASCII text that occurs in another one, the case of ASCII letters aside, occurs in it in lower case. -/
theorem lower_infix_lower_of_ascii (h : ∀ c ∈ ds, c.toNat < 0x80) (hin : ds.map asciiLower <:+: cs.map asciiLower) :
    lower ds <:+: lower cs := by
  obtain ⟨front, back, hcs⟩ := hin
  have hds : ∀ c ∈ ds.map asciiLower, c.toNat < 0x80 := by
    simpa [ascii_asciiLower] using h
  have hlower : lower cs = lower (front ++ ds.map asciiLower ++ back) := by
    rw [hcs]
    exact SameLetters.lower_eq (by simp [SameLetters])
  rw [hlower, lower_append_append, lowerBetween_of_ascii hds, lower_of_ascii h, List.map_map,
    asciiLower_comp_asciiLower]
  exact ⟨_, _, rfl⟩

/-! ### Capital sigmas -/

/-- Whether one of the characters decides what a sigma next to the text touches, whatever stands beyond it. -/
def closes (cs : List Char) : Bool := cs.any (!caseIgnorables.has ·)

/-- Whether a sigma with this before it, read backwards, and behind it has the same lower case wherever all of it
stands. It has if a letter follows, if what decides before it is no letter, and if both sides have what decides. -/
def isSettled (before rest : List Char) : Bool :=
  touchesLetter rest || closes before && (!touchesLetter before || closes rest)

theorem touchesLetter_append (cs ds : List Char) :
    touchesLetter (cs ++ ds) = if closes cs then touchesLetter cs else touchesLetter ds := by
  induction cs with
  | nil => rfl
  | cons c cs ih =>
    unfold touchesLetter closes at ih ⊢
    cases h : caseIgnorables.has c with
    | true => simpa [h] using ih
    | false => simp [h]

theorem touchesLetter_of_not_closes (h : closes cs = false) : touchesLetter cs = false := by
  have := touchesLetter_append cs []
  rw [List.append_nil, h] at this
  exact this

theorem closes_of_touchesLetter (h : touchesLetter cs) : closes cs := by
  cases hc : closes cs with
  | true => rfl
  | false =>
    rw [touchesLetter_of_not_closes hc] at h
    cases h

theorem endsWord_append_of_isSettled (h : isSettled before ds) (front back : List Char) :
    endsWord (before ++ front) (ds ++ back) = endsWord before ds := by
  simp only [endsWord, touchesLetter_append]
  cases hd : closes ds with
  | false =>
    have hds := touchesLetter_of_not_closes hd
    simp only [isSettled, hds, hd, Bool.false_or, Bool.or_false, Bool.and_eq_true, Bool.not_eq_true'] at h
    simp [h.1, h.2]
  | true =>
    cases hb : closes before with
    | true => simp
    | false =>
      simp only [isSettled, hb, Bool.false_and, Bool.or_false] at h
      simp [h]

/-- A sigma that is not settled changes its form with a letter in front of the text or behind it. -/
theorem endsWord_append_of_not_isSettled (h : isSettled before ds = false) :
    (∀ front, touchesLetter front → endsWord (before ++ front) ds = !endsWord before ds) ∨
      ∀ front back, touchesLetter back → endsWord (before ++ front) (ds ++ back) = !endsWord before ds := by
  simp only [isSettled, Bool.or_eq_false_iff, Bool.and_eq_false_iff, Bool.not_eq_false'] at h
  obtain ⟨hds, hb | ⟨hb, hd⟩⟩ := h
  · refine .inl fun front hfront => ?_
    simp [endsWord, touchesLetter_append, hb, hds, hfront, touchesLetter_of_not_closes hb]
  · refine .inr fun front back hback => ?_
    have hbefore := closes_of_touchesLetter hb
    simp [endsWord, touchesLetter_append, hbefore, hb, hd, hds, hback]

/-- Whether every capital sigma of a text has the same lower case wherever the text stands; `before` is read
backwards. -/
def settlesSigmas (before : List Char) : List Char → Bool
  | [] => true
  | c :: rest => (c != 'Σ' || isSettled before rest) && settlesSigmas (c :: before) rest

theorem settlesSigmas_of_not_mem (h : 'Σ' ∉ cs) : settlesSigmas before cs := by
  induction cs generalizing before with
  | nil => rfl
  | cons c cs ih =>
    have hc : c ≠ 'Σ' := (List.ne_of_not_mem_cons h).symm
    simp [settlesSigmas, hc, ih (List.not_mem_of_not_mem_cons h)]

theorem lowerBetween_of_settlesSigmas (h : settlesSigmas before cs) (front back : List Char) :
    lowerBetween (before ++ front) back cs = lowerFrom before cs := by
  induction cs generalizing before with
  | nil => rfl
  | cons c cs ih =>
    simp only [settlesSigmas, Bool.and_eq_true, Bool.or_eq_true, bne_iff_ne] at h
    rw [lowerBetween, lowerFrom, ← List.cons_append, ih h.2]
    congr 1
    split
    · have hsettled := endsWord_append_of_isSettled (h.1.resolve_left (absurd ‹c = 'Σ'›)) front back
      rw [hsettled, endsWord]
    · rfl

example : settlesSigmas [] "ΣΟΦΙΑ".toList ∧ settlesSigmas [] "ΟΔΟΣ".toList = false := by decide +kernel

theorem exists_of_not_settlesSigmas (h : settlesSigmas before cs = false) :
    ∃ ds es, cs = ds ++ 'Σ' :: es ∧ isSettled (ds.reverse ++ before) es = false := by
  induction cs generalizing before with
  | nil => cases h
  | cons c cs ih =>
    simp only [settlesSigmas, Bool.and_eq_false_iff, Bool.or_eq_false_iff, bne_eq_false_iff_eq] at h
    rcases h with ⟨rfl, h⟩ | h
    · exact ⟨[], cs, rfl, h⟩
    · obtain ⟨ds, es, rfl, hes⟩ := ih h
      exact ⟨c :: ds, es, rfl, by simpa using hes⟩

end FilterWatch.Text
