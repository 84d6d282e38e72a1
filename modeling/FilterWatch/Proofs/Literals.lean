import FilterWatch.Proofs.Decoding
import FilterWatch.Proofs.Scanning

/-!
# Literal occurrences

Keyword and texts are put in lower case before the search, each by itself. A capital sigma has two lower cases, and
which one it gets depends on its neighbours, so a keyword with a capital sigma may be missed in a text in which it
stands literally. `Message.carries_literal` says for which keywords this happens.
-/

namespace FilterWatch.Text
variable {cs ds front back before before' after after' : List Char}

/-- The lower case of a text whose sigmas are settled occurs wherever the text does. -/
theorem lower_infix_lower_of_settlesSigmas (h : settlesSigmas [] cs) (hin : cs <:+: ds) : lower cs <:+: lower ds := by
  obtain ⟨front, back, rfl⟩ := hin
  rw [lower_append_append, ← List.nil_append front.reverse, lowerBetween_of_settlesSigmas h]
  exact ⟨_, _, rfl⟩

/-! ### Where the sigmas are -/

/-- One of the two small sigmas. -/
def isSigma (c : Char) : Bool := c == 'σ' || c == 'ς'

/-- The surroundings of a text decide on the form of its sigmas, not on their places. -/
theorem map_isSigma_lowerBetween (before after before' after' cs : List Char) :
    (lowerBetween before after cs).map isSigma = (lowerBetween before' after' cs).map isSigma := by
  induction cs generalizing before before' with
  | nil => rfl
  | cons c cs ih =>
    rw [lowerBetween, lowerBetween, List.map_append, List.map_append, ih (c :: before) (c :: before')]
    congr 1
    split
    · cases endsWord before (cs ++ after) <;> cases endsWord before' (cs ++ after') <;> rfl
    · rfl

theorem length_lowerBetween (before after before' after' cs : List Char) :
    (lowerBetween before after cs).length = (lowerBetween before' after' cs).length := by
  rw [← List.length_map isSigma, map_isSigma_lowerBetween before after before' after', List.length_map]

theorem exists_isSigma (h : 'Σ' ∈ cs) (before after : List Char) : ∃ c ∈ lowerBetween before after cs, isSigma c := by
  induction cs generalizing before with
  | nil => cases h
  | cons c cs ih =>
    rw [lowerBetween]
    rcases List.mem_cons.mp h with rfl | h
    · refine ⟨_, List.mem_append_left _ (List.mem_singleton.mpr rfl), ?_⟩
      split <;> rfl
    · obtain ⟨d, hd, hsigma⟩ := ih h (c :: before)
      exact ⟨d, List.mem_append_right _ hd, hsigma⟩

theorem isSigma_of_ascii {c : Char} (h : c.toNat < 0x80) : isSigma c = false := by
  rw [isSigma, Bool.or_eq_false_iff, beq_eq_false_iff_ne, beq_eq_false_iff_ne]
  constructor <;> (rintro rfl; exact absurd h (by decide))

/-- The first marked character shows where a text stands. -/
theorem findIdx_append_append {p : Char → Bool} (hsome : ∃ c ∈ cs, p c) (hfront : ∀ c ∈ front, p c = false)
    (back : List Char) : (front ++ cs ++ back).findIdx p = cs.findIdx p + front.length := by
  rw [List.append_assoc, List.findIdx_append, List.findIdx_eq_length_of_false hfront, if_neg (Nat.lt_irrefl _),
    List.findIdx_append, if_pos (List.findIdx_lt_length.mpr hsome)]

/-- A text with the marks of another one stands between unmarked ones only where the other one does. -/
theorem eq_of_infix_of_marks {p : Char → Bool} (hmarks : ds.map p = cs.map p) (hsome : ∃ c ∈ cs, p c)
    (hfront : ∀ c ∈ front, p c = false) (hback : ∀ c ∈ back, p c = false) (h : ds <:+: front ++ cs ++ back) :
    ds = cs := by
  obtain ⟨front', back', heq⟩ := h
  have hlength : ds.length = cs.length := by
    have := congrArg List.length hmarks
    rwa [List.length_map, List.length_map] at this
  have hfirst : ds.findIdx p = cs.findIdx p := by
    have := congrArg (List.findIdx id) hmarks
    rwa [List.findIdx_map, List.findIdx_map] at this
  have hnone : front'.countP p = 0 := by
    have hall := congrArg (List.countP p) heq
    have hsame := congrArg (List.countP id) hmarks
    rw [List.countP_map, List.countP_map] at hsame
    have hfront := List.countP_eq_zero.mpr fun c hc => Bool.eq_false_iff.mp (hfront c hc)
    have hback := List.countP_eq_zero.mpr fun c hc => Bool.eq_false_iff.mp (hback c hc)
    simp only [List.countP_append, hfront, hback] at hall
    have hsame : ds.countP p = cs.countP p := hsame
    omega
  have hsome' : ∃ c ∈ ds, p c := by
    rwa [← List.findIdx_lt_length, hfirst, hlength, List.findIdx_lt_length]
  have hplace := congrArg (List.findIdx p) heq
  rw [findIdx_append_append hsome hfront, findIdx_append_append hsome'
    fun c hc => Bool.eq_false_iff.mpr (List.countP_eq_zero.mp hnone c hc), hfirst] at hplace
  rw [List.append_assoc, List.append_assoc] at heq
  exact List.append_inj_left (List.append_inj_right heq (Nat.add_left_cancel hplace)) hlength

/-! ### Missed occurrences -/

theorem not_isSigma_map_asciiLower (h : ∀ c ∈ cs, c.toNat < 0x80) : ∀ c ∈ cs.map asciiLower, isSigma c = false := by
  simp only [List.forall_mem_map]
  exact fun c hc => isSigma_of_ascii (ascii_asciiLower.mpr (h c hc))

/-- Between characters of ASCII, a text with sigmas is found only if its lower case is the one that it has by itself. -/
theorem lowerBetween_eq_of_occurs (hs : 'Σ' ∈ cs) (hfront : ∀ c ∈ front, c.toNat < 0x80)
    (hback : ∀ c ∈ back, c.toNat < 0x80) (h : lower cs <:+: lower (front ++ cs ++ back)) :
    lowerBetween [] [] cs = lowerBetween front.reverse back cs := by
  rw [lower_append_append, lowerBetween_of_ascii hfront, ← lowerBetween_nil _ back, lowerBetween_of_ascii hback, lower,
    ← lowerBetween_nil] at h
  exact eq_of_infix_of_marks (map_isSigma_lowerBetween ..) (exists_isSigma hs _ _) (not_isSigma_map_asciiLower hfront)
    (not_isSigma_map_asciiLower hback) h

theorem endsWord_eq_of_lowerBetween_eq
    (h : lowerBetween before after (cs ++ 'Σ' :: ds) = lowerBetween before' after' (cs ++ 'Σ' :: ds)) :
    endsWord (cs.reverse ++ before) (ds ++ after) = endsWord (cs.reverse ++ before') (ds ++ after') := by
  induction cs generalizing before before' with
  | nil =>
    rw [List.nil_append, lowerBetween, lowerBetween, if_pos rfl, if_pos rfl] at h
    have hhead := (List.cons.inj h).1
    show endsWord before (ds ++ after) = endsWord before' (ds ++ after')
    cases hb : endsWord before (ds ++ after) <;> cases hb' : endsWord before' (ds ++ after') <;>
      first | rfl | (rw [hb, hb'] at hhead; exact absurd hhead (by decide))
  | cons c cs ih =>
    rw [List.cons_append, lowerBetween, lowerBetween] at h
    have htail := List.append_inj_right' h (length_lowerBetween ..)
    simpa using ih htail

theorem missed_of_not_settlesSigmas (h : settlesSigmas [] cs = false) :
    (∀ front, (∀ c ∈ front, c.toNat < 0x80) → touchesLetter front.reverse → ¬ lower cs <:+: lower (front ++ cs)) ∨
      ∀ front back, (∀ c ∈ front, c.toNat < 0x80) → (∀ c ∈ back, c.toNat < 0x80) → touchesLetter back →
        ¬ lower cs <:+: lower (front ++ cs ++ back) := by
  obtain ⟨ds, es, rfl, hes⟩ := exists_of_not_settlesSigmas h
  have hs : 'Σ' ∈ ds ++ 'Σ' :: es := by simp
  rw [List.append_nil] at hes
  rcases endsWord_append_of_not_isSettled hes with hmiss | hmiss
  · refine .inl fun front hfront hletter hin => ?_
    rw [← List.append_nil (front ++ _)] at hin
    have hends := endsWord_eq_of_lowerBetween_eq (lowerBetween_eq_of_occurs hs hfront (by simp) hin)
    rw [List.append_nil, List.append_nil, hmiss _ hletter] at hends
    exact (Bool.not_eq_self _).mp hends.symm
  · refine .inr fun front back hfront hback hletter hin => ?_
    have hends := endsWord_eq_of_lowerBetween_eq (lowerBetween_eq_of_occurs hs hfront hback hin)
    rw [List.append_nil, List.append_nil, hmiss _ _ hletter] at hends
    exact (Bool.not_eq_self _).mp hends.symm

end FilterWatch.Text

namespace FilterWatch.Dns
open Text
namespace Message
variable {m : Message} {keyword text : String} {r : Record} {t : String}

theorem carries_of_settlesSigmas (h : settlesSigmas [] keyword.toList) (hm : m.HasTexts) (hr : r ∈ m.records)
    (ht : r.text = .ok t) (hin : keyword.toList <:+: t.toList) : m.carries keyword = .ok true :=
  (carries_eq_true_iff hm keyword).mpr
    (.inl ⟨r, hr, t, ht, occursIn_iff.mpr (lower_infix_lower_of_settlesSigmas h hin)⟩)

theorem text_note (text : String) : (note text).text = .ok (". 60 IN TXT " ++ text) := by
  have hdata : (RecordData.txt [Utf8.encode text]).text = .ok text := by
    rw [RecordData.text, List.flatMap_singleton, Utf8.decodeLossy_encode, String.ofList_toList]
  have hfields : Name.root.display ++ " " ++ toString (60 : UInt32).toNat ++ " " ++ (RecordClass.code 1).name ++ " " ++
      TypeCode.txt.name ++ " " = ". 60 IN TXT " := by decide +kernel
  rw [Record.text, note, hdata, ← hfields]
  rfl

theorem not_carries_noted (h : ¬ lower keyword.toList <:+: lower (". 60 IN TXT ".toList ++ text.toList)) :
    (noted text).carries keyword ≠ .ok true := by
  rw [ne_eq, carries_eq_true_iff (hasTexts_noted text)]
  rintro (⟨r, hr, t, ht, hcarries⟩ | ⟨t, ht, -⟩)
  · rw [List.mem_singleton.mp hr, text_note, Except.ok.injEq] at ht
    rw [← ht, textCarries, occursIn_iff, String.toList_append] at hcarries
    exact h hcarries
  · cases ht

/-- A keyword with a sigma that is not settled is missed in a text in which it stands. -/
theorem exists_missed (h : settlesSigmas [] keyword.toList = false) :
    ∃ text : String, keyword.toList <:+: text.toList ∧ (noted text).carries keyword ≠ .ok true := by
  rcases missed_of_not_settlesSigmas h with hmiss | hmiss
  · refine ⟨"a" ++ keyword, infix_toList_append _ _, not_carries_noted ?_⟩
    rw [String.toList_append, ← List.append_assoc]
    exact hmiss _ (ascii_of_all (by decide +kernel)) (by decide +kernel)
  · refine ⟨keyword ++ "a", ?_, not_carries_noted ?_⟩
    · rw [String.toList_append]
      exact (List.prefix_append _ _).isInfix
    · rw [String.toList_append, ← List.append_assoc]
      exact hmiss _ _ (ascii_of_all (by decide +kernel)) (ascii_of_all (by decide)) (by decide +kernel)

/-- The keywords that are found in every record whose text has them are those whose sigmas are settled, as all are that
have no capital sigma. -/
theorem carries_literal (keyword : String) :
    ('Σ' ∉ keyword.toList → settlesSigmas [] keyword.toList) ∧
      (settlesSigmas [] keyword.toList ↔ ∀ m : Message, m.HasTexts → ∀ r ∈ m.records, ∀ t, r.text = .ok t →
        keyword.toList <:+: t.toList → m.carries keyword = .ok true) := by
  refine ⟨settlesSigmas_of_not_mem, fun h m hm r hr t ht => carries_of_settlesSigmas h hm hr ht, fun h => ?_⟩
  cases hs : settlesSigmas [] keyword.toList with
  | true => rfl
  | false =>
    obtain ⟨text, hin, hmissed⟩ := exists_missed hs
    refine absurd (h _ (hasTexts_noted text) (note text) (List.mem_singleton.mpr rfl) _ (text_note text) ?_) hmissed
    exact hin.trans (infix_toList_append _ _)

/-- The last sigma of the keyword ends a word, the one in the text does not. -/
theorem carries_literal_inside_word :
    (noted "ΟΔΟΣΑ").HasTexts ∧ note "ΟΔΟΣΑ" ∈ (noted "ΟΔΟΣΑ").records ∧
      (note "ΟΔΟΣΑ").text = .ok ". 60 IN TXT ΟΔΟΣΑ" ∧ "ΟΔΟΣ".toList <:+: ". 60 IN TXT ΟΔΟΣΑ".toList ∧
      (noted "ΟΔΟΣΑ").carries "ΟΔΟΣ" = .ok false := by
  refine ⟨hasTexts_noted _, List.mem_singleton.mpr rfl, text_note _, occursIn_iff.mp (by decide +kernel), ?_⟩
  rw [carries_eq (hasTexts_noted _)]
  exact congrArg _ (by decide +kernel)

end Message
end FilterWatch.Dns
