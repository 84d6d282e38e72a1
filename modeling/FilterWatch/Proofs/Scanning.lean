import FilterWatch.Proofs.Casing
import FilterWatch.Proofs.Matching

/-!
# What the matcher looks at

A message is a bag of texts to the matcher, those of its records and that of its extended error (`Message.texts`), and
the answer says whether the keyword is in one of them (`Message.carries_eq`). So it does not depend on the order of the
records, their sections, the rest of the message or the case of ASCII letters, and another record cannot take a match
away (`Message.carries_textual`).
-/

namespace FilterWatch.Dns
open Text

/-! ### Texts -/

theorem infix_toList_append (s t : String) : t.toList <:+: (s ++ t).toList := by
  rw [String.toList_append]
  exact (List.suffix_append _ _).isInfix

def EdnsOption.isError (o : EdnsOption) : Bool := o.code == extendedErrorCode

def Message.errorText? (m : Message) : Option String := m.edns.bind (·.errorText?)

/-- Every record has a text: none of them holds the options of an extension record. -/
def Message.HasTexts (m : Message) : Prop := ∀ r ∈ m.records, r.hasText

/-- The texts of the records, and that of the extended error. -/
def Message.texts (m : Message) : List String := m.records.filterMap (·.text.toOption) ++ m.errorText?.toList

variable {m m' : Message} {r : Record} {rs : List Record} {keyword : List Char} {s t : String}

theorem Record.exists_text (h : r.hasText) : ∃ t, r.text = .ok t := by
  cases ht : r.text with
  | ok t => exact ⟨t, rfl⟩
  | error f =>
    rw [(Record.text_eq_error.mp ht).1] at h
    cases h

theorem Message.mem_texts : t ∈ m.texts ↔ (∃ r ∈ m.records, r.text = .ok t) ∨ m.errorText? = some t := by
  have htext : ∀ r : Record, r.text.toOption = some t ↔ r.text = .ok t := by
    intro r
    cases r.text with
    | ok u => simp [Except.toOption]
    | error f => simp [Except.toOption]
  simp [texts, htext]

theorem anyRecordCarries_of_hasText (h : ∀ r ∈ rs, r.hasText) (keyword : List Char) :
    anyRecordCarries keyword rs = .ok ((rs.filterMap (·.text.toOption)).any (textCarries keyword)) := by
  induction rs with
  | nil => rfl
  | cons r rs ih =>
    obtain ⟨hr, hrs⟩ := List.forall_mem_cons.mp h
    obtain ⟨t, ht⟩ := Record.exists_text hr
    rw [anyRecordCarries_cons, ht, ih hrs, List.filterMap_cons_some (b := t) (by rw [ht]; rfl), List.any_cons]
    cases hc : textCarries keyword t <;> simp [hc]

/-- The matcher says whether the keyword is in one of the texts. -/
theorem Message.carries_eq (h : m.HasTexts) (keyword : String) :
    m.carries keyword = .ok (m.texts.any (textCarries (lower keyword.toList))) := by
  rw [carries, anyRecordCarries_of_hasText h, texts, List.any_append, ← errorText?]
  cases (m.records.filterMap (·.text.toOption)).any (textCarries (lower keyword.toList)) with
  | true => rfl
  | false => cases m.errorText? <;> simp [pure, Except.pure, bind, Except.bind]

theorem Message.carries_eq_true_iff (h : m.HasTexts) (keyword : String) : m.carries keyword = .ok true ↔
    (∃ r ∈ m.records, ∃ t, r.text = .ok t ∧ textCarries (lower keyword.toList) t) ∨
      ∃ t ∈ m.errorText?, textCarries (lower keyword.toList) t := by
  rw [carries_eq h, Except.ok.injEq, List.any_eq_true]
  simp only [mem_texts]
  constructor
  · rintro ⟨t, ⟨r, hr, ht⟩ | ht, hcarries⟩
    · exact .inl ⟨r, hr, t, ht, hcarries⟩
    · exact .inr ⟨t, ht, hcarries⟩
  · rintro (⟨r, hr, t, ht, hcarries⟩ | ⟨t, ht, hcarries⟩)
    · exact ⟨t, .inl ⟨r, hr, ht⟩, hcarries⟩
    · exact ⟨t, .inr ht, hcarries⟩

theorem anyRecordCarries_eq_false : anyRecordCarries keyword rs = .ok false ↔ ∀ r ∈ rs, r.Passes keyword := by
  induction rs with
  | nil => simp [anyRecordCarries]
  | cons r rs ih =>
    rw [anyRecordCarries_cons, List.forall_mem_cons, ← ih]
    cases ht : r.text with
    | error f => simp [Record.Passes, ht]
    | ok t => cases hc : textCarries keyword t <;> simp [Record.Passes, ht, hc]

theorem Message.carries_eq_false_iff (keyword : String) : m.carries keyword = .ok false ↔
    (∀ r ∈ m.records, r.Passes (lower keyword.toList)) ∧
      ∀ t ∈ m.errorText?, textCarries (lower keyword.toList) t = false := by
  rw [← anyRecordCarries_eq_false, carries, ← errorText?]
  rcases anyRecordCarries (lower keyword.toList) m.records with f | _ | _
  · simp [bind, Except.bind]
  · cases m.errorText? <;> simp [pure, Except.pure, bind, Except.bind]
  · simp [pure, Except.pure, bind, Except.bind]

/-! ### Messages with the same texts -/

def folded (t : String) : List Char := t.toList.map asciiLower

theorem textCarries_eq (keyword : List Char) (t : String) :
    textCarries keyword t = occursIn keyword (lower (folded t)) :=
  congrArg (occursIn keyword) (SameLetters.lower_eq (by simp [SameLetters, folded, asciiLower_comp_asciiLower]))

/-- The texts of two messages are the same but for their order, where they are those of records, and for the case of
ASCII letters. -/
structure Message.SameTexts (m m' : Message) : Prop where
  records : (m.records.map (·.text.map folded)).Perm (m'.records.map (·.text.map folded))
  error : m.errorText?.map folded = m'.errorText?.map folded

namespace Message

theorem SameTexts.of_perm (h : m.records.Perm m'.records) (hedns : m.edns = m'.edns) : m.SameTexts m' :=
  ⟨h.map _, by rw [errorText?, errorText?, hedns]⟩

theorem SameTexts.hasTexts (h : m.SameTexts m') (hm : m.HasTexts) : m'.HasTexts := by
  intro r' hr'
  obtain ⟨r, hr, heq⟩ := List.mem_map.mp (h.records.mem_iff.mpr (List.mem_map_of_mem hr'))
  obtain ⟨t, ht⟩ := Record.exists_text (hm r hr)
  cases ht' : r'.text with
  | error f =>
    rw [ht, ht'] at heq
    cases heq
  | ok t' =>
    cases htext : r'.hasText with
    | true => rfl
    | false => rw [Record.text_eq_error.mpr ⟨htext, rfl⟩] at ht'; cases ht'

theorem SameTexts.texts (h : m.SameTexts m') : (m.texts.map folded).Perm (m'.texts.map folded) := by
  have hrecords : ∀ m : Message, (m.records.filterMap (·.text.toOption)).map folded =
      (m.records.map (·.text.map folded)).filterMap Except.toOption := by
    intro m
    rw [List.map_filterMap, List.filterMap_map]
    refine congrArg (List.filterMap · m.records) (funext fun r => ?_)
    show r.text.toOption.map folded = (r.text.map folded).toOption
    cases r.text <;> rfl
  rw [Message.texts, Message.texts, List.map_append, List.map_append, hrecords, hrecords, ← Option.toList_map,
    ← Option.toList_map, h.error]
  exact (h.records.filterMap _).append_right _

theorem SameTexts.carries (h : m.SameTexts m') (hm : m.HasTexts) {keyword keyword' : String}
    (hk : SameLetters keyword.toList keyword'.toList) : m'.carries keyword' = m.carries keyword := by
  have hany : ∀ m : Message, m.texts.any (textCarries (lower keyword.toList)) =
      (m.texts.map folded).any fun cs => occursIn (lower keyword.toList) (lower cs) := by
    intro m
    rw [List.any_map]
    exact congrArg m.texts.any (funext (textCarries_eq _))
  rw [carries_eq hm, carries_eq (h.hasTexts hm), ← hk.lower_eq, hany, hany, h.texts.any_eq]

/-! ### What the answer depends on -/

def HasError (m : Message) : Prop := ∃ e ∈ m.edns, ∃ o ∈ e.options, o.isError

theorem errorText?_isSome : m.errorText?.isSome ↔ m.HasError := by
  rw [errorText?, HasError]
  cases m.edns with
  | none => simp
  | some e => simp [Edns.errorText?, EdnsOption.isError]

/-- What the matcher may depend on. -/
structure Textual (m : Message) : Prop where
  answers : ∀ keyword, ∃ b, m.carries keyword = .ok b
  sections : ∀ m' : Message, m'.records.Perm m.records → m'.edns = m.edns → ∀ keyword,
    m'.carries keyword = m.carries keyword
  letters : ∀ m', m.SameTexts m' → ∀ keyword keyword' : String, SameLetters keyword.toList keyword'.toList →
    m'.carries keyword' = m.carries keyword
  more : ∀ m' : Message, ∀ r, m'.records.Perm (r :: m.records) → m'.edns = m.edns → ∀ keyword,
    m.carries keyword = .ok true → m'.carries keyword ≠ .ok false ∧ (r.hasText → m'.carries keyword = .ok true)
  empty : m.carries "" = .ok true ↔ m.records ≠ [] ∨ m.HasError
  nothing : m.records = [] → ¬ m.HasError → ∀ keyword, m.carries keyword = .ok false

theorem carries_ne_false_of_perm (hrecords : m'.records.Perm (r :: m.records)) (hedns : m'.edns = m.edns)
    {keyword : String} (hm : m.carries keyword = .ok true) : m'.carries keyword ≠ .ok false := by
  intro hm'
  rw [carries_eq_false_iff, errorText?, hedns, ← errorText?] at hm'
  have hfalse : m.carries keyword = .ok false :=
    (carries_eq_false_iff keyword).mpr ⟨fun x hx => hm'.1 x (hrecords.mem_iff.mpr (.tail _ hx)), hm'.2⟩
  rw [hm] at hfalse
  cases hfalse

theorem carries_empty (h : m.HasTexts) : m.carries "" = .ok true ↔ m.records ≠ [] ∨ m.HasError := by
  have hin : ∀ t, textCarries (lower "".toList) t := fun t => occursIn_iff.mpr List.nil_infix
  rw [carries_eq_true_iff h, ← errorText?_isSome]
  simp only [hin, and_true]
  refine or_congr ⟨?_, fun hne => ?_⟩ ?_
  · rintro ⟨r, hr, -⟩
    exact List.ne_nil_of_mem hr
  · obtain ⟨r, hr⟩ := List.exists_mem_of_ne_nil _ hne
    exact ⟨r, hr, Record.exists_text (h r hr)⟩
  · simp [Option.isSome_iff_exists]

/-- The answer depends on the texts alone, whatever the case of their ASCII letters, and grows with them. -/
theorem carries_textual (h : m.HasTexts) : m.Textual where
  answers keyword := ⟨_, carries_eq h keyword⟩
  sections m' hrecords hedns keyword := (SameTexts.of_perm hrecords.symm hedns.symm).carries h rfl
  letters m' htexts keyword keyword' hk := htexts.carries h hk
  more m' r hrecords hedns keyword hm := by
    have hne := carries_ne_false_of_perm hrecords hedns hm
    refine ⟨hne, fun hr => ?_⟩
    have hm' : m'.HasTexts := fun x hx =>
      (List.mem_cons.mp (hrecords.mem_iff.mp hx)).elim (· ▸ hr) (h x)
    rw [carries_eq hm'] at hne ⊢
    cases hany : m'.texts.any (textCarries (lower keyword.toList)) with
    | true => rfl
    | false => rw [hany] at hne; exact absurd rfl hne
  empty := carries_empty h
  nothing hrecords herror keyword := by
    rw [carries_eq_false_iff]
    have hnone : m.errorText? = none := by
      rw [← Option.not_isSome_iff_eq_none, errorText?_isSome]
      exact herror
    simp [hrecords, hnone]

/-- A record of the root that holds a text. -/
def note (text : String) : Record := ⟨.root, 60, .code 1, .txt [Utf8.encode text]⟩

def noted (text : String) : Message := { answering ⟨.root, .txt, 1⟩ with additional := [note text] }

theorem hasTexts_noted (text : String) : (noted text).HasTexts := List.forall_mem_singleton.mpr rfl

/-- The final sigma stays one when the case of the ASCII letters behind it changes. -/
theorem carries_textual_noted : (noted "ΟΔΟΣ Positif").HasTexts ∧ (noted "ΟΔΟΣ Positif").Textual ∧
    (noted "ΟΔΟΣ Positif").carries "ΟΔΟΣ POSITIF" = .ok true := by
  have htexts := hasTexts_noted "ΟΔΟΣ Positif"
  exact ⟨htexts, carries_textual htexts, (carries_eq htexts _).trans (congrArg _ (by decide +kernel))⟩

end Message
end FilterWatch.Dns
