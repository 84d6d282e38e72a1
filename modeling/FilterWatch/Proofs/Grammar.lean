import FilterWatch.Domain.Scan
import FilterWatch.Proofs.Decoding
import FilterWatch.Proofs.Labels

/-!
# The grammar of domain names

`IsDomainName` is the grammar by itself: labels of ASCII characters, joined by dots, in a limited number of bytes. A text
is accepted exactly if the grammar has it. The scan of its bytes comes to the same answer and never takes a slice that
is not there: a last label is sliced only after all of its bytes were found to be ASCII (`Scan.topLabel_eq`).
-/

namespace FilterWatch
open Text

/-! ### Labels -/

structure IsHostLabel (label : String) : Prop where
  nonempty : 1 ≤ label.length
  short : label.length ≤ 63
  chars : ∀ c ∈ label.toList, c.isAlphanum ∨ c = '-' ∨ c = '_'
  head : label.toList.head? ≠ some '-'
  last : label.toList.getLast? ≠ some '-'

/-- Letters only, or Punycode. -/
def IsLastLabel (label : String) : Prop :=
  (2 ≤ label.length ∧ ∀ c ∈ label.toList, c.isAlpha) ∨
    4 < label.length ∧ (label.toList.take 4).map Char.toLower = ['x', 'n', '-', '-']

/-- Two or more labels with dots between them, in at most 255 bytes, and perhaps one more dot. -/
def IsDomainName (text : String) : Prop :=
  ∃ labels : List String, (text = ".".intercalate labels ∨ text = ".".intercalate labels ++ ".") ∧
    (".".intercalate labels).utf8ByteSize ≤ 255 ∧ 2 ≤ labels.length ∧ (∀ label ∈ labels, IsHostLabel label) ∧
    ∀ label ∈ labels.getLast?, IsLastLabel label

section
variable {c : Char} {label : String}

theorem isAsciiLetter_eq (c : Char) : isAsciiLetter c = c.isAlpha := by
  have hupper : c.isUpper = (decide ('A' ≤ c) && decide (c ≤ 'Z')) := Bool.decide_and _ _
  have hlower : c.isLower = (decide ('a' ≤ c) && decide (c ≤ 'z')) := rfl
  show _ = (c.isUpper || c.isLower)
  rw [hupper, hlower, Bool.or_comm]
  rfl

theorem isLabelChar_iff : isLabelChar c ↔ c.isAlphanum ∨ c = '-' ∨ c = '_' := by
  have hdigit : isAsciiDigit c = c.isDigit := rfl
  simp only [isLabelChar, isAsciiLetter_eq, hdigit, Char.isAlphanum, Bool.or_eq_true, beq_iff_eq, or_assoc]

theorem asciiLower_eq_toLower (c : Char) : asciiLower c = c.toLower := by
  by_cases hc : 'A' ≤ c ∧ c ≤ 'Z'
  · exact of_capital hc (by decide)
  · unfold asciiLower Char.toLower
    rw [if_neg hc, dif_neg]
    exact hc

theorem isLabel_iff : isLabel label.toList ↔ IsHostLabel label := by
  have hne : label.toList ≠ [] ↔ 1 ≤ label.length := by
    rw [← String.length_toList, Nat.succ_le_iff, List.length_pos_iff]
  simp only [isLabel, Bool.and_eq_true, Bool.not_eq_true', List.isEmpty_eq_false_iff, decide_eq_true_eq, bne_iff_ne,
    List.all_eq_true, isLabelChar_iff, String.length_toList, hne]
  constructor
  · rintro ⟨⟨⟨⟨hnonempty, hshort⟩, hhead⟩, hlast⟩, hchars⟩
    exact ⟨hnonempty, hshort, hchars, hhead, hlast⟩
  · rintro ⟨hnonempty, hshort, hchars, hhead, hlast⟩
    exact ⟨⟨⟨⟨hnonempty, hshort⟩, hhead⟩, hlast⟩, hchars⟩

theorem isTopLabel_iff : isTopLabel label.toList ↔ IsLastLabel label := by
  have hlower : asciiLower = Char.toLower := funext asciiLower_eq_toLower
  have hmark : "xn--".toList = ['x', 'n', '-', '-'] := rfl
  simp only [isTopLabel, IsLastLabel, Bool.and_eq_true, Bool.or_eq_true, decide_eq_true_eq, beq_iff_eq,
    List.all_eq_true, isAsciiLetter_eq, String.length_toList, hlower, hmark]
  constructor
  · rintro ⟨htwo, hpunycode | hletters⟩
    · exact .inr hpunycode
    · exact .inl ⟨htwo, hletters⟩
  · rintro (⟨htwo, hletters⟩ | ⟨hfour, hpunycode⟩)
    · exact ⟨htwo, .inr hletters⟩
    · exact ⟨by omega, .inl ⟨hfour, hpunycode⟩⟩

end

/-! ### Bytes -/

namespace Text
variable {c : Char} {cs : List Char}

theorem utf8ByteSize_eq (s : String) : s.utf8ByteSize = (bytes s.toList).length := by
  rw [← String.size_toByteArray, ← String.utf8Encode_toList, List.utf8Encode, bytes, List.size_toByteArray]

theorem utf8EncodeChar_of_ascii (hc : c.toNat < 0x80) : String.utf8EncodeChar c = [UInt8.ofNat c.toNat] :=
  if_pos (Nat.le_of_lt_succ hc)

theorem length_bytes_of_ascii (h : ∀ c ∈ cs, c.toNat < 0x80) : (bytes cs).length = cs.length := by
  induction cs with
  | nil => rfl
  | cons c cs ih =>
    obtain ⟨hc, hcs⟩ := List.forall_mem_cons.mp h
    rw [bytes, List.flatMap_cons, utf8EncodeChar_of_ascii hc, List.length_append, ← bytes, ih hcs, List.length_singleton,
      List.length_cons, Nat.add_comm]

theorem length_le_length_bytes (cs : List Char) : cs.length ≤ (bytes cs).length := by
  induction cs with
  | nil => exact Nat.le_refl 0
  | cons c cs ih =>
    have hpos := c.utf8Size_pos
    rw [bytes, List.flatMap_cons, List.length_append, ← bytes, String.length_utf8EncodeChar, List.length_cons]
    omega

theorem exists_mem_utf8EncodeChar (hc : 0x80 ≤ c.toNat) : ∃ b ∈ String.utf8EncodeChar c, ¬ b < 0x80 := by
  have hlast : ¬ UInt8.ofNat (c.val.toNat % 64 + 128) < 0x80 := Utf8.not_ascii_ofNat (by omega) (by omega)
  refine ⟨_, ?_, hlast⟩
  have hnot : ¬ c.val.toNat ≤ 127 := Nat.not_le.mpr hc
  simp only [String.utf8EncodeChar, if_neg hnot]
  split
  · simp
  · split <;> simp

/-- The bytes of a text are of a kind exactly if the characters are, when the kind is one of ASCII. -/
theorem all_bytes {p : UInt8 → Bool} {q : Char → Bool} (hp : ∀ b, p b → b < 0x80) (hq : ∀ c, q c → c.toNat < 0x80)
    (hpq : ∀ n < 0x80, p (UInt8.ofNat n) = q (Char.ofNat n)) (cs : List Char) : (bytes cs).all p = cs.all q := by
  induction cs with
  | nil => rfl
  | cons c cs ih =>
    have hchar : (String.utf8EncodeChar c).all p = q c := by
      by_cases hc : c.toNat < 0x80
      · rw [utf8EncodeChar_of_ascii hc, List.all_cons, hpq _ hc, Char.ofNat_toNat, List.all_nil, Bool.and_true]
      · obtain ⟨b, hb, hbyte⟩ := exists_mem_utf8EncodeChar (Nat.le_of_not_lt hc)
        rw [Bool.eq_false_iff.mpr fun h => hc (hq c h)]
        exact Bool.eq_false_iff.mpr fun h => hbyte (hp b (List.all_eq_true.mp h b hb))
    rw [bytes, List.flatMap_cons, List.all_append, hchar, ← bytes, ih, List.all_cons]

theorem slice?_of_ascii {n : Nat} (h : ∀ c ∈ cs, c.toNat < 0x80) (hn : n ≤ cs.length) :
    slice? n cs = some (cs.take n) := by
  induction cs generalizing n with
  | nil =>
    obtain rfl := Nat.le_zero.mp hn
    rfl
  | cons c cs ih =>
    cases n with
    | zero => rfl
    | succ n =>
      obtain ⟨hc, hcs⟩ := List.forall_mem_cons.mp h
      have hone : c.utf8Size = 1 := by
        rw [← String.length_utf8EncodeChar, utf8EncodeChar_of_ascii hc, List.length_singleton]
      rw [slice?, hone, if_pos (by omega), Nat.add_sub_cancel, ih hcs (Nat.le_of_succ_le_succ hn)]
      rfl

end Text

/-! ### Names -/

section
variable {text : String} {labels : List String}

theorem toList_dotted (labels : List String) :
    (".".intercalate labels).toList = ['.'].intercalate (labels.map String.toList) :=
  String.toList_intercalate

theorem fields_dotted (h : ∀ label ∈ labels, isLabel label.toList) (hne : labels ≠ []) :
    fields '.' (".".intercalate labels).toList = labels.map String.toList := by
  rw [toList_dotted]
  refine fields_intercalate_eq (by simpa using hne) fun part hpart => ?_
  obtain ⟨label, hmem, rfl⟩ := List.mem_map.mp hpart
  exact dot_notMem_of_isLabel (h label hmem)

theorem isDomainName_of_isValidDomain (h : isValidDomain text) : IsDomainName text := by
  have hlabels := (isLabel_of_isValidDomain h).2
  have hcases := eq_or_eq_dropRootDot_append text.toList
  simp only [isValidDomain, Bool.and_eq_true, decide_eq_true_eq, areNameLabels_iff] at h
  obtain ⟨hlength, htwo, -, htop⟩ := h
  generalize dropRootDot text.toList = body at *
  have hjoin : ".".intercalate ((fields '.' body).map String.ofList) = .ofList body := by
    have hlists : String.toList ∘ String.ofList = id := funext fun _ => String.toList_ofList
    rw [← String.toList_inj, toList_dotted, List.map_map, hlists, List.map_id, ← joinFields_eq_intercalate,
      joinFields_fields, String.toList_ofList]
  refine ⟨(fields '.' body).map .ofList, ?_, ?_, by rwa [List.length_map], ?_, ?_⟩
  · rw [hjoin, ← String.toList_inj, ← String.toList_inj, String.toList_append, String.toList_ofList]
    exact hcases
  · rw [hjoin, utf8ByteSize_eq, String.toList_ofList, length_bytes_of_ascii (ascii_of_labels hlabels)]
    exact hlength
  · intro label hmem
    obtain ⟨f, hf, rfl⟩ := List.mem_map.mp hmem
    exact isLabel_iff.mp (by rw [String.toList_ofList]; exact hlabels f hf)
  · intro label hmem
    rw [List.getLast?_map] at hmem
    obtain ⟨f, hf, rfl⟩ := Option.map_eq_some_iff.mp hmem
    exact isTopLabel_iff.mp (by rw [String.toList_ofList]; exact htop f hf)

theorem IsDomainName.isValidDomain (h : IsDomainName text) : isValidDomain text := by
  obtain ⟨labels, htext, hsize, htwo, hlabels, htop⟩ := h
  have hlabels : ∀ label ∈ labels, isLabel label.toList := fun label hmem => isLabel_iff.mpr (hlabels label hmem)
  have hfields := fields_dotted hlabels (List.ne_nil_of_length_pos (by omega))
  have hfieldLabels : ∀ f ∈ fields '.' (".".intercalate labels).toList, isLabel f := by
    rw [hfields]
    simpa using hlabels
  have hends := ends_of_labels hfieldLabels
  have hbody : dropRootDot text.toList = (".".intercalate labels).toList := by
    rcases htext with rfl | rfl
    · exact dropRootDot_eq_self hends.2
    · rw [String.toList_append]
      exact dropRootDot_append_dot _
  have hlength : (".".intercalate labels).toList.length ≤ 255 :=
    Nat.le_trans (length_le_length_bytes _) (utf8ByteSize_eq _ ▸ hsize)
  have hnames : areNameLabels (labels.map String.toList) := by
    refine areNameLabels_iff.mpr ⟨by rwa [List.length_map], ?_, ?_⟩
    · simpa using hlabels
    · intro label hmem
      rw [List.getLast?_map] at hmem
      obtain ⟨last, hlast, rfl⟩ := Option.map_eq_some_iff.mp hmem
      exact isTopLabel_iff.mpr (htop last hlast)
  rw [FilterWatch.isValidDomain, hbody, hfields, hnames, decide_eq_true hlength]
  rfl

end

/-! ### Scanning -/

namespace Scan
variable {cs : List Char}

theorem all_isLabelByte (cs : List Char) : (bytes cs).all isLabelByte = cs.all isLabelChar :=
  all_bytes (by grind [isLabelByte, isLetterByte]) (fun _ => ascii_of_isLabelChar) (by decide) cs

theorem all_isLetterByte (cs : List Char) : (bytes cs).all isLetterByte = cs.all isAsciiLetter :=
  all_bytes (by grind [isLetterByte]) (fun _ h => ascii_of_isLabelChar (by simp [isLabelChar, h])) (by decide) cs

theorem label_eq (cs : List Char) : label cs = isLabel cs := by
  by_cases hchars : cs.all isLabelChar
  · have hlength : (bytes cs).length = cs.length :=
      length_bytes_of_ascii fun c hc => ascii_of_isLabelChar (List.all_eq_true.mp hchars c hc)
    rw [label, isLabel, all_isLabelByte, hlength, hchars]
    grind
  · rw [label, isLabel, all_isLabelByte, Bool.eq_false_iff.mpr hchars]
    simp

/-- A label is sliced where a character ends. -/
theorem topLabel_eq (h : isLabel cs) : topLabel cs = some (isTopLabel cs) := by
  have hascii : ∀ c ∈ cs, c.toNat < 0x80 := fun c hc => ascii_of_isLabelChar (isLabelChar_of_isLabel h c hc)
  rw [topLabel, isTopLabel, all_isLetterByte, length_bytes_of_ascii hascii]
  by_cases htwo : cs.length < 2
  · rw [if_pos htwo, decide_eq_false (Nat.not_le.mpr htwo)]
    rfl
  · rw [if_neg htwo, decide_eq_true (Nat.le_of_not_lt htwo)]
    by_cases hfour : 4 < cs.length
    · rw [if_pos hfour, slice?_of_ascii hascii (Nat.le_of_lt hfour), decide_eq_true hfour]
      simp only [Option.bind_eq_bind, Option.bind_some]
      cases (cs.take 4).map asciiLower == "xn--".toList <;> rfl
    · rw [if_neg hfour, decide_eq_false hfour]
      rfl

-- The slice alone would not be safe: here it ends inside a character.
example : topLabel "xn-\u00E9a".toList = none := by decide

theorem labels_eq (fs : List (List Char)) : labels fs = some (fs.all isLabel && fs.getLast?.all isTopLabel) := by
  induction fs with
  | nil => rfl
  | cons f fs ih =>
    cases hf : isLabel f with
    | false => cases fs <;> simp [labels, label_eq, hf]
    | true =>
      cases fs with
      | nil => simp [labels, label_eq, hf, topLabel_eq hf]
      | cons g gs => simp [labels, label_eq, hf, ih]

theorem domain_eq (text : String) : domain text = some (isValidDomain text) := by
  rw [domain, isValidDomain]
  generalize dropRootDot text.toList = body
  by_cases hempty : body.isEmpty
  · rw [List.isEmpty_iff.mp hempty]
    rfl
  · rw [Bool.eq_false_iff.mpr hempty, Bool.false_or]
    cases hnames : areNameLabels (fields '.' body) with
    | true =>
      -- all is ASCII then, so the scan counts what there is
      obtain ⟨htwo, hlabels, hlast⟩ := areNameLabels_iff.mp hnames
      rw [length_bytes_of_ascii (ascii_of_labels hlabels), Bool.and_true]
      by_cases hlong : 255 < body.length
      · rw [if_pos (by simpa using hlong), decide_eq_false (Nat.not_le.mpr hlong)]
      · rw [if_neg (by simpa using hlong), if_neg (Nat.not_lt.mpr htwo), decide_eq_true (Nat.le_of_not_lt hlong),
          labels_eq, ← hnames, areNameLabels, decide_eq_true htwo, Bool.true_and]
    | false =>
      rw [Bool.and_false]
      split
      · rfl
      · split
        · rfl
        · rename_i htwo
          rw [labels_eq, ← hnames, areNameLabels, decide_eq_true (Nat.le_of_not_lt htwo), Bool.true_and]

end Scan

/-- A text is accepted exactly if the grammar has it, and the scan of its bytes always comes to that answer. -/
theorem isValidDomain_grammar (text : String) :
    (isValidDomain text ↔ IsDomainName text) ∧ Scan.domain text = some (isValidDomain text) :=
  ⟨⟨isDomainName_of_isValidDomain, IsDomainName.isValidDomain⟩, Scan.domain_eq text⟩

end FilterWatch
