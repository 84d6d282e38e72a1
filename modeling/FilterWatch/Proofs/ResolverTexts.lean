import FilterWatch.Resolver
import FilterWatch.Proofs.Casing
import FilterWatch.Proofs.Separators
import FilterWatch.Proofs.Trimming

/-!
# Writing resolvers down

The resolvers that come out of texts are those whose address and keyword can stand between commas (`isWritable_iff`).
Written `ADDRESS,KEYWORD,TYPE`, each of them is read back from that text, however its fields are padded and whatever the
case of its type is (`parse_written`). A text describes no resolver only if it has no address. A type that no one knows
stands for `A`, and a field too many makes the type such a one.
-/

namespace FilterWatch
open Text

namespace RecordType
variable {t : RecordType} {cs : List Char}

/-- The text names the type, in any case and with blanks around the name. -/
def SpelledBy (t : RecordType) (cs : List Char) : Prop :=
  ∃ letters, SameLetters letters t.name.toList ∧ Surrounded letters cs

theorem name_not_blank (t : RecordType) : ∀ c ∈ t.name.toList, isBlank c = false := by
  have hall : t.name.toList.all (!isBlank ·) := by cases t <;> decide
  simpa using hall

theorem comma_not_mem_name (t : RecordType) : ',' ∉ t.name.toList := by cases t <;> decide

theorem map_asciiUpper_name (t : RecordType) : t.name.toList.map asciiUpper = t.name.toList := by cases t <;> decide

theorem find?_name (t : RecordType) : all.find? (fun u => u.name.toList == t.name.toList) = some t := by
  cases t <;> decide

theorem SpelledBy.name (t : RecordType) : t.SpelledBy t.name.toList := ⟨_, rfl, .refl _⟩

theorem ofName_of_spelledBy (h : t.SpelledBy cs) : ofName (.ofList cs) = t := by
  obtain ⟨letters, hletters, hcs⟩ := h
  have htrimmed : trimmed cs = letters := hcs.trimmed_eq (.of_forall (hletters.not_blank t.name_not_blank))
  have hupper : letters.map asciiUpper = t.name.toList := by rw [hletters.map_asciiUpper, map_asciiUpper_name]
  simp only [ofName, String.toList_ofList, htrimmed, hupper, find?_name, Option.getD_some]

theorem ofName_of_comma (h : ',' ∈ cs) : ofName (.ofList cs) = .a := by
  have hupper : ',' ∈ (trimmed cs).map asciiUpper := List.mem_map_of_mem (f := asciiUpper) (mem_trimmed h (by decide))
  have hnone : all.find? (fun t => t.name.toList == (trimmed cs).map asciiUpper) = none := by
    refine List.find?_eq_none.mpr fun t _ heq => t.comma_not_mem_name ?_
    rwa [eq_of_beq heq]
  simp only [ofName, String.toList_ofList, hnone, Option.getD_none]

end RecordType

namespace Resolver
variable {text field : String} {e : ResolverError} {r : Resolver} {a k t head cs : List Char}

structure IsField (field : String) : Prop where
  comma : ',' ∉ field.toList
  trimmed : IsTrimmed field.toList

instance (field : String) : Decidable (IsField field) :=
  decidable_of_iff (',' ∉ field.toList ∧ IsTrimmed field.toList) ⟨fun h => ⟨h.1, h.2⟩, fun h => ⟨h.comma, h.trimmed⟩⟩

/-- The resolvers whose fields can stand between commas. -/
structure IsWritable (r : Resolver) : Prop where
  nonempty : r.address ≠ ""
  address : IsField r.address
  keyword : IsField r.keyword

instance (r : Resolver) : Decidable r.IsWritable :=
  decidable_of_iff (r.address ≠ "" ∧ IsField r.address ∧ IsField r.keyword)
    ⟨fun h => ⟨h.1, h.2.1, h.2.2⟩, fun h => ⟨h.nonempty, h.address, h.keyword⟩⟩

theorem IsField.ofList_trimmed (h : IsField field) (hcs : Surrounded field.toList cs) :
    String.ofList (Text.trimmed cs) = field := by
  rw [hcs.trimmed_eq h.trimmed, String.ofList_toList]

theorem IsField.not_mem (h : IsField field) (hcs : Surrounded field.toList cs) : ',' ∉ cs :=
  hcs.not_mem (by decide) h.comma

theorem isField_trimmed (hcs : ',' ∉ cs) : IsField (.ofList (trimmed cs)) where
  comma := by
    rw [String.toList_ofList]
    exact fun h => hcs (mem_of_mem_trimmed h)
  trimmed := by
    rw [String.toList_ofList]
    exact isTrimmed_trimmed cs

/-! ### Reading one, two and three fields -/

theorem parse_address (ha : ',' ∉ a) (hne : trimmed a ≠ []) :
    parse (.ofList a) = .ok ⟨.ofList (trimmed a), "", .a⟩ := by
  have hnil : trimmed [] = [] := rfl
  simp [parse, cut_of_not_mem ha, hne, cut, hnil]

theorem parse_keyword (ha : ',' ∉ a) (hne : trimmed a ≠ []) (hk : ',' ∉ k) :
    parse (.ofList (a ++ ',' :: k)) = .ok ⟨.ofList (trimmed a), .ofList (trimmed k), .a⟩ := by
  simp [parse, cut_append ha, hne, cut_of_not_mem hk]

theorem parse_type (ha : ',' ∉ a) (hne : trimmed a ≠ []) (hk : ',' ∉ k) :
    parse (.ofList (a ++ ',' :: (k ++ ',' :: t))) =
      .ok ⟨.ofList (trimmed a), .ofList (trimmed k), .ofName (.ofList t)⟩ := by
  simp [parse, cut_append ha, hne, cut_append hk]

theorem parse_eq_error_iff :
    parse text = .error e ↔ e = .missingAddress text ∧ ∀ c ∈ text.toList.takeWhile (· ≠ ','), isBlank c := by
  rw [← cut_fst_eq, ← trimmed_eq_nil]
  by_cases h : trimmed (cut ',' text.toList).1 = []
  · simp [parse, h, eq_comm]
  · simp [parse, h]

/-! ### Writing and reading -/

theorem isWritable_of_parse (h : parse text = .ok r) : r.IsWritable := by
  unfold parse at h
  by_cases hne : trimmed (cut ',' text.toList).1 = []
  · simp [hne] at h
  · simp only [List.isEmpty_iff, hne, if_false, Except.ok.injEq] at h
    subst h
    exact ⟨by simpa using hne, isField_trimmed not_mem_cut_fst, isField_trimmed not_mem_cut_fst⟩

theorem IsWritable.parse (h : r.IsWritable) (ha : Surrounded r.address.toList a) (hk : Surrounded r.keyword.toList k)
    (ht : r.recordType.SpelledBy t) :
    parse (.ofList (a ++ ',' :: (k ++ ',' :: t))) = .ok r ∧
      parse (.ofList (a ++ ',' :: k)) = .ok { r with recordType := .a } ∧
      parse (.ofList a) = .ok { r with keyword := "", recordType := .a } := by
  have hne : trimmed a ≠ [] := by
    rw [ha.trimmed_eq h.address.trimmed]
    simpa using h.nonempty
  have haddress := h.address.not_mem ha
  have hkeyword := h.keyword.not_mem hk
  rw [parse_type haddress hne hkeyword, parse_keyword haddress hne hkeyword, parse_address haddress hne,
    h.address.ofList_trimmed ha, h.keyword.ofList_trimmed hk, RecordType.ofName_of_spelledBy ht]
  exact ⟨rfl, rfl, rfl⟩

/-- Every resolver that comes out of a text can be written down, and no other can. -/
theorem isWritable_iff : r.IsWritable ↔ ∃ text, parse text = .ok r :=
  ⟨fun h => ⟨_, (h.parse (.refl _) (.refl _) (.name _)).1⟩, fun ⟨_, h⟩ => isWritable_of_parse h⟩

/-- A third comma, and what is behind it, becomes part of the type. -/
theorem parse_append (h : 2 ≤ head.count ',') (tail : List Char) :
    (parse (.ofList (head ++ ',' :: tail))).toOption =
      (parse (.ofList head)).toOption.map ({ · with recordType := .a }) := by
  obtain ⟨a, k, t, rfl, ha, hk⟩ := exists_of_two_le_count h
  have htype : RecordType.ofName (.ofList (t ++ ',' :: tail)) = .a := RecordType.ofName_of_comma (by simp)
  by_cases hne : trimmed a = []
  · simp [parse, cut_append ha, hne, Except.toOption]
  · -- both texts have these address and keyword fields, and what is behind the second comma is the type
    rw [List.append_assoc, List.cons_append, List.append_assoc, List.cons_append, parse_type ha hne hk,
      parse_type ha hne hk, htype]
    rfl

/-- What is written is read back, with `A` for a type and nothing for a keyword that is left out. Only a text that has
nothing but blanks before its first comma describes no resolver, and a third comma makes the type `A`, whatever is
behind it. -/
theorem parse_written :
    (∀ r : Resolver, r.IsWritable → ∀ a k t, Surrounded r.address.toList a → Surrounded r.keyword.toList k →
      r.recordType.SpelledBy t →
        parse (.ofList (a ++ ',' :: (k ++ ',' :: t))) = .ok r ∧
        parse (.ofList (a ++ ',' :: k)) = .ok { r with recordType := .a } ∧
        parse (.ofList a) = .ok { r with keyword := "", recordType := .a }) ∧
    (∀ text e, parse text = .error e ↔
      e = .missingAddress text ∧ ∀ c ∈ text.toList.takeWhile (· ≠ ','), isBlank c) ∧
    ∀ head tail, 2 ≤ head.count ',' →
      (parse (.ofList (head ++ ',' :: tail))).toOption =
        (parse (.ofList head)).toOption.map ({ · with recordType := .a }) :=
  ⟨fun _ h _ _ _ ha hk ht => h.parse ha hk ht, fun _ _ => parse_eq_error_iff, fun _ tail h => parse_append h tail⟩

/-- A resolver for `TXT` records written with blanks and small letters, and another one with a field too many. -/
theorem parse_written_padded :
    parse "\t8.8.8.8:53 , block page,\u00A0tXt\n" = .ok ⟨"8.8.8.8:53", "block page", .txt⟩ ∧
      (parse "1.1.1.1,blocked,TXT,").toOption = some ⟨"1.1.1.1", "blocked", .a⟩ := by
  have hpadding : ∀ {pad : List Char}, pad.all isBlank → ∀ c ∈ pad, isBlank c := List.all_eq_true.mp
  have hwritten := parse_written.1 ⟨"8.8.8.8:53", "block page", .txt⟩ (by decide)
    "\t8.8.8.8:53 ".toList " block page".toList "\u00A0tXt\n".toList
    ⟨['\t'], [' '], hpadding (by decide), hpadding (by decide), by decide⟩
    ⟨[' '], [], hpadding (by decide), hpadding (by decide), by decide⟩
    ⟨"tXt".toList, by decide, ['\u00A0'], ['\n'], hpadding (by decide), hpadding (by decide), by decide⟩
  refine ⟨hwritten.1, (parse_written.2.2 "1.1.1.1,blocked,TXT".toList [] (by decide)).trans ?_⟩
  decide

end Resolver
end FilterWatch
