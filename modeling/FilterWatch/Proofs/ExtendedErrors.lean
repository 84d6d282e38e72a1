import FilterWatch.Proofs.Decoding
import FilterWatch.Proofs.Scanning

/-!
# Extended errors

An answer may carry several extended errors. The matcher looks for the first option with their code
(`Edns.errorText?_append`), so a keyword in the text of an extended error is found if no other one stands in front of
it; if one does, the options in front of it give the answer (`Message.carries_mentioned`).
-/

namespace FilterWatch.Dns
open Text

variable {m : Message} {e : Edns} {o : EdnsOption} {before after : List EdnsOption} {cs : List Char} {t : String}

/-! ### The option that counts -/

theorem Edns.errorText?_eq (e : Edns) :
    e.errorText? = (e.options.find? (·.isError)).map fun o => extendedErrorText o.data := rfl

/-- The first extended error counts. -/
theorem Edns.errorText?_append (hoptions : e.options = before ++ o :: after) (ho : o.isError) :
    e.errorText? = if before.any (·.isError) then { e with options := before }.errorText?
      else some (extendedErrorText o.data) := by
  rw [errorText?_eq, errorText?_eq, hoptions, List.find?_append]
  cases hbefore : before.find? (·.isError) with
  | none =>
    have hnone : before.any (·.isError) = false := List.any_eq_false.mpr (List.find?_eq_none.mp hbefore)
    rw [List.find?_cons_of_pos ho, hnone]
    rfl
  | some first =>
    have hany : before.any (·.isError) :=
      List.any_eq_true.mpr ⟨first, List.mem_of_find?_eq_some hbefore, List.find?_some hbefore⟩
    rw [hany]
    rfl

/-! ### Keywords in its text -/

/-- The keyword is in the text behind the code of the extended error, the case of ASCII letters aside. -/
structure EdnsOption.Mentions (o : EdnsOption) (keyword : List Char) : Prop where
  length_le : 2 ≤ o.data.length
  text : keyword.map asciiLower <:+: (Utf8.decodeLossy (o.data.drop 2)).map asciiLower

theorem EdnsOption.mentions_of_bytes {high low : UInt8} {front bs back : List UInt8}
    (hdata : o.data = high :: low :: (front ++ bs ++ back)) (hbs : ∀ b ∈ bs, b < 0x80)
    (hcs : SameLetters cs (bs.map fun b => Char.ofNat b.toNat)) : o.Mentions cs where
  length_le := by simp [hdata]
  text := by
    rw [hdata, hcs]
    exact (Utf8.infix_decodeLossy hbs front back).map asciiLower

theorem EdnsOption.Mentions.textCarries (h : o.Mentions cs) (hcs : ∀ c ∈ cs, c.toNat < 0x80) :
    textCarries (lower cs) (extendedErrorText o.data) := by
  obtain ⟨hlength, hin⟩ := h
  rcases hdata : o.data with _ | ⟨high, _ | ⟨low, bytes⟩⟩
  · simp [hdata] at hlength
  · simp [hdata] at hlength
  · rw [hdata] at hin
    refine occursIn_iff.mpr (lower_infix_lower_of_ascii hcs (hin.trans ?_))
    refine List.IsInfix.map _ ?_
    have htext := infix_toList_append ("EDE " ++ toString (high.toNat * 256 + low.toNat) ++ ": ")
      (.ofList (Utf8.decodeLossy bytes))
    rwa [String.toList_ofList] at htext

namespace Message

def withOptions (m : Message) (e : Edns) (options : List EdnsOption) : Message :=
  { m with edns := some { e with options } }

theorem carries_of_errorText? (h : m.HasTexts) (htext : m.errorText? = some t) (keyword : String) :
    m.carries keyword = .ok true ↔
      { m with edns := none }.carries keyword = .ok true ∨ textCarries (lower keyword.toList) t := by
  have hplain : { m with edns := none }.HasTexts := h
  rw [carries_eq_true_iff h, carries_eq_true_iff hplain, htext]
  simp [records, errorText?]

/-- An extended error behind another one is not looked at, nor is anything behind it. The first one is, and keywords in
its text are found. -/
theorem carries_mentioned (h : m.HasTexts) (hedns : m.edns = some e) (hoptions : e.options = before ++ o :: after)
    (ho : o.isError) (keyword : String) :
    (before.any (·.isError) → m.carries keyword = (m.withOptions e before).carries keyword) ∧
      (before.any (·.isError) = false →
        (m.carries keyword = .ok true ↔ { m with edns := none }.carries keyword = .ok true ∨
          textCarries (lower keyword.toList) (extendedErrorText o.data)) ∧
        ((∀ c ∈ keyword.toList, c.toNat < 0x80) → o.Mentions keyword.toList → m.carries keyword = .ok true)) := by
  have htext := Edns.errorText?_append hoptions ho
  refine ⟨fun hbefore => ?_, fun hbefore => ?_⟩
  · rw [if_pos hbefore] at htext
    rw [carries, carries, hedns, Option.bind_some, htext]
    rfl
  · rw [hbefore, if_neg Bool.false_ne_true] at htext
    have hiff := carries_of_errorText? h (by rw [errorText?, hedns, Option.bind_some, htext]) keyword
    exact ⟨hiff, fun hascii hmentions => hiff.mpr (.inr (hmentions.textCarries hascii))⟩

/-- An answer without records. -/
def extended (options : List EdnsOption) : Message :=
  { answering ⟨.root, .a, 1⟩ with edns := some ⟨0, 1232, options⟩ }

theorem hasTexts_extended (options : List EdnsOption) : (extended options).HasTexts := fun _ hr => nomatch hr

/-- Neither the options around it nor bytes that are no text keep an extended error from being found. -/
theorem carries_mentioned_among_bytes :
    (extended [⟨3, []⟩, ⟨15, 0 :: 15 :: ([0xFF] ++ Utf8.encode "trustPOSITIF" ++ [0xC3])⟩, ⟨15, []⟩]).carries
      "TrustPositif" = .ok true := by
  have hmentions : (⟨15, 0 :: 15 :: ([0xFF] ++ Utf8.encode "trustPOSITIF" ++ [0xC3])⟩ : EdnsOption).Mentions
      "TrustPositif".toList :=
    EdnsOption.mentions_of_bytes rfl (by decide +kernel) (by decide +kernel)
  have hoptions : (Edns.mk 0 1232 [⟨3, []⟩, ⟨15, 0 :: 15 :: ([0xFF] ++ Utf8.encode "trustPOSITIF" ++ [0xC3])⟩,
      ⟨15, []⟩]).options = [⟨3, []⟩] ++ _ :: [⟨15, []⟩] := rfl
  exact ((carries_mentioned (hasTexts_extended _) rfl hoptions rfl _).2 rfl).2 (ascii_of_all (by decide)) hmentions

/-- The second of two extended errors is not looked at. -/
theorem carries_mentioned_second :
    (⟨15, 0 :: 15 :: Utf8.encode "internetpositif"⟩ : EdnsOption).Mentions "internetpositif".toList ∧
      (extended [⟨15, [0, 1, 0x41]⟩, ⟨15, 0 :: 15 :: Utf8.encode "internetpositif"⟩]).carries "internetpositif" =
        .ok false := by
  have hdata : 0 :: 15 :: Utf8.encode "internetpositif" = 0 :: 15 :: ([] ++ Utf8.encode "internetpositif" ++ []) := by
    rw [List.append_nil]
    rfl
  refine ⟨EdnsOption.mentions_of_bytes hdata (by decide +kernel) (by decide +kernel), ?_⟩
  rw [carries_eq (hasTexts_extended _)]
  exact congrArg _ (by decide +kernel)

end Message
end FilterWatch.Dns
