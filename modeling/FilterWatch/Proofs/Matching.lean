import FilterWatch.Dns.Keyword
import FilterWatch.Proofs.Reading

/-!
# When the matcher crashes

The one kind of record data without a text, the options of an extension record, crashes the matcher when it is reached:
when no record in front of it carries the keyword (`Message.carries_eq_error`). Among the additional records of a message
from the wire there is none, since those become the extensions of the message. In the other two sections nothing keeps
them out (`carries_eq_error_of_decode`).
-/

namespace FilterWatch.Dns

/-! ### Texts -/

def RecordData.hasText : RecordData → Bool
  | opt _ => false
  | _ => true

def Record.hasText (r : Record) : Bool := r.data.hasText

theorem RecordData.text_eq_error {d : RecordData} {f : Fault} :
    d.text = .error f ↔ d.hasText = false ∧ f = noTextFault := by
  cases d with
  | opt options => simp [text, hasText, eq_comm]
  | _ => simp [text, hasText]

theorem Record.text_eq_error {r : Record} {f : Fault} : r.text = .error f ↔ r.hasText = false ∧ f = noTextFault := by
  rw [hasText, ← RecordData.text_eq_error, text]
  cases r.data.text with
  | error g => exact Iff.rfl
  | ok t => exact iff_of_false (fun h => nomatch h) (fun h => nomatch h)

/-- The record has a text, and the keyword is not in it. -/
def Record.Passes (keyword : List Char) (r : Record) : Prop := ∃ t, r.text = .ok t ∧ textCarries keyword t = false

theorem anyRecordCarries_cons (keyword : List Char) (r : Record) (rs : List Record) :
    anyRecordCarries keyword (r :: rs) = match r.text with
      | .error f => .error f
      | .ok t => if textCarries keyword t then .ok true else anyRecordCarries keyword rs := by
  rw [anyRecordCarries]
  cases r.text with
  | error f => rfl
  | ok t => rfl

theorem anyRecordCarries_eq_error {keyword : List Char} {rs : List Record} {f : Fault} :
    anyRecordCarries keyword rs = .error f ↔
      f = noTextFault ∧ ∃ before r after, rs = before ++ r :: after ∧ r.hasText = false ∧
        ∀ x ∈ before, x.Passes keyword := by
  induction rs with
  | nil => simp [anyRecordCarries]
  | cons x rest ih =>
    rw [anyRecordCarries_cons]
    constructor
    · intro h
      cases hx : x.text with
      | error g =>
        rw [hx] at h
        cases h
        obtain ⟨htext, hf⟩ := Record.text_eq_error.mp hx
        exact ⟨hf, [], x, rest, rfl, htext, by simp⟩
      | ok t =>
        simp only [hx] at h
        cases ht : textCarries keyword t with
        | true => simp [ht] at h
        | false =>
          simp only [ht, Bool.false_eq_true, if_false] at h
          obtain ⟨hf, before, r, after, rfl, htext, hbefore⟩ := ih.mp h
          exact ⟨hf, x :: before, r, after, rfl, htext, List.forall_mem_cons.mpr ⟨⟨t, hx, ht⟩, hbefore⟩⟩
    · rintro ⟨hf, before, r, after, hrs, htext, hbefore⟩
      cases before with
      | nil =>
        cases hrs
        rw [Record.text_eq_error.mpr ⟨htext, hf⟩]
      | cons y before =>
        cases hrs
        obtain ⟨⟨t, hx, ht⟩, hbefore⟩ := List.forall_mem_cons.mp hbefore
        simp only [hx, ht, Bool.false_eq_true, if_false]
        exact ih.mpr ⟨hf, before, r, after, rfl, htext, hbefore⟩

theorem Message.carries_eq_error {m : Message} {keyword : String} {f : Fault} :
    m.carries keyword = .error f ↔ f = noTextFault ∧ ∃ before r after, m.records = before ++ r :: after ∧
      r.hasText = false ∧ ∀ x ∈ before, x.Passes (Text.lower keyword.toList) := by
  rw [← anyRecordCarries_eq_error, carries]
  rcases anyRecordCarries (Text.lower keyword.toList) m.records with g | _ | _
  · exact Iff.rfl
  · exact iff_of_false (fun h => nomatch h) (fun h => nomatch h)
  · exact iff_of_false (fun h => nomatch h) (fun h => nomatch h)

/-! ### Messages from the wire -/

namespace Wire

theorem hasText_of_not_isExtension {r : Record} (h : isExtension r = false) : r.hasText := by
  rw [Record.hasText]
  cases hd : r.data with
  | opt options => simp [isExtension, hd, RecordData.type] at h
  | _ => rfl

theorem hasText_of_assemble {id flagWord : UInt16} {questions : List Question}
    {answers authority additional : List Record} {m : Message}
    (h : assemble id flagWord questions answers authority additional = some m) :
    ∀ r ∈ m.additional, r.hasText := by
  have hothers : m.additional = additional.filter (!isExtension ·) := by
    unfold assemble at h
    dsimp only at h
    split at h
    · cases h; rfl
    · cases h; rfl
    · cases h
  intro r hr
  rw [hothers] at hr
  exact hasText_of_not_isExtension (by simpa using (List.mem_filter.mp hr).2)

theorem hasText_of_decode {bytes : List UInt8} {m : Message} (h : decode bytes = some m) :
    ∀ r ∈ m.additional, r.hasText := by
  obtain ⟨_, _, _, _, _, _, -, hm⟩ := assemble_of_decode h
  exact hasText_of_assemble hm

/-- The matcher crashes on a decoded message exactly when a record without a text stands among its answers or in its
authority section and nothing in front of it carries the keyword. -/
theorem carries_eq_error_of_decode {bytes : List UInt8} {m : Message} (h : decode bytes = some m) (keyword : String)
    (f : Fault) : m.carries keyword = .error f ↔
      f = noTextFault ∧ ∃ before r after, m.answers ++ m.authority = before ++ r :: after ∧ r.hasText = false ∧
        ∀ x ∈ before, x.Passes (Text.lower keyword.toList) := by
  rw [Message.carries_eq_error, Message.records]
  refine and_congr_right fun _ => ⟨?_, ?_⟩
  · rintro ⟨before, r, after, hrs, htext, hbefore⟩
    have hr : r ∉ m.additional := fun hr => by rw [hasText_of_decode h r hr] at htext; cases htext
    rcases List.append_eq_append_iff.mp hrs with ⟨mid, -, hadditional⟩ | ⟨mid, hfront, hmid⟩
    · exact absurd (by rw [hadditional]; simp) hr
    · cases mid with
      | nil => exact absurd (by rw [← show r :: after = m.additional from hmid]; exact .head _) hr
      | cons y mid =>
        cases hmid
        exact ⟨before, r, mid, hfront, htext, hbefore⟩
  · rintro ⟨before, r, after, hfront, htext, hbefore⟩
    exact ⟨before, r, after ++ m.additional, by rw [hfront]; simp, htext, hbefore⟩

def exampleCom : Name :=
  ⟨[[0x65, 0x78, 0x61, 0x6D, 0x70, 0x6C, 0x65], [0x63, 0x6F, 0x6D]], true⟩

/-- An answer to a question for `example.com` with an extension record among its answers. -/
def misplacedOptions : List UInt8 :=
  [0x12, 0x34, 0x81, 0x80, 0, 1, 0, 1, 0, 0, 0, 0,
    7, 0x65, 0x78, 0x61, 0x6D, 0x70, 0x6C, 0x65, 3, 0x63, 0x6F, 0x6D, 0, 0, 1, 0, 1,
    0, 0, 0x29, 0x04, 0xD0, 0, 0, 0, 0, 0, 6, 0, 15, 0, 2, 0, 15]

theorem decode_misplacedOptions : decode misplacedOptions = some
    { id := 0x1234, flags := flagsOfWord 0x8180, rcode := 0
      questions := [⟨exampleCom, .a, 1⟩]
      answers := [⟨Name.root, 0, .bufferSize 1232, .opt [⟨15, [0, 15]⟩]⟩]
      authority := [], additional := [], edns := none } := by
  have hname : Reader.name misplacedOptions.toArray 12 = some (exampleCom, 25) := by
    cbv
  have howner : Reader.name misplacedOptions.toArray 29 = some (Name.root, 30) := by
    cbv
  have hquestion : question misplacedOptions.toArray 12 = some (⟨exampleCom, .a, 1⟩, 29) :=
    Reader.bind_eq_some.mpr ⟨_, _, hname, by decide +kernel⟩
  have hanswer : record misplacedOptions.toArray 29 =
      some (⟨Name.root, 0, .bufferSize 1232, .opt [⟨15, [0, 15]⟩]⟩, 46) :=
    Reader.bind_eq_some.mpr ⟨_, _, howner, by decide +kernel⟩
  refine Option.map_eq_some_iff.mpr ⟨⟨_, 46⟩, ?_, rfl⟩
  -- the six words of the header, then as many questions and records as they count
  iterate 6 refine Reader.bind_eq_some.mpr ⟨_, _, rfl, ?_⟩
  refine Reader.bind_eq_some.mpr ⟨_, _, Reader.bind_eq_some.mpr ⟨_, _, hquestion, rfl⟩, ?_⟩
  refine Reader.bind_eq_some.mpr ⟨_, _, Reader.bind_eq_some.mpr ⟨_, _, hanswer, rfl⟩, ?_⟩
  iterate 2 refine Reader.bind_eq_some.mpr ⟨_, _, rfl, ?_⟩
  rfl

/-- The matcher crashes on what the bytes are decoded to. -/
theorem carries_misplacedOptions :
    (decode misplacedOptions).map (·.carries "internetpositif") = some (.error noTextFault) := by
  rw [decode_misplacedOptions, Option.map_some, Option.some_inj, Message.carries_eq_error]
  exact ⟨rfl, [], _, [], rfl, rfl, by simp⟩

end Wire
end FilterWatch.Dns
