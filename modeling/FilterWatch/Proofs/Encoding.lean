import FilterWatch.Proofs.Questions
import FilterWatch.Proofs.Reading
import FilterWatch.Transport.Tcp

/-!
# Queries on the wire

Each part of a query is read from the bytes that are written for it: a name from its labels, each of them behind its
length (`Reader.reads_name`), the question, and the extensions from a record without data. So the whole is decoded to
the message that was encoded, with no bytes left (`reads_encode`). The query for a valid domain can be written in 282
bytes (`ofDomain_carried`).
-/

namespace FilterWatch.Dns

/-! ### Names that can be written -/

/-- An absolute name whose labels can be told from the end of the name and from pointers, with room for all of them. -/
structure Name.Writable (n : Name) : Prop where
  absolute : n.absolute = true
  nonempty : ∀ l ∈ n.labels, 0 < l.length
  short : ∀ l ∈ n.labels, l.length ≤ maxLabelLength
  fits : n.wireLength ≤ maxWireLength

theorem Name.writable_root : root.Writable := ⟨rfl, nofun, nofun, by decide⟩

theorem Name.length_labelOfChars {cs : List Char} (h : isLabel cs) :
    0 < (labelOfChars cs).length ∧ (labelOfChars cs).length ≤ maxLabelLength := by
  simp only [isLabel, Bool.and_eq_true, decide_eq_true_eq, Bool.not_eq_true', List.isEmpty_eq_false_iff] at h
  rw [labelOfChars, List.length_map]
  exact ⟨List.length_pos_iff.mpr h.1.1.1.1, h.1.1.1.2⟩

theorem Name.writable_ofLabels {cs : List Char} (h : ∀ f ∈ Text.fields '.' cs, isLabel f) (hlength : cs.length ≤ 253) :
    (ofLabels (Text.fields '.' cs)).Writable where
  absolute := rfl
  nonempty l hl := by
    obtain ⟨f, hf, rfl⟩ := List.mem_map.mp hl
    exact (length_labelOfChars (h f hf)).1
  short l hl := by
    obtain ⟨f, hf, rfl⟩ := List.mem_map.mp hl
    exact (length_labelOfChars (h f hf)).2
  fits := by
    rw [wireLength, ofLabels, labelsLength_fields, maxWireLength]
    omega

namespace Query
variable {q : Query} {id : UInt16} {n : Name}

theorem canEncode_of_writable (h : n.Writable) : canEncode n := by
  rw [canEncode, Bool.and_eq_true, List.all_eq_true]
  exact ⟨fun l hl => decide_eq_true (h.short l hl), decide_eq_true h.fits⟩

theorem length_encodeName (n : Name) : (encodeName n).length = n.wireLength := by
  rw [encodeName, Name.wireLength, List.length_append, List.length_singleton]
  congr 1
  induction n.labels with
  | nil => rfl
  | cons l labels ih =>
    rw [List.flatMap_cons, List.length_append, ih, Name.labelsLength]
    rfl

theorem length_encode (q : Query) (id : UInt16) : (q.encode id).length = q.name.wireLength + 27 := by
  simp [encode, word, length_encodeName]

theorem encode?_of_writable (h : q.name.Writable) : q.encode? id = some (q.encode id) := by
  have hfits : q.name.wireLength ≤ 255 := h.fits
  refine if_pos ?_
  rw [Bool.and_eq_true, length_encode]
  exact ⟨canEncode_of_writable h, decide_eq_true (show _ ≤ 65535 by omega)⟩

end Query

namespace Wire
open Query
variable {n : Name}

namespace Reader

theorem reads_written (w : UInt16) : Reads word (Query.word w) w := by
  have h := reads_word (w >>> 8).toUInt8 w.toUInt8
  rwa [wordOf_halves] at h

/-! ### Names -/

section
variable {msg : Array UInt8} {start bound pos next : Nat} {b : UInt8} {label : Label} {rest : List Label}

theorem labelsFrom_end (hpos : pos < bound) (hmsg : msg[pos]? = some 0) :
    labelsFrom msg start bound pos = some ([], pos + 1) := by
  rw [labelsFrom, dif_pos hpos, hmsg]
  rfl

theorem labelsFrom_label (hpos : pos < bound) (hmsg : msg[pos]? = some b) (hnonempty : b ≠ 0) (hshort : b < 0x40)
    (hlabel : slice? msg (pos + 1) b.toNat = some label)
    (hrest : labelsFrom msg start bound (pos + 1 + b.toNat) = some (rest, next)) :
    labelsFrom msg start bound pos = some (label :: rest, next) := by
  rw [labelsFrom, dif_pos hpos, hmsg]
  simp only [if_neg hnonempty, if_pos hshort, hlabel, hrest]
  rfl

end

theorem slice?_append (front label back : List UInt8) :
    slice? (front ++ label ++ back).toArray front.length label.length = some label := by
  rw [slice?, reads_bytes label front back]
  rfl

theorem labelsFrom_encodeName {labels : List Label} (hnonempty : ∀ l ∈ labels, 0 < l.length)
    (hshort : ∀ l ∈ labels, l.length ≤ Name.maxLabelLength) (start : Nat) (front back : List UInt8) :
    labelsFrom (front ++ encodeName ⟨labels, true⟩ ++ back).toArray start
      (front ++ encodeName ⟨labels, true⟩ ++ back).length front.length =
        some (labels, front.length + (encodeName ⟨labels, true⟩).length) := by
  induction labels generalizing front with
  | nil => exact labelsFrom_end (by simp [encodeName]) (by simp [encodeName])
  | cons l labels ih =>
    obtain ⟨hl, hnonempty⟩ := List.forall_mem_cons.mp hnonempty
    obtain ⟨hl63, hshort⟩ := List.forall_mem_cons.mp hshort
    have hl63 : l.length ≤ 63 := hl63
    have hlength : (UInt8.ofNat l.length).toNat = l.length :=
      UInt8.toNat_ofNat_of_lt' (Nat.lt_of_le_of_lt hl63 (by decide))
    have hbytes : front ++ encodeName ⟨l :: labels, true⟩ ++ back =
        (front ++ [UInt8.ofNat l.length] ++ l) ++ encodeName ⟨labels, true⟩ ++ back := by
      simp [encodeName]
    have hrest := ih hnonempty hshort (front ++ [UInt8.ofNat l.length] ++ l)
    rw [← hbytes] at hrest
    refine labelsFrom_label (b := UInt8.ofNat l.length) ?_ ?_ ?_ ?_ ?_ ?_
    · simp [encodeName]
    · simp [encodeName]
    · intro hzero
      rw [hzero] at hlength
      exact absurd hlength (Nat.ne_of_lt hl)
    · rw [UInt8.lt_iff_toNat_lt, hlength]
      exact Nat.lt_succ_of_le hl63
    · have hslice := slice?_append (front ++ [UInt8.ofNat l.length]) l (encodeName ⟨labels, true⟩ ++ back)
      rw [hlength, hbytes]
      simpa using hslice
    · rw [hlength]
      simpa [encodeName, Nat.add_assoc, Nat.add_comm, Nat.add_left_comm] using hrest

theorem reads_name (h : n.Writable) : Reads name (encodeName n) n := by
  intro front back
  have hlabels := labelsFrom_encodeName h.nonempty h.short front.length front back
  obtain ⟨labels, absolute⟩ := n
  obtain rfl : absolute = true := h.absolute
  rw [name, List.size_toArray, hlabels]
  exact if_pos h.fits

/-! ### The parts of a query -/

theorem reads_question (h : n.Writable) (type class_ : UInt16) :
    Reads question (encodeName n ++ (Query.word type ++ Query.word class_)) ⟨n, type, class_⟩ :=
  (reads_name h).bind ((reads_written type).bind ((reads_written class_).map _))

/-- The record in which a query tells what answers it can take. -/
def optionsRecord (payload : UInt16) : Record := ⟨Name.root, 0, .bufferSize payload, .empty .opt⟩

theorem reads_optionsRecord (payload : UInt16) : Reads record
    (encodeName Name.root ++ (Query.word TypeCode.opt ++ (Query.word payload ++ ([0, 0, 0, 0] ++ (Query.word 0 ++ [])))))
      (optionsRecord payload) := by
  refine (reads_name Name.writable_root).bind ((reads_written _).bind ?_)
  -- the owner is the root, as it has to be
  exact (reads_written _).bind ((reads_doubleWord 0 0 0 0).bind ((reads_written _).bind (reads_pure _)))

end Reader

/-! ### The whole -/

section
variable {q : Query}

theorem flagsOfWord_recursionDesired : flagsOfWord recursionDesiredFlag = { recursionDesired := true } := by decide

theorem rcodeOfWord_recursionDesired : rcodeOfWord recursionDesiredFlag = 0 := by decide

theorem highRcode_optionsRecord (payload : UInt16) : highRcode (Reader.optionsRecord payload) = 0 :=
  show ((0 : UInt32) >>> 24).toUInt16 <<< 4 = 0 by decide

theorem ednsOf_optionsRecord {payload : UInt16} (h : minPayload ≤ payload) :
    ednsOf (Reader.optionsRecord payload) = ⟨0, payload, []⟩ := by
  have hpayload : max minPayload payload = payload := if_pos h
  have hversion : ((0 : UInt32) >>> 16).toUInt8 = 0 := by decide
  show (⟨((0 : UInt32) >>> 16).toUInt8, max minPayload payload, []⟩ : Edns) = _
  rw [hpayload, hversion]

theorem assemble_query (h : minPayload ≤ q.payload) (id : UInt16) :
    assemble id recursionDesiredFlag [q.question] [] [] [Reader.optionsRecord q.payload] = some (q.message id) := by
  have hextension : [Reader.optionsRecord q.payload].filter isExtension = [Reader.optionsRecord q.payload] := rfl
  have hothers : [Reader.optionsRecord q.payload].filter (!isExtension ·) = [] := rfl
  simp only [assemble, hextension, hothers, highRcode_optionsRecord, rcodeOfWord_recursionDesired,
    flagsOfWord_recursionDesired, ednsOf_optionsRecord h]
  rfl

theorem reads_encode (hname : q.name.Writable) (hpayload : minPayload ≤ q.payload) (id : UInt16) :
    Reader.Reads message (q.encode id) (q.message id) := by
  have hquestions : Reader.Reads (Reader.times question (UInt16.toNat 1)) _ [q.question] :=
    Reader.reads_once (Reader.reads_question hname _ _)
  have hadditional : Reader.Reads (Reader.times record (UInt16.toNat 1)) _ [Reader.optionsRecord q.payload] :=
    Reader.reads_once (Reader.reads_optionsRecord q.payload)
  have hrecords : Reader.Reads (Reader.times record (UInt16.toNat 0)) [] [] := Reader.reads_pure []
  have hend : ∀ r : Reader Message, r = pure (q.message id) → r.Reads [] (q.message id) := by
    rintro _ rfl
    exact Reader.reads_pure _
  have hmessage : Reader.Reads message _ (q.message id) :=
    (Reader.reads_written id).bind <| (Reader.reads_written recursionDesiredFlag).bind <|
      (Reader.reads_written 1).bind <| (Reader.reads_written 0).bind <| (Reader.reads_written 0).bind <|
      (Reader.reads_written 1).bind <| hquestions.bind <| hrecords.bind <| hrecords.bind <| hadditional.bind <|
      hend _ (by rw [assemble_query hpayload])
  have hroot : encodeName Name.root = [0] := rfl
  simp only [hroot, List.append_assoc, List.nil_append, List.append_nil] at hmessage
  simp only [encode, List.append_assoc]
  exact hmessage

end

end Wire

/-! ### Queries for valid domains -/

theorem minPayload_le_max (payload : UInt16) : minPayload ≤ max minPayload payload := by
  show minPayload ≤ if minPayload ≤ payload then payload else minPayload
  split
  · assumption
  · exact UInt16.le_refl _

/-- The message asks for records of a type that belong to a domain, spelled as it is given, and for nothing else. -/
structure Message.Asks (m : Message) (domain : String) (type : RecordType) (payload id : UInt16) : Prop where
  id : m.id = id
  flags : m.flags = { recursionDesired := true }
  question : ∃ name : Name, m.questions = [⟨name, type.code, internetClass⟩] ∧
    name.ascii = .ofList (dropRootDot domain.toList ++ ['.'])
  edns : m.edns = some ⟨0, max minPayload payload, []⟩
  records : m.records = []

/-- The message of a query is carried by some bytes, over connections too. -/
structure Query.Carried (q : Query) (id : UInt16) (bytes : List UInt8) : Prop where
  written : q.encode? id = some bytes
  short : bytes.length ≤ 282
  framed : (Tcp.frame? bytes).isSome
  read : Wire.message bytes.toArray 0 = some (q.message id, bytes.length)

theorem Query.carried_encode {q : Query} (hname : q.name.Writable) (hpayload : minPayload ≤ q.payload) (id : UInt16) :
    q.Carried id (q.encode id) := by
  have hfits : q.name.wireLength ≤ 255 := hname.fits
  have hlength := length_encode q id
  refine ⟨encode?_of_writable hname, by omega, ?_, ?_⟩
  · rw [Tcp.frame?, if_pos (show _ < 65536 by omega)]
    rfl
  · have hread := (Wire.reads_encode hname hpayload id).at_front []
    rwa [List.append_nil] at hread

/-- The query for a valid domain is carried by few bytes, and asks for what it was made for. -/
theorem Query.ofDomain_carried {domain : String} {type : RecordType} {payload : UInt16} {q : Query}
    (hvalid : isValidDomain domain) (hq : ofDomain domain type payload = .ok q) (id : UInt16) :
    (∃ bytes, q.Carried id bytes) ∧ (q.message id).Asks domain type payload id := by
  have hlabels := (isLabel_of_isValidDomain hvalid).2
  rw [ofDomain_of_valid hvalid] at hq
  split at hq
  · rename_i hlength
    cases hq
    exact ⟨⟨_, carried_encode (Name.writable_ofLabels hlabels hlength) (minPayload_le_max payload) id⟩,
      ⟨rfl, rfl, ⟨_, rfl, Name.ascii_ofLabels hlabels⟩, rfl, rfl⟩⟩
  · cases hq

theorem Query.ofDomain_carried_mixed_case : ∃ q bytes, ofDomain "Example.COM." .aaaa 1232 = .ok q ∧
    q.Carried 7 bytes ∧ (q.message 7).Asks "Example.COM." .aaaa 1232 7 := by
  have hvalid : isValidDomain "Example.COM." := by decide
  have hq := (ofDomain_of_valid hvalid .aaaa 1232).trans (if_pos (by decide))
  obtain ⟨⟨bytes, hcarried⟩, hasks⟩ := ofDomain_carried hvalid hq 7
  exact ⟨_, bytes, hq, hcarried, hasks⟩

end FilterWatch.Dns
