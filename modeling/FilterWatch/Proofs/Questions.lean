import FilterWatch.Proofs.Crashes
import FilterWatch.Proofs.Spelling

/-!
# Questions about domains

The query for a valid domain has its labels for a name: a text of plain labels is read as what stands between its dots
(`Dns.Name.labelsOfTokens_plain`) and written as it was (`Dns.Name.ascii_ofLabels`). On the wire the labels take two
bytes more than the text before the final dot, so there is a query up to 253 characters (`Dns.Query.ofDomain_of_valid`).
Validation allows two more: such a domain is refused at the first resolver, while no shorter one is called invalid by
any run of its check (`asked_of_isValidDomain`).
-/

namespace FilterWatch
open Text

/-! ### Characters of labels -/

section
variable {c : Char}

/-- They need no escapes in texts of names, but for a hyphen in front. -/
structure IsUnescaped (c : Char) : Prop where
  ne_dot : c ≠ '.'
  ne_backslash : c ≠ '\\'
  shows : (isControl c || isBlank c) = false
  plain : Dns.Name.isPlain false c
  plainAtFront : c ≠ '-' → Dns.Name.isPlain true c

theorem isUnescaped_of_isLabelChar (h : isLabelChar c) : IsUnescaped c := by
  have hall : isLabelChar c → c ≠ '.' ∧ c ≠ '\\' ∧ (isControl c || isBlank c) = false ∧ Dns.Name.isPlain false c ∧
      (c ≠ '-' → Dns.Name.isPlain true c) := of_ascii (ascii_of_isLabelChar h) (by decide)
  obtain ⟨hdot, hbackslash, hshows, hplain, hfront⟩ := hall h
  exact ⟨hdot, hbackslash, hshows, hplain, hfront⟩

end

/-! ### The labels of a name -/

namespace Dns.Name
variable {cs cur : List Char} {c : Char} {atFront : Bool}

/-- The token of a character that has nothing special about it. -/
def plainToken (c : Char) : Token := if c = '.' then .dot else .char c

theorem tokens?_cons (h : c = '.' ∨ isLabelChar c) (cs : List Char) :
    tokens? (c :: cs) = (tokens? cs).map (plainToken c :: ·) := by
  rcases h with rfl | h
  · rfl
  · have hc := isUnescaped_of_isLabelChar h
    rw [tokens?]
    · rw [if_neg (by simp [hc.shows]), plainToken, if_neg hc.ne_dot]
    · exact fun _ _ hbackslash => absurd hbackslash hc.ne_backslash
    · exact fun hbackslash => absurd hbackslash hc.ne_backslash
    · exact hc.ne_dot

theorem tokens?_plain (h : ∀ c ∈ cs, c = '.' ∨ isLabelChar c) : tokens? cs = some (cs.map plainToken) := by
  induction cs with
  | nil => rfl
  | cons c cs ih =>
    obtain ⟨hc, hcs⟩ := List.forall_mem_cons.mp h
    rw [tokens?_cons hc, ih hcs]
    rfl

/-- With a dot at the end, labels are what stands between the dots. -/
theorem labelsOfTokens_plain (cs : List Char) : ∀ cur, ∃ f fs, fields '.' cs = f :: fs ∧
    labelsOfTokens cur ((cs ++ ['.']).map plainToken) = (cur.reverse ++ f) :: fs := by
  induction cs with
  | nil => exact fun cur => ⟨[], [], rfl, by simp [plainToken, labelsOfTokens]⟩
  | cons c cs ih =>
    intro cur
    by_cases hc : c = '.'
    · obtain ⟨f, fs, hfields, hlabels⟩ := ih []
      refine ⟨[], f :: fs, by rw [fields, if_pos hc, hfields], ?_⟩
      simpa [hc, plainToken, labelsOfTokens] using hlabels
    · obtain ⟨f, fs, hfields, hlabels⟩ := ih (c :: cur)
      refine ⟨c :: f, fs, by rw [fields, if_neg hc, hfields], ?_⟩
      simpa [hc, plainToken, labelsOfTokens] using hlabels

theorem isTextLabel_of_isLabel (h : isLabel cs) : isTextLabel cs := by
  cases cs with
  | nil => cases h
  | cons c cs =>
    simp only [isLabel, Bool.and_eq_true, List.all_eq_true, decide_eq_true_eq, List.length_cons, List.head?_cons,
      bne_iff_ne, ne_eq, Option.some.injEq, List.forall_mem_cons] at h
    obtain ⟨⟨⟨⟨-, hlength⟩, hhyphen⟩, -⟩, hc, hcs⟩ := h
    simp only [isTextLabel, isTextLabelChar, Bool.and_eq_true, Bool.or_eq_true, List.all_eq_true, bne_iff_ne]
    exact ⟨⟨decide_eq_true hlength, .inr ⟨hhyphen, .inl hc⟩⟩, fun c hmem => .inl (hcs c hmem)⟩

theorem labelsLength_fields (cs : List Char) : labelsLength ((fields '.' cs).map labelOfChars) = cs.length + 1 := by
  induction cs with
  | nil => rfl
  | cons c cs ih =>
    rw [fields]
    split
    · rw [List.map_cons, labelsLength, ih]
      simp [labelOfChars]
      omega
    · cases hfs : fields '.' cs with
      | nil => exact absurd hfs (fields_ne_nil '.' cs)
      | cons f fs =>
        rw [hfs] at ih
        simp [labelsLength, labelOfChars] at ih ⊢
        omega

theorem escapeByte_ofNat (hc : c.toNat < 0x80) (h : isPlain atFront c) :
    escapeByte atFront (UInt8.ofNat c.toNat) = [c] := by
  have hbyte : Char.ofNat (UInt8.ofNat c.toNat).toNat = c := by
    rw [UInt8.toNat_ofNat_of_lt' (by rw [UInt8.size]; omega), Char.ofNat_toNat]
  rw [escapeByte, hbyte]
  exact if_pos h

theorem escapeLabel_labelOfChars (h : isLabel cs) : escapeLabel (labelOfChars cs) = cs := by
  cases cs with
  | nil => rfl
  | cons c cs =>
    simp only [isLabel, Bool.and_eq_true, List.all_eq_true, List.head?_cons, bne_iff_ne, ne_eq, Option.some.injEq,
      List.forall_mem_cons] at h
    obtain ⟨⟨⟨-, hhyphen⟩, -⟩, hc, hcs⟩ := h
    have hrest : (labelOfChars cs).flatMap (escapeByte false) = cs := by
      rw [labelOfChars, List.flatMap_map, List.flatMap_congr (g := fun c => [c]) fun c hmem => ?_, List.flatMap_singleton']
      exact escapeByte_ofNat (ascii_of_isLabelChar (hcs c hmem)) (isUnescaped_of_isLabelChar (hcs c hmem)).plain
    rw [labelOfChars, List.map_cons, escapeLabel, escapeByte_ofNat (ascii_of_isLabelChar hc)
      ((isUnescaped_of_isLabelChar hc).plainAtFront hhyphen)]
    exact congrArg (c :: ·) hrest

def ofLabels (labels : List (List Char)) : Name := ⟨labels.map labelOfChars, true⟩

theorem ascii_ofLabels (h : ∀ f ∈ fields '.' cs, isLabel f) :
    (ofLabels (fields '.' cs)).ascii = .ofList (cs ++ ['.']) := by
  have hlabels : ((fields '.' cs).map labelOfChars).map escapeLabel = fields '.' cs := by
    rw [List.map_map]
    conv_rhs => rw [← List.map_id (fields '.' cs)]
    exact List.map_congr_left fun f hf => escapeLabel_labelOfChars (h f hf)
  rw [ascii, join, ofLabels, hlabels, joinFields_fields]
  rfl

theorem ofText?_of_labels (hne : cs ≠ []) (h : ∀ f ∈ fields '.' cs, isLabel f) :
    ofText? (.ofList (cs ++ ['.'])) = if cs.length ≤ 253 then some (ofLabels (fields '.' cs)) else none := by
  have hroot : String.ofList (cs ++ ['.']) ≠ "." := by
    intro htext
    have hlength := congrArg (·.toList.length) htext
    simp [hne] at hlength
  have hplain : ∀ c ∈ cs ++ ['.'], c = '.' ∨ isLabelChar c := by
    intro c hc
    rcases List.mem_append.mp hc with hc | hc
    · exact isLabelChar_of_labels h c hc
    · exact .inl (List.mem_singleton.mp hc)
  have hlabels : labelsOfTokens [] ((cs ++ ['.']).map plainToken) = fields '.' cs := by
    obtain ⟨f, fs, hfields, hlabels⟩ := labelsOfTokens_plain cs []
    rw [hlabels, hfields]
    rfl
  have hall : (fields '.' cs).all isTextLabel = true := List.all_eq_true.mpr fun f hf => isTextLabel_of_isLabel (h f hf)
  have hlast : (((cs ++ ['.']).map plainToken).getLast? == some .dot) = true := by simp [plainToken]
  have hwire : (ofLabels (fields '.' cs)).wireLength ≤ maxWireLength ↔ cs.length ≤ 253 := by
    rw [wireLength, ofLabels, labelsLength_fields, maxWireLength]
    omega
  rw [ofText?, if_neg hroot, String.toList_ofList, tokens?_plain hplain]
  simp only [Option.bind_eq_bind, Option.bind_some, hlabels, hall, hlast, Bool.true_and, decide_eq_true_eq]
  exact if_congr hwire rfl rfl

end Dns.Name

/-! ### Queries for valid domains -/

section
variable {domain : String}

theorem dropRootDot_append (domain : String) :
    (if domain.toList.getLast? = some '.' then domain else domain ++ ".") =
      .ofList (dropRootDot domain.toList ++ ['.']) := by
  rw [dropRootDot]
  split
  · rename_i hlast
    rw [List.dropLast_append_getLast? '.' hlast, String.ofList_toList]
  · rw [String.ofList_append, String.ofList_toList]

/-- There is a query for a valid domain if it has at most 253 characters before the final dot. -/
theorem Dns.Query.ofDomain_of_valid (h : isValidDomain domain) (type : RecordType) (payload : UInt16) :
    ofDomain domain type payload = if (dropRootDot domain.toList).length ≤ 253 then
      .ok ⟨Name.ofLabels (fields '.' (dropRootDot domain.toList)), type, max minPayload payload⟩
    else .error (.invalidInput domain) := by
  obtain ⟨hne, hlabels⟩ := isLabel_of_isValidDomain h
  rw [ofDomain, dropRootDot_append, Name.ofText?_of_labels hne hlabels]
  by_cases hlength : (dropRootDot domain.toList).length ≤ 253
  · rw [if_pos hlength, if_pos hlength]
  · rw [if_neg hlength, if_neg hlength]

end

/-! ### Checks of valid domains -/

def Outcome.SaysInvalid (o : Outcome) : Prop := ∃ domain, o.error = some (.invalidInput domain)

namespace CheckPolicy
variable {p : CheckPolicy} {domain : String} {r : Resolver} {rest : List Resolver}

theorem against_heeds_short (h : isValidDomain domain) (hlength : (dropRootDot domain.toList).length ≤ 253)
    (rs : List Resolver) :
    (p.against domain rs).Heeds (¬ ·.SaysInvalid) (¬ ·.SaysInvalid) (¬ ·.SaysInvalid) := by
  refine against_heeds_of (fun _ _ _ => by simp [Outcome.SaysInvalid, Outcome.verdict]) (fun _ ho => ho)
    (fun r _ e he => ?_) (by simp [Outcome.SaysInvalid, Outcome.failed]) (by simp [Outcome.SaysInvalid, Outcome.failed])
  rw [Dns.Query.ofDomain_of_valid h, if_pos hlength] at he
  cases he

/-- A domain that is too long is refused at the first resolver, unless the cache has an outcome. -/
theorem against_long (h : isValidDomain domain) (hlength : 253 < (dropRootDot domain.toList).length) :
    p.against domain (r :: rest) = .lookup (cacheKey domain r) fun
      | some o => .count .cached (.done o)
      | none => fail domain (.invalidInput domain) := by
  have hquery := Dns.Query.ofDomain_of_valid h r.recordType p.prober.payload
  rw [if_neg (by omega)] at hquery
  rw [against_cons]
  congr 1
  funext hit
  cases hit with
  | some o => rfl
  | none => rw [attempts_of_no_query hquery]; rfl

end CheckPolicy

theorem Job.Runs.against_long {net : Network} {meanwhile : World → World → Prop} {p : CheckPolicy} {domain : String}
    {r : Resolver} {rest : List Resolver} {w w' : World} {ds : List Deed} {o : Outcome} (h : isValidDomain domain)
    (hlength : 253 < (dropRootDot domain.toList).length)
    (hruns : (p.against domain (r :: rest)).Runs net meanwhile w ds w' (.ok o)) :
    ∃ key hit t, ds = [.lookup key hit, .count t] ∧ o = hit.getD (.failed domain (.invalidInput domain)) := by
  rw [CheckPolicy.against_long h hlength] at hruns
  cases hruns with
  | @lookup _ _ _ hit _ _ _ _ _ hruns =>
    cases hit with
    | some hit =>
      cases hruns with
      | count hruns =>
        cases hruns
        exact ⟨_, some o, _, rfl, rfl⟩
    | none =>
      obtain ⟨rfl, rfl⟩ := hruns.fail_inv
      exact ⟨_, none, _, rfl, rfl⟩

/-- What becomes of a domain that validation accepts: it is asked for, or it is refused without an exchange. -/
structure Asked (domain : String) : Prop where
  query : (dropRootDot domain.toList).length ≤ 253 → ∀ type payload, ∃ q,
    Dns.Query.ofDomain domain type payload = .ok q ∧ q.type = type ∧
      q.name.ascii = .ofList (dropRootDot domain.toList ++ ['.']) ∧
      ∀ id, (q.message id).questions = [⟨q.name, type.code, Dns.internetClass⟩]
  /-- A check says that the input is not valid only if the cache has such an outcome. -/
  check : (dropRootDot domain.toList).length ≤ 253 →
    ∀ (p : CheckPolicy) (net : Network) (meanwhile : World → World → Prop) w ds w' raw o, normalize raw = domain →
      (p.check raw).Runs net meanwhile w ds w' (.ok o) →
      (∀ key hit, .lookup key (some hit) ∈ ds → ¬ hit.SaysInvalid) → ¬ o.SaysInvalid
  noQuery : 253 < (dropRootDot domain.toList).length → ∀ type payload,
    Dns.Query.ofDomain domain type payload = .error (.invalidInput domain)
  noExchange : 253 < (dropRootDot domain.toList).length →
    ∀ (p : CheckPolicy) (net : Network) (meanwhile : World → World → Prop) w ds w' raw o, normalize raw = domain →
      w.registry.resolvers ≠ [] → (p.check raw).Runs net meanwhile w ds w' (.ok o) →
      ∃ key hit t, ds = [.resolvers w.registry.resolvers, .lookup key hit, .count t] ∧
        o = hit.getD (.failed domain (.invalidInput domain))

theorem asked_of_isValidDomain {domain : String} (h : isValidDomain domain) : Asked domain where
  query hlength type payload := by
    refine ⟨_, by rw [Dns.Query.ofDomain_of_valid h, if_pos hlength], rfl, ?_, fun _ => rfl⟩
    exact Dns.Name.ascii_ofLabels (isLabel_of_isValidDomain h).2
  check hlength p net meanwhile w ds w' raw o hraw hruns hds := by
    subst hraw
    rw [CheckPolicy.check_of_valid h] at hruns
    cases hruns with
    | resolvers hruns =>
      have hheeds := CheckPolicy.against_heeds_short (p := p) h hlength w.registry.resolvers
      exact (hheeds.runs_of hruns fun key o hmem => hds key o (.tail _ hmem)).elim And.right id
  noQuery hlength type payload := by rw [Dns.Query.ofDomain_of_valid h, if_neg (by omega)]
  noExchange hlength p net meanwhile w ds w' raw o hraw hne hruns := by
    subst hraw
    obtain ⟨r, rest, hrs⟩ := List.exists_cons_of_ne_nil hne
    rw [CheckPolicy.check_of_valid h] at hruns
    cases hruns with
    | resolvers hruns =>
      rw [hrs] at hruns
      obtain ⟨key, hit, t, rfl, ho⟩ := hruns.against_long h hlength
      exact ⟨key, hit, t, by rw [hrs], ho⟩

theorem asked_mixed_case : isValidDomain "Example.COM." ∧ ∃ q,
    Dns.Query.ofDomain "Example.COM." .aaaa 1232 = .ok q ∧ q.name.ascii = "Example.COM." := by
  have hvalid : isValidDomain "Example.COM." := by decide
  obtain ⟨q, hq, -, hname, -⟩ := (asked_of_isValidDomain hvalid).query (by decide) .aaaa 1232
  exact ⟨hvalid, q, hq, hname⟩

/-- Three labels of 63 characters and one of 62 letters, 254 characters in all. -/
def longDomain : String :=
  .ofList (['.'].intercalate [.replicate 63 'a', .replicate 63 'b', .replicate 63 'c', .replicate 62 'd'])

theorem longDomain_not_asked :
    isValidDomain longDomain ∧ Dns.Query.ofDomain longDomain .a 1232 = .error (.invalidInput longDomain) := by
  have hvalid : isValidDomain longDomain := by
    rw [isValidDomain, longDomain, String.toList_ofList]
    decide +kernel
  have hlong : ¬ (dropRootDot longDomain.toList).length ≤ 253 := by
    rw [longDomain, String.toList_ofList]
    decide +kernel
  exact ⟨hvalid, by rw [Dns.Query.ofDomain_of_valid hvalid, if_neg hlong]⟩

end FilterWatch
