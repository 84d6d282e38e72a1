import FilterWatch.Text.Number
import FilterWatch.Text.Quoted

/-!
# Numbers read and written

A number is read back from its digits, in any base up to sixteen (`number?_toDigits`). In base ten its digits are the
only text without leading zeros that it is read from (`toDigits_of_number?`).
-/

namespace FilterWatch.Text
variable {base base' acc n d : Nat} {c : Char} {cs ds : List Char}

/-! ### Digits -/

theorem digit?_digitChar (hbase : base ≤ 16) (hd : d < base) : digit? base (Nat.digitChar d) = some d := by
  have hall : ∀ d < 16, digit? 16 (Nat.digitChar d) = some d := by decide
  have h16 := hall d (by omega)
  simp only [digit?, Option.filter_eq_some_iff] at h16 ⊢
  exact ⟨h16.1, by simpa using hd⟩

theorem digit?_mono (hle : base ≤ base') (h : digit? base c = some d) : digit? base' c = some d := by
  simp only [digit?, Option.filter_eq_some_iff, decide_eq_true_eq] at h ⊢
  exact ⟨h.1, by omega⟩

theorem lt_of_digit? (h : digit? base c = some d) : d < base := by
  simp only [digit?, Option.filter_eq_some_iff, decide_eq_true_eq] at h
  exact h.2

theorem ascii_of_digit? (h : digit? base c = some d) : c.toNat < 0x80 := by
  have hle : ∀ {a b : Char}, a ≤ b → a.toNat ≤ b.toNat := fun h => h
  simp only [digit?, Option.filter_eq_some_iff] at h
  have hvalue := h.1
  split at hvalue
  · rename_i hc
    exact Nat.lt_of_le_of_lt (hle hc.2) (by decide)
  · split at hvalue
    · rename_i hc
      exact Nat.lt_of_le_of_lt (hle hc.2) (by decide)
    · split at hvalue
      · rename_i hc
        exact Nat.lt_of_le_of_lt (hle hc.2) (by decide)
      · cases hvalue

/-- What can be seen of each digit up to base sixteen holds of the digits in any base up to that. -/
theorem of_isSome_digit? {p : Char → Bool} (hp : ∀ n < 0x80, (digit? 16 (Char.ofNat n)).isSome → p (Char.ofNat n))
    (hbase : base ≤ 16) (h : (digit? base c).isSome) : p c := by
  obtain ⟨d, hd⟩ := Option.isSome_iff_exists.mp h
  have h16 := digit?_mono hbase hd
  rw [← Char.ofNat_toNat c] at h16 ⊢
  exact hp _ (ascii_of_digit? hd) (Option.isSome_of_eq_some h16)

theorem digitChar_of_digit? (h : digit? 10 c = some d) : Nat.digitChar d = c := by
  have hall : ∀ d < 10, digit? 10 c = some d → Nat.digitChar d = c := of_ascii (ascii_of_digit? h) (by decide)
  exact hall d (lt_of_digit? h) h

theorem toDigits_of_digit? (h : digit? 10 c = some d) : Nat.toDigits 10 d = [c] := by
  rw [Nat.toDigits_of_lt_base (lt_of_digit? h), digitChar_of_digit? h]

/-! ### Reading -/

theorem numberFrom?_append (base acc : Nat) (cs ds : List Char) :
    numberFrom? base acc (cs ++ ds) = (numberFrom? base acc cs).bind (numberFrom? base · ds) := by
  induction cs generalizing acc with
  | nil => rfl
  | cons c cs ih =>
    rw [List.cons_append, numberFrom?, numberFrom?]
    cases digit? base c with
    | none => rfl
    | some d => exact ih _

theorem isSome_digit?_of_numberFrom? (h : numberFrom? base acc cs = some n) : ∀ c ∈ cs, (digit? base c).isSome := by
  induction cs generalizing acc with
  | nil => simp
  | cons c cs ih =>
    rw [numberFrom?] at h
    obtain ⟨d, hd, hcs⟩ := Option.bind_eq_some_iff.mp h
    exact List.forall_mem_cons.mpr ⟨Option.isSome_of_eq_some hd, ih hcs⟩

theorem numberFrom?_of_number? (h : number? base cs = some n) : cs ≠ [] ∧ numberFrom? base 0 cs = some n := by
  unfold number? at h
  split at h
  · cases h
  · rename_i hne
    exact ⟨by simpa using hne, h⟩

theorem isSome_digit?_of_number? (h : number? base cs = some n) : ∀ c ∈ cs, (digit? base c).isSome :=
  isSome_digit?_of_numberFrom? (numberFrom?_of_number? h).2

/-- A sign may stand in front of the digits. -/
theorem of_unsigned? {bound : Nat} (h : (unsigned? bound cs).isSome) : ∀ c ∈ cs, c = '+' ∨ (digit? 10 c).isSome := by
  obtain ⟨n, hn⟩ := Option.isSome_iff_exists.mp h
  intro c hc
  unfold unsigned? at hn
  split at hn
  · have hdigits := isSome_digit?_of_number? (Option.filter_eq_some_iff.mp hn).1
    exact (List.mem_cons.mp hc).imp_right (hdigits c)
  · exact .inr (isSome_digit?_of_number? (Option.filter_eq_some_iff.mp hn).1 c hc)

/-! ### Writing -/

theorem numberFrom?_toDigits (h1 : 1 < base) (h16 : base ≤ 16) (n : Nat) :
    numberFrom? base 0 (Nat.toDigits base n) = some n := by
  -- the last digit is what remains, those in front of it are the digits of the quotient
  induction n using Nat.strongRecOn with
  | ind n ih =>
    rw [Nat.toDigits_eq_if h1]
    split
    · rename_i hn
      rw [numberFrom?, digit?_digitChar h16 hn]
      simp [numberFrom?]
    · rename_i hn
      have hlast : n % base < base := Nat.mod_lt _ (by omega)
      rw [numberFrom?_append, ih _ (Nat.div_lt_self (by omega) h1), Option.bind_some, numberFrom?,
        digit?_digitChar h16 hlast, Option.bind_some, numberFrom?, Nat.div_add_mod']

theorem number?_toDigits (h1 : 1 < base) (h16 : base ≤ 16) (n : Nat) :
    number? base (Nat.toDigits base n) = some n := by
  rw [number?, if_neg (by simp), numberFrom?_toDigits h1 h16]

theorem toDigits_of_numberFrom? (hacc : 0 < acc) (h : numberFrom? 10 acc cs = some n) :
    Nat.toDigits 10 n = Nat.toDigits 10 acc ++ cs := by
  induction cs generalizing acc with
  | nil =>
    cases h
    rw [List.append_nil]
  | cons c cs ih =>
    rw [numberFrom?] at h
    obtain ⟨d, hd, hcs⟩ := Option.bind_eq_some_iff.mp h
    have hdigits : Nat.toDigits 10 (acc * 10 + d) = Nat.toDigits 10 acc ++ [c] := by
      rw [Nat.mul_comm, ← Nat.toDigits_append_toDigits (by decide) hacc (lt_of_digit? hd), toDigits_of_digit? hd]
    rw [ih (by omega) hcs, hdigits, List.append_assoc, List.singleton_append]

theorem toDigits_of_number? (h : number? 10 cs = some n) (hzero : cs.head? = some '0' → cs.length = 1) :
    Nat.toDigits 10 n = cs := by
  obtain ⟨hne, h⟩ := numberFrom?_of_number? h
  cases cs with
  | nil => exact absurd rfl hne
  | cons c cs =>
    rw [numberFrom?] at h
    obtain ⟨d, hd, hcs⟩ := Option.bind_eq_some_iff.mp h
    rw [Nat.zero_mul, Nat.zero_add] at hcs
    cases d with
    | zero =>
      have hc : c = '0' := (digitChar_of_digit? hd).symm
      have hcs' : cs = [] := by simpa [hc] using hzero
      subst hcs'
      cases hcs
      exact toDigits_of_digit? hd
    | succ d => rw [toDigits_of_numberFrom? (Nat.succ_pos d) hcs, toDigits_of_digit? hd, List.singleton_append]

end FilterWatch.Text
