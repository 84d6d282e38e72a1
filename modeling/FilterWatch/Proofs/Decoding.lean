import FilterWatch.Text.Utf8
import FilterWatch.Proofs.Casing

/-!
# Bytes read as text

A byte of ASCII is a character by itself, whatever stands around it (`decodeLossy_append_ascii`), so a word of ASCII is
found in what other bytes are read as (`infix_decodeLossy`). A text in UTF-8 is read as itself (`decodeLossy_encode`).
-/

namespace FilterWatch.Text.Utf8
variable {b : UInt8} {bs front back : List UInt8} {acc count : Nat}

theorem not_isContinuation (hb : b < 0x80) : isContinuation b = false := by
  simp only [isContinuation, Bool.and_eq_false_iff, decide_eq_false_iff_not]
  exact .inl (UInt8.not_le.mpr hb)

theorem gather_le (acc count : Nat) (bs : List UInt8) : (gather acc count bs).2 ≤ bs.length := by
  induction bs generalizing acc count with
  | nil => cases count <;> simp [gather]
  | cons b bs ih =>
    cases count with
    | zero => simp [gather]
    | succ count =>
      rw [gather]
      split
      · exact Nat.succ_le_succ (ih _ _)
      · exact Nat.zero_le _

theorem gather_append (hb : b < 0x80) (acc count : Nat) (bs back : List UInt8) :
    gather acc count (bs ++ b :: back) = gather acc count bs := by
  induction bs generalizing acc count with
  | nil => cases count <;> simp [gather, not_isContinuation hb]
  | cons c bs ih =>
    cases count with
    | zero => simp [gather]
    | succ count => simp [gather, ih]

theorem le_of_shape? {low high : UInt8} {x : UInt8} (h : shape? x = some (count, low, high)) : 0x80 ≤ low := by
  unfold shape? at h
  grind

theorem decodeHead_ascii (hb : b < 0x80) (bs : List UInt8) : decodeHead b bs = (Char.ofNat b.toNat, 0) :=
  if_pos hb

theorem decodeHead_of_not_shape (hb : ¬ b < 0x80) (hshape : shape? b = none) (bs : List UInt8) :
    decodeHead b bs = (replacement, 0) := by
  simp [decodeHead, hb, hshape]

theorem decodeHead_nil (hb : ¬ b < 0x80) : decodeHead b [] = (replacement, 0) := by
  simp [decodeHead, hb]

theorem decodeHead_cons (hb : ¬ b < 0x80) {low high : UInt8} (hshape : shape? b = some (count, low, high))
    (second : UInt8) (bs : List UInt8) : decodeHead b (second :: bs) =
      if low ≤ second ∧ second ≤ high then
        (((gather (b.toNat % (64 >>> count)) count (second :: bs)).1.map Char.ofNat).getD replacement,
          (gather (b.toNat % (64 >>> count)) count (second :: bs)).2)
      else (replacement, 0) := by
  simp [decodeHead, hb, hshape]

theorem decodeHead_le (x : UInt8) (bs : List UInt8) : (decodeHead x bs).2 ≤ bs.length := by
  unfold decodeHead
  split
  · exact Nat.zero_le _
  · split
    · split
      · exact gather_le _ _ _
      · exact Nat.zero_le _
    · exact Nat.zero_le _

theorem decodeHead_append (hb : b < 0x80) (x : UInt8) (bs : List UInt8) :
    decodeHead x (bs ++ b :: back) = decodeHead x bs := by
  by_cases hx : x < 0x80
  · rw [decodeHead_ascii hx, decodeHead_ascii hx]
  · cases hshape : shape? x with
    | none => rw [decodeHead_of_not_shape hx hshape, decodeHead_of_not_shape hx hshape]
    | some shape =>
      obtain ⟨count, low, high⟩ := shape
      cases bs with
      | nil =>
        have hlow : ¬ low ≤ b := fun h => UInt8.not_le.mpr hb (UInt8.le_trans (le_of_shape? hshape) h)
        rw [List.nil_append, decodeHead_cons hx hshape, if_neg fun h => hlow h.1, decodeHead_nil hx]
      | cons y bs =>
        have hgather := gather_append hb (x.toNat % (64 >>> count)) count (y :: bs) back
        rw [List.cons_append] at hgather ⊢
        rw [decodeHead_cons hx hshape, decodeHead_cons hx hshape, hgather]

theorem decodeLossy_cons (b : UInt8) (bs : List UInt8) :
    decodeLossy (b :: bs) = (decodeHead b bs).1 :: decodeLossy (bs.drop (decodeHead b bs).2) := by
  rw [decodeLossy]

theorem decodeLossy_ascii (hb : b < 0x80) (bs : List UInt8) :
    decodeLossy (b :: bs) = Char.ofNat b.toNat :: decodeLossy bs := by
  rw [decodeLossy_cons, decodeHead_ascii hb]
  rfl

theorem decodeLossy_append_ascii (hb : b < 0x80) (front back : List UInt8) :
    decodeLossy (front ++ b :: back) = decodeLossy front ++ Char.ofNat b.toNat :: decodeLossy back := by
  induction front using decodeLossy.induct with
  | case1 => simp [decodeLossy_ascii hb, decodeLossy]
  | case2 x bs ih =>
    rw [List.cons_append, decodeLossy_cons, decodeHead_append hb, List.drop_append_of_le_length (decodeHead_le x bs),
      ih, decodeLossy_cons, List.cons_append]

theorem decodeLossy_ascii_append (hbs : ∀ b ∈ bs, b < 0x80) (back : List UInt8) :
    decodeLossy (bs ++ back) = bs.map (fun b => Char.ofNat b.toNat) ++ decodeLossy back := by
  induction bs with
  | nil => rfl
  | cons b bs ih =>
    obtain ⟨hb, hbs⟩ := List.forall_mem_cons.mp hbs
    rw [List.cons_append, decodeLossy_ascii hb, ih hbs]
    rfl

/-- Bytes of ASCII are read as themselves, whatever stands around them. -/
theorem infix_decodeLossy (hbs : ∀ b ∈ bs, b < 0x80) (front back : List UInt8) :
    bs.map (fun b => Char.ofNat b.toNat) <:+: decodeLossy (front ++ bs ++ back) := by
  cases bs with
  | nil => exact List.nil_infix
  | cons b bs =>
    obtain ⟨hb, hbs⟩ := List.forall_mem_cons.mp hbs
    rw [List.append_assoc, List.cons_append, decodeLossy_append_ascii hb, decodeLossy_ascii_append hbs]
    exact ⟨decodeLossy front, decodeLossy back, by simp⟩

/-! ### Characters in UTF-8 -/

/-- A byte inside a character that carries the lowest six bits of a number. -/
def continuation (n : Nat) : UInt8 := UInt8.ofNat (n % 64 + 128)

theorem toNat_continuation (n : Nat) : (continuation n).toNat = n % 64 + 128 := by
  rw [continuation, UInt8.toNat_ofNat']
  omega

theorem isContinuation_continuation (n : Nat) : isContinuation (continuation n) := by
  simp only [isContinuation, Bool.and_eq_true, decide_eq_true_eq, UInt8.le_iff_toNat_le, toNat_continuation]
  show 128 ≤ _ ∧ _ ≤ 191
  omega

theorem payload_continuation (n : Nat) : payload (continuation n) = n % 64 := by
  rw [payload, UInt8.toNat_and, toNat_continuation]
  show (n % 64 + 128) &&& (2 ^ 6 - 1) = _
  rw [Nat.and_two_pow_sub_one_eq_mod]
  omega

theorem gather_continuation (acc count n : Nat) (bs : List UInt8) : gather acc (count + 1) (continuation n :: bs) =
    ((gather (acc * 64 + n % 64) count bs).1, (gather (acc * 64 + n % 64) count bs).2 + 1) := by
  rw [gather, if_pos (isContinuation_continuation n), payload_continuation]

theorem shape?_two : ∀ k < 32, 2 ≤ k → shape? (UInt8.ofNat (k + 192)) = some (1, 0x80, 0xBF) := by decide

theorem shape?_three : ∀ k < 16, shape? (UInt8.ofNat (k + 224)) =
    some (2, if k = 0 then 0xA0 else 0x80, if k = 13 then 0x9F else 0xBF) := by decide

theorem shape?_four : ∀ k < 5, shape? (UInt8.ofNat (k + 240)) =
    some (3, if k = 0 then 0x90 else 0x80, if k = 4 then 0x8F else 0xBF) := by decide

theorem toNat_byte {n : Nat} (h : n < 0x100) : (UInt8.ofNat n).toNat = n := UInt8.toNat_ofNat_of_lt' h

theorem not_ascii_ofNat {n : Nat} (hlow : 0x80 ≤ n) (hhigh : n < 0x100) : ¬ UInt8.ofNat n < 0x80 := by
  rw [UInt8.lt_iff_toNat_lt, toNat_byte hhigh]
  exact Nat.not_lt.mpr hlow

/-- A first byte and those behind it that belong to the same character. -/
theorem decodeLossy_lead {low high second : UInt8} {n k : Nat} (hb : ¬ b < 0x80)
    (hshape : shape? b = some (count, low, high)) (hsecond : low ≤ second ∧ second ≤ high)
    (hgather : gather (b.toNat % (64 >>> count)) count (second :: bs) = (some n, k)) :
    decodeLossy (b :: second :: bs) = Char.ofNat n :: decodeLossy ((second :: bs).drop k) := by
  rw [decodeLossy_cons, decodeHead_cons hb hshape, if_pos hsecond, hgather]
  rfl

theorem continuation_between {low high : UInt8} {n : Nat} (h : low.toNat ≤ n % 64 + 128 ∧ n % 64 + 128 ≤ high.toNat) :
    low ≤ continuation n ∧ continuation n ≤ high := by
  rwa [UInt8.le_iff_toNat_le, UInt8.le_iff_toNat_le, toNat_continuation]

theorem decodeLossy_two {n : Nat} (hlow : 0x80 ≤ n) (hhigh : n < 0x800) :
    decodeLossy (UInt8.ofNat (n / 64 % 32 + 192) :: continuation n :: bs) = Char.ofNat n :: decodeLossy bs := by
  have hn : n / 64 < 32 := by omega
  rw [Nat.mod_eq_of_lt hn]
  refine decodeLossy_lead (k := 1) (not_ascii_ofNat (by omega) (by omega)) (shape?_two _ hn (by omega))
    (continuation_between ?_) ?_
  · show 128 ≤ _ ∧ _ ≤ 191
    omega
  · have hbits : (n / 64 + 192) % (64 >>> 1) * 64 + n % 64 = n := by
      show (n / 64 + 192) % 32 * 64 + n % 64 = n
      omega
    rw [toNat_byte (by omega), gather_continuation, gather, hbits]

theorem decodeLossy_three {n : Nat} (hlow : 0x800 ≤ n) (hhigh : n < 0x10000) (hgap : n < 0xD800 ∨ 0xDFFF < n) :
    decodeLossy (UInt8.ofNat (n / 4096 % 16 + 224) :: continuation (n / 64) :: continuation n :: bs) =
      Char.ofNat n :: decodeLossy bs := by
  have hn : n / 4096 < 16 := by omega
  rw [Nat.mod_eq_of_lt hn]
  refine decodeLossy_lead (k := 2) (not_ascii_ofNat (by omega) (by omega)) (shape?_three _ hn)
    (continuation_between ⟨?_, ?_⟩) ?_
  · split
    · show 160 ≤ _
      omega
    · show 128 ≤ _
      omega
  · split
    · show _ ≤ 159
      omega
    · show _ ≤ 191
      omega
  · have hbits : ((n / 4096 + 224) % (64 >>> 2) * 64 + n / 64 % 64) * 64 + n % 64 = n := by
      show ((n / 4096 + 224) % 16 * 64 + n / 64 % 64) * 64 + n % 64 = n
      omega
    rw [toNat_byte (by omega), gather_continuation, gather_continuation, gather, hbits]

theorem decodeLossy_four {n : Nat} (hlow : 0x10000 ≤ n) (hhigh : n < 0x110000) :
    decodeLossy (UInt8.ofNat (n / 262144 % 8 + 240) :: continuation (n / 4096) :: continuation (n / 64) ::
      continuation n :: bs) = Char.ofNat n :: decodeLossy bs := by
  have hn : n / 262144 < 5 := by omega
  rw [Nat.mod_eq_of_lt (Nat.lt_trans hn (by decide))]
  refine decodeLossy_lead (k := 3) (not_ascii_ofNat (by omega) (by omega)) (shape?_four _ hn)
    (continuation_between ⟨?_, ?_⟩) ?_
  · split
    · show 144 ≤ _
      omega
    · show 128 ≤ _
      omega
  · split
    · show _ ≤ 143
      omega
    · show _ ≤ 191
      omega
  · have hbits : (((n / 262144 + 240) % (64 >>> 3) * 64 + n / 4096 % 64) * 64 + n / 64 % 64) * 64 + n % 64 = n := by
      show (((n / 262144 + 240) % 8 * 64 + n / 4096 % 64) * 64 + n / 64 % 64) * 64 + n % 64 = n
      omega
    rw [toNat_byte (by omega), gather_continuation, gather_continuation, gather_continuation, gather, hbits]

theorem decodeLossy_encodeChar_append (c : Char) (bs : List UInt8) :
    decodeLossy (String.utf8EncodeChar c ++ bs) = c :: decodeLossy bs := by
  have hvalid : c.val.toNat < 0xD800 ∨ 0xDFFF < c.val.toNat ∧ c.val.toNat < 0x110000 := c.valid
  have hc : Char.ofNat c.val.toNat = c := Char.ofNat_toNat c
  unfold String.utf8EncodeChar
  generalize c.val.toNat = n at hvalid hc
  subst hc
  dsimp only
  split
  · have hn : (UInt8.ofNat n).toNat = n := toNat_byte (by omega)
    have hascii : UInt8.ofNat n < 0x80 := by
      rw [UInt8.lt_iff_toNat_lt, hn]
      show _ < 128
      omega
    rw [List.singleton_append, decodeLossy_ascii hascii, hn]
  · split
    · exact decodeLossy_two (by omega) (by omega)
    · split
      · exact decodeLossy_three (by omega) (by omega) (by omega)
      · exact decodeLossy_four (by omega) (by omega)

/-! ### Texts in UTF-8 -/

theorem toList_loop_eq (bytes : ByteArray) (i : Nat) (bs : List UInt8) :
    ByteArray.toList.loop bytes i bs = bs.reverse ++ bytes.data.toList.drop i := by
  fun_induction ByteArray.toList.loop bytes i bs with
  | case1 i bs hlt ih =>
    have hi : i < bytes.data.toList.length := hlt
    have hget : bytes.get! i = bytes.data.toList[i] := getElem!_pos bytes.data i hlt
    rw [ih, List.drop_eq_getElem_cons hi, hget, List.reverse_cons, List.append_assoc]
    rfl
  | case2 i bs hge =>
    have hle : bytes.data.toList.length ≤ i := Nat.le_of_not_lt hge
    rw [List.drop_eq_nil_of_le hle, List.append_nil]

theorem encode_eq (s : String) : encode s = s.toList.flatMap String.utf8EncodeChar := by
  have hbytes : s.toUTF8 = (s.toList.flatMap String.utf8EncodeChar).toByteArray := String.utf8Encode_toList.symm
  rw [encode, ByteArray.toList, toList_loop_eq, hbytes, List.toList_data_toByteArray]
  rfl

/-- A text in UTF-8 is read as itself. -/
theorem decodeLossy_encode (s : String) : decodeLossy (encode s) = s.toList := by
  rw [encode_eq]
  induction s.toList with
  | nil => simp [decodeLossy]
  | cons c cs ih => rw [List.flatMap_cons, decodeLossy_encodeChar_append, ih]

end FilterWatch.Text.Utf8
