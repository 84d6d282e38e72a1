import FilterWatch.Dns.Wire.Decode

/-!
# What readers make of bytes

A reader reads something from some bytes if it does so wherever in a message they stand, and moves on behind them
(`Reader.Reads`). What is read one after the other is read from bytes one after the other (`Reads.bind`), so each part
of a message needs only a lemma of its own. The number of a message stands in its first two bytes, whatever follows
(`numberOf?_of_decode`).
-/

namespace FilterWatch.Dns.Wire

theorem toNat_wordOf (high low : UInt8) : (wordOf high low).toNat = high.toNat * 256 + low.toNat := by
  have hhigh : high.toNat < 2 ^ 8 := high.toNat_lt
  have hlow : low.toNat < 2 ^ 8 := low.toNat_lt
  have hshift : (high.toUInt16 <<< 8).toNat = high.toNat <<< 8 := by
    rw [UInt16.toNat_shiftLeft, UInt8.toNat_toUInt16]
    show (high.toNat <<< 8) % 2 ^ 16 = high.toNat <<< 8
    exact Nat.mod_eq_of_lt (by rw [Nat.shiftLeft_eq]; omega)
  rw [wordOf, UInt16.toNat_or, hshift, UInt8.toNat_toUInt16, ← Nat.shiftLeft_add_eq_or_of_lt hlow, Nat.shiftLeft_eq]

theorem toNat_halves (n : UInt16) : (n >>> 8).toUInt8.toNat * 256 + n.toUInt8.toNat = n.toNat := by
  have hn : n.toNat < 2 ^ 16 := n.toNat_lt
  have hshift : (n >>> 8).toNat = n.toNat >>> 8 := UInt16.toNat_shiftRight n 8
  rw [UInt16.toNat_toUInt8, UInt16.toNat_toUInt8, hshift, Nat.shiftRight_eq_div_pow]
  omega

theorem wordOf_halves (n : UInt16) : wordOf (n >>> 8).toUInt8 n.toUInt8 = n := by
  rw [← UInt16.toNat_inj, toNat_wordOf, toNat_halves]

namespace Reader
variable {α β : Type} {r : Reader α} {f : α → Reader β} {bs cs : List UInt8} {a : α} {b : β}

theorem bind_eq_some {msg : Array UInt8} {pos : Nat} {x : β × Nat} :
    (r >>= f) msg pos = some x ↔ ∃ a next, r msg pos = some (a, next) ∧ f a msg next = some x := by
  constructor
  · intro h
    obtain ⟨⟨a, next⟩, hr, hf⟩ := Option.bind_eq_some_iff.mp h
    exact ⟨a, next, hr, hf⟩
  · rintro ⟨a, next, hr, hf⟩
    exact Option.bind_eq_some_iff.mpr ⟨(a, next), hr, hf⟩

/-! ### Readers and the bytes that they read -/

/-- Reads `a` from the bytes `bs`, and no others, wherever they stand. -/
def Reads (r : Reader α) (bs : List UInt8) (a : α) : Prop :=
  ∀ front back : List UInt8, r (front ++ bs ++ back).toArray front.length = some (a, front.length + bs.length)

theorem reads_pure (a : α) : Reads (pure a) [] a := fun _ _ => rfl

theorem Reads.bind (hr : Reads r bs a) (hf : Reads (f a) cs b) : Reads (r >>= f) (bs ++ cs) b := by
  intro front back
  have hfirst := hr front (cs ++ back)
  have hthen := hf (front ++ bs) back
  rw [List.length_append] at hthen
  refine bind_eq_some.mpr ⟨a, front.length + bs.length, ?_, ?_⟩
  · rw [← hfirst]
    simp only [List.append_assoc]
  · rw [List.length_append, ← Nat.add_assoc, ← hthen]
    simp only [List.append_assoc]

theorem Reads.map (hr : Reads r bs a) (g : α → β) : Reads (r >>= fun a => pure (g a)) bs (g a) := by
  have h := hr.bind (f := fun a => pure (g a)) (reads_pure (g a))
  rwa [List.append_nil] at h

theorem Reads.at_front (hr : Reads r bs a) (back : List UInt8) : r (bs ++ back).toArray 0 = some (a, bs.length) := by
  have h := hr [] back
  rwa [List.nil_append, List.length_nil, Nat.zero_add] at h

theorem reads_once (hr : Reads r bs a) : Reads (times r 1) bs [a] := by
  have h : Reads (times r 1) (bs ++ []) [a] := hr.bind ((reads_pure []).map (a :: ·))
  rwa [List.append_nil] at h

theorem getElem?_at (front back : List UInt8) (x : UInt8) : (front ++ x :: back).toArray[front.length]? = some x := by
  simp

theorem reads_byte (x : UInt8) : Reads byte [x] x := by
  intro front back
  rw [byte, List.append_assoc, List.singleton_append, getElem?_at]
  rfl

theorem reads_word (high low : UInt8) : Reads word [high, low] (wordOf high low) :=
  (reads_byte high).bind ((reads_byte low).map _)

theorem reads_doubleWord (b₃ b₂ b₁ b₀ : UInt8) :
    Reads doubleWord [b₃, b₂, b₁, b₀] ((wordOf b₃ b₂).toUInt32 <<< 16 ||| (wordOf b₁ b₀).toUInt32) :=
  (reads_word b₃ b₂).bind ((reads_word b₁ b₀).map _)

theorem reads_bytes (bs : List UInt8) : Reads (bytes bs.length) bs bs := by
  intro front back
  have hroom : front.length + bs.length ≤ (front ++ bs ++ back).toArray.size := by simp
  rw [bytes, if_pos hroom, Array.toList_extract]
  simp

end Reader

/-! ### The number of a message -/

/-- The number of the message that the bytes may hold. -/
def numberOf? : List UInt8 → Option UInt16
  | high :: low :: _ => some (wordOf high low)
  | _ => none

theorem numberOf?_take {n : Nat} (h : 2 ≤ n) (bs : List UInt8) : numberOf? (bs.take n) = numberOf? bs := by
  obtain ⟨n, rfl⟩ := Nat.exists_eq_add_of_le' h
  match bs with
  | [] | [_] | _ :: _ :: _ => rfl

theorem numberOf?_of_word {bs : List UInt8} {w : UInt16} {next : Nat} (h : Reader.word bs.toArray 0 = some (w, next)) :
    numberOf? bs = some w := by
  match bs with
  | [] => cases h
  | [_] => cases h
  | high :: low :: rest =>
    rw [show high :: low :: rest = [high, low] ++ rest from rfl, (Reader.reads_word high low).at_front] at h
    cases h
    rfl

theorem id_of_assemble {id flagWord : UInt16} {questions : List Question}
    {answers authority additional : List Record} {m : Message}
    (h : assemble id flagWord questions answers authority additional = some m) : m.id = id := by
  unfold assemble at h
  dsimp only at h
  split at h
  · cases h; rfl
  · cases h; rfl
  · cases h

/-- A decoded message was put together from its parts, and the first of them is its number. -/
theorem assemble_of_decode {bs : List UInt8} {m : Message} (h : decode bs = some m) :
    ∃ id flagWord questions answers authority additional, numberOf? bs = some id ∧
      assemble id flagWord questions answers authority additional = some m := by
  obtain ⟨⟨m', next⟩, hread, rfl⟩ := Option.map_eq_some_iff.mp h
  obtain ⟨id, _, hid, h⟩ := Reader.bind_eq_some.mp hread
  obtain ⟨flagWord, _, -, h⟩ := Reader.bind_eq_some.mp h
  -- the four counts
  iterate 4 obtain ⟨_, _, -, h⟩ := Reader.bind_eq_some.mp h
  obtain ⟨questions, _, -, h⟩ := Reader.bind_eq_some.mp h
  obtain ⟨answers, _, -, h⟩ := Reader.bind_eq_some.mp h
  obtain ⟨authority, _, -, h⟩ := Reader.bind_eq_some.mp h
  obtain ⟨additional, _, -, h⟩ := Reader.bind_eq_some.mp h
  cases hm : assemble id flagWord questions answers authority additional with
  | none =>
    rw [hm] at h
    cases h
  | some m =>
    rw [hm] at h
    cases h
    exact ⟨_, _, _, _, _, _, numberOf?_of_word hid, hm⟩

theorem numberOf?_of_decode {bs : List UInt8} {m : Message} (h : decode bs = some m) : numberOf? bs = some m.id := by
  obtain ⟨id, _, _, _, _, _, hid, hm⟩ := assemble_of_decode h
  rw [hid, id_of_assemble hm]

end FilterWatch.Dns.Wire
