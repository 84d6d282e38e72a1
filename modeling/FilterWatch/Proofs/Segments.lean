import FilterWatch.Proofs.Reading
import FilterWatch.Transport.Tcp

/-!
# Messages in segments

A connection may cut what is sent on it into segments anywhere. Waiting for a number of bytes depends on the bytes
alone (`readExact_of_le`, `readExact_of_lt`), so a message that is read by two such waits does, and so does an exchange
(`exchange_framed`): it ends early if there are fewer bytes than the length counts, and what is behind them does not
matter. A message that is sent behind its length is read as the same bytes.
-/

namespace FilterWatch.Tcp
open Dns Wire
variable {n : Nat} {segments : Segments} {id : UInt16} {bytes front body : List UInt8}

/-! ### Waiting for bytes -/

theorem readExact_of_lt (h : segments.flatten.length < n) : readExact n segments = .error endedEarly := by
  induction segments generalizing n with
  | nil => exact if_neg (Nat.ne_zero_of_lt h)
  | cons segment rest ih =>
    rw [List.flatten_cons, List.length_append] at h
    rw [readExact, if_neg (by omega), ih (by omega)]
    rfl

theorem readExact_of_le (h : n ≤ segments.flatten.length) : ∃ behind,
    readExact n segments = .ok (segments.flatten.take n, behind) ∧ behind.flatten = segments.flatten.drop n := by
  induction segments generalizing n with
  | nil => exact ⟨[], by rw [readExact, if_pos (Nat.le_zero.mp h)]; simp, by simp⟩
  | cons segment rest ih =>
    rw [List.flatten_cons, List.length_append] at h
    rw [readExact, List.flatten_cons]
    by_cases hlength : n ≤ segment.length
    · rw [if_pos hlength]
      exact ⟨_, by rw [List.take_append_of_le_length hlength], by rw [List.drop_append_of_le_length hlength]; rfl⟩
    · have htake : segment.take n = segment := List.take_of_length_le (by omega)
      have hdrop : segment.drop n = [] := List.drop_of_length_le (by omega)
      obtain ⟨behind, hread, hbehind⟩ := ih (n := n - segment.length) (by omega)
      rw [if_neg hlength, hread, List.take_append, List.drop_append, htake, hdrop]
      exact ⟨behind, rfl, hbehind⟩

/-! ### The first message -/

theorem firstMessage?_of_lt (h : bytes.length < 2) : firstMessage? bytes = none := by
  match bytes with
  | [] | [_] => rfl
  | _ :: _ :: _ => exact absurd h (by simp)

theorem firstMessage?_cons (high low : UInt8) (rest : List UInt8) : firstMessage? (high :: low :: rest) =
    if high.toNat * 256 + low.toNat ≤ rest.length then some (rest.take (high.toNat * 256 + low.toNat)) else none := by
  rw [firstMessage?, toNat_wordOf]

theorem firstMessage?_append (h : firstMessage? front = some body) (back : List UInt8) :
    firstMessage? (front ++ back) = some body := by
  match front with
  | [] | [_] => cases h
  | high :: low :: rest =>
    rw [firstMessage?_cons, Option.ite_none_right_eq_some] at h
    obtain ⟨hlength, hbody⟩ := h
    rw [List.cons_append, List.cons_append, firstMessage?_cons, List.length_append, if_pos (by omega),
      List.take_append_of_le_length hlength, hbody]

/-- Two waits read the first message of all the bytes. -/
theorem readMessage_eq (segments : Segments) : readMessage segments =
    match firstMessage? segments.flatten with
    | none => .error endedEarly
    | some body => decoded body := by
  by_cases hshort : segments.flatten.length < 2
  · rw [readMessage, readExact_of_lt hshort, firstMessage?_of_lt hshort]
    rfl
  · obtain ⟨behind, hread, hbehind⟩ := readExact_of_le (Nat.le_of_not_lt hshort)
    match hbytes : segments.flatten with
    | [] | [_] => simp [hbytes] at hshort
    | high :: low :: rest =>
      obtain rfl : behind.flatten = rest := by rw [hbehind, hbytes]; rfl
      have hthen : readMessage segments = readExact (wordOf high low).toNat behind >>= fun x => decoded x.1 := by
        rw [readMessage, hread, hbytes]
        rfl
      rw [hthen, firstMessage?]
      by_cases hlength : (wordOf high low).toNat ≤ behind.flatten.length
      · obtain ⟨_, hbody, -⟩ := readExact_of_le hlength
        rw [if_pos hlength, hbody]
        rfl
      · rw [if_neg hlength, readExact_of_lt (Nat.lt_of_not_le hlength)]
        rfl

theorem readMessage_of_framed {high low : UInt8} {more : List UInt8}
    (hbytes : segments.flatten = high :: low :: body ++ more) (hlength : body.length = high.toNat * 256 + low.toNat) :
    readMessage segments = decoded body := by
  rw [readMessage_eq, hbytes, List.cons_append, List.cons_append, firstMessage?_cons, ← hlength, if_pos (by simp),
    List.take_left]

/-! ### The end of an exchange -/

theorem exchange_eq (id : UInt16) (segments : Segments) :
    receive id segments.flatten true = some (exchange id segments) := by
  rw [receive, exchange, readMessage_eq]
  cases firstMessage? segments.flatten <;> rfl

theorem exchange_congr {others : Segments} (h : others.flatten = segments.flatten) :
    exchange id others = exchange id segments := by
  rw [← Option.some_inj, ← exchange_eq, ← exchange_eq, h]

/-- What has been reached stays, whatever else comes in. -/
theorem receive_append {reached : Except IoError Message} (h : receive id front false = some reached)
    (back : List UInt8) (closed : Bool) : receive id (front ++ back) closed = some reached := by
  rw [receive] at h ⊢
  cases hbody : firstMessage? front with
  | none => simp [hbody] at h
  | some body =>
    rw [hbody] at h
    rw [firstMessage?_append hbody]
    exact h

/-- Looking at the bytes whenever a segment comes in reaches the same as the two waits. -/
theorem listen_eq (received : List UInt8) (segments : Segments) :
    listen id received segments = exchange id (received :: segments) := by
  induction segments generalizing received with
  | nil =>
    have h := exchange_eq id [received]
    rw [List.flatten_singleton] at h
    rw [listen, h, Option.getD_some]
  | cons segment rest ih =>
    rw [listen]
    cases hreached : receive id (received ++ segment) false with
    | some reached =>
      have h := receive_append hreached rest.flatten true
      rw [← List.flatten_cons, exchange_eq, Option.some_inj] at h
      exact h.symm.trans (exchange_congr (by simp))
    | none => exact (ih _).trans (exchange_congr (by simp))

/-! ### Framing -/

theorem frame?_of_le (h : bytes.length ≤ 65535) : ∃ high low : UInt8,
    frame? bytes = some (high :: low :: bytes) ∧ bytes.length = high.toNat * 256 + low.toNat := by
  have hlength : (UInt16.ofNat bytes.length).toNat = bytes.length :=
    UInt16.toNat_ofNat_of_lt' (Nat.lt_succ_of_le h)
  exact ⟨_, _, if_pos (Nat.lt_succ_of_le h), by rw [toNat_halves, hlength]⟩

theorem frame?_of_lt (h : 65535 < bytes.length) : frame? bytes = none :=
  if_neg (Nat.not_lt.mpr h)

/-- What an exchange makes of what comes in before the connection ends. -/
structure Framing (id : UInt16) (segments : Segments) : Prop where
  noLength : segments.flatten.length < 2 → exchange id segments = .error endedEarly
  cutShort : ∀ high low rest, segments.flatten = high :: low :: rest →
    rest.length < high.toNat * 256 + low.toNat → exchange id segments = .error endedEarly
  complete : ∀ high low body more, segments.flatten = high :: low :: body ++ more →
    body.length = high.toNat * 256 + low.toNat → exchange id segments =
      match decode body with
      | none => .error (.ofKind .invalidData)
      | some m => if m.id = id then .ok m else .error (foreignReply m.id id)
  sameBytes : ∀ others : Segments, others.flatten = segments.flatten → exchange id others = exchange id segments
  listens : listen id [] segments = exchange id segments
  framed : ∀ bytes, bytes.length ≤ 65535 → ∃ frame, frame? bytes = some frame ∧
    ∀ more, segments.flatten = frame ++ more → readMessage segments =
      match decode bytes with
      | none => .error (.ofKind .invalidData)
      | some m => .ok m
  tooLong : ∀ bytes, 65535 < bytes.length → frame? bytes = none

theorem exchange_framed (id : UInt16) (segments : Segments) : Framing id segments where
  noLength h := by
    rw [exchange, readMessage_eq, firstMessage?_of_lt h]
    rfl
  cutShort high low rest hbytes hlength := by
    rw [exchange, readMessage_eq, hbytes, firstMessage?_cons, if_neg (Nat.not_le.mpr hlength)]
    rfl
  complete high low body more hbytes hlength := by
    rw [exchange, readMessage_of_framed hbytes hlength, decoded]
    cases decode body <;> rfl
  sameBytes others h := exchange_congr h
  listens := by
    rw [listen_eq]
    exact exchange_congr rfl
  framed bytes h := by
    obtain ⟨high, low, hframe, hlength⟩ := frame?_of_le h
    exact ⟨_, hframe, fun more hbytes => readMessage_of_framed hbytes hlength⟩
  tooLong bytes h := frame?_of_lt h

end FilterWatch.Tcp
