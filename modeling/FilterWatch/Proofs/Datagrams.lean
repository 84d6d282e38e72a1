import FilterWatch.Proofs.Reading
import FilterWatch.Transport.Udp

/-!
# Datagrams of others

A socket may get datagrams that do not answer the query: late answers to earlier ones, or anything at all. A message
with another number than the query's is skipped, so the first datagram with its number decides what the exchange ends
with, and a message that is returned has that number. But a datagram is decoded before its number is looked at. One
that holds no message ends the exchange whatever number it begins with, even if the answer comes behind it
(`endsWith_own`, `receive_behind_stray`).
-/

namespace FilterWatch.Udp
open Dns Wire
variable {id : UInt16} {size : Nat} {datagram : List UInt8} {m : Message}

def isForeign (id : UInt16) (datagram : List UInt8) : Bool := numberOf? datagram != some id

/-- As much of the datagram as is received is a message. -/
def holdsMessage (size : Nat) (datagram : List UInt8) : Bool := (decode (datagram.take size)).isSome

/-- What a datagram with the number of the query amounts to. -/
def reading (size : Nat) (datagram : List UInt8) : Except IoError Message :=
  match decode (datagram.take size) with
  | none => .error undecodable
  | some m => .ok m

/-- What the first datagram with the number of the query amounts to. -/
def firstOwn (id : UInt16) (size : Nat) (datagrams : List (List UInt8)) : Option (Except IoError Message) :=
  (datagrams.find? (!isForeign id ·)).map (reading size)

/-! ### One datagram -/

theorem isForeign_of_decode (hsize : 2 ≤ size) (h : decode (datagram.take size) = some m) :
    isForeign id datagram = (m.id != id) := by
  rw [isForeign, ← numberOf?_take hsize, numberOf?_of_decode h]
  rfl

theorem receive_own (hsize : 2 ≤ size) (h : isForeign id datagram = false) (rest : List (List UInt8)) :
    receive id size (datagram :: rest) = some (reading size datagram) := by
  rw [receive, reading]
  cases hm : decode (datagram.take size) with
  | none => rfl
  | some m =>
    rw [isForeign_of_decode hsize hm, bne_eq_false_iff_eq] at h
    exact if_pos h

theorem receive_foreign (hsize : 2 ≤ size) (h : isForeign id datagram) (rest : List (List UInt8)) :
    receive id size (datagram :: rest) =
      if holdsMessage size datagram then receive id size rest else some (.error undecodable) := by
  rw [receive, holdsMessage]
  cases hm : decode (datagram.take size) with
  | none => rfl
  | some m =>
    rw [isForeign_of_decode hsize hm, bne_iff_ne] at h
    exact if_neg h

/-! ### Datagrams one after the other -/

/-- The exchange goes on with what comes in later only while it has not ended. -/
theorem receive_append (front back : List (List UInt8)) :
    receive id size (front ++ back) = (receive id size front).or (receive id size back) := by
  induction front with
  | nil => rfl
  | cons datagram front ih =>
    rw [List.cons_append, receive, receive]
    split
    · rfl
    · split
      · rfl
      · exact ih

theorem receive_eq (hsize : 2 ≤ size) (datagrams : List (List UInt8)) :
    receive id size datagrams = if (datagrams.takeWhile (isForeign id)).all (holdsMessage size) then
      firstOwn id size datagrams else some (.error undecodable) := by
  induction datagrams with
  | nil => rfl
  | cons datagram rest ih =>
    cases hforeign : isForeign id datagram with
    | false => simp [receive_own hsize hforeign, firstOwn, hforeign]
    | true =>
      rw [receive_foreign hsize hforeign, ih, firstOwn, firstOwn, List.takeWhile_cons_of_pos hforeign,
        List.find?_cons_of_neg (by simp [hforeign]), List.all_cons]
      cases holdsMessage size datagram <;> rfl

theorem receive_filter (hsize : 2 ≤ size) (datagrams : List (List UInt8)) :
    receive id size (datagrams.filter fun datagram => !(isForeign id datagram && holdsMessage size datagram)) =
      receive id size datagrams := by
  induction datagrams with
  | nil => rfl
  | cons datagram rest ih =>
    cases hforeign : isForeign id datagram with
    | false => rw [List.filter_cons_of_pos (by simp [hforeign]), receive_own hsize hforeign, receive_own hsize hforeign]
    | true =>
      cases hholds : holdsMessage size datagram with
      | false =>
        rw [List.filter_cons_of_pos (by simp [hholds]), receive_foreign hsize hforeign, receive_foreign hsize hforeign,
          hholds]
        rfl
      | true =>
        rw [List.filter_cons_of_neg (by simp [hforeign, hholds]), ih, receive_foreign hsize hforeign, if_pos hholds]

theorem id_of_receive {datagrams : List (List UInt8)} (h : receive id size datagrams = some (.ok m)) : m.id = id := by
  induction datagrams with
  | nil => cases h
  | cons datagram rest ih =>
    rw [receive] at h
    split at h
    · cases h
    · split at h
      · cases h
        assumption
      · exact ih h

theorem two_le_bufferSize (q : Query) : 2 ≤ bufferSize q :=
  Nat.le_trans (show 2 ≤ minPacketSize.toNat by decide) (Nat.le_max_left _ _)

/-! ### The end of an exchange -/

/-- What an exchange for a query makes of the datagrams that came in. -/
structure EndsWith (q : Query) (id : UInt16) (datagrams : List (List UInt8)) : Prop where
  ends : receive id (bufferSize q) datagrams =
    if (datagrams.takeWhile (isForeign id)).all (holdsMessage (bufferSize q)) then
      firstOwn id (bufferSize q) datagrams else some (.error undecodable)
  decides : receive id (bufferSize q) datagrams = firstOwn id (bufferSize q) datagrams ↔
    (datagrams.takeWhile (isForeign id)).all (holdsMessage (bufferSize q)) ∨
      firstOwn id (bufferSize q) datagrams = some (.error undecodable)
  skips : receive id (bufferSize q)
    (datagrams.filter fun datagram => !(isForeign id datagram && holdsMessage (bufferSize q) datagram)) =
      receive id (bufferSize q) datagrams
  final : ∀ reached later, receive id (bufferSize q) datagrams = some reached →
    receive id (bufferSize q) (datagrams ++ later) = some reached
  numbered : ∀ m, receive id (bufferSize q) datagrams = some (.ok m) → m.id = id

theorem endsWith_own (q : Query) (id : UInt16) (datagrams : List (List UInt8)) : EndsWith q id datagrams where
  ends := receive_eq (two_le_bufferSize q) datagrams
  decides := by
    rw [receive_eq (two_le_bufferSize q)]
    split
    · rename_i hall
      exact iff_of_true rfl (.inl hall)
    · rename_i hall
      exact ⟨fun h => .inr h.symm, fun h => (h.resolve_left hall).symm⟩
  skips := receive_filter (two_le_bufferSize q) datagrams
  final reached later h := by rw [receive_append, h, Option.some_or]
  numbered _ h := id_of_receive h

/-- A message with the number 2 that counts a question and ends before it. -/
def stray : List UInt8 := [0, 2, 0x81, 0x80, 0, 1, 0, 0, 0, 0, 0, 0]

/-- An answer with the number 1. -/
def answer : List UInt8 := [0, 1, 0x81, 0x80, 0, 0, 0, 0, 0, 0, 0, 0]

theorem decode_stray : decode stray = none := by
  have hname : Reader.name stray.toArray 12 = none := by
    rw [Reader.name, Reader.labelsFrom]
    rfl
  have hquestion : question stray.toArray 12 = none := (congrArg (Option.bind · _) hname :)
  have hquestions : Reader.times question 1 stray.toArray 12 = none := (congrArg (Option.bind · _) hquestion :)
  exact congrArg (fun x => (Option.bind x _).map Prod.fst) hquestions

/-- The answer is lost behind a datagram with another number. -/
theorem receive_behind_stray : ∃ (q : Query) (m : Message),
    (∀ datagram ∈ [stray, answer], 12 ≤ datagram.length ∧ datagram.length ≤ bufferSize q) ∧
      isForeign 1 stray ∧ firstOwn 1 (bufferSize q) [stray, answer] = some (.ok m) ∧ m.id = 1 ∧
        receive 1 (bufferSize q) [stray, answer] = some (.error undecodable) := by
  have hends : receive 1 1232 [stray, answer] = some (.error undecodable) := by
    rw [receive, List.take_of_length_le (by decide), decode_stray]
  exact ⟨⟨.root, .a, 1232⟩, _, by decide, by decide, rfl, rfl, hends⟩

end FilterWatch.Udp
