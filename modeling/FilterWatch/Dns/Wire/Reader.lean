import FilterWatch.Dns.Query

/-!
# Reading bytes

A reader is at a place of a message; it reads something there and moves on, or fails. Names are read by their
places: a name may end in a pointer to the rest of an earlier one, which is read from there and must end before
the place where the name, or the part of it that holds the pointer, begins.
-/

namespace FilterWatch.Dns.Wire

/-- Reads something at a place of a message. -/
abbrev Reader := ReaderT (Array UInt8) (StateT Nat Option)

namespace Reader

def byte : Reader UInt8 := fun msg pos => (msg[pos]?).map (·, pos + 1)

/-- A word of two bytes, high one first. -/
def word : Reader UInt16 := do
  let high ← byte
  let low ← byte
  return high.toUInt16 <<< 8 ||| low.toUInt16

/-- A word of four bytes, high one first. -/
def doubleWord : Reader UInt32 := do
  let high ← word
  let low ← word
  return high.toUInt32 <<< 16 ||| low.toUInt32

def bytes (n : Nat) : Reader (List UInt8) := fun msg pos =>
  if pos + n ≤ msg.size then some ((msg.extract pos (pos + n)).toList, pos + n) else none

/-- The same thing `n` times over. -/
def times {α : Type} (r : Reader α) : Nat → Reader (List α)
  | 0 => return []
  | n + 1 => do
    let a ← r
    let rest ← times r n
    return a :: rest

/-- Something that takes exactly `n` bytes. -/
def exactly {α : Type} (n : Nat) (r : Reader α) : Reader α := fun msg pos =>
  (r msg pos).filter fun (_, next) => next == pos + n

/-- The bytes from a place on. -/
def slice? (msg : Array UInt8) (pos n : Nat) : Option (List UInt8) := ((bytes n) msg pos).map (·.1)

/-- The labels at a place of a name part that begins at `start` and ends before `bound`, and the place after. -/
def labelsFrom (msg : Array UInt8) (start bound pos : Nat) : Option (List Label × Nat) :=
  if _ : pos < bound then
    match msg[pos]? with
    | none => none
    | some length =>
      if length = 0 then some ([], pos + 1)
      else if length < 0x40 then do
        let label ← slice? msg (pos + 1) length.toNat
        let (rest, next) ← labelsFrom msg start bound (pos + 1 + length.toNat)
        return (label :: rest, next)
      else if 0xC0 ≤ length then do
        let low ← msg[pos + 1]?
        let target := (length.toNat - 0xC0) * 256 + low.toNat
        if _ : target < start then do
          let (rest, _) ← labelsFrom msg target start target
          return (rest, pos + 2)
        else none
      else none
  else none
termination_by (start, bound - pos)
decreasing_by
  · exact Prod.Lex.right _ (by omega)
  · exact Prod.Lex.left _ _ (by assumption)

def name : Reader Name := fun msg pos => do
  let (labels, next) ← labelsFrom msg pos msg.size pos
  let name : Name := ⟨labels, true⟩
  if name.wireLength ≤ Name.maxWireLength then some (name, next) else none

end Reader
end FilterWatch.Dns.Wire
