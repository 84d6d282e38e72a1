import FilterWatch.Outcome

/-!
# A cache without expiry

Keeps outcomes until it is flushed. It can be told to crash when the key of a read or of a write begins in a given
way; a write that crashes keeps nothing.
-/

namespace FilterWatch

/-- A crash of every call whose key begins with `start`. -/
structure CrashOn where
  start : String
  fault : Fault
deriving DecidableEq, Repr

def CrashOn.fault? (c : CrashOn) (key : String) : Option Fault :=
  if c.start.toList.isPrefixOf key.toList then some c.fault else none

/-- Outcomes by key, and the keys that reads and writes crash on. -/
structure PlainCache where
  entries : List (String × Outcome) := []
  onRead : Option CrashOn := none
  onWrite : Option CrashOn := none
deriving DecidableEq, Repr

namespace PlainCache

variable (c : PlainCache)

def get (key : String) : Except Fault (Option Outcome) :=
  match c.onRead.bind (·.fault? key) with
  | some f => .error f
  | none => .ok (c.entries.lookup key)

/-- Keeps an outcome under a key in place of the one before. -/
def set (key : String) (o : Outcome) : PlainCache × Option Fault :=
  match c.onWrite.bind (·.fault? key) with
  | some f => (c, some f)
  | none => ({ c with entries := (key, o) :: c.entries.filter (·.1 != key) }, none)

def flush : PlainCache := { c with entries := [] }

end PlainCache
end FilterWatch
