import FilterWatch.Checker

/-!
# Sessions

What a caller does with a checker, one operation after the other. While a check runs, its call says what happens
around it.
-/

namespace FilterWatch

/-- What a caller does with a checker. -/
inductive Operation where
  | checkOne (domain : String)
  | checkMany (domains : List String)
  | upsert (rs : List Resolver)
  | delete (addresses : List String)
  | flush
  /-- Time passes on the cache's clock. -/
  | elapse (d : Duration)
deriving Repr

/-- An operation, and what surrounds it if it is a check. -/
structure Step where
  op : Operation
  call : Call := {}
deriving Repr

/-- What an operation answers. -/
inductive Answer where
  | one (x : Except CallFailure Outcome)
  | many (x : Except CheckError (List Outcome))
  | done

namespace Checker

variable (net : Network)

/-- Does one step. -/
def perform (c : Checker) (s : Step) : Checker × Answer :=
  match s.op with
  | .checkOne domain => ((c.checkOne net s.call domain).1, .one (c.checkOne net s.call domain).2)
  | .checkMany domains => ((c.checkMany net s.call domains).1, .many (c.checkMany net s.call domains).2)
  | .upsert rs => (c.upsert rs, .done)
  | .delete addresses => (c.delete addresses, .done)
  | .flush => (c.flush, .done)
  | .elapse d => (c.afterReal d, .done)

/-- The answers to one step after the other. -/
def serve (c : Checker) : List Step → List Answer
  | [] => []
  | s :: rest => (c.perform net s).2 :: (c.perform net s).1.serve rest

end Checker
end FilterWatch
