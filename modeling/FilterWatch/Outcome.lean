import FilterWatch.Error

/-!
# Outcomes

The result of checking one domain, and of probing one resolver.
-/

namespace FilterWatch

/-- The result of checking one domain. With an error, `blocked` says nothing. -/
structure Outcome where
  domain : String
  blocked : Bool
  /-- The address of the resolver that gave the verdict. -/
  resolver : String
  error : Option CheckError
deriving DecidableEq, Repr, Inhabited

namespace Outcome

/-- What a resolver's answer says about a domain. -/
def verdict (domain resolver : String) (blocked : Bool) : Outcome := ⟨domain, blocked, resolver, none⟩

/-- A check without a verdict. -/
def failed (domain : String) (error : CheckError) : Outcome := ⟨domain, false, "", some error⟩

def isOk (o : Outcome) : Bool := o.error.isNone

end Outcome

/-- Whether a resolver is reachable. -/
structure Health where
  resolver : String
  online : Bool
  /-- The round trip; zero unless `online`. -/
  latencyMillis : Nat
  error : Option CheckError
deriving DecidableEq, Repr, Inhabited

namespace Health

def failed (resolver : String) (error : CheckError) : Health := ⟨resolver, false, 0, some error⟩

def isOnline (resolver : String) (latencyMillis : Nat) : Health := ⟨resolver, true, latencyMillis, none⟩

end Health
end FilterWatch
