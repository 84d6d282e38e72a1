import FilterWatch.Resolver

/-!
# Cache keys

An outcome is kept under the domain and everything about the resolver that its verdict depends on, so that a
resolver with new settings is asked again.
-/

namespace FilterWatch

/-- The key of a domain checked against a resolver. -/
def cacheKey (domain : String) (r : Resolver) : String :=
  domain ++ ":" ++ r.address ++ ":" ++ r.keyword ++ ":" ++ toString r.recordType.code.toNat

end FilterWatch
