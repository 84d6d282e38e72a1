import FilterWatch.Resolver

/-!
# The resolver registry

The resolvers in failover order. `upsert` and `delete` change the list only when there is something to change;
`version` counts the changes, so that equal versions of one registry mean that its list was left in place.
-/

namespace FilterWatch

/-- The resolvers in failover order. -/
structure Registry where
  resolvers : List Resolver := []
  /-- How often the list was replaced. -/
  version : Nat := 0
deriving Repr, DecidableEq, Inhabited

namespace Registry

/-- Replaces the first entry with the address of `r`, or appends `r`. -/
def place (r : Resolver) : List Resolver → List Resolver
  | [] => [r]
  | x :: xs => if x.address = r.address then r :: xs else x :: place r xs

/-- The list after placing resolvers one after the other. -/
def placeAll (current incoming : List Resolver) : List Resolver :=
  incoming.foldl (fun rs r => place r rs) current

def ofList (rs : List Resolver) : Registry := { resolvers := rs }

def size (reg : Registry) : Nat := reg.resolvers.length

def isEmpty (reg : Registry) : Bool := reg.resolvers.isEmpty

/-- Replaces resolvers by address and appends the new ones. -/
def upsert (reg : Registry) (incoming : List Resolver) : Registry :=
  if incoming.isEmpty then reg else ⟨placeAll reg.resolvers incoming, reg.version + 1⟩

/-- Removes every resolver whose address is listed. -/
def delete (reg : Registry) (addresses : List String) : Registry :=
  if reg.resolvers.any (addresses.contains ·.address) then
    ⟨reg.resolvers.filter (!addresses.contains ·.address), reg.version + 1⟩
  else reg

end Registry
end FilterWatch
