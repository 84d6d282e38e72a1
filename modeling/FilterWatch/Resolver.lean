import FilterWatch.Dns.RecordType
import FilterWatch.Text.Fields
import FilterWatch.Text.Quoted

/-!
# Resolvers

A resolver is a DNS server together with the rule for its answers: the keyword that marks a block page and the
record type to ask for. It is written `ADDRESS[,KEYWORD[,TYPE]]`.
-/

namespace FilterWatch
open Text

/-- A DNS server and the rules for interpreting its answers. -/
structure Resolver where
  address : String
  /-- What a blocking answer contains. -/
  keyword : String
  recordType : RecordType
deriving DecidableEq, Repr, Inhabited

/-- Why a text describes no resolver. -/
inductive ResolverError where
  | missingAddress (text : String)
deriving DecidableEq, Repr

def ResolverError.message : ResolverError → String
  | missingAddress text => "missing resolver address in " ++ quote text

namespace Resolver

/-- Reads `ADDRESS[,KEYWORD[,TYPE]]`; blanks around a field do not count, and everything after the second comma
is the type. -/
def parse (text : String) : Except ResolverError Resolver :=
  let (addressField, rest) := cut ',' text.toList
  let address := trimmed addressField
  if address.isEmpty then .error (.missingAddress text)
  else
    let (keywordField, typeField) := cut ',' (rest.getD [])
    .ok ⟨.ofList address, .ofList (trimmed keywordField), (typeField.map fun t => .ofName (.ofList t)).getD .a⟩

/-- The resolver as messages show it. -/
def describe (r : Resolver) : String :=
  r.address ++ " (" ++ r.recordType.name ++ " " ++ quote r.keyword ++ ")"

end Resolver
end FilterWatch
