import FilterWatch.Dns.Message

/-!
# The keyword matcher

A message carries a keyword if the keyword occurs, case aside, in the text of one of its records or in the text of
its extended error. Records are looked at in order up to the first match.
-/

namespace FilterWatch.Dns
open Text

/-- The code of the option that carries an extended error. -/
def extendedErrorCode : UInt16 := 15

/-- The text of an extended error; one that is too short to have a code is shown byte by byte. -/
def extendedErrorText : List UInt8 → String
  | high :: low :: rest =>
    "EDE " ++ toString (high.toNat * 256 + low.toNat) ++ ": " ++ .ofList (Utf8.decodeLossy rest)
  | bytes => "Unknown(15, [" ++ ", ".intercalate (bytes.map fun b => toString b.toNat) ++ "])"

/-- The text of the first extended error among the options. -/
def Edns.errorText? (e : Edns) : Option String :=
  (e.options.find? (·.code == extendedErrorCode)).map fun o => extendedErrorText o.data

/-- Whether a text contains a keyword that is in lower case already. -/
def textCarries (keyword : List Char) (text : String) : Bool := occursIn keyword (lower text.toList)

/-- Whether one of the records carries the keyword. -/
def anyRecordCarries (keyword : List Char) : List Record → Except Fault Bool
  | [] => .ok false
  | r :: rs => do
    if textCarries keyword (← r.text) then return true
    anyRecordCarries keyword rs

/-- Whether the message carries the keyword. -/
def Message.carries (m : Message) (keyword : String) : Except Fault Bool := do
  let keyword := lower keyword.toList
  if ← anyRecordCarries keyword m.records then return true
  return (m.edns.bind (·.errorText?)).any (textCarries keyword)

end FilterWatch.Dns
