import FilterWatch.Dns.Record

/-!
# Options on the wire

The data of an extension record is a sequence of options, each with a code, a length and as many bytes.
-/

namespace FilterWatch.Dns.Wire

/-- A word of two bytes. -/
def wordOf (high low : UInt8) : UInt16 := high.toUInt16 <<< 8 ||| low.toUInt16

/-- The code of the option that tells the network of the client. -/
def clientSubnetCode : UInt16 := 8

/-- The size of the addresses of a family. -/
def addressSize? (family : UInt16) : Option Nat :=
  if family = 1 then some 4 else if family = 2 then some 16 else none

/-- Whether a client network has a known family, two lengths, and as much of an address as the first length says. -/
def isClientSubnet : List UInt8 → Bool
  | high :: low :: source :: _ :: address =>
    (addressSize? (wordOf high low)).any fun size => min size ((source.toNat + 7) / 8) ≤ address.length
  | _ => false

/-- Whether the option can be read. -/
def isReadable (o : EdnsOption) : Bool := o.code != clientSubnetCode || isClientSubnet o.data

/-- The options in data of the given size, behind those read already, last one first. An option that the data ends
in leaves none of them; one that is longer than all the data, and a code or a length of one byte, cannot be. -/
def optionsBehind? (size : Nat) (before : List EdnsOption) : List UInt8 → Option (List EdnsOption)
  | [] => some before.reverse
  | [_] => none
  | [_, _] => some []
  | [_, _, _] => none
  | c₁ :: c₀ :: l₁ :: l₀ :: rest =>
    let length := (wordOf l₁ l₀).toNat
    if size < length then none
    else if rest.length < length then some []
    else
      let o : EdnsOption := ⟨wordOf c₁ c₀, rest.take length⟩
      if isReadable o then optionsBehind? size (o :: before) (rest.drop length) else none
termination_by data => data.length
decreasing_by simp only [List.length_drop, List.length_cons]; omega

/-- The options that the data holds. -/
def options? (data : List UInt8) : Option (List EdnsOption) := optionsBehind? data.length [] data

end FilterWatch.Dns.Wire
