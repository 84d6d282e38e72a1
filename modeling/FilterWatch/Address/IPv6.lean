import FilterWatch.Address.IPv4
import FilterWatch.Text.Quoted

/-!
# IPv6 addresses

An address is eight groups of sixteen bits. Reading takes groups of one to four hexadecimal digits, one `::` for
at least one group of zeros, and an IPv4 address in place of the last two groups. Writing is canonical: lower
case, no leading zeros, the first of the longest runs of two or more zero groups as `::`, and an IPv4-mapped
address with its IPv4 part dotted.
-/

namespace FilterWatch
open Text

structure IPv6 where
  groups : Vector UInt16 8
deriving DecidableEq, Repr

namespace IPv6

/-- The address with these groups, if there are eight. -/
def ofGroups? (gs : List UInt16) : Option IPv6 :=
  if h : gs.toArray.size = 8 then some ⟨⟨gs.toArray, h⟩⟩ else none

/-- A group of one to four hexadecimal digits. -/
def group? (cs : List Char) : Option UInt16 :=
  if cs.length ≤ 4 then (number? 16 cs).map UInt16.ofNat else none

/-- The two groups that an IPv4 address fills. -/
def groupsOfIPv4 (ip : IPv4) : List UInt16 :=
  [ip.a.toUInt16 <<< 8 ||| ip.b.toUInt16, ip.c.toUInt16 <<< 8 ||| ip.d.toUInt16]

/-- The groups of colon-separated fields; with `dotted` the last field may be an IPv4 address. -/
def groupsOfFields? (dotted : Bool) : List (List Char) → Option (List UInt16)
  | [] => some []
  | [f] => match group? f with
    | some g => some [g]
    | none => if dotted then (IPv4.ofChars? f).map groupsOfIPv4 else none
  | f :: fs => do return (← group? f) :: (← groupsOfFields? dotted fs)

/-- The groups on one side of `::`, or of the whole address. -/
def groups? (dotted : Bool) (cs : List Char) : Option (List UInt16) :=
  if cs.isEmpty then some [] else groupsOfFields? dotted (fields ':' cs)

/-- What stands on the two sides of the first `::`. -/
def cutDoubleColon : List Char → Option (List Char × List Char)
  | ':' :: ':' :: cs => some ([], cs)
  | c :: cs => (cutDoubleColon cs).map fun (before, after) => (c :: before, after)
  | [] => none

/-- Reads an address without scope or brackets. -/
def ofChars? (cs : List Char) : Option IPv6 :=
  match cutDoubleColon cs with
  | none => (groups? true cs).bind ofGroups?
  | some (before, after) => do
    let front ← groups? false before
    let back ← groups? true after
    if front.length + back.length < 8 then
      ofGroups? (front ++ List.replicate (8 - front.length - back.length) 0 ++ back)
    else none

/-- The length of the run of zeros at the front. -/
def zerosAhead (gs : List UInt16) : Nat := (gs.takeWhile (· == 0)).length

/-- The start and length of the first longest run of zeros. -/
def longestZeros : List UInt16 → Nat × Nat
  | [] => (0, 0)
  | g :: gs =>
    let here := zerosAhead (g :: gs)
    let (start, length) := longestZeros gs
    if length ≤ here then (0, here) else (start + 1, length)

/-- Groups with colons between them. -/
def renderGroups (gs : List UInt16) : String := ":".intercalate (gs.map fun g => hex g.toNat)

/-- The canonical form. -/
def render (ip : IPv6) : String :=
  match ip.groups.toList with
  | [0, 0, 0, 0, 0, 0xFFFF, x, y] =>
    "::ffff:" ++ (IPv4.mk (x >>> 8).toUInt8 x.toUInt8 (y >>> 8).toUInt8 y.toUInt8).render
  | gs =>
    let (start, length) := longestZeros gs
    if length < 2 then renderGroups gs
    else renderGroups (gs.take start) ++ "::" ++ renderGroups (gs.drop (start + length))

end IPv6
end FilterWatch
