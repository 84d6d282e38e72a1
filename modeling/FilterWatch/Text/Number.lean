/-!
# Numbers in texts

`number?` reads a non-empty run of digits in a base up to 36; `unsigned?` reads a decimal number below a bound,
with an optional plus sign and any number of leading zeros.
-/

namespace FilterWatch.Text

/-- The value of a digit, letters in either case counting from ten. -/
def digit? (base : Nat) (c : Char) : Option Nat :=
  let value :=
    if '0' ≤ c ∧ c ≤ '9' then some (c.toNat - 48)
    else if 'a' ≤ c ∧ c ≤ 'z' then some (c.toNat - 87)
    else if 'A' ≤ c ∧ c ≤ 'Z' then some (c.toNat - 55)
    else none
  value.filter (· < base)

/-- The number written by the digits that follow those of value `acc`. -/
def numberFrom? (base acc : Nat) : List Char → Option Nat
  | [] => some acc
  | c :: cs => (digit? base c).bind fun d => numberFrom? base (acc * base + d) cs

/-- The number written by a non-empty run of digits. -/
def number? (base : Nat) (cs : List Char) : Option Nat :=
  if cs.isEmpty then none else numberFrom? base 0 cs

/-- A decimal number below `bound`, with an optional plus sign. -/
def unsigned? (bound : Nat) (cs : List Char) : Option Nat :=
  let digits := match cs with
    | '+' :: rest => rest
    | cs => cs
  (number? 10 digits).filter (· < bound)

end FilterWatch.Text
