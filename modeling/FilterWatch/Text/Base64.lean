/-!
# Base64

Bytes in the standard alphabet of Base64, with padding: three bytes make four characters.
-/

namespace FilterWatch.Text.Base64

/-- The character for six bits. -/
def digit (n : Nat) : Char :=
  if n < 26 then Char.ofNat (n + 65)
  else if n < 52 then Char.ofNat (n + 71)
  else if n < 62 then Char.ofNat (n - 4)
  else if n = 62 then '+' else '/'

/-- The first `count` of the four characters for 24 bits, and padding. -/
def group (bits count : Nat) : List Char :=
  ([bits / 262144, bits / 4096 % 64, bits / 64 % 64, bits % 64].take count).map digit
    ++ List.replicate (4 - count) '='

def encode : List UInt8 → List Char
  | [] => []
  | [a] => group (a.toNat * 65536) 2
  | [a, b] => group (a.toNat * 65536 + b.toNat * 256) 3
  | a :: b :: c :: rest => group (a.toNat * 65536 + b.toNat * 256 + c.toNat) 4 ++ encode rest

end FilterWatch.Text.Base64
