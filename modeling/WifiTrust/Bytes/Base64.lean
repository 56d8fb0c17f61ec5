import WifiTrust.Bytes.Hex

/-!
# Base64

The standard alphabet, read strictly: padded to groups of four, and the bits that a padded group
does not use are zero.
-/

namespace WifiTrust.Base64

def value? (c : Char) : Option Nat :=
  if 'A' ≤ c ∧ c ≤ 'Z' then some (c.toNat - 65)
  else if 'a' ≤ c ∧ c ≤ 'z' then some (c.toNat - 71)
  else if '0' ≤ c ∧ c ≤ '9' then some (c.toNat + 4)
  else if c = '+' then some 62
  else if c = '/' then some 63
  else none

/-- The bytes of padded text. -/
def decode? : List Char → Option Bytes
  | [] => some []
  | [a, b, '=', '='] => do
      let x ← value? a
      let y ← value? b
      guard (y % 16 = 0)
      return [UInt8.ofNat (x * 4 + y / 16)]
  | [a, b, c, '='] => do
      let x ← value? a
      let y ← value? b
      let z ← value? c
      guard (z % 4 = 0)
      return [UInt8.ofNat (x * 4 + y / 16), UInt8.ofNat (y % 16 * 16 + z / 4)]
  | a :: b :: c :: d :: cs => do
      let x ← value? a
      let y ← value? b
      let z ← value? c
      let w ← value? d
      let rest ← decode? cs
      return UInt8.ofNat (x * 4 + y / 16) :: UInt8.ofNat (y % 16 * 16 + z / 4) ::
        UInt8.ofNat (z % 4 * 64 + w) :: rest
  | _ => none

end WifiTrust.Base64
