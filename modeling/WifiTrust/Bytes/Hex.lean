namespace WifiTrust

abbrev Bytes := List UInt8

namespace Hex

def digit (n : Nat) : Char :=
  if n < 10 then Char.ofNat (48 + n) else Char.ofNat (87 + n)

def value? (c : Char) : Option Nat :=
  if '0' ≤ c ∧ c ≤ '9' then some (c.toNat - 48)
  else if 'a' ≤ c ∧ c ≤ 'f' then some (c.toNat - 87)
  else if 'A' ≤ c ∧ c ≤ 'F' then some (c.toNat - 55)
  else none

def encode : Bytes → List Char
  | [] => []
  | b :: bs => digit (b.toNat / 16) :: digit (b.toNat % 16) :: encode bs

/-- Fails on an odd number of digits and on anything that is not a digit. -/
def decode? : List Char → Option Bytes
  | [] => some []
  | [_] => none
  | high :: low :: cs => do
      let h ← value? high
      let l ← value? low
      let bs ← decode? cs
      return UInt8.ofNat (16 * h + l) :: bs

private theorem value?_digit : ∀ n < 16, value? (digit n) = some n := by decide

theorem decode?_encode (bs : Bytes) : decode? (encode bs) = some bs := by
  induction bs with
  | nil => rfl
  | cons b bs ih =>
      have hb := b.toNat_lt
      simp only [encode, decode?, value?_digit (b.toNat / 16) (by omega),
        value?_digit (b.toNat % 16) (by omega), ih, bind, Option.bind, pure,
        show 16 * (b.toNat / 16) + b.toNat % 16 = b.toNat by omega, UInt8.ofNat_toNat]

theorem length_encode (bs : Bytes) : (encode bs).length = 2 * bs.length := by
  induction bs with
  | nil => rfl
  | cons b bs ih => simp [encode, ih]; omega

end Hex

end WifiTrust
