import WifiTrust.Bytes.Hex
import WifiTrust.Text.Decimal

/-!
# Object identifiers

An identifier is kept as its bytes. The first byte stands for two numbers; the others are base-128
digits with the high bit set on all but the last of a number. The bytes need not be well-formed:
then the text shows what can be read from them.
-/

namespace WifiTrust

structure ObjectId where
  bytes : Bytes
  deriving DecidableEq, Inhabited, Repr

namespace ObjectId

/-- Base-128 numbers of 64 bits, given the digits of the first that are already read. A number
that is cut off counts as far as it goes. -/
def base128 : Option Nat → Bytes → List Nat
  | none, [] => []
  | some n, [] => [n]
  | start, b :: bs =>
      let n := (128 * start.getD 0 + b.toNat % 128) % Nat.pow 2 64
      if b.toNat < 0x80 then n :: base128 none bs else base128 (some n) bs

/-- The numbers of an identifier. A single zero byte stands for one number only. -/
def numbers (id : ObjectId) : List Nat :=
  match id.bytes with
  | [] => []
  | [0] => [0]
  | b :: bs => b.toNat / 40 :: b.toNat % 40 :: base128 none bs

/-- Whether a number has more than nine digits, given how many of the first are already read. A
number that is cut off does not count. -/
def hasLongNumber : Nat → Bytes → Bool
  | _, [] => false
  | digits, b :: bs =>
      if b.toNat < 0x80 then 9 ≤ digits || hasLongNumber 0 bs else hasLongNumber (digits + 1) bs

/-- The numbers with dots between them, or the bytes in hexadecimal if a number is too long. -/
def text (id : ObjectId) : String :=
  if hasLongNumber 0 id.bytes.tail then
    " ".intercalate (id.bytes.map fun b => String.ofList (Hex.encode [b]))
  else ".".intercalate (id.numbers.map fun n => String.ofList (Decimal.ofNat n))

end ObjectId

end WifiTrust
