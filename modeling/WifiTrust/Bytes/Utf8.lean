import WifiTrust.Bytes.Hex

/-!
# UTF-8

Encoding, strict decoding, and decoding that puts U+FFFD for each ill-formed part. The decoder
takes one byte at a time. An ill-formed part is the longest piece that could have begun a
character; the byte that rules it out starts over.
-/

namespace WifiTrust.Utf8

def encodeChar (c : Char) : Bytes :=
  let n := c.toNat
  if n < 0x80 then [UInt8.ofNat n]
  else if n < 0x800 then [UInt8.ofNat (0xC0 + n / 64), UInt8.ofNat (0x80 + n % 64)]
  else if n < 0x10000 then
    [UInt8.ofNat (0xE0 + n / 4096), UInt8.ofNat (0x80 + n / 64 % 64), UInt8.ofNat (0x80 + n % 64)]
  else
    [UInt8.ofNat (0xF0 + n / 262144), UInt8.ofNat (0x80 + n / 4096 % 64),
      UInt8.ofNat (0x80 + n / 64 % 64), UInt8.ofNat (0x80 + n % 64)]

def encode (cs : List Char) : Bytes := cs.flatMap encodeChar

/-- A character under way: how many bytes it still needs, the least and the greatest value of the
next one, and the bits read so far. -/
structure Partial where
  owed : Nat
  low : Nat
  high : Nat
  bits : Nat

/-- What a byte leads to. -/
inductive Step where
  | whole (c : Char)
  | part (p : Partial)
  | broken

def first (b : UInt8) : Step :=
  let n := b.toNat
  if n < 0x80 then .whole (Char.ofNat n)
  else if n < 0xC2 then .broken
  else if n < 0xE0 then .part ⟨1, 0x80, 0xBF, n - 0xC0⟩
  else if n = 0xE0 then .part ⟨2, 0xA0, 0xBF, 0⟩
  else if n = 0xED then .part ⟨2, 0x80, 0x9F, 0xD⟩
  else if n < 0xF0 then .part ⟨2, 0x80, 0xBF, n - 0xE0⟩
  else if n = 0xF0 then .part ⟨3, 0x90, 0xBF, 0⟩
  else if n < 0xF4 then .part ⟨3, 0x80, 0xBF, n - 0xF0⟩
  else if n = 0xF4 then .part ⟨3, 0x80, 0x8F, 4⟩
  else .broken

/-- A byte inside a character; `broken` if it cannot go on. -/
def Partial.next (p : Partial) (b : UInt8) : Step :=
  if p.low ≤ b.toNat ∧ b.toNat ≤ p.high then
    let bits := p.bits * 64 + b.toNat % 64
    if p.owed ≤ 1 then .whole (Char.ofNat bits) else .part ⟨p.owed - 1, 0x80, 0xBF, bits⟩
  else .broken

/-- The characters in order, `none` for each ill-formed part. -/
def scan : Option Partial → Bytes → List (Option Char)
  | none, [] => []
  | some _, [] => [none]
  | none, b :: bs =>
      match first b with
      | .whole c => some c :: scan none bs
      | .part p => scan (some p) bs
      | .broken => none :: scan none bs
  | some p, b :: bs =>
      match p.next b with
      | .whole c => some c :: scan none bs
      | .part q => scan (some q) bs
      | .broken =>
          none :: match first b with
            | .whole c => some c :: scan none bs
            | .part q => scan (some q) bs
            | .broken => none :: scan none bs

def decode? (bs : Bytes) : Option (List Char) := (scan none bs).mapM id

/-- The text of any bytes, with U+FFFD for each ill-formed part. -/
def decodeLossy (bs : Bytes) : List Char := (scan none bs).map (·.getD '\ufffd')

end WifiTrust.Utf8
