import WifiTrust.Bytes.Hex
import WifiTrust.Text.Decimal

/-!
# JSON values

A JSON text as a tree. String literals are kept as they stand between their quotes and numbers as
they are spelled, so that each reader of a value decides what it accepts: a map key must be
spelled as a plain integer, and a literal whose surrogate escapes do not pair up has no text but
does no harm where nothing reads it.
-/

namespace WifiTrust

/-- A JSON value. -/
inductive Json where
  | null
  | bool (b : Bool)
  | number (spelling : List Char)
  | string (literal : List Char)
  | array (items : List Json)
  | object (members : List (List Char × Json))
  deriving Inhabited

namespace Json.Literal

def escapeChar (c : Char) : List Char :=
  if c = '"' then ['\\', '"']
  else if c = '\\' then ['\\', '\\']
  else if c = '\x08' then ['\\', 'b']
  else if c = '\t' then ['\\', 't']
  else if c = '\n' then ['\\', 'n']
  else if c = '\x0c' then ['\\', 'f']
  else if c = '\r' then ['\\', 'r']
  else if c.toNat < 0x20 then
    ['\\', 'u', '0', '0', Hex.digit (c.toNat / 16), Hex.digit (c.toNat % 16)]
  else [c]

def encode (cs : List Char) : List Char := cs.flatMap escapeChar

def unit? (a b c d : Char) : Option Nat := do
  return 4096 * (← Hex.value? a) + 256 * (← Hex.value? b) + 16 * (← Hex.value? c) + (← Hex.value? d)

def short? : Char → Option Char
  | '"' => some '"'
  | '\\' => some '\\'
  | '/' => some '/'
  | 'b' => some '\x08'
  | 'f' => some '\x0c'
  | 'n' => some '\n'
  | 'r' => some '\r'
  | 't' => some '\t'
  | _ => none

/-- The text of a literal. A leading surrogate must be followed by a trailing one. -/
def decode? : List Char → Option (List Char)
  | [] => some []
  | '\\' :: 'u' :: a :: b :: c :: d :: '\\' :: 'u' :: e :: f :: g :: h :: cs =>
      match unit? a b c d with
      | none => none
      | some high =>
          if 0xD800 ≤ high ∧ high < 0xDC00 then
            match unit? e f g h with
            | none => none
            | some low =>
                if 0xDC00 ≤ low ∧ low < 0xE000 then
                  (decode? cs).map
                    (Char.ofNat (0x10000 + 1024 * (high - 0xD800) + (low - 0xDC00)) :: ·)
                else none
          else if 0xDC00 ≤ high ∧ high < 0xE000 then none
          else (decode? ('\\' :: 'u' :: e :: f :: g :: h :: cs)).map (Char.ofNat high :: ·)
  | '\\' :: 'u' :: a :: b :: c :: d :: cs =>
      match unit? a b c d with
      | none => none
      | some n =>
          if 0xD800 ≤ n ∧ n < 0xE000 then none
          else (decode? cs).map (Char.ofNat n :: ·)
  | '\\' :: e :: cs =>
      match short? e with
      | none => none
      | some c => (decode? cs).map (c :: ·)
  | ['\\'] => none
  | c :: cs => (decode? cs).map (c :: ·)

end Json.Literal

namespace Json

def ofString (s : String) : Json := .string (Literal.encode s.toList)

def ofInt (i : Int) : Json := .number (Decimal.ofInt i)

def ofNat (n : Nat) : Json := .number (Decimal.ofNat n)

def record (fields : List (String × Json)) : Json :=
  .object (fields.map fun (key, value) => (Literal.encode key.toList, value))

def ofOption {α : Type} (toJson : α → Json) : Option α → Json
  | none => .null
  | some a => toJson a

def text? : Json → Option String
  | .string literal => (Literal.decode? literal).map String.ofList
  | _ => none

def bool? : Json → Option Bool
  | .bool b => some b
  | _ => none

/-- The integer that a spelling stands for: digits without a leading zero, behind a minus sign
unless the number is zero. A fraction or an exponent makes a number no integer. -/
def integerOf? : List Char → Option Int
  | '-' :: cs =>
      if cs ≠ [] ∧ cs.all Decimal.isDigit ∧ cs.head? ≠ some '0' then some (-(Decimal.value cs))
      else none
  | cs =>
      if cs ≠ [] ∧ cs.all Decimal.isDigit ∧ (cs.head? ≠ some '0' ∨ cs = ['0']) then
        some (Decimal.value cs)
      else none

def int? : Json → Option Int
  | .number spelling => integerOf? spelling
  | _ => none

def nullable {α : Type} (read : Json → Option α) : Json → Option (Option α)
  | .null => some none
  | j => (read j).map some

def listOf {α : Type} (read : Json → Option α) : Json → Option (List α)
  | .array items => items.mapM read
  | _ => none

end Json

end WifiTrust
