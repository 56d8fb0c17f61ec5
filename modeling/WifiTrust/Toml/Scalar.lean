import WifiTrust.Bytes.Hex
import WifiTrust.Text.Decimal
import WifiTrust.Timestamp
import WifiTrust.Toml.Table

/-!
# TOML scalars

Strings in their four forms, numbers, dates and times. Each production returns what it has not
used.
-/

namespace WifiTrust.Toml

/-- The two characters that may stand between tokens of a line. -/
def isSpace (c : Char) : Bool := c == ' ' || c == '\t'

def skip (cs : List Char) : List Char := cs.dropWhile isSpace

/-- A character that may stand for itself: no control character but the tab. -/
def isPlain (c : Char) : Bool := c == '\t' || (0x20 ≤ c.toNat && c.toNat != 0x7F)

/-! ## Strings -/

def short? : Char → Option Char
  | 'b' => some '\x08'
  | 't' => some '\t'
  | 'n' => some '\n'
  | 'f' => some '\x0c'
  | 'r' => some '\r'
  | '"' => some '"'
  | '\\' => some '\\'
  | _ => none

/-- The character with a number, unless it is a surrogate or too large. -/
def scalar? (n : Nat) : Option Char := if n.isValidChar then some (Char.ofNat n) else none

def coded? (digits : List Char) : Option Char := do
  scalar? ((← digits.mapM Hex.value?).foldl (fun n d => 16 * n + d) 0)

private def before (c : Char) : List Char × List Char → List Char × List Char
  | (text, rest) => (c :: text, rest)

def basic : List Char → Option (List Char × List Char)
  | [] => none
  | '"' :: cs => some ([], cs)
  | '\\' :: 'u' :: a :: b :: c :: d :: cs => do
      let e ← coded? [a, b, c, d]
      return before e (← basic cs)
  | '\\' :: 'U' :: a :: b :: c :: d :: e :: f :: g :: h :: cs => do
      let e ← coded? [a, b, c, d, e, f, g, h]
      return before e (← basic cs)
  | '\\' :: c :: cs => do
      let e ← short? c
      return before e (← basic cs)
  | c :: cs => if isPlain c ∧ c ≠ '\\' then (basic cs).map (before c) else none

def raw : List Char → Option (List Char × List Char)
  | [] => none
  | '\'' :: cs => some ([], cs)
  | c :: cs => if isPlain c then (raw cs).map (before c) else none

/-- What follows three closing quotes: up to two quotes more belong to the text. -/
def closing (quote : Char) : List Char → List Char × List Char
  | a :: b :: cs =>
      if a = quote then
        if b = quote then ([a, b], cs) else ([a], b :: cs)
      else ([], a :: b :: cs)
  | [a] => if a = quote then ([a], []) else ([], [a])
  | [] => ([], [])

/-- Whether the rest of the line is blank, so that a backslash before it joins the lines. -/
def joinsLines (cs : List Char) : Bool :=
  match skip cs with
  | '\n' :: _ => true
  | '\r' :: '\n' :: _ => true
  | _ => false

/-- The text of a string between three double quotes. While lines are being joined, blanks and line
ends are dropped. -/
def basicBlock : Bool → List Char → Option (List Char × List Char)
  | _, [] => none
  | _, '"' :: '"' :: '"' :: cs => some (closing '"' cs)
  | true, ' ' :: cs => basicBlock true cs
  | true, '\t' :: cs => basicBlock true cs
  | joining, '\n' :: cs =>
      if joining then basicBlock true cs else (basicBlock false cs).map (before '\n')
  | joining, '\r' :: '\n' :: cs =>
      if joining then basicBlock true cs else (basicBlock false cs).map (before '\n')
  | _, '\\' :: 'u' :: a :: b :: c :: d :: cs => do
      let e ← coded? [a, b, c, d]
      return before e (← basicBlock false cs)
  | _, '\\' :: 'U' :: a :: b :: c :: d :: e :: f :: g :: h :: cs => do
      let e ← coded? [a, b, c, d, e, f, g, h]
      return before e (← basicBlock false cs)
  | _, '\\' :: c :: cs =>
      if joinsLines (c :: cs) then
        if c = '\r' then basicBlock true (c :: cs) else basicBlock true cs
      else do
        let e ← short? c
        return before e (← basicBlock false cs)
  | _, c :: cs =>
      if isPlain c ∧ c ≠ '\\' then (basicBlock false cs).map (before c) else none

def rawBlock : List Char → Option (List Char × List Char)
  | [] => none
  | '\'' :: '\'' :: '\'' :: cs => some (closing '\'' cs)
  | '\r' :: '\n' :: cs => (rawBlock cs).map (before '\n')
  | c :: cs => if isPlain c ∨ c = '\n' then (rawBlock cs).map (before c) else none

def dropLineEnd : List Char → List Char
  | '\n' :: cs => cs
  | '\r' :: '\n' :: cs => cs
  | cs => cs

def string? : List Char → Option (List Char × List Char)
  | '"' :: '"' :: '"' :: cs => basicBlock false (dropLineEnd cs)
  | '"' :: cs => basic cs
  | '\'' :: '\'' :: '\'' :: cs => rawBlock (dropLineEnd cs)
  | '\'' :: cs => raw cs
  | _ => none

/-! ## Numbers -/

/-- Digits with single underscores between them, and the rest. -/
def digitRun (isDigit : Char → Bool) : List Char → List Char × List Char
  | [] => ([], [])
  | '_' :: c :: cs =>
      if isDigit c then before '_' (digitRun isDigit (c :: cs)) else ([], '_' :: c :: cs)
  | c :: cs => if isDigit c then before c (digitRun isDigit cs) else ([], c :: cs)

def digits? (isDigit : Char → Bool) (cs : List Char) : Option (List Char × List Char) :=
  match cs with
  | c :: _ => if isDigit c then some (digitRun isDigit cs) else none
  | [] => none

private def withoutUnderscores (cs : List Char) : List Char := cs.filter (· ≠ '_')

def sign : List Char → List Char × List Char
  | '+' :: cs => (['+'], cs)
  | '-' :: cs => (['-'], cs)
  | cs => ([], cs)

/-- A decimal integer without its sign. No zero leads, so after a zero nothing more is taken. -/
def unsigned? : List Char → Option (List Char × List Char)
  | '0' :: cs => some (['0'], cs)
  | cs => digits? Decimal.isDigit cs

def integerOf (i : Int) : Option Toml :=
  if -9223372036854775808 ≤ i ∧ i ≤ 9223372036854775807 then some (.integer i) else none

private def valueIn (base : Nat) (digits : List Char) : Nat :=
  (withoutUnderscores digits).foldl (fun n c => base * n + (Hex.value? c).getD 0) 0

private def isHexDigit (c : Char) : Bool := (Hex.value? c).isSome

private def isDigitBelow (top : Char) (c : Char) : Bool := '0' ≤ c && c ≤ top

private def integerIn (base : Nat) (isDigit : Char → Bool) (cs : List Char) :
    Option (Toml × List Char) := do
  let (digits, rest) ← digits? isDigit cs
  return (← integerOf (valueIn base digits), rest)

/-- An integer in decimal, or without a sign in one of three other bases. -/
def integer? : List Char → Option (Toml × List Char)
  | '0' :: 'x' :: cs => integerIn 16 isHexDigit cs
  | '0' :: 'o' :: cs => integerIn 8 (isDigitBelow '7') cs
  | '0' :: 'b' :: cs => integerIn 2 (isDigitBelow '1') cs
  | cs => do
      let (minus, cs) := sign cs
      let (digits, rest) ← unsigned? cs
      let n : Int := valueIn 10 digits
      return (← integerOf (if minus = ['-'] then -n else n), rest)

def fraction? : List Char → Option (List Char × List Char)
  | '.' :: cs => (digits? Decimal.isDigit cs).map (before '.')
  | _ => none

def exponent? : List Char → Option (List Char × List Char)
  | e :: cs =>
      if e = 'e' ∨ e = 'E' then do
        let (minus, cs) := sign cs
        let (digits, rest) ← digits? Decimal.isDigit cs
        return (minus ++ digits, rest)
      else none
  | [] => none

/-- Whether a number too large for a double stands here: `digits` without a point, times ten to the
power of `exponent`. The least such number is halfway between the greatest double and the next
power of two. -/
def overflows (digits : Nat) (exponent : Int) : Bool :=
  let length : Int := (Decimal.ofNat digits).length + exponent
  if digits = 0 ∨ length < 300 then false
  else if 320 < length then true
  else
    let bound := Nat.pow 2 1024 - Nat.pow 2 970
    if 0 ≤ exponent then bound ≤ digits * Nat.pow 10 exponent.toNat
    else bound * Nat.pow 10 (-exponent).toNat ≤ digits

private def exponentValue : List Char → Int
  | '-' :: digits => -(Decimal.value (withoutUnderscores digits) : Int)
  | '+' :: digits => Decimal.value (withoutUnderscores digits)
  | digits => Decimal.value (withoutUnderscores digits)

/-- A float by its digits. One that rounds up to infinity is refused, but not one that rounds down
to minus infinity. -/
def decimalFloat? (cs : List Char) : Option (Toml × List Char) := do
  let (minus, rest) := sign cs
  let (whole, rest) ← unsigned? rest
  let (fraction, afterFraction) := (fraction? rest).getD ([], rest)
  let (exponent, rest) ←
    if fraction = [] then exponent? afterFraction
    else some ((exponent? afterFraction).getD ([], afterFraction))
  let places := withoutUnderscores (fraction.drop 1)
  let digits := Decimal.value (withoutUnderscores whole ++ places)
  guard (minus = ['-'] ∨ !overflows digits (exponentValue exponent - places.length))
  return (.float (cs.take (cs.length - rest.length)), rest)

def specialFloat? (cs : List Char) : Option (Toml × List Char) :=
  let (minus, rest) := sign cs
  match rest with
  | 'i' :: 'n' :: 'f' :: rest => some (.float (minus ++ ['i', 'n', 'f']), rest)
  | 'n' :: 'a' :: 'n' :: rest => some (.float (minus ++ ['n', 'a', 'n']), rest)
  | _ => none

/-! ## Dates and times -/

def fixed? (width : Nat) (cs : List Char) : Option (Nat × List Char) :=
  let digits := cs.take width
  if digits.length = width ∧ digits.all Decimal.isDigit then
    some (Decimal.value digits, cs.drop width)
  else none

private def expect? (c : Char) : List Char → Option (List Char)
  | d :: cs => if d = c then some cs else none
  | [] => none

def date? (cs : List Char) : Option (List Char) := do
  let (year, cs) ← fixed? 4 cs
  let (month, cs) ← fixed? 2 (← expect? '-' cs)
  let (day, cs) ← fixed? 2 (← expect? '-' cs)
  guard (1 ≤ month ∧ month ≤ 12 ∧ 1 ≤ day ∧ day ≤ Calendar.daysIn year month)
  return cs

def clock? (cs : List Char) : Option (List Char) := do
  let (hour, cs) ← fixed? 2 cs
  let (minute, cs) ← fixed? 2 (← expect? ':' cs)
  guard (hour ≤ 23 ∧ minute ≤ 59)
  return cs

def time? (cs : List Char) : Option (List Char) := do
  let (second, cs) ← fixed? 2 (← expect? ':' (← clock? cs))
  guard (second ≤ 60)
  match cs with
  | '.' :: c :: rest =>
      if Decimal.isDigit c then return rest.dropWhile Decimal.isDigit else none
  | _ => return cs

/-- What is left behind an offset from universal time, if there is one. -/
def afterOffset (cs : List Char) : List Char :=
  match cs with
  | 'Z' :: rest => rest
  | 'z' :: rest => rest
  | '+' :: rest => (clock? rest).getD cs
  | '-' :: rest => (clock? rest).getD cs
  | _ => cs

def afterTime (cs : List Char) : List Char :=
  match cs with
  | c :: rest =>
      if c = 'T' ∨ c = 't' ∨ c = ' ' then ((time? rest).map afterOffset).getD cs else cs
  | [] => cs

/-- A date with or without a time, or a time. -/
def moment? (cs : List Char) : Option (Toml × List Char) := do
  let rest ← ((date? cs).map afterTime) <|> time? cs
  return (.moment (cs.take (cs.length - rest.length)), rest)

def number? (cs : List Char) : Option (Toml × List Char) :=
  moment? cs <|> decimalFloat? cs <|> specialFloat? cs <|> integer? cs

end WifiTrust.Toml
