import WifiTrust.Json.Syntax

/-!
# Reading JSON

A reader for one JSON text with blanks around it. Each production returns what it has not used.
-/

namespace WifiTrust.Json

/-- The four characters that may stand between tokens. -/
def isSpace (c : Char) : Bool := c == ' ' || c == '\n' || c == '\t' || c == '\r'

def skip (cs : List Char) : List Char := cs.dropWhile isSpace

/-- The inside of a string literal and what follows its closing quote. Control characters must be
escaped, and an escape must be one of the known ones. -/
def literal : List Char → Option (List Char × List Char)
  | [] => none
  | '"' :: cs => some ([], cs)
  | '\\' :: 'u' :: a :: b :: c :: d :: cs =>
      match Literal.unit? a b c d with
      | none => none
      | some _ => (literal cs).map fun (inside, rest) =>
          ('\\' :: 'u' :: a :: b :: c :: d :: inside, rest)
  | '\\' :: e :: cs =>
      match Literal.short? e with
      | none => none
      | some _ => (literal cs).map fun (inside, rest) => ('\\' :: e :: inside, rest)
  | c :: cs =>
      if c.toNat < 0x20 ∨ c = '\\' then none
      else (literal cs).map fun (inside, rest) => (c :: inside, rest)

def someDigits (cs : List Char) : Option (List Char × List Char) :=
  match cs.takeWhile Decimal.isDigit with
  | [] => none
  | ds => some (ds, cs.dropWhile Decimal.isDigit)

/-- Digits without a needless leading zero. -/
def integerPart : List Char → Option (List Char × List Char)
  | '0' :: cs =>
      if (cs.head?.any Decimal.isDigit) then none else some (['0'], cs)
  | cs => someDigits cs

def fractionPart : List Char → Option (List Char × List Char)
  | '.' :: cs => (someDigits cs).map fun (ds, rest) => ('.' :: ds, rest)
  | cs => some ([], cs)

def exponentPart : List Char → Option (List Char × List Char)
  | e :: cs =>
      if e = 'e' ∨ e = 'E' then
        match cs with
        | '+' :: ds => (someDigits ds).map fun (ds, rest) => (e :: '+' :: ds, rest)
        | '-' :: ds => (someDigits ds).map fun (ds, rest) => (e :: '-' :: ds, rest)
        | ds => (someDigits ds).map fun (ds, rest) => (e :: ds, rest)
      else some ([], e :: cs)
  | [] => some ([], [])

def unsignedNumber (cs : List Char) : Option (List Char × List Char) := do
  let (whole, cs) ← integerPart cs
  let (fraction, cs) ← fractionPart cs
  let (exponent, cs) ← exponentPart cs
  return (whole ++ fraction ++ exponent, cs)

def numberSpelling : List Char → Option (List Char × List Char)
  | '-' :: cs => (unsignedNumber cs).map fun (spelling, rest) => ('-' :: spelling, rest)
  | cs => unsignedNumber cs

mutual

/-- A value behind blanks; `depth` bounds the nesting and the number of items on the way. -/
def value : Nat → List Char → Option (Json × List Char)
  | 0, _ => none
  | depth + 1, cs =>
      match skip cs with
      | 'n' :: 'u' :: 'l' :: 'l' :: rest => some (.null, rest)
      | 't' :: 'r' :: 'u' :: 'e' :: rest => some (.bool true, rest)
      | 'f' :: 'a' :: 'l' :: 's' :: 'e' :: rest => some (.bool false, rest)
      | '"' :: cs => (literal cs).map fun (inside, rest) => (.string inside, rest)
      | '[' :: cs =>
          match skip cs with
          | ']' :: rest => some (.array [], rest)
          | cs => (items depth cs).map fun (js, rest) => (.array js, rest)
      | '{' :: cs =>
          match skip cs with
          | '}' :: rest => some (.object [], rest)
          | cs => (members depth cs).map fun (ms, rest) => (.object ms, rest)
      | cs => (numberSpelling cs).map fun (spelling, rest) => (.number spelling, rest)

def items : Nat → List Char → Option (List Json × List Char)
  | 0, _ => none
  | depth + 1, cs =>
      match value depth cs with
      | none => none
      | some (j, rest) =>
          match skip rest with
          | ']' :: rest => some ([j], rest)
          | ',' :: rest => (items depth rest).map fun (js, rest) => (j :: js, rest)
          | _ => none

def members : Nat → List Char → Option (List (List Char × Json) × List Char)
  | 0, _ => none
  | depth + 1, cs =>
      match skip cs with
      | '"' :: cs =>
          match literal cs with
          | none => none
          | some (key, rest) =>
              match skip rest with
              | ':' :: rest =>
                  match value depth rest with
                  | none => none
                  | some (j, rest) =>
                      match skip rest with
                      | '}' :: rest => some ([(key, j)], rest)
                      | ',' :: rest =>
                          (members depth rest).map fun (ms, rest) => ((key, j) :: ms, rest)
                      | _ => none
              | _ => none
      | _ => none

end

def parse (text : String) : Option Json :=
  match value (text.toList.length + 1) text.toList with
  | some (j, rest) => if skip rest = [] then some j else none
  | none => none

end WifiTrust.Json
