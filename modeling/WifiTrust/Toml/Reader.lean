import WifiTrust.Toml.Scalar

/-!
# Reading TOML

A document is a row of lines: headers, keys with values, comments and empty lines. Reading fails
where a key is given twice or a table is reopened.
-/

namespace WifiTrust.Toml

/-- The nesting that values and dotted keys stay below. -/
def depthLimit : Nat := 80

/-! ## Blanks and line ends -/

def lineEnd? : List Char → Option (List Char)
  | '\n' :: cs => some cs
  | '\r' :: '\n' :: cs => some cs
  | _ => none

def dropComment (cs : List Char) : List Char := cs.dropWhile isPlain

/-- Drop blanks, comments and line ends. A comment holds no control character. -/
def skipLines : Bool → List Char → List Char
  | false, ' ' :: cs => skipLines false cs
  | false, '\t' :: cs => skipLines false cs
  | false, '#' :: cs => skipLines true cs
  | _, '\n' :: cs => skipLines false cs
  | _, '\r' :: '\n' :: cs => skipLines false cs
  | true, c :: cs => if isPlain c then skipLines true cs else c :: cs
  | false, c :: cs => c :: cs
  | _, [] => []

/-- What follows the end of a statement: blanks, a comment and the line end or the end of all. -/
def finish? (cs : List Char) : Option (List Char) :=
  let rest := match skip cs with
    | '#' :: cs => dropComment cs
    | cs => cs
  if rest = [] then some [] else lineEnd? rest

/-! ## Keys -/

def isKeyChar (c : Char) : Bool :=
  ('a' ≤ c && c ≤ 'z') || ('A' ≤ c && c ≤ 'Z') || Decimal.isDigit c || c == '_' || c == '-'

def keyPart? : List Char → Option (Key × List Char)
  | '"' :: cs => basic cs
  | '\'' :: cs => raw cs
  | cs =>
      match cs.takeWhile isKeyChar with
      | [] => none
      | part => some (part, cs.dropWhile isKeyChar)

/-- Parts with dots between them; `fuel` bounds their number. -/
def keyParts? : Nat → List Char → Option (List Key × List Char)
  | 0, _ => none
  | fuel + 1, cs => do
      let (part, rest) ← keyPart? (skip cs)
      match skip rest with
      | '.' :: rest =>
          let (parts, rest) ← keyParts? fuel rest
          return (part :: parts, rest)
      | rest => return ([part], rest)

/-- A key, all parts but the last and the last. -/
def key? (cs : List Char) : Option ((List Key × Key) × List Char) := do
  let (parts, rest) ← keyParts? (depthLimit - 1) cs
  return ((parts.dropLast, ← parts.getLast?), rest)

/-! ## Values -/

def entriesOf : List ((List Key × Key) × Toml) → Entries → Option Entries
  | [], es => some es
  | ((path, key), v) :: pairs, es => do entriesOf pairs (← es.assign v path key)

mutual

/-- A value. It may nest `depth` levels deep, and `fuel` bounds the steps to its end. -/
def value? : Nat → Nat → List Char → Option (Toml × List Char)
  | 0, _, _ => none
  | fuel + 1, depth, cs =>
      match cs with
      | '"' :: _ => (string? cs).map fun (text, rest) => (.string text, rest)
      | '\'' :: _ => (string? cs).map fun (text, rest) => (.string text, rest)
      | 't' :: 'r' :: 'u' :: 'e' :: rest => some (.boolean true, rest)
      | 'f' :: 'a' :: 'l' :: 's' :: 'e' :: rest => some (.boolean false, rest)
      | '[' :: rest =>
          match depth with
          | 0 => none
          | depth + 1 => (items? fuel depth rest).map fun (vs, rest) => (.array vs, rest)
      | '{' :: rest =>
          match depth with
          | 0 => none
          | depth + 1 =>
              match skip rest with
              | '}' :: rest => some (.table .braces [], rest)
              | rest => do
                  let (pairs, rest) ← pairs? fuel depth rest
                  return (.table .braces (← entriesOf pairs []), rest)
      | _ => number? cs

/-- The items of an array up to the closing bracket; the last may be followed by a comma. -/
def items? : Nat → Nat → List Char → Option (List Toml × List Char)
  | 0, _, _ => none
  | fuel + 1, depth, cs =>
      match skipLines false cs with
      | ']' :: rest => some ([], rest)
      | cs => do
          let (v, rest) ← value? fuel depth cs
          match skipLines false rest with
          | ']' :: rest => return ([v], rest)
          | ',' :: rest =>
              let (vs, rest) ← items? fuel depth rest
              return (v :: vs, rest)
          | _ => none

/-- One or more pairs up to the closing brace, on one line. -/
def pairs? : Nat → Nat → List Char → Option (List ((List Key × Key) × Toml) × List Char)
  | 0, _, _ => none
  | fuel + 1, depth, cs => do
      let (key, rest) ← key? cs
      match rest with
      | '=' :: rest =>
          let (v, rest) ← value? fuel depth (skip rest)
          match skip rest with
          | '}' :: rest => return ([(key, v)], rest)
          | ',' :: rest =>
              let (pairs, rest) ← pairs? fuel depth rest
              return ((key, v) :: pairs, rest)
          | _ => none
      | _ => none

end

/-! ## Documents -/

inductive Statement where
  /-- A header, in double brackets if it is shared. -/
  | header (shared : Bool) (path : List Key) (key : Key)
  | assignment (path : List Key) (key : Key) (v : Toml)

def statement? (cs : List Char) : Option (Statement × List Char) :=
  match cs with
  | '[' :: '[' :: rest => do
      let ((path, key), rest) ← key? rest
      match rest with
      | ']' :: ']' :: rest => return (.header true path key, ← finish? rest)
      | _ => none
  | '[' :: rest => do
      let ((path, key), rest) ← key? rest
      match rest with
      | ']' :: rest => return (.header false path key, ← finish? rest)
      | _ => none
  | cs => do
      let ((path, key), rest) ← key? cs
      match rest with
      | '=' :: rest =>
          let (v, rest) ← value? (cs.length + 1) (depthLimit - 1) (skip rest)
          return (.assignment path key v, ← finish? rest)
      | _ => none

def statements? : Nat → List Char → Option (List Statement)
  | 0, _ => none
  | fuel + 1, cs =>
      match skip cs with
      | [] => some []
      | '#' :: _ => do statements? fuel (← finish? cs)
      | c :: rest =>
          match lineEnd? (c :: rest) with
          | some rest => statements? fuel rest
          | none => do
              let (s, rest) ← statement? (c :: rest)
              return s :: (← statements? fuel rest)

/-- Carry out statements from the table that the last header opened. -/
def carryOut : List Statement → List Key → Entries → Option Entries
  | [], _, es => some es
  | .header shared path key :: rest, _, es => do
      let change := if shared then Entries.openElement key else Entries.openTable key
      carryOut rest (path ++ [key]) (← Entries.inside change path es)
  | .assignment path key v :: rest, here, es => do
      carryOut rest here (← Entries.inside (Entries.assign v path key) here es)

def dropMark : List Char → List Char
  | '\ufeff' :: cs => cs
  | cs => cs

def parse (text : String) : Option Entries := do
  let cs := dropMark text.toList
  carryOut (← statements? (cs.length + 1) cs) [] []

end WifiTrust.Toml
