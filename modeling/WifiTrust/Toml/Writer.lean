import WifiTrust.Bytes.Hex
import WifiTrust.Toml.Table

/-!
# Writing TOML

Keys with values, one a line. A string is written in the plainest form that can hold it.
-/

namespace WifiTrust.Toml

/-- A control character that no string may hold unescaped, a line feed and a tab apart. -/
def isControl (c : Char) : Bool :=
  c != '\n' && c != '\t' && (c.toNat < 0x20 || c.toNat == 0x7F)

/-- How a string is written: with which quote, on one line or as a block, and whether anything may
be escaped. -/
inductive Style where
  | basic
  | raw
  | basicBlock
  | rawBlock
  deriving DecidableEq, Repr

def hasTriple (c : Char) : List Char → Bool
  | a :: b :: d :: cs => (a == c && b == c && d == c) || hasTriple c (b :: d :: cs)
  | _ => false

/-- The first style that fits: double quotes, single quotes, then the same as blocks, none of them
with anything to escape but tabs. If none fits, double quotes with escapes, as a block if there is
a line feed. -/
def Style.of (text : List Char) : Style :=
  let lines := text.contains '\n'
  let control := text.any isControl
  let backslash := text.contains '\\'
  if !(backslash || text.contains '"' || lines || control) then .basic
  else if !(text.contains '\'' || lines || control) then .raw
  else if !(backslash || control || hasTriple '"' text) then .basicBlock
  else if !(control || hasTriple '\'' text) then .rawBlock
  else if lines then .basicBlock
  else .basic

def Style.isBlock : Style → Bool
  | .basicBlock | .rawBlock => true
  | _ => false

def Style.delimiter : Style → List Char
  | .basic => ['"']
  | .raw => ['\'']
  | .basicBlock => ['"', '"', '"']
  | .rawBlock => ['\'', '\'', '\'']

private def capitalDigit (n : Nat) : Char :=
  if n < 10 then Char.ofNat (48 + n) else Char.ofNat (55 + n)

def escapeChar (c : Char) : List Char :=
  if c = '\x08' then ['\\', 'b']
  else if c = '\t' then ['\\', 't']
  else if c = '\x0c' then ['\\', 'f']
  else if c = '\r' then ['\\', 'r']
  else if c = '\\' then ['\\', '\\']
  else if isControl c then
    ['\\', 'u', '0', '0', capitalDigit (c.toNat / 16), capitalDigit (c.toNat % 16)]
  else [c]

/-- Text as it is written between double quotes. In a block, line feeds stand for themselves, and
so do quotes but every third in a row; `quotes` counts those just before. -/
def escape (block : Bool) : Nat → List Char → List Char
  | _, [] => []
  | quotes, '"' :: cs =>
      if block && quotes < 2 then '"' :: escape block (quotes + 1) cs
      else '\\' :: '"' :: escape block 0 cs
  | _, '\n' :: cs => (if block then ['\n'] else ['\\', 'n']) ++ escape block 0 cs
  | _, c :: cs => escapeChar c ++ escape block 0 cs

/-- A string value. A block with a line feed begins with one more, which does not count. -/
def stringChars (text : List Char) : List Char :=
  let style := Style.of text
  let opening := if style.isBlock && text.contains '\n' then ['\n'] else []
  let body := match style with
    | .raw | .rawBlock => text
    | .basic => escape false 0 text
    | .basicBlock => escape true 0 text
  style.delimiter ++ opening ++ body ++ style.delimiter

inductive Plain where
  | string (text : String)
  | boolean (b : Bool)
  deriving DecidableEq, Repr

def Plain.chars : Plain → List Char
  | .string text => stringChars text.toList
  | .boolean true => ['t', 'r', 'u', 'e']
  | .boolean false => ['f', 'a', 'l', 's', 'e']

/-- One line for each key; the keys need no quotes. -/
def documentChars : List (String × Plain) → List Char
  | [] => []
  | (key, v) :: rest => key.toList ++ [' ', '=', ' '] ++ v.chars ++ '\n' :: documentChars rest

def document (pairs : List (String × Plain)) : String := String.ofList (documentChars pairs)

end WifiTrust.Toml
