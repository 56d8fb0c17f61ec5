import WifiTrust.Json.Syntax

namespace WifiTrust.Json

def quoted (literal : List Char) : List Char := '"' :: literal ++ ['"']

def keyword (b : Bool) : List Char := if b then "true".toList else "false".toList

mutual

def compactChars : Json → List Char
  | .null => "null".toList
  | .bool b => keyword b
  | .number spelling => spelling
  | .string literal => quoted literal
  | .array items => '[' :: compactItems items ++ [']']
  | .object members => '\x7b' :: compactMembers members ++ ['\x7d']

def compactItems : List Json → List Char
  | [] => []
  | [j] => compactChars j
  | j :: js => compactChars j ++ ',' :: compactItems js

def compactMembers : List (List Char × Json) → List Char
  | [] => []
  | [(key, j)] => quoted key ++ ':' :: compactChars j
  | (key, j) :: ms => quoted key ++ ':' :: compactChars j ++ ',' :: compactMembers ms

end

def newLine (level : Nat) : List Char := '\n' :: List.replicate (2 * level) ' '

mutual

/-- A value whose inner lines are indented below `level`. -/
def prettyChars (level : Nat) : Json → List Char
  | .null => "null".toList
  | .bool b => keyword b
  | .number spelling => spelling
  | .string literal => quoted literal
  | .array [] => ['[', ']']
  | .array (j :: js) => '[' :: prettyItems (level + 1) (j :: js) ++ newLine level ++ [']']
  | .object [] => ['\x7b', '\x7d']
  | .object (m :: ms) =>
      '\x7b' :: prettyMembers (level + 1) (m :: ms) ++ newLine level ++ ['\x7d']

def prettyItems (level : Nat) : List Json → List Char
  | [] => []
  | [j] => newLine level ++ prettyChars level j
  | j :: js => newLine level ++ prettyChars level j ++ ',' :: prettyItems level js

def prettyMembers (level : Nat) : List (List Char × Json) → List Char
  | [] => []
  | [(key, j)] => newLine level ++ quoted key ++ ':' :: ' ' :: prettyChars level j
  | (key, j) :: ms =>
      newLine level ++ quoted key ++ ':' :: ' ' :: prettyChars level j ++
        ',' :: prettyMembers level ms

end

def compact (j : Json) : String := String.ofList (compactChars j)

def pretty (j : Json) : String := String.ofList (prettyChars 0 j)

end WifiTrust.Json
