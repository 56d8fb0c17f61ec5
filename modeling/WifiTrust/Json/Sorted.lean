import WifiTrust.Json.Syntax

namespace WifiTrust.Json

def place (m : List Char × Json) : List (List Char × Json) → List (List Char × Json)
  | [] => [m]
  | n :: ms => if String.ofList m.1 < String.ofList n.1 then m :: n :: ms else n :: place m ms

mutual

/-- A value whose objects have their keys in alphabetical order at every level. -/
def sorted : Json → Json
  | .array items => .array (sortedItems items)
  | .object members => .object (sortedMembers members)
  | j => j

def sortedItems : List Json → List Json
  | [] => []
  | j :: js => sorted j :: sortedItems js

def sortedMembers : List (List Char × Json) → List (List Char × Json)
  | [] => []
  | (key, j) :: ms => place (key, sorted j) (sortedMembers ms)

end

end WifiTrust.Json
