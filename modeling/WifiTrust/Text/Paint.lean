namespace WifiTrust

inductive Paint where
  | bold
  | dimmed
  | cyan
  | good
  | caution
  | bad
  deriving DecidableEq, Repr

namespace Paint

def codes : Paint → List Char
  | bold => ['1']
  | dimmed => ['2']
  | cyan => ['3', '6']
  | good => ['1', ';', '3', '2']
  | caution => ['1', ';', '3', '3']
  | bad => ['1', ';', '3', '1']

private def code (numbers : List Char) : List Char := '\x1b' :: '[' :: numbers ++ ['m']

/-- Set the style again behind each reset inside the text. -/
def renew (style : List Char) : List Char → List Char
  | '\x1b' :: '[' :: '0' :: 'm' :: cs => '\x1b' :: '[' :: '0' :: 'm' :: style ++ renew style cs
  | c :: cs => c :: renew style cs
  | [] => []

def apply (p : Paint) (colours : Bool) (text : String) : String :=
  if colours then
    String.ofList (code p.codes ++ renew (code p.codes) text.toList ++ code ['0'])
  else text

end Paint

end WifiTrust
