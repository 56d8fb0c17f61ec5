import WifiTrust.Text.Pieces

/-!
# Paths

A path is kept as it is written. Its steps are the pieces between the slashes; an empty piece
stays where it is, as `.` does.
-/

namespace WifiTrust

/-- A path as it is written. -/
structure Path where
  text : String
  deriving DecidableEq, Inhabited, Repr

namespace Path

def isAbsolute (p : Path) : Bool := p.text.toList.head? = some '/'

def endsWithSlash (p : Path) : Bool := p.text.toList.getLast? = some '/'

def stem (p : Path) : Path :=
  ⟨String.ofList (p.text.toList.reverse.dropWhile (· = '/')).reverse⟩

/-- Whether there is a null character in the path, which no name can hold. -/
def holdsNull (p : Path) : Bool := p.text.toList.contains '\x00'

def isTooLong (p : Path) : Bool := 4096 ≤ p.text.utf8ByteSize

private def stepOf (piece : List Char) : String :=
  if piece = [] then "." else String.ofList piece

/-- The steps of a path. -/
def steps (p : Path) : List String := (Text.pieces '/' p.text.toList).map stepOf

/-- The steps that lead elsewhere. -/
def moves (p : Path) : List String := p.steps.filter (· ≠ ".")

/-- A path below this one. An absolute path stands for itself. -/
def join (p q : Path) : Path :=
  if q.isAbsolute then q
  else if p.text = "" ∨ p.endsWithSlash then ⟨p.text ++ q.text⟩
  else ⟨p.text ++ "/" ++ q.text⟩

/-- Drop the slashes and the steps `.` at the end, given backwards, but neither the root nor a
leading step. -/
private def trimBack : List Char → List Char
  | ['/'] => ['/']
  | '/' :: cs => trimBack cs
  | '.' :: '/' :: cs => trimBack ('/' :: cs)
  | cs => cs

/-- The directory that holds what the path names, as far as the path tells. The root and the empty
path have none; a single step is held by the empty path. -/
def parent? (p : Path) : Option Path :=
  match trimBack p.text.toList.reverse with
  | [] => none
  | ['/'] => none
  | cs => some ⟨String.ofList (trimBack (cs.dropWhile (· ≠ '/'))).reverse⟩

end Path

end WifiTrust
