import WifiTrust.Text.Lettercase

namespace WifiTrust

/-- How a command prints what it finds. -/
inductive OutputFormat where
  | pretty
  | json
  deriving DecidableEq, Inhabited, Repr

namespace OutputFormat

def all : List OutputFormat := [pretty, json]

def name : OutputFormat → String
  | pretty => "pretty"
  | json => "json"

/-- The format with a written name, in any letter case; the first also goes by `text`. -/
def ofText? (text : String) : Option OutputFormat :=
  if Text.isWord text "pretty" || Text.isWord text "text" then some pretty
  else if Text.isWord text "json" then some json
  else none

def unknownMessage (text : String) : String :=
  "Unknown output format: " ++ text ++ "\nValid formats: pretty, json"

end OutputFormat

end WifiTrust
