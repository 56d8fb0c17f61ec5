import WifiTrust.Failure
import WifiTrust.Output
import WifiTrust.Json.Printer
import WifiTrust.Text.Paint

namespace WifiTrust

/-- What a command is told besides its request. -/
structure Context where
  format : OutputFormat
  /-- Where the settings lie. -/
  settingsPath : Path
  /-- Where the device policy lies. -/
  policyPath : Path
  /-- Where the state of the networks lies. -/
  statePath : Path
  verbose : Bool := false
  colours : Bool := false
  clock : Timestamp
  deriving DecidableEq, Inhabited, Repr

namespace Context

def paint (c : Context) (p : Paint) (text : String) : String := p.apply c.colours text

def labelled (c : Context) (p : Paint) (label text : String) : String :=
  c.paint p label ++ " " ++ text

/-- Print lines one after the other. -/
def printAll : List String → Action Unit
  | [] => pure ()
  | line :: lines => do
      Action.printLine line
      printAll lines

/-- Print a report in the format that was asked for. -/
def report (c : Context) (json : Json) (lines : List String) : Action Unit :=
  match c.format with
  | .json => Action.printLine json.pretty
  | .pretty => printAll lines

def yesNo (b : Bool) : String := if b then "yes" else "no"

end Context

end WifiTrust
