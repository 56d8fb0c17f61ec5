namespace WifiTrust

/-- How an attempt was resolved. -/
inductive Decision where
  /-- The server was approved. -/
  | accept (ssid : String)
  /-- The user refused the server. -/
  | reject (ssid : String)
  /-- The attempt was given up; without an SSID the reply was stale. -/
  | error (ssid : Option String)
  deriving DecidableEq, Inhabited, Repr

namespace Decision

def ssid : Decision → Option String
  | accept s => some s
  | reject s => some s
  | error s => s

def isAccept : Decision → Bool
  | accept _ => true
  | _ => false

def text : Decision → String
  | accept s => "ACCEPTED " ++ s
  | reject s => "REJECTED " ++ s
  | error (some s) => "ERROR " ++ s
  | error none => "ERROR (stale)"

end Decision

end WifiTrust
