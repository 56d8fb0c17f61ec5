import WifiTrust.Decision
import WifiTrust.Json.Form

/-!
# JSON form of decisions

A decision is an object with the word for it under `decision` and what it is about under `ssid`, or
the list of the two. Only an error may leave the second out of the object, and only the object may
write the word as an object of its own.
-/

namespace WifiTrust

/-- What was decided, without the SSID. -/
inductive Verdict where
  | accept
  | reject
  | error
  deriving DecidableEq, Repr

namespace Verdict

def name : Verdict → String
  | accept => "accept"
  | reject => "reject"
  | error => "error"

instance : JsonForm Verdict := ⟨fun v => .ofString v.name, Json.word? [accept, reject, error] name⟩

def decision? (v : Verdict) (ssid : Json.Slot) : Option Decision :=
  match v with
  | accept => ssid.required.map .accept
  | reject => ssid.required.map .reject
  | error => ssid.optional.map .error

end Verdict

namespace Decision

def verdict : Decision → Verdict
  | accept _ => .accept
  | reject _ => .reject
  | error _ => .error

end Decision

/-- Whether a value is a list that begins with an object. -/
def Json.opensWithObject : Json → Bool
  | .array (.object _ :: _) => true
  | _ => false

instance : JsonForm Decision where
  toJson d := .record [("decision", toJson d.verdict), ("ssid", toJson d.ssid)]
  ofJson? j := do
    guard !j.opensWithObject
    let slot ← j.slots? ["decision", "ssid"]
    let verdict : Verdict ← (slot "decision").required
    verdict.decision? (slot "ssid")

end WifiTrust
