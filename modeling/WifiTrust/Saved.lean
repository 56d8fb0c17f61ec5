import WifiTrust.Failure
import WifiTrust.Json.Form.Store
import WifiTrust.Json.Printer
import WifiTrust.Json.Reader

/-!
# What is kept in files

The device policy and the settings are TOML, the state of the networks is JSON, and a server's
chain is a bundle. A policy, settings or a state without a file have their defaults.
-/

namespace WifiTrust

def Policy.load (p : Path) : Action Policy := do
  if ← Action.pathExists p then
    let text ← Action.readText p (.file p)
    match Policy.ofToml text with
    | .ok policy => return policy
    | .error e => throw (.policy e)
  else return {}

namespace MemoryStore

def ofText? (clock : Timestamp) (text : String) : Option MemoryStore :=
  (Json.parse text).bind (ofJson? clock)

def load (clock : Timestamp) (p : Path) : Action MemoryStore := do
  if ← Action.pathExists p then
    match ofText? clock (← Action.readText p (.file p)) with
    | some s => return s
    | none => throw .state
  else return { clock := clock }

/-- Save a store in its directory, which is made if it is missing. -/
def save (s : MemoryStore) (p : Path) : Action Unit := do
  Action.makeRoomFor p .file
  Action.write p s.toJson.pretty (.file p)

end MemoryStore

namespace Settings

def load (p : Path) : Action Settings := do
  if ← Action.pathExists p then
    match Settings.ofToml? (← Action.readText p .ownFile) with
    | some s => return s
    | none => throw .settings
  else return {}

def save (s : Settings) (p : Path) : Action Unit := do
  Action.makeRoomFor p fun _ => .ownFile
  Action.write p s.toToml .ownFile

end Settings

/-- Load the certificates of a bundle in the order in which they are listed, or from the last to
the first. -/
def Bundle.load (p : Path) (reverse : Bool) : Action (List Certificate) := do
  match Bundle.parse (← Action.read p (.file p)) with
  | .ok certificates => return if reverse then certificates.reverse else certificates
  | .error e => throw (.bundle p e)

end WifiTrust
