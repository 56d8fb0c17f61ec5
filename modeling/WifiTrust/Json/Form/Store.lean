import WifiTrust.Json.Form.Certificate
import WifiTrust.Json.Form.Network
import WifiTrust.Store.Memory

/-!
# JSON form of the network store

The networks are an object whose keys are identifiers, spelled as plain integers; of two members
with one key the later counts. The switches and the history are not written.
-/

namespace WifiTrust

instance : JsonForm Timestamp where
  toJson t := .ofString t.text
  ofJson? j := j.text?.bind Timestamp.parse?

instance : JsonForm TrustedCa where
  toJson ca := .record [
    ("root", toJson ca.root),
    ("server", toJson ca.server),
    ("installed_at", toJson ca.installedAt)]
  ofJson? j := do
    let slot ← j.slots? ["root", "server", "installed_at"]
    return {
      root := ← (slot "root").required
      server := ← (slot "server").required
      installedAt := ← (slot "installed_at").required }

instance : JsonForm StoredNetwork where
  toJson s := .record [
    ("selection", toJson s.selection),
    ("autojoin", toJson s.autojoin),
    ("approved_without_ca", toJson s.approvedWithoutCa),
    ("trust_on_first_use", toJson s.trustOnFirstUse),
    ("trusted_ca", toJson s.trustedCa)]
  ofJson? j := do
    let slot ← j.slots? ["selection", "autojoin", "approved_without_ca", "trust_on_first_use",
      "trusted_ca"]
    return {
      selection := ← (slot "selection").orElse .enabled
      autojoin := ← (slot "autojoin").orElse true
      approvedWithoutCa := ← (slot "approved_without_ca").orElse false
      trustOnFirstUse := ← (slot "trust_on_first_use").orElse none
      trustedCa := ← (slot "trusted_ca").orElse none }

abbrev NetworkMap := SortedMap NetworkId StoredNetwork

instance : JsonForm NetworkMap where
  toJson networks := .object (networks.entries.map fun (id, stored) =>
    (Decimal.ofInt id.toInt, toJson stored))
  ofJson?
    | .object members => do
        let pairs ← members.mapM fun (key, j) => do
          return ((← ofJson? (Json.number key) : NetworkId), (← ofJson? j : StoredNetwork))
        return .ofList pairs
    | _ => none

namespace MemoryStore

def toJson (s : MemoryStore) : Json := .record [("networks", JsonForm.toJson s.networks)]

/-- A store with the networks that a value holds, with its switches off and no history. -/
def ofJson? (clock : Timestamp) (j : Json) : Option MemoryStore := do
  let slot ← j.slots? ["networks"]
  return { networks := ← (slot "networks").required, clock := clock }

end MemoryStore

end WifiTrust
