import WifiTrust.SortedMap
import WifiTrust.Store.Basic
import WifiTrust.Timestamp

/-!
# A network store in memory

Networks by identifier, two switches that make updates fail, and the history of selection updates.
-/

namespace WifiTrust

/-- The chain installed after an approval. -/
structure TrustedCa where
  root : Certificate
  server : Certificate
  installedAt : Timestamp
  deriving DecidableEq, Inhabited, Repr

/-- What the store knows about one network. -/
structure StoredNetwork where
  selection : Selection := .enabled
  autojoin : Bool := true
  approvedWithoutCa : Bool := false
  trustOnFirstUse : Option Bool := none
  trustedCa : Option TrustedCa := none
  deriving DecidableEq, Inhabited, Repr

/-- A network store kept in a map. -/
structure MemoryStore where
  networks : SortedMap NetworkId StoredNetwork := .empty
  failCaUpdates : Bool := false
  failSelectionUpdates : Bool := false
  /-- Every selection update, oldest first. -/
  selectionHistory : List (NetworkId × Selection) := []
  /-- The moment that installations are stamped with. -/
  clock : Timestamp
  deriving DecidableEq, Inhabited

namespace MemoryStore

def network? (s : MemoryStore) (id : NetworkId) : Option StoredNetwork := s.networks.get? id

/-- Change the entry of a network; one without an entry starts from the defaults. -/
def modify (s : MemoryStore) (id : NetworkId) (f : StoredNetwork → StoredNetwork) : MemoryStore :=
  { s with networks := s.networks.insert id (f ((s.network? id).getD {})) }

/-- Allow or forbid the selection of a network and record it. -/
def updateSelection (s : MemoryStore) (id : NetworkId) (status : Selection) :
    Bool × MemoryStore :=
  if s.failSelectionUpdates then (false, s)
  else
    (true, { s.modify id ({ · with selection := status }) with
      selectionHistory := s.selectionHistory ++ [(id, status)] })

/-- Install the approved root and server certificates of a network. -/
def updateCa (s : MemoryStore) (id : NetworkId) (root leaf : Certificate) : Bool × MemoryStore :=
  if s.failCaUpdates then (false, s)
  else (true, s.modify id ({ · with trustedCa := some ⟨root, leaf, s.clock⟩ }))

instance : NetworkStore MemoryStore where
  updateSelection := updateSelection
  updateCa := updateCa
  setApprovedWithoutCa s id approved := s.modify id ({ · with approvedWithoutCa := approved })
  enableTrustOnFirstUse s id enabled := s.modify id ({ · with trustOnFirstUse := some enabled })
  allowAutojoin s id allowed := s.modify id ({ · with autojoin := allowed })

/-- The name under which an installed chain counts as an authority certificate. -/
def caAlias (ca : TrustedCa) : String := "tofu:" ++ ca.root.fingerprint

/-- Copy what is stored of a network into its enterprise part. -/
def applyStored (stored : StoredNetwork) (e : Enterprise) : Enterprise :=
  { e with
    approvedWithoutCa := stored.approvedWithoutCa
    trustOnFirstUse := stored.trustOnFirstUse.getD e.trustOnFirstUse
    caAliases :=
      match stored.trustedCa with
      | none => e.caAliases
      | some ca =>
          if caAlias ca ∈ e.caAliases then e.caAliases else e.caAliases ++ [caAlias ca] }

/-- Copy the stored trust state into a network before it connects. An installed chain appears as
an authority certificate, so the network is no longer gated. -/
def applyTo (s : MemoryStore) (n : Network) : Network :=
  match s.network? n.id with
  | none => n
  | some stored => { n with enterprise := n.enterprise.map (applyStored stored) }

/-- The same networks in a store that has just been loaded. -/
def reloaded (s : MemoryStore) : MemoryStore := { networks := s.networks, clock := s.clock }

end MemoryStore

end WifiTrust
