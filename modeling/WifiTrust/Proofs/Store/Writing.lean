import WifiTrust.Proofs.Handler.Frame
import WifiTrust.Proofs.Store.Entry

namespace WifiTrust

theorem SortedMap.insert_insert {κ ν : Type} [Ranked κ] (m : SortedMap κ ν) (k : κ) (v w : ν) :
    (m.insert k v).insert k w = m.insert k w := by
  apply ext_get?
  intro l
  by_cases h : k = l
  · rw [← h, get?_insert_self, get?_insert_self]
  · rw [get?_insert_of_ne _ w h, get?_insert_of_ne m v h, get?_insert_of_ne m w h]

namespace MemoryStore

open NetworkStore (allowAutojoin)

theorem modify_modify (s : MemoryStore) (id : NetworkId) (f g : StoredNetwork → StoredNetwork) :
    (s.modify id f).modify id g = s.modify id fun e => g (f e) := by
  rw [modify_eq (s.modify id f), entry_modify, if_pos rfl]
  simp only [modify_eq, SortedMap.insert_insert]

/-- The store once a network has the entry `e` with a new permission to be joined, and with a new
selection if that can be updated. -/
def settled (s : MemoryStore) (id : NetworkId) (e : StoredNetwork) (status : Selection)
    (allowed : Bool) : MemoryStore :=
  { s with
    networks := s.networks.insert id
      { e with
        selection := if s.failSelectionUpdates then e.selection else status
        autojoin := allowed }
    selectionHistory :=
      if s.failSelectionUpdates then s.selectionHistory
      else s.selectionHistory ++ [(id, status)] }

theorem allowAutojoin_updateSelection (s : MemoryStore) (id : NetworkId) (status : Selection)
    (allowed : Bool) :
    allowAutojoin (NetworkStore.updateSelection s id status).2 id allowed =
      s.settled id (s.entry id) status allowed := by
  rw [updateSelection_eq]
  cases hfail : s.failSelectionUpdates with
  | true => simp [allowAutojoin, modify_eq, settled, hfail]
  | false =>
      simp [allowAutojoin, modify_eq, settled, hfail, entry, network?, SortedMap.get?_insert_self,
        SortedMap.insert_insert]

theorem settled_modify (s : MemoryStore) (id : NetworkId) (f : StoredNetwork → StoredNetwork)
    (e : StoredNetwork) (status : Selection) (allowed : Bool) :
    (s.modify id f).settled id e status allowed = s.settled id e status allowed := by
  simp only [settled, modify_eq, SortedMap.insert_insert]
  rfl

theorem allowAutojoin_updateSelection_modify (s : MemoryStore) (id : NetworkId)
    (f : StoredNetwork → StoredNetwork) (status : Selection) (allowed : Bool) :
    allowAutojoin (NetworkStore.updateSelection (s.modify id f) id status).2 id allowed =
      s.settled id (f (s.entry id)) status allowed := by
  rw [allowAutojoin_updateSelection, settled_modify, entry_modify, if_pos rfl]

end MemoryStore

namespace Handler

open MemoryStore
open NetworkStore (setApprovedWithoutCa enableTrustOnFirstUse allowAutojoin)

theorem installedStore_eq (s : MemoryStore) (id : NetworkId) (root leaf : Certificate) :
    installedStore s id root leaf =
      if s.failCaUpdates then s
      else s.modify id ({ · with
        trustedCa := some ⟨root, leaf, s.clock⟩
        approvedWithoutCa := false
        trustOnFirstUse := some false }) := by
  unfold installedStore
  cases hfail : s.failCaUpdates with
  | true => rw [updateCa_of_failing hfail]; rfl
  | false =>
      rw [updateCa_of_working hfail]
      simp only [setApprovedWithoutCa, enableTrustOnFirstUse, modify_modify]
      rfl

theorem allowAutojoin_updateSelection_installedStore (s : MemoryStore) (id : NetworkId)
    (root leaf : Certificate) :
    allowAutojoin
        (NetworkStore.updateSelection (installedStore s id root leaf) id .enabled).2 id true =
      s.settled id
        (if s.failCaUpdates then s.entry id
        else
          { s.entry id with
            trustedCa := some ⟨root, leaf, s.clock⟩
            approvedWithoutCa := false
            trustOnFirstUse := some false }) .enabled true := by
  rw [installedStore_eq]
  split
  · exact s.allowAutojoin_updateSelection id .enabled true
  · exact s.allowAutojoin_updateSelection_modify id _ .enabled true

end Handler

end WifiTrust
