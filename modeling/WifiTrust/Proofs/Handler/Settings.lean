import WifiTrust.Proofs.Handler.Effect
import WifiTrust.Proofs.Store.Writing

namespace WifiTrust

namespace MemoryStore

/-- The second store has the switches and the clock of the first. -/
structure SameSettings (s s' : MemoryStore) : Prop where
  failCaUpdates : s'.failCaUpdates = s.failCaUpdates
  failSelectionUpdates : s'.failSelectionUpdates = s.failSelectionUpdates
  clock : s'.clock = s.clock

namespace SameSettings

theorem refl (s : MemoryStore) : SameSettings s s := ⟨rfl, rfl, rfl⟩

theorem trans {s s' s'' : MemoryStore} (h : SameSettings s s') (h' : SameSettings s' s'') :
    SameSettings s s'' where
  failCaUpdates := h'.failCaUpdates.trans h.failCaUpdates
  failSelectionUpdates := h'.failSelectionUpdates.trans h.failSelectionUpdates
  clock := h'.clock.trans h.clock

theorem ite {s s' : MemoryStore} {c : Prop} [Decidable c] (h : SameSettings s s') :
    SameSettings s (if c then s' else s) := by
  split
  · exact h
  · exact .refl s

theorem allowAutojoin (s : MemoryStore) (id : NetworkId) (allowed : Bool) :
    SameSettings s (NetworkStore.allowAutojoin s id allowed) := ⟨rfl, rfl, rfl⟩

theorem setApprovedWithoutCa (s : MemoryStore) (id : NetworkId) (approved : Bool) :
    SameSettings s (NetworkStore.setApprovedWithoutCa s id approved) := ⟨rfl, rfl, rfl⟩

theorem updateSelection (s : MemoryStore) (id : NetworkId) (status : Selection) :
    SameSettings s (NetworkStore.updateSelection s id status).2 := by
  rw [updateSelection_eq]
  split
  · exact .refl s
  · exact ⟨rfl, rfl, rfl⟩

end SameSettings

end MemoryStore

namespace Handler

open MemoryStore

theorem sameSettings_heldStore (h : Handler MemoryStore) :
    SameSettings h.store h.heldStore := by
  unfold heldStore
  cases h.pending with
  | none => exact .refl h.store
  | some p => exact .updateSelection h.store p.network.id .disabledByPolicy

theorem sameSettings_installedStore (s : MemoryStore) (id : NetworkId) (root leaf : Certificate) :
    SameSettings s (installedStore s id root leaf) := by
  rw [installedStore_eq]
  split
  · exact .refl s
  · exact ⟨rfl, rfl, rfl⟩

private theorem sameSettings_granted (s : MemoryStore) (id : NetworkId) :
    SameSettings s
      (NetworkStore.allowAutojoin (NetworkStore.updateSelection s id .enabled).2 id true) :=
  (SameSettings.updateSelection s id .enabled).trans (.allowAutojoin _ id true)

theorem Effect.sameSettings {h h' : Handler MemoryStore} {op : Operation}
    (effect : Effect h op h') : SameSettings h.store h'.store := by
  have hheld := sameSettings_heldStore h
  cases effect with
  | ignored => exact .refl h.store
  | prepared n =>
      rw [prepare_eq]
      exact .ite (.updateSelection h.store n.id .disabledByPolicy)
  | @collected _ _ _ _ p =>
      rw [received_eq]
      exact .ite (.updateSelection h.store p.network.id .disabledByPolicy)
  | started _ _ _ _ shown =>
      rw [shown.frame]
      exact .refl h.store
  | broken =>
      rw [showInvalidChain_eq, error_eq]
      exact hheld
  | reopened _ _ shown =>
      rw [shown.frame]
      exact .refl h.store
  | acknowledged =>
      rw [dismissPrompt_eq]
      exact .refl h.store
  | @installed _ p =>
      rw [installChain_eq, grant_eq]
      exact (sameSettings_installedStore h.store p.network.id _ _).trans
        (sameSettings_granted _ p.network.id)
  | @approved _ p =>
      rw [grant_eq]
      exact (SameSettings.setApprovedWithoutCa h.store p.network.id true).trans
        (sameSettings_granted _ p.network.id)
  | @refused _ p _ hp =>
      rw [refuse_eq h hp]
      exact hheld.trans (.allowAutojoin h.heldStore p.network.id false)
  | failed =>
      rw [error_eq]
      exact hheld
  | held =>
      rw [putOnHold_eq]
      exact hheld
  | cleaned =>
      rw [cleanup_eq]
      exact .refl h.store

end Handler

end WifiTrust
