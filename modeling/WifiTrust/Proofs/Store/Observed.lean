import WifiTrust.Proofs.Handler.StoreIndependence
import WifiTrust.Proofs.Store.Entry
import WifiTrust.Saved

namespace WifiTrust

/-- What a host does with a store ahead of a connection. -/
inductive StoreUse where
  | apply (n : Network)
  | prepare (n : Network)
  | save (p : Path)

inductive StoreSight where
  | applied (n : Network)
  | prepared (preparation : Preparation) (n : Network) (rest : Handler BlankStore)
  | saved (action : Action Unit)

namespace MemoryStore

theorem applyTo_of_networks {s s' : MemoryStore} (h : s.networks = s'.networks) (n : Network) :
    s.applyTo n = s'.applyTo n := by
  unfold applyTo network?
  rw [h]

theorem save_of_networks {s s' : MemoryStore} (h : s.networks = s'.networks) (p : Path) :
    s.save p = s'.save p := by
  unfold save toJson
  rw [h]

/-- The networks and the switch that decides whether a selection is taken. -/
structure SameSelections (s s' : MemoryStore) : Prop where
  networks : s.networks = s'.networks
  switch : s.failSelectionUpdates = s'.failSelectionUpdates

theorem SameSelections.updateSelection {s s' : MemoryStore} (h : SameSelections s s')
    (id : NetworkId) (status : Selection) :
    SameSelections (NetworkStore.updateSelection s id status).2
      (NetworkStore.updateSelection s' id status).2 := by
  rw [updateSelection_eq, updateSelection_eq, h.switch]
  split
  · exact h
  · refine ⟨?_, rfl⟩
    dsimp only [entry, network?]
    rw [h.networks]

end MemoryStore

namespace Handler

def withStore (h : Handler MemoryStore) (s : MemoryStore) : Handler MemoryStore :=
  { h with store := s }

def use (h : Handler MemoryStore) : StoreUse → StoreSight × Handler MemoryStore
  | .apply n => (.applied (h.store.applyTo n), h)
  | .prepare n =>
      let (preparation, n, h) := h.prepare n
      (.prepared preparation n h.detached, h)
  | .save p => (.saved (h.store.save p), h)

def sights (h : Handler MemoryStore) : List StoreUse → List StoreSight
  | [] => []
  | u :: us => (h.use u).1 :: (h.use u).2.sights us

variable {h g : Handler MemoryStore}

/-- One use shows no more of a store than its networks. -/
theorem sight_of_networks (alike : h.detached = g.detached)
    (networks : h.store.networks = g.store.networks) (u : StoreUse) :
    (h.use u).1 = (g.use u).1 := by
  cases u with
  | apply n => exact congrArg StoreSight.applied (MemoryStore.applyTo_of_networks networks n)
  | prepare n =>
      have hpolicy : h.policy = g.policy := (alike_of_detached_eq alike).policy
      have hrest : (h.prepare n).2.2.detached = (g.prepare n).2.2.detached := by
        rw [detached_prepare, detached_prepare, alike]
      dsimp only [use]
      rw [prepare_preparation, prepare_preparation, prepare_network, prepare_network, hrest,
        hpolicy]
  | save p => exact congrArg StoreSight.saved (MemoryStore.save_of_networks networks p)

theorem sameSelections_use (alike : h.detached = g.detached)
    (same : h.store.SameSelections g.store) (u : StoreUse) :
    (h.use u).2.detached = (g.use u).2.detached ∧
      (h.use u).2.store.SameSelections (g.use u).2.store := by
  cases u with
  | apply n => exact ⟨alike, same⟩
  | prepare n =>
      have hpolicy : h.policy = g.policy := (alike_of_detached_eq alike).policy
      dsimp only [use]
      constructor
      · rw [detached_prepare, detached_prepare, alike]
      · rw [prepare_eq, prepare_eq, hpolicy]
        dsimp only
        split
        · exact same.updateSelection n.id _
        · exact same
  | save p => exact ⟨alike, same⟩

/-- No number of uses shows more of a store than its networks and the switch for selections. -/
theorem sights_of_sameSelections (alike : h.detached = g.detached)
    (same : h.store.SameSelections g.store) (us : List StoreUse) : h.sights us = g.sights us := by
  induction us generalizing h g with
  | nil => rfl
  | cons u us ih =>
      obtain ⟨halike, hsame⟩ := sameSelections_use alike same u
      rw [sights, sights, sight_of_networks alike same.networks u, ih halike hsame]

theorem sight_withStore (h : Handler MemoryStore) {s s' : MemoryStore}
    (networks : s.networks = s'.networks) (u : StoreUse) :
    ((h.withStore s).use u).1 = ((h.withStore s').use u).1 := by
  have alike : (h.withStore s).detached = (h.withStore s').detached := rfl
  exact sight_of_networks alike networks u

theorem sights_withStore (h : Handler MemoryStore) {s s' : MemoryStore}
    (same : s.SameSelections s') (us : List StoreUse) :
    (h.withStore s).sights us = (h.withStore s').sights us := by
  have alike : (h.withStore s).detached = (h.withStore s').detached := rfl
  exact sights_of_sameSelections alike same us

end Handler

end WifiTrust
