import WifiTrust.Store.Basic

namespace WifiTrust

/-- A store and what it was asked to install, oldest first. -/
structure Recorded (σ : Type) where
  store : σ
  installs : List (NetworkId × Certificate × Certificate) := []

namespace Recorded

variable {σ : Type} [NetworkStore σ]

open NetworkStore

instance : NetworkStore (Recorded σ) where
  updateSelection r id status :=
    let (taken, store) := updateSelection r.store id status
    (taken, { r with store := store })
  updateCa r id root leaf :=
    let (taken, store) := updateCa r.store id root leaf
    (taken, ⟨store, r.installs ++ [(id, root, leaf)]⟩)
  setApprovedWithoutCa r id approved :=
    { r with store := setApprovedWithoutCa r.store id approved }
  enableTrustOnFirstUse r id enabled :=
    { r with store := enableTrustOnFirstUse r.store id enabled }
  allowAutojoin r id allowed := { r with store := allowAutojoin r.store id allowed }

@[simp] theorem installs_updateSelection (r : Recorded σ) (id : NetworkId) (status : Selection) :
    (updateSelection r id status).2.installs = r.installs := rfl

@[simp] theorem installs_updateCa (r : Recorded σ) (id : NetworkId) (root leaf : Certificate) :
    (updateCa r id root leaf).2.installs = r.installs ++ [(id, root, leaf)] := rfl

@[simp] theorem installs_setApprovedWithoutCa (r : Recorded σ) (id : NetworkId)
    (approved : Bool) : (setApprovedWithoutCa r id approved).installs = r.installs := rfl

@[simp] theorem installs_enableTrustOnFirstUse (r : Recorded σ) (id : NetworkId)
    (enabled : Bool) : (enableTrustOnFirstUse r id enabled).installs = r.installs := rfl

@[simp] theorem installs_allowAutojoin (r : Recorded σ) (id : NetworkId) (allowed : Bool) :
    (allowAutojoin r id allowed).installs = r.installs := rfl

end Recorded

end WifiTrust
