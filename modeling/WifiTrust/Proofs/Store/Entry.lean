import WifiTrust.Store.Memory

namespace WifiTrust.MemoryStore

open NetworkStore

/-- What counts for a network; one without an entry has the defaults. -/
def entry (s : MemoryStore) (id : NetworkId) : StoredNetwork := (s.network? id).getD {}

theorem network?_of_entry_ne {s : MemoryStore} {id : NetworkId} {α : Type} {f : StoredNetwork → α}
    (h : f (s.entry id) ≠ f {}) : s.network? id = some (s.entry id) := by
  unfold entry at h ⊢
  cases hstored : s.network? id with
  | none =>
      rw [hstored] at h
      exact absurd rfl h
  | some stored => rfl

theorem entry_of_network? {s : MemoryStore} {id : NetworkId} {stored : StoredNetwork}
    (h : s.network? id = some stored) : s.entry id = stored := by
  rw [entry, h, Option.getD_some]

theorem modify_eq (s : MemoryStore) (id : NetworkId) (f : StoredNetwork → StoredNetwork) :
    s.modify id f = { s with networks := s.networks.insert id (f (s.entry id)) } := rfl

theorem entry_modify (s : MemoryStore) (id : NetworkId) (f : StoredNetwork → StoredNetwork)
    (other : NetworkId) :
    (s.modify id f).entry other = if other = id then f (s.entry other) else s.entry other := by
  unfold entry network? modify
  split
  · next h =>
      subst h
      rw [SortedMap.get?_insert_self]
      rfl
  · next h => rw [SortedMap.get?_insert_of_ne _ _ (Ne.symm h)]

theorem updateSelection_eq (s : MemoryStore) (id : NetworkId) (status : Selection) :
    (NetworkStore.updateSelection s id status).2 =
      if s.failSelectionUpdates then s
      else
        { s with
          networks := s.networks.insert id { s.entry id with selection := status }
          selectionHistory := s.selectionHistory ++ [(id, status)] } := by
  change (MemoryStore.updateSelection s id status).2 = _
  unfold MemoryStore.updateSelection
  split
  · rfl
  · rfl

theorem entry_updateSelection (s : MemoryStore) (id : NetworkId) (status : Selection)
    (other : NetworkId) :
    (NetworkStore.updateSelection s id status).2.entry other =
      if other = id ∧ s.failSelectionUpdates = false then
        { s.entry other with selection := status }
      else s.entry other := by
  rw [updateSelection_eq]
  cases hfail : s.failSelectionUpdates with
  | true => simp
  | false =>
      rw [if_neg Bool.false_ne_true]
      exact (entry_modify s id ({ · with selection := status }) other).trans (by simp)

theorem entry_allowAutojoin (s : MemoryStore) (id : NetworkId) (allowed : Bool)
    (other : NetworkId) : (allowAutojoin s id allowed).entry other =
      if other = id then { s.entry other with autojoin := allowed } else s.entry other :=
  entry_modify s id _ other

theorem entry_setApprovedWithoutCa (s : MemoryStore) (id : NetworkId) (approved : Bool)
    (other : NetworkId) : (setApprovedWithoutCa s id approved).entry other =
      if other = id then { s.entry other with approvedWithoutCa := approved }
      else s.entry other :=
  entry_modify s id _ other

theorem updateCa_of_failing {s : MemoryStore} (hfail : s.failCaUpdates = true) (id : NetworkId)
    (root leaf : Certificate) : NetworkStore.updateCa s id root leaf = (false, s) :=
  if_pos hfail

theorem updateCa_of_working {s : MemoryStore} (hfail : s.failCaUpdates = false) (id : NetworkId)
    (root leaf : Certificate) : NetworkStore.updateCa s id root leaf =
      (true, s.modify id ({ · with trustedCa := some ⟨root, leaf, s.clock⟩ })) :=
  if_neg (Bool.eq_false_iff.1 hfail)

structure SameTrust (s s' : MemoryStore) : Prop where
  trustedCa : ∀ id, (s'.entry id).trustedCa = (s.entry id).trustedCa
  approvedWithoutCa : ∀ id, (s'.entry id).approvedWithoutCa = (s.entry id).approvedWithoutCa

namespace SameTrust

theorem refl (s : MemoryStore) : SameTrust s s := ⟨fun _ => rfl, fun _ => rfl⟩

theorem trans {s s' s'' : MemoryStore} (h : SameTrust s s') (h' : SameTrust s' s'') :
    SameTrust s s'' where
  trustedCa := fun id => (h'.trustedCa id).trans (h.trustedCa id)
  approvedWithoutCa := fun id => (h'.approvedWithoutCa id).trans (h.approvedWithoutCa id)

theorem of_entry {s s' : MemoryStore} {f : StoredNetwork → StoredNetwork}
    (hf : ∀ e, (f e).trustedCa = e.trustedCa ∧ (f e).approvedWithoutCa = e.approvedWithoutCa)
    (h : ∀ id, s'.entry id = f (s.entry id) ∨ s'.entry id = s.entry id) : SameTrust s s' := by
  constructor
  · intro id
    rcases h id with h | h
    · rw [h, (hf _).1]
    · rw [h]
  · intro id
    rcases h id with h | h
    · rw [h, (hf _).2]
    · rw [h]

theorem updateSelection (s : MemoryStore) (id : NetworkId) (status : Selection) :
    SameTrust s (NetworkStore.updateSelection s id status).2 := by
  apply of_entry (f := ({ · with selection := status })) (fun _ => ⟨rfl, rfl⟩)
  intro other
  rw [entry_updateSelection]
  split
  · exact .inl rfl
  · exact .inr rfl

theorem allowAutojoin (s : MemoryStore) (id : NetworkId) (allowed : Bool) :
    SameTrust s (NetworkStore.allowAutojoin s id allowed) := by
  apply of_entry (f := ({ · with autojoin := allowed })) (fun _ => ⟨rfl, rfl⟩)
  intro other
  rw [entry_allowAutojoin]
  split
  · exact .inl rfl
  · exact .inr rfl

end SameTrust

end WifiTrust.MemoryStore
