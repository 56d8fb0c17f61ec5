import WifiTrust.Proofs.Handler.Attempt
import WifiTrust.Proofs.Handler.Coherence
import WifiTrust.Proofs.Store.Writing

/-!
# Each network for itself

Certificates and replies are matched by SSID or by token, but the store and the key cache are
written by the identifier of a network. What an operation writes, it writes for the network that it
prepares or for the one that is pending, so every other network keeps its entry and its keys, even
one of the same name.
-/

namespace WifiTrust

namespace MemoryStore

/-- The second store has the entry of a network that the first has, or none as the first, and it has
recorded no selection of the network since. -/
structure Spares (id : NetworkId) (s s' : MemoryStore) : Prop where
  network : s'.network? id = s.network? id
  selections : ∃ recorded, s'.selectionHistory = s.selectionHistory ++ recorded ∧
    ∀ r ∈ recorded, r.1 ≠ id

namespace Spares

variable {id other : NetworkId} {s s' s'' : MemoryStore}

theorem of_history (network : s'.network? id = s.network? id)
    (history : s'.selectionHistory = s.selectionHistory) : Spares id s s' :=
  ⟨network, [], by simp [history], by simp⟩

theorem refl (s : MemoryStore) : Spares id s s := of_history rfl rfl

theorem trans (h : Spares id s s') (h' : Spares id s' s'') : Spares id s s'' := by
  obtain ⟨first, hfirst, hothers⟩ := h.selections
  obtain ⟨second, hsecond, hothers'⟩ := h'.selections
  refine ⟨h'.network.trans h.network, first ++ second, ?_, ?_⟩
  · rw [hsecond, hfirst, List.append_assoc]
  · intro r hr
    exact (List.mem_append.1 hr).elim (hothers r) (hothers' r)

theorem ite {c : Prop} [Decidable c] (h : Spares id s s') : Spares id s (if c then s' else s) := by
  split
  · exact h
  · exact refl s

theorem modify (hne : other ≠ id) (s : MemoryStore) (f : StoredNetwork → StoredNetwork) :
    Spares id s (s.modify other f) :=
  of_history (SortedMap.get?_insert_of_ne s.networks _ hne) rfl

theorem updateSelection (hne : other ≠ id) (s : MemoryStore) (status : Selection) :
    Spares id s (NetworkStore.updateSelection s other status).2 := by
  rw [updateSelection_eq]
  split
  · exact refl s
  · have hmodified := modify hne s ({ · with selection := status })
    exact ⟨hmodified.network, [(other, status)], rfl, by simpa using hne⟩

theorem allowAutojoin (hne : other ≠ id) (s : MemoryStore) (allowed : Bool) :
    Spares id s (NetworkStore.allowAutojoin s other allowed) := modify hne s _

theorem setApprovedWithoutCa (hne : other ≠ id) (s : MemoryStore) (approved : Bool) :
    Spares id s (NetworkStore.setApprovedWithoutCa s other approved) := modify hne s _

theorem installedStore (hne : other ≠ id) (s : MemoryStore) (root leaf : Certificate) :
    Spares id s (Handler.installedStore s other root leaf) := by
  rw [Handler.installedStore_eq]
  split
  · exact refl s
  · exact modify hne s _

theorem granted (hne : other ≠ id) (s : MemoryStore) : Spares id s
    (NetworkStore.allowAutojoin (NetworkStore.updateSelection s other .enabled).2 other true) :=
  (updateSelection hne s .enabled).trans (allowAutojoin hne _ true)

end Spares

end MemoryStore

namespace Handler

open MemoryStore

/-- What the store holds and records of a network is as it was, and its keys have not been dropped
in between. -/
structure Spares (id : NetworkId) (h h' : Handler MemoryStore) : Prop where
  store : MemoryStore.Spares id h.store h'.store
  calls : ∃ made, h'.session.calls = h.session.calls ++ made ∧
    .removeCachedKeyMaterial id ∉ made

section Step

variable {id : NetworkId} {h h' h'' : Handler MemoryStore}

theorem Spares.silent (store : MemoryStore.Spares id h.store h'.store)
    (session : h'.session = h.session) : Spares id h h' := ⟨store, [], by simp [session], by simp⟩

theorem Spares.refl (h : Handler MemoryStore) : Spares id h h := silent (.refl h.store) rfl

theorem Spares.trans (first : Spares id h h') (second : Spares id h' h'') : Spares id h h'' := by
  obtain ⟨made, hmade, hkeys⟩ := first.calls
  obtain ⟨made', hmade', hkeys'⟩ := second.calls
  refine ⟨first.store.trans second.store, made ++ made', ?_, ?_⟩
  · rw [hmade', hmade, List.append_assoc]
  · simp [hkeys, hkeys']

/-- The connection under evaluation, if there is one, is that of another network. -/
def Elsewhere (id : NetworkId) (h : Handler MemoryStore) : Prop :=
  ∀ p, h.pending = some p → p.network.id ≠ id

theorem Elsewhere.heldStore (other : Elsewhere id h) :
    MemoryStore.Spares id h.store h.heldStore := by
  unfold Handler.heldStore
  cases hp : h.pending with
  | none => exact .refl h.store
  | some p => exact .updateSelection (other p hp) h.store .disabledByPolicy

theorem Elsewhere.not_mem_flushCalls (other : Elsewhere id h) :
    .removeCachedKeyMaterial id ∉ flushCalls h.policy h.pending := by
  cases hp : h.pending with
  | none => simp [flushCalls]
  | some p => simpa [flushCalls] using (other p hp).symm

theorem Elsewhere.flushed (other : Elsewhere id h)
    (store : MemoryStore.Spares id h.store h'.store) (session : h'.session = h.flushedSession) :
    Spares id h h' :=
  ⟨store, flushCalls h.policy h.pending, by rw [session]; rfl, other.not_mem_flushCalls⟩

theorem spares_prepare (h : Handler MemoryStore) {n : Network} (other : n.id ≠ id) :
    Spares id h (h.prepare n).2.2 := by
  rw [prepare_eq]
  refine ⟨.ite (.updateSelection other h.store .disabledByPolicy), ?_⟩
  dsimp only
  split
  · exact ⟨_, rfl, by simpa using other.symm⟩
  · exact ⟨[], by simp, by simp⟩

/-- Whatever an operation other than a preparation does, it does to the network that is pending. -/
theorem Effect.spares {op : Operation} (effect : Effect h op h') (hop : ∀ n, op ≠ .prepare n)
    (other : Elsewhere id h) : Spares id h h' := by
  cases effect with
  | ignored => exact .refl h
  | prepared n => exact absurd rfl (hop n)
  | @collected _ _ depth _ p _ _ _ _ _ hp =>
      have hne := other p hp
      rw [received_eq]
      refine ⟨.ite (.updateSelection hne h.store .disabledByPolicy), ?_⟩
      dsimp only
      split
      · exact ⟨_, rfl, by simpa using hne.symm⟩
      · exact ⟨[], by simp, by simp⟩
  | started _ _ _ _ shown =>
      rw [shown.frame]
      exact .silent (.refl h.store) rfl
  | broken =>
      rw [showInvalidChain_eq, error_eq]
      exact other.flushed other.heldStore rfl
  | reopened _ _ shown =>
      rw [shown.frame]
      exact .silent (.refl h.store) rfl
  | acknowledged =>
      rw [dismissPrompt_eq]
      exact .silent (.refl h.store) rfl
  | @installed _ p root leaf _ hp =>
      have hne := other p hp
      rw [installChain_eq, grant_eq]
      exact .silent ((MemoryStore.Spares.installedStore hne h.store _ _).trans (.granted hne _)) rfl
  | @approved _ p _ hp =>
      have hne := other p hp
      rw [grant_eq]
      exact .silent ((MemoryStore.Spares.setApprovedWithoutCa hne h.store true).trans
        (.granted hne _)) rfl
  | @refused _ p _ hp =>
      rw [refuse_eq h hp]
      exact other.flushed (other.heldStore.trans (.allowAutojoin (other p hp) _ false)) rfl
  | failed =>
      rw [error_eq]
      exact other.flushed other.heldStore rfl
  | held disconnect =>
      rw [putOnHold_eq]
      refine ⟨other.heldStore, _, rfl, ?_⟩
      have hflushed := other.not_mem_flushCalls
      cases disconnect
      · simpa using hflushed
      · simpa using hflushed
  | cleaned =>
      rw [cleanup_eq]
      exact .silent (.refl h.store) rfl

theorem step_spares (h : Handler MemoryStore) {op : Operation}
    (unprepared : ∀ n, op = .prepare n → n.id ≠ id) (other : Elsewhere id h) :
    Spares id h (h.step op).2 := by
  by_cases hop : ∃ n, op = .prepare n
  · obtain ⟨n, rfl⟩ := hop
    exact spares_prepare h (unprepared n rfl)
  · exact (step_effect h op).spares (fun n hn => hop ⟨n, hn⟩) other

theorem Elsewhere.step (other : Elsewhere id h) {op : Operation}
    (unprepared : ∀ n, op = .prepare n → n.id ≠ id) : Elsewhere id (h.step op).2 := by
  intro q hq
  by_cases hop : ∃ n, op = .prepare n
  · obtain ⟨n, rfl⟩ := hop
    have hopened : (h.prepare n).2.2.pending = some q := hq
    rw [prepare_eq] at hopened
    cases hopened
    rw [Pending.opening_id]
    exact unprepared n rfl
  · have hunprepared : ∀ o ∈ [op], ∀ n, o ≠ .prepare n := by
      simpa using fun n hn => hop ⟨n, hn⟩
    obtain ⟨p, hp⟩ := exists_pending_of_run hunprepared hq
    have hgrown := step_grown (fun n hn => hop ⟨n, hn⟩) hp hq
    rw [hgrown.network]
    exact other p hp

theorem run_spares (h : Handler MemoryStore) {ops : List Operation}
    (unprepared : ∀ n, .prepare n ∈ ops → n.id ≠ id) (other : Elsewhere id h) :
    Spares id h (h.run ops) := by
  induction ops generalizing h with
  | nil => exact .refl h
  | cons op ops ih =>
      have hfirst : ∀ n, op = .prepare n → n.id ≠ id := by
        rintro n rfl
        exact unprepared n List.mem_cons_self
      have hrest : ∀ n, .prepare n ∈ ops → n.id ≠ id := fun n hn =>
        unprepared n (List.mem_cons_of_mem op hn)
      exact (step_spares h hfirst other).trans (ih _ hrest (other.step hfirst))

end Step

/-- Networks do not touch each other. While no connection of a network is pending, an operation that
does not prepare it leaves its entry in the store as it is, also a missing one, records no selection
of it and drops none of its keys; the preparation of another network does so whatever is pending. So
a network that is never prepared comes out of a run as it went in. -/
theorem networks_isolated (h : Handler MemoryStore) (id : NetworkId) :
    (∀ op, (∀ n, op = .prepare n → n.id ≠ id) → (∀ p, h.pending = some p → p.network.id ≠ id) →
      Spares id h (h.step op).2) ∧
    (∀ n : Network, n.id ≠ id → Spares id h (h.step (.prepare n)).2) ∧
    ∀ ops, (∀ n, .prepare n ∈ ops → n.id ≠ id) → (∀ p, h.pending = some p → p.network.id ≠ id) →
      Spares id h (h.run ops) := by
  refine ⟨fun op unprepared other => ?_, fun n other => ?_, fun ops unprepared other => ?_⟩
  · exact step_spares h unprepared other
  · exact spares_prepare h other
  · exact run_spares h unprepared other

end Handler

namespace Corporate

open Handler

def neighbour : Network := { network with id := 8 }

def neighbourHeld : Handler MemoryStore :=
  (fresh {} { clock := ⟨2024, 5, 17, 12, 0, 0, 0⟩ } {} {} []).run
    [.prepare neighbour, .addCertificate "corp" 0 leaf, .addCertificate "corp" 1 root, .start true]

def takingOver : Handler MemoryStore := (neighbourHeld.step (.prepare network)).2

/-- The corporate network is approved after a late reply to the neighbour's prompt. -/
def takeover : List Operation :=
  [.addCertificate "corp" 0 leaf, .addCertificate "corp" 1 root, .start true,
    .reply (token .tofuDialog) .accept, .reply ⟨2, "corp", .tofuDialog⟩ .accept]

end Corporate

namespace Handler

open Corporate

/-- The corporate network takes over from its neighbour, and the chain of the one name is installed
for it alone. -/
theorem neighbour_spared :
    Spares 8 neighbourHeld takingOver ∧
      Spares 8 takingOver (takingOver.step (.addCertificate "corp" 0 leaf)).2 ∧
      Spares 8 takingOver (takingOver.run takeover) ∧
      (neighbourHeld.store.network? 8).map (·.selection) = some .disabledByPolicy ∧
      ((takingOver.run takeover).store.network? 7).bind (·.trustedCa) =
        some ⟨root, leaf, ⟨2024, 5, 17, 12, 0, 0, 0⟩⟩ := by
  have elsewhere : ∀ p, takingOver.pending = some p → p.network.id ≠ 8 := by
    rintro p ⟨⟩
    decide
  obtain ⟨-, prepares, -⟩ := networks_isolated neighbourHeld 8
  obtain ⟨steps, -, runs⟩ := networks_isolated takingOver 8
  refine ⟨prepares network (by decide), steps _ ?_ elsewhere, runs takeover ?_ elsewhere, rfl, rfl⟩
  · rintro n ⟨⟩
  · simp [takeover]

end Handler

end WifiTrust
