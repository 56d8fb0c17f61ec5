import WifiTrust.Proofs.Handler.LateCertificates
import WifiTrust.Proofs.Handler.Verdicts
import WifiTrust.Proofs.Store.Writing

namespace WifiTrust

open NetworkStore

namespace Handler

section Closed

variable {σ : Type}

/-- The handler once its attempt is closed with a decision, after some calls on the supplicant. -/
def closed (h : Handler σ) (store : σ) (calls : List NativeCall) (d : Decision) : Handler σ :=
  { h with
    store := store
    session := ⟨h.session.calls ++ calls⟩
    board := h.clearedBoard
    active := none
    pending := none
    decisions := h.decisions ++ [d] }

variable [NetworkStore σ] {h : Handler σ} {p : Pending}

theorem error_eq_closed (hp : h.pending = some p) (ssid : Option String) :
    h.error ssid =
      h.closed (updateSelection h.store p.network.id .disabledByPolicy).2
        (flushCalls h.policy (some p)) (.error ssid) := by
  rw [error_eq, flushedSession, heldStore, hp]
  rfl

theorem refuse_eq_closed (hp : h.pending = some p) (ssid : String) :
    h.refuse p ssid =
      h.closed (allowAutojoin (updateSelection h.store p.network.id .disabledByPolicy).2
        p.network.id false) (flushCalls h.policy (some p)) (.reject ssid) := by
  rw [refuse_eq h hp, flushedSession, heldStore, hp]
  rfl

theorem grant_eq_closed (h : Handler σ) (id : NetworkId) (ssid : String) :
    h.grant id ssid =
      h.closed (allowAutojoin (updateSelection h.store id .enabled).2 id true) []
        (.accept ssid) := by
  rw [grant_eq, closed, List.append_nil]

theorem resolving_other (hp : h.pending = some p) {other : String} (named : other ≠ "")
    (different : other ≠ p.network.ssid) (act : Pending → Handler σ) :
    h.resolving other act = h := by
  unfold resolving
  rw [hp]
  dsimp only
  rw [if_neg named, if_neg different.symm]

end Closed

/-- How the attempt of a connection with a name is closed, in any state. A refusal and a failure
forbid the selection and flush the keys, and a refusal also forbids to join. An approval makes no
call; it allows the selection and to join, and a valid chain is installed with both flags that go
with it or not at all. An approval of a chain that is not valid is a failure. A selection that
cannot be updated stays as it is. Any other name changes nothing. -/
theorem resolution_exact {h : Handler MemoryStore} {p : Pending} (hp : h.pending = some p)
    (named : p.network.ssid ≠ "") :
    let id := p.network.id
    let ssid := p.network.ssid
    let entry := h.store.entry id
    let flush : List NativeCall :=
      [.removeCachedKeyMaterial id, .removeAllNetworks h.policy.interfaceName]
    h.reject ssid =
      h.closed (h.store.settled id entry .disabledByPolicy false) flush (.reject ssid) ∧
    (∀ reported, h.error reported =
      h.closed
        (if h.store.failSelectionUpdates then h.store
        else
          { h.store with
            networks := h.store.networks.insert id { entry with selection := .disabledByPolicy }
            selectionHistory := h.store.selectionHistory ++ [(id, .disabledByPolicy)] })
        flush (.error reported)) ∧
    (p.usesTofu = true → ∀ root leaf, p.chain.anchors = .ok (root, leaf) →
      h.accept ssid =
        h.closed
          (h.store.settled id
            (if h.store.failCaUpdates then entry
            else
              { entry with
                trustedCa := some ⟨root.certificate, leaf.certificate, h.store.clock⟩
                approvedWithoutCa := false
                trustOnFirstUse := some false }) .enabled true)
          [] (.accept ssid)) ∧
    (p.usesTofu = true → ∀ e, p.chain.anchors = .error e → h.accept ssid = h.error (some ssid)) ∧
    (p.usesTofu = false → h.accept ssid =
      h.closed (h.store.settled id { entry with approvedWithoutCa := true } .enabled true) []
        (.accept ssid)) ∧
    (InStep h.board h.active → ∀ q ∈ h.clearedBoard.shown, q.dismissed = true) ∧
    ∀ other, other ≠ "" → other ≠ ssid → h.accept other = h ∧ h.reject other = h := by
  intro id ssid entry flush
  have haccept : h.accept ssid = h.approve p ssid := accept_of_pending hp named
  refine ⟨?_, fun reported => ?_, fun tofu root leaf hanchors => ?_, fun tofu e hanchors => ?_,
    fun legacy => ?_, fun inStep => inStep.cleared.empty rfl, fun other hother different => ?_⟩
  · calc h.reject ssid = h.refuse p ssid := reject_of_pending hp named
      _ = _ := refuse_eq_closed hp ssid
      _ = _ := by rw [MemoryStore.allowAutojoin_updateSelection]; rfl
  · rw [error_eq_closed hp, MemoryStore.updateSelection_eq]
    rfl
  · rw [haccept, approve, if_pos tofu, hanchors]
    dsimp only
    rw [grant_eq_closed, installChain_eq]
    have hstore := allowAutojoin_updateSelection_installedStore h.store id root.certificate
      leaf.certificate
    exact congrArg (h.closed · [] (.accept ssid)) hstore
  · rw [haccept, approve, if_pos tofu, hanchors]
  · rw [haccept, approve, legacy, if_neg Bool.false_ne_true, grant_eq_closed]
    have hstore := h.store.allowAutojoin_updateSelection_modify id
      ({ · with approvedWithoutCa := true }) .enabled true
    exact congrArg (h.closed · [] (.accept ssid)) hstore
  · exact ⟨resolving_other hp hother different _, resolving_other hp hother different _⟩

open Corporate in
/-- The corporate chain is approved in a store that cannot install it, and the network can be
selected and joined all the same. -/
theorem corporate_resolution_exact :
    let store : MemoryStore := { clock := default, failCaUpdates := true }
    let h : Handler MemoryStore := (fresh {} store {} {} []).run (collection ++ [.start true])
    h.pending = some asked ∧ asked.network.ssid ≠ "" ∧
      asked.chain.anchors = .ok (rootEntry, leafEntry) ∧
      (h.accept "corp").store = h.store.settled 7 (h.store.entry 7) .enabled true ∧
      (h.accept "corp").session = h.session ∧ (h.accept "corp").decisions = [.accept "corp"] ∧
      (h.reject "corp").store = h.store.settled 7 (h.store.entry 7) .disabledByPolicy false ∧
      (∀ q ∈ (h.reject "corp").board.shown, q.dismissed = true) ∧
      h.accept "home" = h ∧ h.reject "home" = h := by
  intro store h
  have pending : h.pending = some asked := by rfl
  have named : asked.network.ssid ≠ "" := by decide
  have different : "home" ≠ asked.network.ssid := by decide
  have anchors : asked.chain.anchors = .ok (rootEntry, leafEntry) := by rfl
  have steady : Steady {} {} h := run_steady {} store {} [] .empty (List.forall_mem_nil _) _
  obtain ⟨hreject, -, haccept, -, -, hscreen, hother⟩ := resolution_exact pending named
  have haccepted : h.accept "corp" = _ := haccept rfl rootEntry leafEntry anchors
  have hrejected : h.reject "corp" = _ := hreject
  have broken : h.store.failCaUpdates = true := by rfl
  rw [if_pos broken] at haccepted
  refine ⟨pending, named, anchors, ?_, ?_, ?_, ?_, ?_, hother "home" (by decide) different⟩
  · rw [haccepted]
    rfl
  · rw [haccepted, closed, List.append_nil]
  · rw [haccepted]
    rfl
  · rw [hrejected]
    rfl
  · rw [hrejected]
    exact hscreen steady.inStep

end Handler

end WifiTrust
