import WifiTrust.Proofs.Handler.Credentials
import WifiTrust.Proofs.Handler.LastingApproval
import WifiTrust.Proofs.Handler.Screen
import WifiTrust.Proofs.Store.Writing

/-!
# The opening of an attempt

What a preparation answers, what it hands back, and what it makes of the handler. The answer depends
on the device and on the network alone; the state is replaced whatever the answer is, and only the
supplicant and the store are spared where no decision is needed.
-/

namespace WifiTrust.Handler

theorem requiresDecision_eq_false_iff {policy : Policy} {n : Network} :
    requiresDecision policy n = false ↔
      (∀ e, n.enterprise = some e → ¬e.Unverified) ∨
      ∃ e, n.enterprise = some e ∧ e.approvedWithoutCa = true ∧
        (policy.trustOnFirstUseSupported = false ∨
          e.trustOnFirstUse = false ∧ policy.insecureEnterpriseAllowed = true) := by
  unfold requiresDecision
  cases hinsecure : n.insecureEnterprise with
  | none =>
      refine iff_of_true rfl (.inl fun e he unverified => ?_)
      rw [Network.insecureEnterprise_eq_some_iff.2 ⟨he, unverified⟩] at hinsecure
      cases hinsecure
  | some e =>
      obtain ⟨he, hunverified⟩ := Network.insecureEnterprise_eq_some_iff.1 hinsecure
      cases hsupported : policy.trustOnFirstUseSupported with
      | false => simp [he, hunverified]
      | true => simp [he, hunverified]

variable {σ : Type} [NetworkStore σ]

open NetworkStore

theorem network_of_not_gated {h : Handler σ} {n : Network} (free : (h.prepare n).1 ≠ .gated) :
    (h.prepare n).2.1 = n := by
  rw [prepare_network, Pending.opening]
  split
  · next needed =>
      have unsupported : h.policy.trustOnFirstUseSupported = false :=
        Bool.eq_false_iff.2 fun supported => free ((gated_iff h n).2 ⟨needed, supported⟩)
      rw [unsupported, Bool.false_and, if_neg Bool.false_ne_true]
  · rfl

theorem prepare_network_eq (h : Handler σ) (n : Network) :
    (h.prepare n).2.1 =
      { n with
        enterprise := n.enterprise.map fun e =>
          if (h.prepare n).1 = .gated ∧ e.trustOnFirstUse = true ∧
              (e.eapMethod = .peap ∨ e.eapMethod = .ttls) ∧ e.innerMethod ≠ .none then
            { e with identity := "", password := "" }
          else e } := by
  by_cases gated : (h.prepare n).1 = .gated
  · rw [network_of_gated gated]
    simp only [gated, true_and]
    obtain ⟨id, ssid, enterprise⟩ := n
    cases enterprise with
    | none => exact ite_self _
    | some e =>
        rw [Network.trustsOnFirstUse_of_some rfl]
        cases htofu : e.trustOnFirstUse with
        | false => simp [htofu]
        | true => simp [htofu, Network.stripCredentials, Enterprise.stripCredentials_eq]
  · rw [network_of_not_gated gated]
    simp [gated]

/-- A decision is needed exactly if the answer says so, and the chain of the server is collected
exactly if the device can do it and the network asks for it. -/
theorem opening_eq (h : Handler σ) (n : Network) :
    Pending.opening h.policy n =
      { network := (h.prepare n).2.1
        gated := (h.prepare n).1 ≠ .notRequired
        usesTofu := (h.prepare n).1 = .gated ∧ n.trustsOnFirstUse
        chain := .empty
        approvalStarted := false } := by
  rw [prepare_network, prepare_preparation]
  unfold Pending.opening
  cases requiresDecision h.policy n with
  | false => rfl
  | true =>
      cases h.policy.trustOnFirstUseSupported with
      | false => rfl
      | true =>
          cases n.trustsOnFirstUse with
          | false => rfl
          | true => rfl

theorem prepare_handler_eq (h : Handler σ) (n : Network) :
    (h.prepare n).2.2 =
      { h with
        store :=
          if (h.prepare n).1 = .onHold then (updateSelection h.store n.id .disabledByPolicy).2
          else h.store
        session :=
          if (h.prepare n).1 = .notRequired then h.session
          else ⟨h.session.calls ++
            [.removeCachedKeyMaterial n.id, .removeAllNetworks h.policy.interfaceName]⟩
        board := h.clearedBoard
        active := none
        pending := some
          { network := (h.prepare n).2.1
            gated := (h.prepare n).1 ≠ .notRequired
            usesTofu := (h.prepare n).1 = .gated ∧ n.trustsOnFirstUse
            chain := .empty
            approvalStarted := false } } := by
  have houtcome := prepare_preparation h n
  rw [prepare_eq, opening_eq]
  cases hneeded : requiresDecision h.policy n with
  | false => simp [houtcome, hneeded]
  | true =>
      cases hsupported : h.policy.trustOnFirstUseSupported with
      | false => simp [houtcome, hneeded, hsupported]
      | true => simp [houtcome, hneeded, hsupported]

/-- What a preparation does, whatever it finds. A decision is needed unless nothing is to be checked
or an approval without an authority still holds, and the device says which one it is. The prompt
leaves the screen, and the network as it is handed back is pending without a certificate. It loses
its credentials for the tunnel where its chain is collected, and nothing else. The keys are flushed
where a decision is needed, and the selection is forbidden where no chain can be collected. -/
theorem preparation_exact (h : Handler σ) (n : Network) :
    let outcome := (h.prepare n).1
    let n' := (h.prepare n).2.1
    let h' := (h.prepare n).2.2
    (outcome = .notRequired ↔
      (∀ e, n.enterprise = some e → ¬e.Unverified) ∨
      ∃ e, n.enterprise = some e ∧ e.approvedWithoutCa = true ∧
        (h.policy.trustOnFirstUseSupported = false ∨
          e.trustOnFirstUse = false ∧ h.policy.insecureEnterpriseAllowed = true)) ∧
    (outcome ≠ .notRequired →
      outcome = if h.policy.trustOnFirstUseSupported then .gated else .onHold) ∧
    n' =
      { n with
        enterprise := n.enterprise.map fun e =>
          if outcome = .gated ∧ e.trustOnFirstUse = true ∧
              (e.eapMethod = .peap ∨ e.eapMethod = .ttls) ∧ e.innerMethod ≠ .none then
            { e with identity := "", password := "" }
          else e } ∧
    h' =
      { h with
        store :=
          if outcome = .onHold then (updateSelection h.store n.id .disabledByPolicy).2
          else h.store
        session :=
          if outcome = .notRequired then h.session
          else ⟨h.session.calls ++
            [.removeCachedKeyMaterial n.id, .removeAllNetworks h.policy.interfaceName]⟩
        board := h.clearedBoard
        active := none
        pending := some
          { network := n'
            gated := outcome ≠ .notRequired
            usesTofu := outcome = .gated ∧ n.trustsOnFirstUse
            chain := .empty
            approvalStarted := false } } ∧
    (InStep h.board h.active → ∀ q ∈ h'.board.shown, q.dismissed = true) ∧
    ∀ s : MemoryStore, (updateSelection s n.id .disabledByPolicy).2 =
      if s.failSelectionUpdates then s
      else
        { s with
          networks := s.networks.insert n.id { s.entry n.id with selection := .disabledByPolicy }
          selectionHistory := s.selectionHistory ++ [(n.id, .disabledByPolicy)] } := by
  intro outcome n' h'
  refine ⟨(notRequired_iff h n).trans requiresDecision_eq_false_iff, fun needed => ?_,
    prepare_network_eq h n, prepare_handler_eq h n, fun inStep q hq => ?_,
    fun s => s.updateSelection_eq ..⟩
  · have hneeded : requiresDecision h.policy n = true :=
      Bool.of_not_eq_false fun free => needed ((notRequired_iff h n).2 free)
    dsimp only [outcome]
    rw [prepare_preparation, if_pos hneeded]
  · dsimp only [h'] at hq
    rw [prepare_eq] at hq
    exact inStep.cleared.empty rfl q hq

open Corporate in
theorem corporate_preparation_exact :
    let ops := collection ++ [.start true]
    let h : Handler MemoryStore := (fresh {} { clock := default } {} {} []).run ops
    let h' := (h.prepare network).2.2
    h.active = some ⟨token .tofuDialog, 1⟩ ∧ InStep h.board h.active ∧
      (h.prepare network).1 = .gated ∧ (∀ q ∈ h'.board.shown, q.dismissed = true) ∧
      h'.active = none ∧ h'.session.calls = h.session.calls ++
        [.removeCachedKeyMaterial 7, .removeAllNetworks "wlan0"] := by
  intro ops h h'
  have active : h.active = some ⟨token .tofuDialog, 1⟩ := by rfl
  have steady : Steady {} {} h := run_steady {} _ {} [] .empty (List.forall_mem_nil _) ops
  have needed : (h.prepare network).1 ≠ .notRequired := by decide
  obtain ⟨-, hgated, -, hstate, hscreen, -⟩ := preparation_exact h network
  refine ⟨active, steady.inStep, hgated needed, hscreen steady.inStep, ?_, ?_⟩
  · exact congrArg Handler.active hstate
  · have hsession := congrArg Handler.session hstate
    rw [if_neg needed] at hsession
    exact congrArg NativeSession.calls hsession

end WifiTrust.Handler
