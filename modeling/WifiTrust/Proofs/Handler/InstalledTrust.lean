import WifiTrust.Proofs.Chain.Anchors
import WifiTrust.Proofs.Handler.Coherence
import WifiTrust.Proofs.Store.Writing

/-!
# Trust is installed by the user

Apart from a host that approves by itself, only the user's approval of the prompt on the screen
changes what the store trusts, and it installs the ends of the chain that is then pending.
-/

namespace WifiTrust.Handler

open MemoryStore
open NetworkStore (setApprovedWithoutCa allowAutojoin)

theorem entry_installedStore (s : MemoryStore) (id : NetworkId) (root leaf : Certificate)
    (other : NetworkId) : (installedStore s id root leaf).entry other =
      if other = id ∧ s.failCaUpdates = false then
        { s.entry other with
          trustedCa := some ⟨root, leaf, s.clock⟩
          approvedWithoutCa := false
          trustOnFirstUse := some false }
      else s.entry other := by
  rw [installedStore_eq]
  cases hfail : s.failCaUpdates with
  | true => simp
  | false => simp [entry_modify]

inductive TrustStep (h : Handler MemoryStore) (op : Operation) (store : MemoryStore) : Prop
  | kept (same : SameTrust h.store store)
  | installed {p : Pending} {root leaf : ChainEntry} (approval : Approves h p.network.ssid op)
      (pending : h.pending = some p) (tofu : p.usesTofu = true)
      (valid : p.chain.anchors = .ok (root, leaf))
      (same : SameTrust
        (installedStore h.store p.network.id root.certificate leaf.certificate) store)
  | approved {p : Pending} (approval : Approves h p.network.ssid op) (pending : h.pending = some p)
      (legacy : p.usesTofu = false)
      (same : SameTrust (setApprovedWithoutCa h.store p.network.id true) store)

theorem sameTrust_heldStore (h : Handler MemoryStore) : SameTrust h.store h.heldStore := by
  unfold heldStore
  cases h.pending with
  | none => exact .refl h.store
  | some p => exact .updateSelection h.store p.network.id .disabledByPolicy

private theorem sameTrust_ite {s s' : MemoryStore} {c : Prop} [Decidable c]
    (h : SameTrust s s') : SameTrust s (if c then s' else s) := by
  split
  · exact h
  · exact .refl s

private theorem sameTrust_granted (s : MemoryStore) (id : NetworkId) :
    SameTrust s (allowAutojoin (NetworkStore.updateSelection s id .enabled).2 id true) :=
  (SameTrust.updateSelection s id .enabled).trans (.allowAutojoin _ id true)

theorem Effect.trustStep {h h' : Handler MemoryStore} {op : Operation} (effect : Effect h op h') :
    TrustStep h op h'.store := by
  cases effect with
  | ignored => exact .kept (.refl h.store)
  | prepared n =>
      rw [prepare_eq]
      exact .kept (sameTrust_ite (.updateSelection h.store n.id .disabledByPolicy))
  | @collected _ _ _ _ p =>
      rw [received_eq]
      exact .kept (sameTrust_ite (.updateSelection h.store p.network.id .disabledByPolicy))
  | started _ _ _ _ shown =>
      rw [shown.frame]
      exact .kept (.refl h.store)
  | broken =>
      rw [showInvalidChain_eq, error_eq]
      exact .kept (sameTrust_heldStore h)
  | reopened _ _ shown =>
      rw [shown.frame]
      exact .kept (.refl h.store)
  | acknowledged =>
      rw [dismissPrompt_eq]
      exact .kept (.refl h.store)
  | @installed _ p root leaf approval hp htofu hvalid =>
      rw [installChain_eq, grant_eq]
      exact .installed approval hp htofu hvalid (sameTrust_granted _ p.network.id)
  | @approved _ p approval hp hlegacy =>
      rw [grant_eq]
      exact .approved approval hp hlegacy (sameTrust_granted _ p.network.id)
  | @refused _ p _ hp =>
      rw [refuse_eq h hp]
      exact .kept ((sameTrust_heldStore h).trans (.allowAutojoin h.heldStore p.network.id false))
  | failed =>
      rw [error_eq]
      exact .kept (sameTrust_heldStore h)
  | held =>
      rw [putOnHold_eq]
      exact .kept (sameTrust_heldStore h)
  | cleaned =>
      rw [cleanup_eq]
      exact .kept (.refl h.store)

/-- The user approves the connection that waits for an answer to the prompt on the screen. -/
structure UserApproves (h : Handler MemoryStore) (op : Operation) (token : PromptToken)
    (p : Pending) : Prop where
  answer : op = .reply token .accept
  active : h.activeToken = some token
  pending : h.pending = some p
  gated : p.gated = true
  started : p.approvalStarted = true
  named : p.network.ssid = token.ssid

/-- What the user has approved if the host does not approve by itself. -/
theorem Approves.byUser {h : Handler MemoryStore} {op : Operation} {p : Pending}
    (approval : Approves h p.network.ssid op) (hc : h.Coherent) (hp : h.pending = some p)
    (hop : ∀ ssid, op ≠ .accept ssid) :
    ∃ token, UserApproves h op token p ∧
      (p.usesTofu = true ∧ (token.kind = .tofuDialog ∨ token.kind = .tofuNotification) ∨
        p.usesTofu = false ∧
          (token.kind = .legacyDialog ∨ token.kind = .legacyNotification)) := by
  cases approval with
  | host => exact absurd rfl (hop p.network.ssid)
  | @user token hactive hasks _ =>
      obtain ⟨hawaits, -⟩ := hc.awaits hactive hp
      refine ⟨token, ⟨rfl, hactive, hp, hawaits.gated, hawaits.started, hawaits.ssid_eq⟩, ?_⟩
      have hmode := hawaits.mode
      cases hlegacy : token.kind.isLegacy with
      | true =>
          rw [hlegacy] at hmode
          exact .inr ⟨hmode, PromptKind.isLegacy_iff.1 hlegacy⟩
      | false =>
          rw [hlegacy] at hmode
          exact .inl ⟨hmode, PromptKind.asks_tofu_iff.1 ⟨hasks, hlegacy⟩⟩

/-- An approval installs the ends of the pending chain, and for no other network. -/
theorem TrustStep.trustedCa {h : Handler MemoryStore} {op : Operation} {store : MemoryStore}
    (step : TrustStep h op store) {id : NetworkId}
    (changed : (store.entry id).trustedCa ≠ (h.store.entry id).trustedCa) :
    ∃ p root leaf, Approves h p.network.ssid op ∧ h.pending = some p ∧ p.network.id = id ∧
      p.usesTofu = true ∧ p.chain.anchors = .ok (root, leaf) ∧
      (store.entry id).trustedCa = some ⟨root.certificate, leaf.certificate, h.store.clock⟩ := by
  cases step with
  | kept same => exact absurd (same.trustedCa id) changed
  | @installed p root leaf approval hp htofu hvalid same =>
      have hentry := entry_installedStore h.store p.network.id root.certificate leaf.certificate id
      rw [same.trustedCa, hentry] at changed ⊢
      by_cases hid : id = p.network.id ∧ h.store.failCaUpdates = false
      · rw [if_pos hid]
        exact ⟨p, root, leaf, approval, hp, hid.1.symm, htofu, hvalid, rfl⟩
      · rw [if_neg hid] at changed
        exact absurd rfl changed
  | @approved p _ _ _ same =>
      rw [same.trustedCa, entry_setApprovedWithoutCa] at changed
      split at changed
      · exact absurd rfl changed
      · exact absurd rfl changed

theorem TrustStep.approvedWithoutCa {h : Handler MemoryStore} {op : Operation}
    {store : MemoryStore} (step : TrustStep h op store) {id : NetworkId}
    (before : (h.store.entry id).approvedWithoutCa = false)
    (after : (store.entry id).approvedWithoutCa = true) :
    ∃ p, Approves h p.network.ssid op ∧ h.pending = some p ∧ p.network.id = id ∧
      p.usesTofu = false := by
  cases step with
  | kept same =>
      rw [same.approvedWithoutCa, before] at after
      cases after
  | @installed p root leaf _ _ _ _ same =>
      rw [same.approvedWithoutCa, entry_installedStore] at after
      split at after
      · cases after
      · rw [before] at after
        cases after
  | @approved p approval hp hlegacy same =>
      rw [same.approvedWithoutCa, entry_setApprovedWithoutCa] at after
      split at after
      · next hid => exact ⟨p, approval, hp, hid.symm, hlegacy⟩
      · rw [before] at after
        cases after

/-- Installed trust is what the user approved. If the host does not approve by itself, the chain
that a store trusts for a network changes only when the user approves the pending connection of that
network, whose approval was begun: the chain is valid then, and its root and its leaf are installed.
A network comes to be approved without an authority in the same way only, on a device that cannot
collect chains. -/
theorem trust_installed_by_user (policy : Policy) (store : MemoryStore) (session : NativeSession)
    (board : PromptBoard) (decisions : List Decision) (ops : List Operation) {op : Operation}
    (hop : ∀ ssid, op ≠ .accept ssid) (id : NetworkId) :
    let h := (fresh policy store session board decisions).run ops
    let store' := (h.step op).2.store
    ((store'.entry id).trustedCa ≠ (h.store.entry id).trustedCa →
      ∃ token p n root leaf, UserApproves h op token p ∧ p.network.id = id ∧ p.usesTofu = true ∧
        (token.kind = .tofuDialog ∨ token.kind = .tofuNotification) ∧
        p.chain.Anchored n root leaf ∧
        (store'.entry id).trustedCa =
          some ⟨root.certificate, leaf.certificate, h.store.clock⟩) ∧
    ((h.store.entry id).approvedWithoutCa = false → (store'.entry id).approvedWithoutCa = true →
      ∃ token p, UserApproves h op token p ∧ p.network.id = id ∧ p.usesTofu = false ∧
        (token.kind = .legacyDialog ∨ token.kind = .legacyNotification) ∧
        policy.trustOnFirstUseSupported = false) := by
  intro h store'
  have hc : h.Coherent :=
    run_invariant Effect.coherent (coherent_fresh policy store session board decisions) ops
  have hpolicy : h.policy = policy := run_policy _ ops
  have hstep : TrustStep h op store' := (step_effect h op).trustStep
  constructor
  · intro changed
    obtain ⟨p, root, leaf, approval, hp, hid, htofu, hvalid, hinstalled⟩ := hstep.trustedCa changed
    obtain ⟨token, huser, hkind⟩ := approval.byUser hc hp hop
    obtain ⟨n, hanchored⟩ := Chain.anchors_eq_ok_iff.1 hvalid
    refine ⟨token, p, n, root, leaf, huser, hid, htofu, ?_, hanchored, hinstalled⟩
    rcases hkind with ⟨-, htofuKind⟩ | ⟨hlegacy, -⟩
    · exact htofuKind
    · rw [htofu] at hlegacy
      cases hlegacy
  · intro before after
    obtain ⟨p, approval, hp, hid, hlegacy⟩ := hstep.approvedWithoutCa before after
    obtain ⟨token, huser, hkind⟩ := approval.byUser hc hp hop
    rcases hkind with ⟨htofu, -⟩ | ⟨-, hlegacyKind⟩
    · rw [htofu] at hlegacy
      cases hlegacy
    · obtain ⟨a, ha, rfl⟩ := activeToken_eq_some huser.active
      have hoffered := hc.offered a ha
      rw [PromptKind.isLegacy_iff.2 hlegacyKind, hpolicy] at hoffered
      refine ⟨a.token, p, huser, hid, hlegacy, hlegacyKind, ?_⟩
      simpa using hoffered

open Corporate in
theorem corporate_trust_installed_by_user :
    (∃ asked p n root leaf,
      UserApproves ((fresh {} { clock := default } {} {} []).run (collection ++ [.start true]))
        (.reply (token .tofuDialog) .accept) asked p ∧
      p.network.id = 7 ∧ p.chain.Anchored n root leaf) ∧
    ∃ asked p,
      UserApproves ((fresh { trustOnFirstUseSupported := false } { clock := default } {} {} []).run
        [.prepare network, .start false]) (.reply (token .legacyNotification) .accept) asked p ∧
      p.network.id = 7 ∧ p.usesTofu = false := by
  constructor
  · have hop : ∀ ssid, Operation.reply (token .tofuDialog) .accept ≠ .accept ssid :=
      fun _ h => by cases h
    have hstep := trust_installed_by_user {} { clock := default } {} {} []
      (collection ++ [.start true]) hop 7
    obtain ⟨asked, p, n, root, leaf, huser, hid, _, _, hanchored, _⟩ :=
      hstep.1 (Option.some_ne_none (⟨root, leaf, default⟩ : TrustedCa))
    exact ⟨asked, p, n, root, leaf, huser, hid, hanchored⟩
  · have hop : ∀ ssid, Operation.reply (token .legacyNotification) .accept ≠ .accept ssid :=
      fun _ h => by cases h
    have hstep := trust_installed_by_user { trustOnFirstUseSupported := false }
      { clock := default } {} {} [] [.prepare network, .start false] hop 7
    obtain ⟨asked, p, huser, hid, hlegacy, _⟩ := hstep.2 (by rfl) (by rfl)
    exact ⟨asked, p, huser, hid, hlegacy⟩

end WifiTrust.Handler
