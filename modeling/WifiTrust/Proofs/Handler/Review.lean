import WifiTrust.Proofs.Handler.InstalledTrust
import WifiTrust.Proofs.Handler.LateCertificates
import WifiTrust.Proofs.Handler.Requests

namespace WifiTrust.Handler

variable {σ : Type}

theorem Coherent.waiting {h : Handler σ} (hc : h.Coherent) {token : PromptToken}
    (active : h.activeToken = some token)
    (kind : token.kind = .tofuDialog ∨ token.kind = .tofuNotification) :
    ∃ p, h.Waiting p ∧ p.Awaits token := by
  obtain ⟨a, ha, rfl⟩ := activeToken_eq_some active
  obtain ⟨hasks, hlegacy⟩ := PromptKind.asks_tofu_iff.2 kind
  obtain ⟨p, hp, hawaits⟩ := (hc.fits a ha).awaited hasks
  have htofu : p.usesTofu = true := by
    rw [hawaits.mode, hlegacy]
    rfl
  exact ⟨p, ⟨hc, hp, htofu, ha ▸ Option.some_ne_none a⟩, hawaits⟩

variable [NetworkStore σ]

theorem start_of_collecting {h : Handler σ} {p : Pending} (hp : h.pending = some p)
    (gated : p.gated = true) (tofu : p.usesTofu = true) {userSelected : Bool}
    (unresolved : (h.start userSelected).2.pending ≠ none) :
    p.chain.validate = .ok () ∧ (h.start userSelected).2 = h.beginApproval userSelected := by
  revert unresolved
  unfold start
  rw [hp]
  dsimp only
  rw [gated, Bool.not_true, if_neg Bool.false_ne_true]
  split
  · intro unresolved
    exact absurd (by rw [error_eq]) unresolved
  · split
    · next hvalid => exact fun _ => ⟨hvalid, rfl⟩
    · intro unresolved
      refine absurd ?_ unresolved
      dsimp only
      split
      · rw [showInvalidChain_eq, error_eq]
        rfl
      · rw [error_eq]

namespace Attempt

variable {ops : List Operation} {a : Attempt ops} {h : Handler σ} {p : Pending}

theorem leaf?_at_start (hp : (h.run ops).pending = some p) (gated : p.gated = true)
    (tofu : p.usesTofu = true) (named : p.network.ssid ≠ "") {server : ChainEntry}
    (hleaf : p.chain.leaf? = some server) {earlier later : List Operation} {userSelected : Bool}
    (split : a.since = earlier ++ .start userSelected :: later) :
    ((a.opened h).run earlier).chain.bind Chain.leaf? = some server := by
  obtain ⟨q, hq, hgrown⟩ := grown_between hp split
  obtain ⟨next, hnext, _⟩ := grown_after hp split
  have unresolved : (((a.opened h).run earlier).start userSelected).2.pending ≠ none :=
    Option.ne_none_iff_exists'.2 ⟨next, hnext⟩
  have htofu : q.usesTofu = true := hgrown.mode.symm.trans tofu
  obtain ⟨hvalid, _⟩ :=
    start_of_collecting hq (hgrown.gated.symm.trans gated) htofu unresolved
  obtain ⟨root, leaf, hanchors⟩ := Chain.validate_eq_ok_iff.1 hvalid
  have hfound : q.chain.leaf? = some leaf := Chain.leaf?_of_anchors hanchors
  have hkept : p.chain.leaf? = some leaf :=
    hgrown.get?_of_some htofu (hgrown.network ▸ named) hfound
  rw [chain, hq]
  exact hfound.trans (hkept.symm.trans hleaf)

/-- Every dialog of the attempt describes the server that is there at the end. -/
theorem message_of_dialog (hp : (h.run ops).pending = some p) {server : ChainEntry}
    (hleaf : p.chain.leaf? = some server) {r : PromptRequest}
    (hr : r ∈ (h.run ops).shownSince (a.opened h)) (kind : r.token.kind = .tofuDialog) :
    r.message = Wording.tofuMessage server := by
  rw [a.run_eq] at hr
  obtain ⟨earlier, op, later, split, hstep⟩ := mem_shownSince_run.1 hr
  obtain ⟨q, hq, hgrown⟩ := grown_after hp split
  have hasks := (mem_shownSince_step hstep).asks q hq
  cases hasks with
  | @tofuDialog leaf htofu hname hfound =>
      have hkept : p.chain.leaf? = some leaf := hgrown.get?_of_some htofu hname hfound
      cases hleaf.symm.trans hkept
      rfl
  | tofuNotification | legacyDialog | legacyNotification => cases kind

end Attempt

/-- An approval that finds a valid chain leaves the trust of the network as an installation does. -/
theorem Waiting.sameTrust_installed {h : Handler MemoryStore} {p : Pending} (hw : h.Waiting p)
    {token : PromptToken} (active : h.activeToken = some token) {root leaf : ChainEntry}
    (valid : p.chain.anchors = .ok (root, leaf)) :
    MemoryStore.SameTrust
      (installedStore h.store p.network.id root.certificate leaf.certificate)
      (h.reply token .accept).store := by
  rw [hw.accept_eq active, approve, if_pos hw.tofu, valid]
  dsimp only
  rw [installChain_eq, grant_eq]
  exact (MemoryStore.SameTrust.updateSelection _ p.network.id .enabled).trans (.allowAutojoin _ _ _)

theorem stored_after_reply {h : Handler MemoryStore} {p : Pending} (hp : h.pending = some p)
    {server : ChainEntry} (hleaf : p.chain.leaf? = some server) (token : PromptToken)
    (reply : PromptReply) {id : NetworkId} {ca : TrustedCa}
    (hstored : ((h.reply token reply).store.entry id).trustedCa = some ca) :
    (h.store.entry id).trustedCa = some ca ∨
      id = p.network.id ∧ ca.server = server.certificate := by
  by_cases hsame : ((h.reply token reply).store.entry id).trustedCa = (h.store.entry id).trustedCa
  · exact .inl (hsame.symm.trans hstored)
  · have hstep : TrustStep h (.reply token reply) (h.reply token reply).store :=
      (reply_effect h token reply).trustStep
    obtain ⟨q, root, leaf, _, hq, hid, _, hanchors, hinstalled⟩ := hstep.trustedCa hsame
    cases hp.symm.trans hq
    cases (Chain.leaf?_of_anchors hanchors).symm.trans hleaf
    cases hinstalled.symm.trans hstored
    exact .inr ⟨hid.symm, rfl⟩

/-- The user approves what was shown. While a prompt asks about a server chain, the certificate for
depth zero is the first that was delivered for it since the preparation. It was there at every start
of the approval, and every dialog of the attempt describes it. An approval of a valid chain
installs it, unless the store refuses, and nothing else is installed for any network. -/
theorem approval_installs_what_was_shown (policy : Policy) (store : MemoryStore)
    (session : NativeSession) (board : PromptBoard) (decisions : List Decision)
    (ops : List Operation) {token : PromptToken}
    (active : ((fresh policy store session board decisions).run ops).activeToken = some token)
    (kind : token.kind = .tofuDialog ∨ token.kind = .tofuNotification) :
    let h₀ := fresh policy store session board decisions
    let h := h₀.run ops
    let h' := h.reply token .accept
    ∃ (a : Attempt ops) (p : Pending) (server : ChainEntry),
      h.pending = some p ∧ p.network.id = a.network.id ∧ p.network.ssid = a.network.ssid ∧
      a.first? 0 = some server ∧
      DistinguishedName.parse server.certificate.subject = .ok server.subject ∧
      DistinguishedName.parse server.certificate.issuer = .ok server.issuer ∧
      (∃ userSelected, .start userSelected ∈ a.since) ∧
      (∀ earlier userSelected later, a.since = earlier ++ .start userSelected :: later →
        ((a.opened h₀).run earlier).chain.bind Chain.leaf? = some server) ∧
      (∀ r ∈ h.shownSince (a.opened h₀), r.token.kind = .tofuDialog →
        r.message = Wording.tofuMessage server) ∧
      (p.chain.validate = .ok () → h.store.failCaUpdates = false →
        ∃ root, (h'.store.entry p.network.id).trustedCa =
          some ⟨root, server.certificate, h.store.clock⟩) ∧
      ∀ id ca, (h'.store.entry id).trustedCa = some ca →
        (h.store.entry id).trustedCa = some ca ∨
          id = p.network.id ∧ ca.server = server.certificate := by
  intro h₀ h h'
  have hc : h.Coherent := (coherent_fresh policy store session board decisions).run ops
  obtain ⟨p, hw, hawaits⟩ := hc.waiting active kind
  have hp : h.pending = some p := hw.pending
  have hname : p.network.ssid ≠ "" := hw.ssid_ne_empty
  obtain ⟨server, hleaf⟩ := Option.ne_none_iff_exists'.1 (hawaits.leaf hw.tofu)
  obtain ⟨a, made⟩ := Attempt.exists_of_pending (h := h₀) rfl hp
  have hfirst : a.first? 0 = some server :=
    (Attempt.get?_chain made hw.tofu hname 0).symm.trans hleaf
  obtain ⟨hsubject, hissuer⟩ := Attempt.parse_of_first? hfirst
  refine ⟨a, p, server, hp, Attempt.id_eq made, Attempt.ssid_eq made, hfirst, hsubject, hissuer,
    Attempt.mem_start made hawaits.started, ?_, ?_, ?_, ?_⟩
  · intro earlier userSelected later split
    exact Attempt.leaf?_at_start hp hawaits.gated hw.tofu hname hleaf split
  · intro r hr hkind
    exact Attempt.message_of_dialog hp hleaf hr hkind
  · intro hvalid hworks
    obtain ⟨root, leaf, hanchors⟩ := Chain.validate_eq_ok_iff.1 hvalid
    cases (Chain.leaf?_of_anchors hanchors).symm.trans hleaf
    refine ⟨root.certificate, ?_⟩
    rw [(hw.sameTrust_installed active hanchors).trustedCa, entry_installedStore,
      if_pos ⟨rfl, hworks⟩]
  · intro id ca hstored
    exact stored_after_reply hp hleaf token .accept hstored

open Corporate in
theorem approval_installs_corporate_server :
    let ops := collection ++
      [.start false, .setCertificate "corp" rogue, .reply (token .tofuNotification) .tap]
    let h₀ : Handler MemoryStore := fresh {} { clock := default } {} {} []
    let h := h₀.run ops
    let dialog : PromptToken := ⟨2, "corp", .tofuDialog⟩
    h.activeToken = some dialog ∧
      ∃ (a : Attempt ops) (server : ChainEntry), a.first? 0 = some server ∧
        (∀ r ∈ h.shownSince (a.opened h₀), r.token.kind = .tofuDialog →
          r.message = Wording.tofuMessage server) ∧
        ∃ root, ((h.reply dialog .accept).store.entry 7).trustedCa =
          some ⟨root, server.certificate, h.store.clock⟩ := by
  intro ops h₀ h dialog
  have active : h.activeToken = some dialog := by rfl
  have pending : h.pending = some asked := by rfl
  have works : h.store.failCaUpdates = false := by rfl
  have valid : asked.chain.validate = .ok () := by rfl
  obtain ⟨a, p, server, hp, _, _, hfirst, _, _, _, _, hdialogs, hinstalled, _⟩ :=
    approval_installs_what_was_shown {} { clock := default } {} {} [] ops active (.inl rfl)
  have hasked : p = asked := Option.some.inj (hp.symm.trans pending)
  subst hasked
  have hstored := hinstalled valid works
  exact ⟨active, a, server, hfirst, hdialogs, hstored⟩

end WifiTrust.Handler
