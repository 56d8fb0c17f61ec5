import WifiTrust.Proofs.Chain.Entries
import WifiTrust.Proofs.Handler.Effect

/-!
# The prompt fits the connection

The invariant that ties the prompt on the screen to the pending connection: what the prompt asks is
what the connection waits for, under the connection's name, and the device can ask it.
-/

namespace WifiTrust

/-- Whether the prompt belongs to a device that cannot collect a chain. -/
def PromptKind.isLegacy : PromptKind → Bool
  | .legacyDialog | .legacyNotification => true
  | _ => false

theorem PromptKind.isLegacy_iff {kind : PromptKind} :
    kind.isLegacy = true ↔ kind = .legacyDialog ∨ kind = .legacyNotification := by
  cases kind <;> simp [isLegacy]

theorem PromptKind.isInformational_iff {kind : PromptKind} : kind.isInformational = true ↔
    kind = .invalidChainDialog ∨ kind = .invalidChainNotification := by
  cases kind <;> simp [isInformational]

theorem PromptKind.asks_tofu_iff {kind : PromptKind} :
    kind.isInformational = false ∧ kind.isLegacy = false ↔
      kind = .tofuDialog ∨ kind = .tofuNotification := by
  cases kind <;> simp [isInformational, isLegacy]

theorem PromptKind.isInformational_of_isLegacy {kind : PromptKind} (h : kind.isLegacy = true) :
    kind.isInformational = false := by
  rcases isLegacy_iff.1 h with rfl | rfl
  · rfl
  · rfl

structure Pending.Awaits (p : Pending) (token : PromptToken) : Prop where
  gated : p.gated = true
  started : p.approvalStarted = true
  ssid_eq : p.network.ssid = token.ssid
  mode : p.usesTofu = !token.kind.isLegacy
  leaf : p.usesTofu = true → p.chain.leaf? ≠ none

/-- What a prompt on the screen says of the pending connection. -/
def PromptToken.Fits (token : PromptToken) (pending : Option Pending) : Prop :=
  if token.kind.isInformational then pending = none
  else ∃ p, pending = some p ∧ p.Awaits token

theorem PromptToken.Fits.awaited {token : PromptToken} {pending : Option Pending}
    (h : token.Fits pending) (asks : token.kind.isInformational = false) :
    ∃ p, pending = some p ∧ p.Awaits token := by
  rw [Fits, asks] at h
  exact h

theorem PromptToken.Fits.informational {token : PromptToken} {pending : Option Pending}
    (h : token.Fits pending) (informs : token.kind.isInformational = true) : pending = none := by
  rw [Fits, informs] at h
  exact h

theorem PromptToken.Fits.of_awaits {token : PromptToken} {p : Pending} (h : p.Awaits token)
    (asks : token.kind.isInformational = false) : token.Fits (some p) := by
  rw [Fits, asks]
  exact ⟨p, rfl, h⟩

theorem PromptToken.Fits.mono {token : PromptToken} {p q : Pending} (h : token.Fits (some p))
    (keeps : p.Awaits token → q.Awaits token) : token.Fits (some q) := by
  cases hkind : token.kind.isInformational with
  | true => exact absurd (h.informational hkind) (Option.some_ne_none p)
  | false =>
      obtain ⟨_, ⟨⟩, hp⟩ := h.awaited hkind
      exact .of_awaits (keeps hp) hkind

namespace Handler

variable {σ : Type}

/-- The pending connection is as its network and the device make it, and the prompt fits it. -/
structure Coherent (h : Handler σ) : Prop where
  mode : ∀ p, h.pending = some p →
    p.usesTofu = (p.gated && (h.policy.trustOnFirstUseSupported && p.network.trustsOnFirstUse))
  named : ∀ p, h.pending = some p → p.network.ssid = "" → p.chain = .empty
  fits : ∀ a, h.active = some a → a.token.Fits h.pending
  offered : ∀ a, h.active = some a → a.token.kind.isLegacy = !h.policy.trustOnFirstUseSupported

theorem Coherent.of_inactive {h : Handler σ} (hactive : h.active = none)
    (mode : ∀ p, h.pending = some p → p.usesTofu =
      (p.gated && (h.policy.trustOnFirstUseSupported && p.network.trustsOnFirstUse)))
    (named : ∀ p, h.pending = some p → p.network.ssid = "" → p.chain = .empty) : h.Coherent where
  mode := mode
  named := named
  fits := fun a ha => by rw [hactive] at ha; cases ha
  offered := fun a ha => by rw [hactive] at ha; cases ha

theorem Coherent.of_idle {h : Handler σ} (hactive : h.active = none) (hpending : h.pending = none) :
    h.Coherent :=
  .of_inactive hactive (fun p hp => by rw [hpending] at hp; cases hp)
    (fun p hp => by rw [hpending] at hp; cases hp)

theorem coherent_fresh (policy : Policy) (store : σ) (session : NativeSession)
    (board : PromptBoard) (decisions : List Decision) :
    (fresh policy store session board decisions).Coherent := .of_idle rfl rfl

theorem Coherent.shown {h h' : Handler σ} (hc : h.Coherent)
    (ready : ∀ p, h.pending = some p → p.gated = true ∧ p.approvalStarted = true ∧
      (p.usesTofu = false → h.policy.trustOnFirstUseSupported = false))
    (shown : Shown h h') : h'.Coherent := by
  cases shown with
  | nothing => exact ⟨hc.mode, hc.named, hc.fits, hc.offered⟩
  | @request p r hp asks =>
      obtain ⟨hgated, hstarted, hlegacy⟩ := ready p hp
      have htofu : p.usesTofu = true → h.policy.trustOnFirstUseSupported = true := by
        intro ht
        have hmode := hc.mode p hp
        rw [ht, hgated, Bool.true_and] at hmode
        exact (Bool.and_eq_true_iff.1 hmode.symm).1
      refine ⟨hc.mode, hc.named, ?_, ?_⟩
      · rintro a ⟨⟩
        show r.token.Fits h.pending
        rw [hp]
        have legacy (hl : p.usesTofu = false) : p.usesTofu = true → p.chain.leaf? ≠ none :=
          fun ht => absurd (hl.symm.trans ht) Bool.false_ne_true
        cases asks with
        | @tofuDialog leaf ht _ hleaf =>
            exact .of_awaits ⟨hgated, hstarted, rfl, ht, fun _ => hleaf ▸ Option.some_ne_none leaf⟩
              rfl
        | @tofuNotification leaf ht hleaf =>
            exact .of_awaits ⟨hgated, hstarted, rfl, ht, fun _ => hleaf ▸ Option.some_ne_none leaf⟩
              rfl
        | legacyDialog hl => exact .of_awaits ⟨hgated, hstarted, rfl, hl, legacy hl⟩ rfl
        | legacyNotification hl => exact .of_awaits ⟨hgated, hstarted, rfl, hl, legacy hl⟩ rfl
      · rintro a ⟨⟩
        show r.token.kind.isLegacy = !h.policy.trustOnFirstUseSupported
        cases asks with
        | tofuDialog ht => rw [htofu ht]; rfl
        | tofuNotification ht => rw [htofu ht]; rfl
        | legacyDialog hl => rw [hlegacy hl]; rfl
        | legacyNotification hl => rw [hlegacy hl]; rfl

theorem Coherent.supported {h : Handler σ} (hc : h.Coherent) {p : Pending}
    (hp : h.pending = some p) (htofu : p.usesTofu = true) :
    h.policy.trustOnFirstUseSupported = true := by
  have hmode := hc.mode p hp
  rw [htofu] at hmode
  exact (Bool.and_eq_true_iff.1 (Bool.and_eq_true_iff.1 hmode.symm).2).1

theorem Coherent.informed {h : Handler σ} (hnone : h.pending = none) {r : PromptRequest}
    (informs : r.token.kind.isInformational = true)
    (hsupported : h.policy.trustOnFirstUseSupported = true) : (h.prompted r).Coherent := by
  have hpending : (h.prompted r).pending = none := hnone
  refine ⟨fun p hp => ?_, fun p hp => ?_, ?_, ?_⟩
  · rw [hpending] at hp
    cases hp
  · rw [hpending] at hp
    cases hp
  · rintro a ⟨⟩
    rw [PromptToken.Fits, if_pos informs]
    exact hnone
  · rintro a ⟨⟩
    show r.token.kind.isLegacy = !h.policy.trustOnFirstUseSupported
    rw [hsupported]
    rcases PromptKind.isInformational_iff.1 informs with hr | hr
    · rw [hr]
      rfl
    · rw [hr]
      rfl

theorem activeToken_eq_some {h : Handler σ} {token : PromptToken}
    (hactive : h.activeToken = some token) : ∃ a, h.active = some a ∧ a.token = token :=
  Option.map_eq_some_iff.1 hactive

theorem Coherent.ssid_ne_empty {h : Handler σ} (hc : h.Coherent) {p : Pending} {leaf : ChainEntry}
    (hp : h.pending = some p) (hleaf : p.chain.leaf? = some leaf) : p.network.ssid ≠ "" := by
  intro hempty
  rw [hc.named p hp hempty] at hleaf
  cases hleaf

theorem Coherent.awaits {h : Handler σ} (hc : h.Coherent) {token : PromptToken} {p : Pending}
    (hactive : h.activeToken = some token) (hp : h.pending = some p) :
    p.Awaits token ∧ token.kind.isInformational = false := by
  obtain ⟨a, ha, rfl⟩ := activeToken_eq_some hactive
  have hfits : a.token.Fits (some p) := hp ▸ hc.fits a ha
  cases hkind : a.token.kind.isInformational with
  | true => exact absurd (hfits.informational hkind) (Option.some_ne_none p)
  | false =>
      obtain ⟨_, ⟨⟩, hawaits⟩ := hfits.awaited hkind
      exact ⟨hawaits, rfl⟩

variable [NetworkStore σ]

theorem Effect.coherent {h h' : Handler σ} {op : Operation} (effect : Effect h op h')
    (hc : h.Coherent) : h'.Coherent := by
  cases effect with
  | ignored => exact hc
  | prepared n =>
      rw [prepare_eq]
      refine .of_inactive rfl ?_ ?_
      · rintro p ⟨⟩
        exact Pending.opening_usesTofu h.policy n
      · rintro p ⟨⟩ _
        exact Pending.opening_chain h.policy n
  | @collected _ ssid depth c p _ chain _ hname _ hp hssid htofu hentered =>
      rw [received_eq]
      refine ⟨?_, ?_, ?_, hc.offered⟩
      · rintro q ⟨⟩
        exact hc.mode p hp
      · rintro q ⟨⟩ hempty
        exact absurd (hssid.symm.trans hempty) hname
      · intro a ha
        have hfits : a.token.Fits (some p) := hp ▸ hc.fits a ha
        refine hfits.mono fun hawaits => { hawaits with leaf := fun _ => ?_ }
        obtain ⟨leaf, hleaf⟩ := Option.ne_none_iff_exists'.1 (hawaits.leaf htofu)
        have hkept : chain.leaf? = some leaf := Chain.get?_of_insert_of_some hentered hleaf
        rw [hkept]
        exact Option.some_ne_none leaf
  | @started _ p _ hp hgated _ hlegacy shown =>
      have hmarked : h.markStarted.pending = some { p with approvalStarted := true } := by
        rw [markStarted, hp]
        rfl
      refine Coherent.shown (h := h.markStarted) ⟨?_, ?_, ?_, hc.offered⟩ ?_ shown
      · intro q hq
        rw [hmarked] at hq
        cases hq
        exact hc.mode p hp
      · intro q hq
        rw [hmarked] at hq
        cases hq
        exact hc.named p hp
      · intro a ha
        have hfits : a.token.Fits (some p) := hp ▸ hc.fits a ha
        rw [hmarked]
        exact hfits.mono fun hawaits => { hawaits with started := rfl }
      · intro q hq
        rw [hmarked] at hq
        cases hq
        refine ⟨hgated, rfl, fun hl => Bool.eq_false_iff.2 fun hsupported => ?_⟩
        have hmode := hc.mode p hp
        have htrusts : p.network.trustsOnFirstUse = true := (hlegacy hl hsupported).1
        have hdevice : h.policy.trustOnFirstUseSupported = true := hsupported
        rw [hgated, hdevice, htrusts] at hmode
        exact absurd (hl.symm.trans hmode) Bool.false_ne_true
  | @broken userSelected p hp _ htofu =>
      rw [showInvalidChain_eq, error_eq]
      refine .informed rfl ?_ (hc.supported hp htofu)
      cases userSelected
      · rfl
      · rfl
  | @reopened token _ _ hactive _ shown =>
      refine hc.shown (fun p hp => ?_) shown
      obtain ⟨hawaits, -⟩ := hc.awaits hactive hp
      refine ⟨hawaits.gated, hawaits.started, fun hl => ?_⟩
      obtain ⟨a, ha, rfl⟩ := activeToken_eq_some hactive
      have hlegacy := hawaits.mode
      rw [hl, hc.offered a ha, Bool.not_not] at hlegacy
      exact hlegacy.symm
  | acknowledged =>
      rw [dismissPrompt_eq]
      exact .of_inactive rfl hc.mode hc.named
  | installed =>
      rw [installChain_eq, grant_eq]
      exact .of_idle rfl rfl
  | approved =>
      rw [grant_eq]
      exact .of_idle rfl rfl
  | refused _ hp =>
      rw [refuse_eq h hp]
      exact .of_idle rfl rfl
  | failed =>
      rw [error_eq]
      exact .of_idle rfl rfl
  | held =>
      rw [putOnHold_eq]
      exact ⟨hc.mode, hc.named, hc.fits, hc.offered⟩
  | cleaned =>
      rw [cleanup_eq]
      exact .of_idle rfl rfl

theorem Coherent.run {h : Handler σ} (hc : h.Coherent) (ops : List Operation) :
    (h.run ops).Coherent := run_invariant Effect.coherent hc ops

def Reachable (h : Handler σ) : Prop :=
  ∃ policy store session board decisions ops,
    (fresh policy store session board decisions).run ops = h

theorem Reachable.coherent {h : Handler σ} (reachable : h.Reachable) : h.Coherent := by
  obtain ⟨policy, store, session, board, decisions, ops, rfl⟩ := reachable
  exact run_invariant Effect.coherent (coherent_fresh policy store session board decisions) ops

end Handler

namespace Corporate

def network : Network where
  id := 7
  ssid := "corp"
  enterprise := some
    { eapMethod := .peap
      innerMethod := .mschapv2
      identity := "alice"
      password := "secret"
      trustOnFirstUse := true }

def root : Certificate := .ofParts "CN=Corp Root" "CN=Corp Root" [] true

def leaf : Certificate := .ofParts "CN=radius.corp" "CN=Corp Root" [] false

def collection : List Operation :=
  [.prepare network, .addCertificate "corp" 0 leaf, .addCertificate "corp" 1 root]

def token (kind : PromptKind) : PromptToken := ⟨1, "corp", kind⟩

end Corporate

end WifiTrust
