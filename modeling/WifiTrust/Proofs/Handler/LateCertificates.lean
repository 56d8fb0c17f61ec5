import WifiTrust.Proofs.Chain.Anchors
import WifiTrust.Proofs.Handler.Coherence
import WifiTrust.Proofs.Store.Recorded
import WifiTrust.Store.Memory

/-!
# Certificates that arrive while the user decides

A connection goes on collecting after its approval has begun. The chain that was checked is the one
that is installed exactly if no certificate falls on a vacant depth in the meantime.
-/

namespace WifiTrust

/-- What can come between the prompt and its answer: certificates and taps. -/
def Operation.isLate : Operation → Bool
  | .addCertificate .. | .setCertificate .. | .reply _ .tap => true
  | _ => false

/-- The operation delivers a certificate that a chain collected for the SSID has room for. -/
def Operation.Fills (op : Operation) (ssid : String) (chain : Chain) : Prop :=
  ∃ depth c entry, op.delivery? = some (ssid, depth, c) ∧ 0 ≤ depth ∧
    chain.get? depth.toNat = none ∧ ChainEntry.ofCertificate depth.toNat c = .ok entry

namespace Handler

variable {σ : Type}

/-- A prompt is on the screen while the connection collects its chain. -/
structure Waiting (h : Handler σ) (p : Pending) : Prop where
  coherent : h.Coherent
  pending : h.pending = some p
  tofu : p.usesTofu = true
  asked : h.active ≠ none

theorem Waiting.awaits {h : Handler σ} {p : Pending} (hw : h.Waiting p) :
    ∃ token, h.activeToken = some token ∧ p.Awaits token ∧
      token.kind.isInformational = false := by
  obtain ⟨a, ha⟩ := Option.ne_none_iff_exists'.1 hw.asked
  have hactive : h.activeToken = some a.token := by
    rw [activeToken, ha]
    rfl
  exact ⟨a.token, hactive, hw.coherent.awaits hactive hw.pending⟩

theorem Waiting.ssid_ne_empty {h : Handler σ} {p : Pending} (hw : h.Waiting p) :
    p.network.ssid ≠ "" := by
  obtain ⟨_, _, hawaits, _⟩ := hw.awaits
  obtain ⟨leaf, hleaf⟩ := Option.ne_none_iff_exists'.1 (hawaits.leaf hw.tofu)
  exact hw.coherent.ssid_ne_empty hw.pending hleaf

variable [NetworkStore σ]

/-- A delivery changes the chain exactly if it fills a vacant depth. -/
theorem Waiting.addCertificate {h : Handler σ} {p : Pending} (hw : h.Waiting p) {op : Operation}
    {ssid : String} {depth : Int} {c : Certificate}
    (delivery : op.delivery? = some (ssid, depth, c)) :
    ∃ chain, (h.addCertificate ssid depth c).2.Waiting { p with chain := chain } ∧
      p.chain.Extends chain ∧ (chain = p.chain ↔ ¬op.Fills p.network.ssid p.chain) := by
  have hcoherent := (addCertificate_effect h delivery).coherent hw.coherent
  revert hcoherent
  unfold Handler.addCertificate
  cases hcollect : h.collect ssid depth c with
  | none =>
      intro _
      refine ⟨p.chain, hw, .refl p.chain, fun _ => ?_, fun _ => rfl⟩
      rintro ⟨depth', c', entry, hdelivery, hdepth, hvacant, hentry⟩
      rw [delivery] at hdelivery
      cases hdelivery
      have hentered := Chain.insert_eq_ok_iff.2 ⟨entry, hentry, .inr ⟨rfl, hvacant, rfl⟩⟩
      have hsome := collect_eq_some_iff.2
        ⟨p, _, _, hw.ssid_ne_empty, hdepth, hw.pending, rfl, hw.tofu, hentered, rfl⟩
      rw [hcollect] at hsome
      cases hsome
  | some h' =>
      obtain ⟨q, outcome, chain, _, hdepth, hq, hssid, _, hentered, rfl⟩ :=
        collect_eq_some_iff.1 hcollect
      cases hw.pending.symm.trans hq
      intro hcoherent
      have hreceived := received_eq h p chain depth
      refine ⟨chain, ⟨hcoherent, ?_, hw.tofu, ?_⟩, Chain.extends_of_insert hentered, ?_⟩
      · exact congrArg Handler.pending hreceived
      · have hactive : (h.received p chain depth).active = h.active := by rw [hreceived]
        exact fun hnone => hw.asked (hactive.symm.trans hnone)
      · rw [Chain.insert_unchanged_iff hentered]
        obtain ⟨entry, hentry, _⟩ := Chain.insert_eq_ok_iff.1 hentered
        constructor
        · rintro htaken ⟨depth', c', _, hdelivery, _, hvacant, _⟩
          rw [delivery] at hdelivery
          cases hdelivery
          exact htaken hvacant
        · intro hfills hvacant
          exact hfills ⟨depth, c, entry, hssid ▸ delivery, hdepth, hvacant, hentry⟩

theorem Waiting.tap_shown {h : Handler σ} {p : Pending} (hw : h.Waiting p) (token : PromptToken) :
    Shown h (h.reply token .tap) := by
  have hpending : h.pending ≠ none := by
    rw [hw.pending]
    exact Option.some_ne_none p
  by_cases hactive : h.activeToken = some token
  · obtain ⟨_, hasks⟩ := hw.coherent.awaits hactive hw.pending
    rw [reply_of_active hactive hasks]
    dsimp only [follow]
    split
    · exact askForApproval_shown h
    · exact .nothing (.inl rfl)
  · rw [reply_of_inactive hactive hpending]
    exact .nothing (.inl rfl)

theorem Waiting.tap {h : Handler σ} {p : Pending} (hw : h.Waiting p) (token : PromptToken) :
    (h.reply token .tap).Waiting p := by
  have hcoherent := (reply_effect h token .tap).coherent hw.coherent
  have hshown := hw.tap_shown token
  generalize h.reply token .tap = h' at hshown hcoherent ⊢
  cases hshown with
  | request => exact ⟨hcoherent, hw.pending, hw.tofu, Option.some_ne_none _⟩
  | nothing => exact ⟨hcoherent, hw.pending, hw.tofu, hw.asked⟩

/-- One operation: the chain grows at most, and exactly if a vacant depth is filled. -/
theorem Waiting.step {h : Handler σ} {p : Pending} (hw : h.Waiting p) {op : Operation}
    (late : op.isLate = true) :
    ∃ chain, (h.step op).2.Waiting { p with chain := chain } ∧ p.chain.Extends chain ∧
      (chain = p.chain ↔ ¬op.Fills p.network.ssid p.chain) := by
  cases op with
  | addCertificate ssid depth c => exact hw.addCertificate rfl
  | setCertificate ssid c => exact hw.addCertificate rfl
  | reply token reply =>
      cases reply with
      | tap =>
          refine ⟨p.chain, hw.tap token, .refl p.chain, fun _ => ?_, fun _ => rfl⟩
          rintro ⟨_, _, _, hdelivery, _⟩
          cases hdelivery
      | accept | reject | neutral | cancel | link => cases late
  | prepare | start | accept | reject | error | putOnHold | cleanup => cases late

theorem Waiting.run {h : Handler σ} {p : Pending} (hw : h.Waiting p) {ops : List Operation}
    (late : ∀ op ∈ ops, op.isLate = true) :
    ∃ chain, (h.run ops).Waiting { p with chain := chain } ∧ p.chain.Extends chain ∧
      (chain = p.chain ↔ ∀ op ∈ ops, ¬op.Fills p.network.ssid p.chain) := by
  induction ops generalizing h p with
  | nil => exact ⟨p.chain, hw, .refl p.chain, fun _ => List.forall_mem_nil _, fun _ => rfl⟩
  | cons op ops ih =>
      obtain ⟨next, hnext, hgrown, hkept⟩ := hw.step (late op List.mem_cons_self)
      obtain ⟨chain, hchain, hext, hrest⟩ := ih hnext fun o ho => late o (List.mem_cons_of_mem _ ho)
      refine ⟨chain, hchain, hgrown.trans hext, fun hsame => ?_, fun hfree => ?_⟩
      · have hnextSame : next = p.chain := by
          refine (hgrown.antisymm ?_).symm
          rw [← hsame]
          exact hext
        have hfree := hrest.1 (hsame.trans hnextSame.symm)
        rw [List.forall_mem_cons]
        refine ⟨hkept.1 hnextSame, ?_⟩
        rw [← hnextSame]
        exact hfree
      · rw [List.forall_mem_cons] at hfree
        have hnextSame : next = p.chain := hkept.2 hfree.1
        refine (hrest.2 ?_).trans hnextSame
        rw [← hnextSame] at hfree
        exact hfree.2

theorem start_eq_beginApproval {h : Handler σ} {userSelected : Bool}
    (started : (h.start userSelected).1 = true) {p : Pending}
    (pending : (h.start userSelected).2.pending = some p) (tofu : p.usesTofu = true) :
    ∃ q, h.pending = some q ∧ p = { q with approvalStarted := true } ∧
      q.chain.validate = .ok () ∧ (h.start userSelected).2 = h.beginApproval userSelected := by
  have houtcome := start_outcome h userSelected
  generalize h.start userSelected = result at houtcome started pending ⊢
  cases houtcome with
  | ignored => cases started
  | barred =>
      rw [error_eq] at pending
      cases pending
  | broken =>
      rw [showInvalidChain_eq, error_eq] at pending
      cases pending
  | @begun q hq _ checked =>
      rw [beginApproval_pending, hq] at pending
      cases pending
      exact ⟨q, hq, rfl, checked tofu, rfl⟩

/-- After such a start the chain has anchors and a prompt is on the screen. -/
theorem Coherent.start_waiting {h : Handler σ} (hc : h.Coherent) {userSelected : Bool}
    (started : (h.start userSelected).1 = true) {p : Pending}
    (pending : (h.start userSelected).2.pending = some p) (tofu : p.usesTofu = true) :
    (h.start userSelected).2.Waiting p ∧ ∃ root leaf, p.chain.anchors = .ok (root, leaf) := by
  obtain ⟨q, hq, rfl, hvalid, hbegun⟩ := start_eq_beginApproval started pending tofu
  obtain ⟨root, leaf, hanchors⟩ := Chain.validate_eq_ok_iff.1 hvalid
  have hleaf : q.chain.leaf? = some leaf := Chain.leaf?_of_anchors hanchors
  have hname : q.network.ssid ≠ "" := hc.ssid_ne_empty hq hleaf
  have hmarked : h.markStarted.pending = some { q with approvalStarted := true } := by
    rw [markStarted, hq]
    rfl
  refine ⟨⟨(start_effect h userSelected).coherent hc, pending, tofu, ?_⟩, root, leaf, hanchors⟩
  rw [hbegun, beginApproval]
  cases userSelected
  · rw [if_neg Bool.false_ne_true, notifyUser_of_leaf _ hmarked tofu hleaf]
    exact Option.some_ne_none _
  · rw [if_pos rfl, askForApproval_of_leaf _ hmarked hname tofu hleaf]
    exact Option.some_ne_none _

theorem Waiting.accept_eq {h : Handler σ} {p : Pending} (hw : h.Waiting p) {token : PromptToken}
    (hactive : h.activeToken = some token) :
    h.reply token .accept = h.approve p p.network.ssid := by
  obtain ⟨hawaits, hasks⟩ := hw.coherent.awaits hactive hw.pending
  rw [reply_of_active hactive hasks]
  dsimp only [follow]
  rw [← hawaits.ssid_eq]
  exact accept_of_pending hw.pending hw.ssid_ne_empty

theorem installs_installedStore (r : Recorded σ) (id : NetworkId) (root leaf : Certificate) :
    (installedStore r id root leaf).installs = r.installs ++ [(id, root, leaf)] := by
  have hasked := Recorded.installs_updateCa r id root leaf
  unfold installedStore
  split
  · next store hupdate =>
      rw [hupdate] at hasked
      rw [Recorded.installs_enableTrustOnFirstUse, Recorded.installs_setApprovedWithoutCa]
      exact hasked
  · next store hupdate =>
      rw [hupdate] at hasked
      exact hasked

theorem installs_heldStore (h : Handler (Recorded σ)) :
    h.heldStore.installs = h.store.installs := by
  unfold heldStore
  cases h.pending with
  | none => rfl
  | some p => exact Recorded.installs_updateSelection h.store p.network.id .disabledByPolicy

/-- The user's approval ends in an acceptance, and the store is asked for one installation. -/
structure Grants (h : Handler (Recorded σ)) (token : PromptToken) (n : Network)
    (root leaf : Certificate) : Prop where
  decided : (h.reply token .accept).decisions = h.decisions ++ [.accept n.ssid]
  installs : (h.reply token .accept).store.installs = h.store.installs ++ [(n.id, root, leaf)]

theorem Waiting.grants {h : Handler (Recorded σ)} {p : Pending} (hw : h.Waiting p)
    {token : PromptToken} (hactive : h.activeToken = some token) {root leaf : ChainEntry}
    (valid : p.chain.anchors = .ok (root, leaf)) :
    h.Grants token p.network root.certificate leaf.certificate := by
  have haccept : h.reply token .accept =
      (h.installChain p.network.id root.certificate leaf.certificate).grant p.network.id
        p.network.ssid := by
    rw [hw.accept_eq hactive, approve, if_pos hw.tofu, valid]
  rw [installChain_eq, grant_eq] at haccept
  constructor
  · rw [haccept]
  · rw [haccept]
    dsimp only
    rw [Recorded.installs_allowAutojoin, Recorded.installs_updateSelection,
      installs_installedStore]

/-- An approval of a chain that has become invalid installs nothing. -/
theorem Waiting.gives_up {h : Handler (Recorded σ)} {p : Pending} (hw : h.Waiting p)
    {token : PromptToken} (hactive : h.activeToken = some token) {e : ChainError}
    (invalid : p.chain.anchors = .error e) :
    (h.reply token .accept).decisions = h.decisions ++ [.error (some p.network.ssid)] ∧
      (h.reply token .accept).store.installs = h.store.installs := by
  have haccept : h.reply token .accept = h.error (some p.network.ssid) := by
    rw [hw.accept_eq hactive, approve, if_pos hw.tofu, invalid]
  rw [error_eq] at haccept
  constructor
  · rw [haccept]
  · rw [haccept]
    exact installs_heldStore h

/-- Whether approval freezes the chain. While the user decides, the chain stays the one that was
checked, and an approval installs its ends, exactly if no certificate falls on a vacant depth of
it. Otherwise an approval installs the ends of what the chain has grown to, with a root that was not
checked, or fails if that is no valid chain. -/
theorem approval_keeps_chain_iff {h : Handler (Recorded σ)} (reachable : h.Reachable)
    {userSelected : Bool} (started : (h.start userSelected).1 = true) {p : Pending}
    (pending : (h.start userSelected).2.pending = some p) (tofu : p.usesTofu = true)
    {ops : List Operation} (late : ∀ op ∈ ops, op.isLate = true) :
    let h' := (h.start userSelected).2.run ops
    ∃ root leaf token chain, p.chain.anchors = .ok (root, leaf) ∧
      h'.activeToken = some token ∧ h'.pending = some { p with chain := chain } ∧
      (chain = p.chain ∧ h'.Grants token p.network root.certificate leaf.certificate ↔
        ∀ op ∈ ops, ¬op.Fills p.network.ssid p.chain) ∧
      (∀ root' leaf', chain.anchors = .ok (root', leaf') →
        leaf' = leaf ∧ h'.Grants token p.network root'.certificate leaf'.certificate ∧
          (chain ≠ p.chain → ∃ n, chain.get? n = some root' ∧ p.chain.get? n = none)) ∧
      (∀ e, chain.anchors = .error e →
        (h'.reply token .accept).decisions = h'.decisions ++ [.error (some p.network.ssid)] ∧
          (h'.reply token .accept).store.installs = h'.store.installs) := by
  intro h'
  obtain ⟨hw, root, leaf, hvalid⟩ := reachable.coherent.start_waiting started pending tofu
  obtain ⟨chain, hwaiting, hext, hkept⟩ := hw.run late
  obtain ⟨token, hactive, _⟩ := hwaiting.awaits
  refine ⟨root, leaf, token, chain, hvalid, hactive, hwaiting.pending, ?_, ?_, ?_⟩
  · constructor
    · rintro ⟨hsame, _⟩
      exact hkept.1 hsame
    · intro hfree
      have hsame : chain = p.chain := hkept.2 hfree
      subst hsame
      exact ⟨rfl, hwaiting.grants hactive hvalid⟩
  · intro root' leaf' hvalid'
    obtain ⟨hleaf, hroot⟩ := Chain.anchors_of_extends hext hvalid hvalid'
    exact ⟨hleaf, hwaiting.grants hactive hvalid', hroot⟩
  · intro e hinvalid
    exact hwaiting.gives_up hactive hinvalid

end Handler

namespace Corporate

def rootEntry : ChainEntry :=
  ⟨1, root, { commonName := "Corp Root" }, { commonName := "Corp Root" }⟩

def leafEntry : ChainEntry :=
  ⟨0, leaf, { commonName := "radius.corp" }, { commonName := "Corp Root" }⟩

/-- An authority that the corporate chain does not have. It has the name of the corporate root. -/
def rogue : Certificate := .ofParts "CN=Corp Root" "CN=Rogue" [] true

def collected : Handler (Recorded MemoryStore) :=
  (Handler.fresh {} ⟨{ clock := default }, []⟩ {} {} []).run collection

def asked : Pending where
  network := network.stripCredentials
  gated := true
  usesTofu := true
  chain := (Chain.empty.put leafEntry).put rootEntry
  approvalStarted := true

end Corporate

namespace Handler

open Corporate

theorem approval_keeps_corporate_chain :
    (collected.start true).1 = true ∧ (collected.start true).2.pending = some asked ∧
      ∃ root leaf, asked.chain.anchors = .ok (root, leaf) ∧
        ((collected.start true).2.run [.setCertificate "corp" rogue,
          .reply (token .tofuDialog) .tap]).Grants (token .tofuDialog) asked.network
            root.certificate leaf.certificate := by
  have reachable : collected.Reachable := ⟨_, _, _, _, _, _, rfl⟩
  have started : (collected.start true).1 = true := by rfl
  have pending : (collected.start true).2.pending = some asked := by rfl
  have late : ∀ op ∈ [Operation.setCertificate "corp" rogue, .reply (token .tofuDialog) .tap],
      op.isLate = true := by
    rw [List.forall_mem_cons, List.forall_mem_singleton]
    exact ⟨rfl, rfl⟩
  obtain ⟨root, leaf, t, _, hvalid, hactive, _, hkept, _⟩ :=
    approval_keeps_chain_iff reachable started pending rfl late
  have hfree : ∀ op ∈ [Operation.setCertificate "corp" rogue, .reply (token .tofuDialog) .tap],
      ¬op.Fills "corp" asked.chain := by
    rw [List.forall_mem_cons, List.forall_mem_singleton]
    constructor
    · rintro ⟨_, _, _, hdelivery, _, hvacant, _⟩
      cases hdelivery
      cases hvacant
    · rintro ⟨_, _, _, hdelivery, _⟩
      cases hdelivery
  have htoken : token .tofuDialog = t := Option.some.inj hactive
  subst htoken
  exact ⟨started, pending, root, leaf, hvalid, (hkept.2 hfree).2⟩

/-- Approval does not freeze the chain: a certificate above the root that was checked takes its
place, and the approval installs it. -/
theorem approval_does_not_freeze_chain :
    ¬∀ (h : Handler (Recorded MemoryStore)) (userSelected : Bool) (p : Pending)
        (root leaf : ChainEntry) (ops : List Operation) (token : PromptToken),
      h.Reachable → (h.start userSelected).1 = true →
      (h.start userSelected).2.pending = some p → p.usesTofu = true →
      p.chain.anchors = .ok (root, leaf) → (∀ op ∈ ops, op.isLate = true) →
      ((h.start userSelected).2.run ops).activeToken = some token →
      ((h.start userSelected).2.run ops).chain = some p.chain ∧
        ((h.start userSelected).2.run ops).Grants token p.network root.certificate
          leaf.certificate := by
  intro frozen
  have late : ∀ op ∈ [Operation.addCertificate "corp" 2 rogue], op.isLate = true := by
    rw [List.forall_mem_singleton]
    rfl
  have hfrozen := frozen collected true asked rootEntry leafEntry _ (token .tofuDialog)
    ⟨_, _, _, _, _, _, rfl⟩ (by rfl) (by rfl) rfl (by rfl) late (by rfl)
  have hissuer : ["CN=Rogue"] = ["CN=Corp Root"] :=
    congrArg (·.map (·.2.1.issuer)) hfrozen.2.installs
  exact absurd hissuer (by decide)

end Handler

end WifiTrust
