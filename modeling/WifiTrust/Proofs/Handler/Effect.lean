import WifiTrust.Proofs.Handler.Frame

/-!
# Everything an operation can do

One list of the things that an operation makes of a handler, each with what has to hold for it.
Invariants and histories are proved by cases on this list, and nothing else opens the operations.
-/

namespace WifiTrust

/-- The requests that ask the user about a connection, under a token with the given number. -/
inductive Asks (policy : Policy) (p : Pending) (id : UInt64) : PromptRequest → Prop
  | tofuDialog {leaf : ChainEntry} (tofu : p.usesTofu = true) (named : p.network.ssid ≠ "")
      (leaf_eq : p.chain.leaf? = some leaf) :
      Asks policy p id (.dialog (Wording.tofuDialog ⟨id, p.network.ssid, .tofuDialog⟩ leaf))
  | tofuNotification {leaf : ChainEntry} (tofu : p.usesTofu = true)
      (leaf_eq : p.chain.leaf? = some leaf) :
      Asks policy p id
        (.notification (Wording.tofuNotification ⟨id, p.network.ssid, .tofuNotification⟩))
  | legacyDialog (legacy : p.usesTofu = false) (named : p.network.ssid ≠ "") :
      Asks policy p id
        (.dialog (Wording.legacyDialog ⟨id, p.network.ssid, .legacyDialog⟩ policy.helpLink))
  | legacyNotification (legacy : p.usesTofu = false) :
      Asks policy p id (.notification
        (Wording.legacyNotification ⟨id, p.network.ssid, .legacyNotification⟩ policy.helpLink))

def Operation.delivery? : Operation → Option (String × Int × Certificate)
  | .addCertificate ssid depth c => some (ssid, depth, c)
  | .setCertificate ssid c => some (ssid, 0, c)
  | _ => none

namespace Handler

variable {σ : Type}

/-- A try to ask about the pending connection: a request comes onto the screen, or at most the
number of a token is used up. -/
inductive Shown (h : Handler σ) : Handler σ → Prop
  | request {p : Pending} {r : PromptRequest} (pending : h.pending = some p)
      (asks : Asks h.policy p (h.lastPromptId + 1) r) : Shown h (h.prompted r)
  | nothing {id : UInt64} (count : id = h.lastPromptId ∨ id = h.lastPromptId + 1) :
      Shown h { h with lastPromptId := id }

theorem askForApproval_shown (h : Handler σ) : Shown h h.askForApproval := by
  unfold askForApproval
  split
  · exact .nothing (.inl rfl)
  · next p hp =>
      split
      · exact .nothing (.inl rfl)
      · next hname =>
          split
          · next htofu =>
              dsimp only [issueToken]
              split
              · exact .nothing (.inr rfl)
              · next leaf hleaf =>
                  rw [showPrompt_issued]
                  exact .request hp (.tofuDialog htofu hname hleaf)
          · next hlegacy =>
              dsimp only [issueToken]
              rw [showPrompt_issued]
              exact .request hp (.legacyDialog (Bool.eq_false_iff.2 hlegacy) hname)

theorem notifyUser_shown (h : Handler σ) : Shown h h.notifyUser := by
  unfold notifyUser
  split
  · exact .nothing (.inl rfl)
  · next p hp =>
      split
      · next htofu =>
          cases hleaf : p.chain.leaf? with
          | none => exact .nothing (.inl rfl)
          | some leaf =>
              dsimp only [issueToken, Option.isNone]
              rw [if_neg Bool.false_ne_true, showPrompt_issued]
              exact .request hp (.tofuNotification htofu hleaf)
      · next hlegacy =>
          dsimp only [issueToken]
          rw [showPrompt_issued]
          exact .request hp (.legacyNotification (Bool.eq_false_iff.2 hlegacy))

theorem Shown.frame {h h' : Handler σ} (shown : Shown h h') :
    h' = { h with board := h'.board, active := h'.active, lastPromptId := h'.lastPromptId } := by
  cases shown with
  | request => rfl
  | nothing => rfl

theorem beginApproval_shown (h : Handler σ) (userSelected : Bool) :
    Shown h.markStarted (h.beginApproval userSelected) := by
  cases userSelected
  · exact notifyUser_shown h.markStarted
  · exact askForApproval_shown h.markStarted

theorem beginApproval_pending (h : Handler σ) (userSelected : Bool) :
    (h.beginApproval userSelected).pending =
      h.pending.map ({ · with approvalStarted := true }) := by
  rw [(beginApproval_shown h userSelected).frame]
  rfl

private theorem guard_bind_eq_some {α : Type} {c : Prop} [Decidable c] {f : Unit → Option α}
    {x : α} : (guard c >>= f) = some x ↔ c ∧ f () = some x := by
  change ((if c then some () else none) >>= f) = some x ↔ c ∧ f () = some x
  by_cases hc : c
  · rw [if_pos hc]
    exact (and_iff_right hc).symm
  · rw [if_neg hc]
    constructor
    · intro h
      cases h
    · intro h
      exact absurd h.1 hc

theorem collect_eq_some_iff {h h' : Handler σ} {ssid : String} {depth : Int} {c : Certificate} :
    h.collect ssid depth c = some h' ↔
      ∃ p outcome chain, ssid ≠ "" ∧ 0 ≤ depth ∧ h.pending = some p ∧ p.network.ssid = ssid ∧
        p.usesTofu = true ∧ p.chain.insert depth.toNat c = (.ok outcome, chain) ∧
        h' = { h with pending := some { p with chain := chain } } := by
  rw [collect, guard_bind_eq_some]
  constructor
  · rintro ⟨⟨hname, hdepth⟩, hrest⟩
    obtain ⟨p, hp, hrest⟩ := Option.bind_eq_some_iff.1 hrest
    obtain ⟨⟨hssid, htofu⟩, hrest⟩ := guard_bind_eq_some.1 hrest
    split at hrest
    · cases hrest
    · next outcome chain hentered =>
        cases hrest
        exact ⟨p, outcome, chain, hname, hdepth, hp, hssid, htofu, hentered, rfl⟩
  · rintro ⟨p, outcome, chain, hname, hdepth, hp, hssid, htofu, hentered, rfl⟩
    refine ⟨⟨hname, hdepth⟩, Option.bind_eq_some_iff.2 ⟨p, hp, ?_⟩⟩
    refine guard_bind_eq_some.2 ⟨⟨hssid, htofu⟩, ?_⟩
    rw [hentered]
    rfl

inductive Approves (h : Handler σ) (ssid : String) : Operation → Prop
  | host : Approves h ssid (.accept ssid)
  | user {token : PromptToken} (active : h.activeToken = some token)
      (asks : token.kind.isInformational = false) (ssid_eq : token.ssid = ssid) :
      Approves h ssid (.reply token .accept)

inductive Refuses (h : Handler σ) (ssid : String) : Operation → Prop
  | host : Refuses h ssid (.reject ssid)
  | user {token : PromptToken} {reply : PromptReply} (active : h.activeToken = some token)
      (asks : token.kind.isInformational = false) (ssid_eq : token.ssid = ssid)
      (refusal : reply = .reject ∨ reply = .neutral ∨ reply = .cancel) :
      Refuses h ssid (.reply token reply)

/-- The operations that give an attempt up, and the SSID that they report. -/
inductive Fails (h : Handler σ) : Option String → Operation → Prop
  | host (ssid : Option String) : Fails h ssid (.error ssid)
  | barred {p : Pending} {userSelected : Bool} (pending : h.pending = some p)
      (gated : p.gated = true) : Fails h (some p.network.ssid) (.start userSelected)
  | unusable {p : Pending} {op : Operation} {e : ChainError}
      (approval : Approves h p.network.ssid op) (pending : h.pending = some p)
      (tofu : p.usesTofu = true) (invalid : p.chain.anchors = .error e) :
      Fails h (some p.network.ssid) op
  | lost {op : Operation} {ssid : String} (resolution : Approves h ssid op ∨ Refuses h ssid op)
      (absent : h.pending = none ∨ ssid = "") : Fails h none op
  | stale {token : PromptToken} {reply : PromptReply} (inactive : h.activeToken ≠ some token)
      (pending : h.pending = none) : Fails h none (.reply token reply)

variable [NetworkStore σ]

open NetworkStore

/-- The handler once a delivered certificate has made `chain` of the chain of `p`. -/
def received (h : Handler σ) (p : Pending) (chain : Chain) (depth : Int) : Handler σ :=
  let h := { h with pending := some { p with chain := chain } }
  if depth = 0 then h.putOnHold true else h

theorem received_eq (h : Handler σ) (p : Pending) (chain : Chain) (depth : Int) :
    h.received p chain depth =
      { h with
        store :=
          if depth = 0 then (updateSelection h.store p.network.id .disabledByPolicy).2
          else h.store
        session :=
          if depth = 0 then
            ⟨h.session.calls ++ [.disconnect h.policy.interfaceName,
              .removeCachedKeyMaterial p.network.id, .removeAllNetworks h.policy.interfaceName]⟩
          else h.session
        pending := some { p with chain := chain } } := by
  unfold received
  by_cases hdepth : depth = 0
  · rw [if_pos hdepth, if_pos hdepth, if_pos hdepth]
    exact putOnHold_eq _ true
  · rw [if_neg hdepth, if_neg hdepth, if_neg hdepth]

/-- What an operation can make of a handler. -/
inductive Effect (h : Handler σ) : Operation → Handler σ → Prop
  | ignored (op : Operation) : Effect h op h
  | prepared (n : Network) : Effect h (.prepare n) (h.prepare n).2.2
  | collected {op : Operation} {ssid : String} {depth : Int} {c : Certificate} {p : Pending}
      {outcome : Chain.Outcome} {chain : Chain} (delivery : op.delivery? = some (ssid, depth, c))
      (named : ssid ≠ "") (deep : 0 ≤ depth) (pending : h.pending = some p)
      (ssid_eq : p.network.ssid = ssid) (tofu : p.usesTofu = true)
      (entered : p.chain.insert depth.toNat c = (.ok outcome, chain)) :
      Effect h op (h.received p chain depth)
  | started {userSelected : Bool} {p : Pending} {h' : Handler σ} (pending : h.pending = some p)
      (gated : p.gated = true)
      (checked : p.usesTofu = true → p.chain.validate = .ok ())
      (legacy : p.usesTofu = false → h.policy.trustOnFirstUseSupported = true →
        p.network.trustsOnFirstUse = true ∧ h.policy.insecureEnterpriseAllowed = false)
      (shown : Shown h.markStarted h') : Effect h (.start userSelected) h'
  | broken {userSelected : Bool} {p : Pending} (pending : h.pending = some p)
      (gated : p.gated = true) (tofu : p.usesTofu = true) :
      Effect h (.start userSelected)
        ((h.error (some p.network.ssid)).showInvalidChain p.network.ssid userSelected)
  | reopened {token : PromptToken} {reply : PromptReply} {h' : Handler σ}
      (active : h.activeToken = some token)
      (kind : token.kind = .tofuNotification ∨ token.kind = .legacyDialog)
      (shown : Shown h h') : Effect h (.reply token reply) h'
  | acknowledged {token : PromptToken} (reply : PromptReply) (active : h.activeToken = some token)
      (informs : token.kind.isInformational = true) :
      Effect h (.reply token reply) h.dismissPrompt
  | installed {op : Operation} {p : Pending} {root leaf : ChainEntry}
      (approval : Approves h p.network.ssid op) (pending : h.pending = some p)
      (tofu : p.usesTofu = true) (valid : p.chain.anchors = .ok (root, leaf)) :
      Effect h op ((h.installChain p.network.id root.certificate leaf.certificate).grant
        p.network.id p.network.ssid)
  | approved {op : Operation} {p : Pending} (approval : Approves h p.network.ssid op)
      (pending : h.pending = some p) (legacy : p.usesTofu = false) :
      Effect h op ({ h with store := setApprovedWithoutCa h.store p.network.id true }.grant
        p.network.id p.network.ssid)
  | refused {op : Operation} {p : Pending} (refusal : Refuses h p.network.ssid op)
      (pending : h.pending = some p) : Effect h op (h.refuse p p.network.ssid)
  | failed {op : Operation} {ssid : Option String} (failure : Fails h ssid op) :
      Effect h op (h.error ssid)
  | held (disconnect : Bool) : Effect h (.putOnHold disconnect) (h.putOnHold disconnect)
  | cleaned : Effect h .cleanup h.cleanup

theorem addCertificate_effect (h : Handler σ) {op : Operation} {ssid : String} {depth : Int}
    {c : Certificate} (delivery : op.delivery? = some (ssid, depth, c)) :
    Effect h op (h.addCertificate ssid depth c).2 := by
  unfold addCertificate
  cases hcollect : h.collect ssid depth c with
  | none => exact .ignored op
  | some h' =>
      obtain ⟨p, outcome, chain, hname, hdepth, hp, hssid, htofu, hentered, rfl⟩ :=
        collect_eq_some_iff.1 hcollect
      exact .collected delivery hname hdepth hp hssid htofu hentered

/-- What a start can answer and leave behind. -/
inductive StartOutcome (h : Handler σ) (userSelected : Bool) : Bool × Handler σ → Prop
  | ignored : StartOutcome h userSelected (false, h)
  | barred {p : Pending} (pending : h.pending = some p) (gated : p.gated = true) :
      StartOutcome h userSelected (true, h.error (some p.network.ssid))
  | broken {p : Pending} (pending : h.pending = some p) (gated : p.gated = true)
      (tofu : p.usesTofu = true) : StartOutcome h userSelected
        (true, (h.error (some p.network.ssid)).showInvalidChain p.network.ssid userSelected)
  | begun {p : Pending} (pending : h.pending = some p) (gated : p.gated = true)
      (checked : p.usesTofu = true → p.chain.validate = .ok ())
      (legacy : p.usesTofu = false → h.policy.trustOnFirstUseSupported = true →
        p.network.trustsOnFirstUse = true ∧ h.policy.insecureEnterpriseAllowed = false) :
      StartOutcome h userSelected (true, h.beginApproval userSelected)

theorem start_outcome (h : Handler σ) (userSelected : Bool) :
    StartOutcome h userSelected (h.start userSelected) := by
  unfold start
  split
  · exact .ignored
  · next p hp =>
      split
      · exact .ignored
      · next hopen =>
          have hgated : p.gated = true := by simpa using hopen
          split
          · exact .barred hp hgated
          · next hallowed =>
              split
              · next htofu =>
                  split
                  · next hvalid =>
                      exact .begun hp hgated (fun _ => hvalid)
                        (fun hlegacy => absurd htofu (by simp [hlegacy]))
                  · next e _ =>
                      dsimp only
                      split
                      · exact .broken hp hgated htofu
                      · exact .barred hp hgated
              · next hlegacy =>
                  split
                  · exact .ignored
                  · next hheld =>
                      refine .begun hp hgated (fun htofu => absurd htofu hlegacy) ?_
                      intro _ hsupported
                      simp only [hsupported, Bool.true_and, Bool.not_eq_true] at hallowed hheld
                      simpa [hheld] using hallowed

theorem start_effect (h : Handler σ) (userSelected : Bool) :
    Effect h (.start userSelected) (h.start userSelected).2 := by
  have houtcome := start_outcome h userSelected
  generalize h.start userSelected = result at houtcome ⊢
  cases houtcome with
  | ignored => exact .ignored _
  | barred hp hgated => exact .failed (.barred hp hgated)
  | broken hp hgated htofu => exact .broken hp hgated htofu
  | begun hp hgated checked legacy =>
      exact .started hp hgated checked legacy (beginApproval_shown h userSelected)

theorem accept_of_pending {h : Handler σ} {p : Pending} (hp : h.pending = some p)
    (hname : p.network.ssid ≠ "") : h.accept p.network.ssid = h.approve p p.network.ssid := by
  unfold accept resolving
  rw [hp]
  dsimp only
  rw [if_neg hname, if_pos rfl]

theorem accept_effect (h : Handler σ) {op : Operation} {ssid : String}
    (approval : Approves h ssid op) : Effect h op (h.accept ssid) := by
  unfold accept resolving
  split
  · next hnone => exact .failed (.lost (.inl approval) (.inl hnone))
  · next p hp =>
      split
      · next hempty => exact .failed (.lost (.inl approval) (.inr hempty))
      · split
        · next hssid =>
            subst hssid
            dsimp only [approve]
            split
            · next htofu =>
                split
                · next root leaf hvalid => exact .installed approval hp htofu hvalid
                · next e hinvalid => exact .failed (.unusable approval hp htofu hinvalid)
            · next hlegacy => exact .approved approval hp (Bool.eq_false_iff.2 hlegacy)
        · exact .ignored op

theorem reject_effect (h : Handler σ) {op : Operation} {ssid : String}
    (refusal : Refuses h ssid op) : Effect h op (h.reject ssid) := by
  unfold reject resolving
  split
  · next hnone => exact .failed (.lost (.inr refusal) (.inl hnone))
  · next p hp =>
      split
      · next hempty => exact .failed (.lost (.inr refusal) (.inr hempty))
      · split
        · next hssid =>
            subst hssid
            exact .refused refusal hp
        · exact .ignored op

theorem follow_effect (h : Handler σ) {token : PromptToken} (reply : PromptReply)
    (active : h.activeToken = some token) (asks : token.kind.isInformational = false) :
    Effect h (.reply token reply) (h.follow token reply) := by
  cases reply with
  | accept => exact accept_effect h (.user active asks rfl)
  | reject => exact reject_effect h (.user active asks rfl (.inl rfl))
  | neutral => exact reject_effect h (.user active asks rfl (.inr (.inl rfl)))
  | cancel => exact reject_effect h (.user active asks rfl (.inr (.inr rfl)))
  | tap =>
      dsimp only [follow]
      split
      · next hkind => exact .reopened active (.inl hkind) (askForApproval_shown h)
      · exact .ignored _
  | link =>
      dsimp only [follow]
      split
      · next hkind => exact .reopened active (.inr hkind) (notifyUser_shown h)
      · exact .ignored _

theorem reply_of_active {h : Handler σ} {token : PromptToken}
    (active : h.activeToken = some token) (asks : token.kind.isInformational = false)
    (reply : PromptReply) : h.reply token reply = h.follow token reply := by
  unfold Handler.reply
  dsimp only
  rw [asks, if_neg Bool.false_ne_true, if_pos active]

theorem reply_of_inactive {h : Handler σ} {token : PromptToken}
    (inactive : h.activeToken ≠ some token) (pending : h.pending ≠ none) (reply : PromptReply) :
    h.reply token reply = h := by
  have hsome : h.pending.isSome = true := Option.isSome_iff_ne_none.2 pending
  unfold Handler.reply
  dsimp only
  rw [if_neg inactive, if_neg inactive, if_pos hsome, ite_self]

theorem reply_effect (h : Handler σ) (token : PromptToken) (reply : PromptReply) :
    Effect h (.reply token reply) (h.reply token reply) := by
  unfold Handler.reply
  dsimp only
  split
  · next hinforms =>
      split
      · next hactive => exact .acknowledged reply hactive hinforms
      · exact .ignored _
  · next hasks =>
      split
      · next hactive => exact follow_effect h reply hactive (Bool.eq_false_iff.2 hasks)
      · next hinactive =>
          split
          · exact .ignored _
          · next hnone => exact .failed (.stale hinactive (by simpa using hnone))

/-- Every operation does one of the things in the list. -/
theorem step_effect (h : Handler σ) (op : Operation) : Effect h op (h.step op).2 := by
  cases op with
  | prepare n => exact .prepared n
  | addCertificate ssid depth c => exact addCertificate_effect h rfl
  | setCertificate ssid c => exact addCertificate_effect h rfl
  | start userSelected => exact start_effect h userSelected
  | reply token reply => exact reply_effect h token reply
  | accept ssid => exact accept_effect h .host
  | reject ssid => exact reject_effect h .host
  | error ssid => exact .failed (.host ssid)
  | putOnHold disconnect => exact .held disconnect
  | cleanup => exact .cleaned

theorem Effect.policy_eq {h h' : Handler σ} {op : Operation} (effect : Effect h op h') :
    h'.policy = h.policy := by
  cases effect with
  | ignored => rfl
  | prepared n => rw [prepare_eq]
  | collected => rw [received_eq]
  | started _ _ _ _ shown =>
      rw [shown.frame]
      rfl
  | broken =>
      rw [showInvalidChain_eq, error_eq]
      rfl
  | reopened _ _ shown => rw [shown.frame]
  | acknowledged => rw [dismissPrompt_eq]
  | installed => rw [installChain_eq, grant_eq]
  | approved => rw [grant_eq]
  | refused _ hp => rw [refuse_eq h hp]
  | failed => rw [error_eq]
  | held => rw [putOnHold_eq]
  | cleaned => rw [cleanup_eq]

/-- What every effect keeps holds after a run if it held before. -/
theorem run_invariant {P : Handler σ → Prop}
    (keeps : ∀ {h op h'}, Effect h op h' → P h → P h') {h : Handler σ} (hP : P h)
    (ops : List Operation) : P (h.run ops) := by
  induction ops generalizing h with
  | nil => exact hP
  | cons op ops ih => exact ih (keeps (step_effect h op) hP)

theorem run_policy (h : Handler σ) (ops : List Operation) : (h.run ops).policy = h.policy := by
  have keeps {g g' : Handler σ} {op : Operation} (effect : Effect g op g')
      (hg : g.policy = h.policy) : g'.policy = h.policy := effect.policy_eq.trans hg
  exact run_invariant keeps rfl ops

end Handler

end WifiTrust
