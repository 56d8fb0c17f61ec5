import WifiTrust.Handler.Run

/-!
# What each part of an operation leaves alone

Every part of a handler's operations as one equation that names the fields it writes. The screen is
cleared in one place, the session flushed in one place and the pending network held in one place, so
three views of a handler are enough to write all of them down.
-/

namespace WifiTrust

def flushCalls (policy : Policy) (pending : Option Pending) : List NativeCall :=
  match pending with
  | none => [.removeAllNetworks policy.interfaceName]
  | some p => [.removeCachedKeyMaterial p.network.id, .removeAllNetworks policy.interfaceName]

/-- The connection that a network becomes when it is prepared. -/
def Pending.opening (policy : Policy) (n : Network) : Pending :=
  if Handler.requiresDecision policy n then
    if policy.trustOnFirstUseSupported && n.trustsOnFirstUse then
      { network := n.stripCredentials, gated := true, usesTofu := true }
    else { network := n, gated := true, usesTofu := false }
  else { network := n, gated := false, usesTofu := false }

theorem Pending.opening_usesTofu (policy : Policy) (n : Network) :
    (Pending.opening policy n).usesTofu = ((Pending.opening policy n).gated &&
      (policy.trustOnFirstUseSupported &&
        (Pending.opening policy n).network.trustsOnFirstUse)) := by
  unfold Pending.opening
  split
  · split
    · next h => simp [h]
    · next h => simpa using h
  · rfl

theorem Pending.opening_chain (policy : Policy) (n : Network) :
    (Pending.opening policy n).chain = .empty := by
  unfold Pending.opening
  split
  · split
    · rfl
    · rfl
  · rfl

namespace Handler

variable {σ : Type}

def clearedBoard (h : Handler σ) : PromptBoard :=
  match h.active with
  | none => h.board
  | some a => h.board.dismiss a.handle

def flushedSession (h : Handler σ) : NativeSession :=
  ⟨h.session.calls ++ flushCalls h.policy h.pending⟩

theorem dismissPrompt_eq (h : Handler σ) :
    h.dismissPrompt = { h with active := none, board := h.clearedBoard } := by
  obtain ⟨policy, store, session, board, decisions, pending, active, lastPromptId⟩ := h
  cases active
  · rfl
  · rfl

theorem clearNativeData_eq (h : Handler σ) :
    h.clearNativeData = { h with session := h.flushedSession } := by
  obtain ⟨policy, store, session, board, decisions, pending, active, lastPromptId⟩ := h
  cases pending
  · rfl
  · simp only [clearNativeData, flushedSession, flushCalls, call, NativeSession.call,
      List.append_assoc, List.cons_append, List.nil_append]

/-- A prompt under the next token takes the place of the one before. -/
def prompted (h : Handler σ) (request : PromptRequest) : Handler σ :=
  { h with
    lastPromptId := h.lastPromptId + 1
    board := h.clearedBoard.post request
    active := some ⟨request.token, h.clearedBoard.nextHandle⟩ }

theorem showPrompt_issued (h : Handler σ) (request : PromptRequest) :
    showPrompt { h with lastPromptId := h.lastPromptId + 1 } request = h.prompted request := by
  unfold showPrompt
  rw [dismissPrompt_eq]
  rfl

theorem cleanup_eq (h : Handler σ) :
    h.cleanup = { h with active := none, board := h.clearedBoard, pending := none } := by
  unfold cleanup
  rw [dismissPrompt_eq]

theorem askForApproval_of_leaf (h : Handler σ) {p : Pending} {leaf : ChainEntry}
    (hp : h.pending = some p) (hname : p.network.ssid ≠ "") (htofu : p.usesTofu = true)
    (hleaf : p.chain.leaf? = some leaf) :
    h.askForApproval = h.prompted
      (.dialog (Wording.tofuDialog ⟨h.lastPromptId + 1, p.network.ssid, .tofuDialog⟩ leaf)) := by
  unfold askForApproval
  rw [hp]
  dsimp only [issueToken]
  rw [if_neg hname, if_pos htofu, hleaf]
  exact showPrompt_issued h _

theorem notifyUser_of_leaf (h : Handler σ) {p : Pending} {leaf : ChainEntry}
    (hp : h.pending = some p) (htofu : p.usesTofu = true) (hleaf : p.chain.leaf? = some leaf) :
    h.notifyUser = h.prompted (.notification
      (Wording.tofuNotification ⟨h.lastPromptId + 1, p.network.ssid, .tofuNotification⟩)) := by
  unfold notifyUser
  rw [hp]
  dsimp only [issueToken]
  rw [if_pos htofu, hleaf]
  exact showPrompt_issued h _

theorem showInvalidChain_eq (h : Handler σ) (ssid : String) (userSelected : Bool) :
    h.showInvalidChain ssid userSelected = h.prompted
      (if userSelected then
        .dialog (Wording.invalidChainDialog ⟨h.lastPromptId + 1, ssid, .invalidChainDialog⟩)
      else .notification (Wording.invalidChainNotification
        ⟨h.lastPromptId + 1, ssid, .invalidChainNotification⟩)) := by
  cases userSelected
  · exact showPrompt_issued h _
  · exact showPrompt_issued h _

section Store

variable [NetworkStore σ]

open NetworkStore

def heldStore (h : Handler σ) : σ :=
  match h.pending with
  | none => h.store
  | some p => (updateSelection h.store p.network.id .disabledByPolicy).2

theorem disablePending_eq (h : Handler σ) : h.disablePending = { h with store := h.heldStore } := by
  obtain ⟨policy, store, session, board, decisions, pending, active, lastPromptId⟩ := h
  cases pending
  · rfl
  · rfl

theorem putOnHold_eq (h : Handler σ) (disconnect : Bool) :
    h.putOnHold disconnect =
      { h with
        store := h.heldStore
        session := ⟨h.session.calls ++
          ((if disconnect then [NativeCall.disconnect h.policy.interfaceName] else []) ++
            flushCalls h.policy h.pending)⟩ } := by
  unfold putOnHold
  rw [disablePending_eq]
  cases disconnect
  · exact clearNativeData_eq _
  · refine (clearNativeData_eq _).trans ?_
    simp only [flushedSession, call, NativeSession.call, List.append_assoc, if_true]

theorem error_eq (h : Handler σ) (ssid : Option String) :
    h.error ssid =
      { h with
        store := h.heldStore
        session := h.flushedSession
        board := h.clearedBoard
        active := none
        pending := none
        decisions := h.decisions ++ [.error ssid] } := by
  unfold error
  rw [disablePending_eq, dismissPrompt_eq, clearNativeData_eq]
  rfl

/-- The store once it has been asked to install a chain, and the flags if it took it. -/
def installedStore (store : σ) (id : NetworkId) (root leaf : Certificate) : σ :=
  match updateCa store id root leaf with
  | (true, store) => enableTrustOnFirstUse (setApprovedWithoutCa store id false) id false
  | (false, store) => store

theorem installChain_eq (h : Handler σ) (id : NetworkId) (root leaf : Certificate) :
    h.installChain id root leaf =
      { h with store := installedStore h.store id root leaf } := by
  unfold installChain installedStore
  obtain ⟨taken, store⟩ := updateCa h.store id root leaf
  cases taken
  · rfl
  · rfl

theorem refuse_eq (h : Handler σ) {p : Pending} (hp : h.pending = some p) (ssid : String) :
    h.refuse p ssid =
      { h with
        store := allowAutojoin h.heldStore p.network.id false
        session := h.flushedSession
        board := h.clearedBoard
        active := none
        pending := none
        decisions := h.decisions ++ [.reject ssid] } := by
  have hstore : h.heldStore = (updateSelection h.store p.network.id .disabledByPolicy).2 := by
    rw [heldStore, hp]
  dsimp only [refuse]
  rw [dismissPrompt_eq, clearNativeData_eq, hstore]
  rfl

theorem grant_eq (h : Handler σ) (id : NetworkId) (ssid : String) :
    h.grant id ssid =
      { h with
        store := allowAutojoin (updateSelection h.store id .enabled).2 id true
        board := h.clearedBoard
        active := none
        pending := none
        decisions := h.decisions ++ [.accept ssid] } := by
  dsimp only [grant]
  rw [dismissPrompt_eq]
  rfl

theorem prepare_eq (h : Handler σ) (n : Network) :
    (h.prepare n).2.2 =
      { h with
        store :=
          if requiresDecision h.policy n && !h.policy.trustOnFirstUseSupported then
            (updateSelection h.store n.id .disabledByPolicy).2
          else h.store
        session :=
          if requiresDecision h.policy n then
            ⟨h.session.calls ++
              [.removeCachedKeyMaterial n.id, .removeAllNetworks h.policy.interfaceName]⟩
          else h.session
        board := h.clearedBoard
        active := none
        pending := some (.opening h.policy n) } := by
  dsimp only [prepare]
  rw [dismissPrompt_eq]
  cases hd : requiresDecision h.policy n with
  | false => simp [Pending.opening, hd]
  | true =>
      cases hs : h.policy.trustOnFirstUseSupported with
      | false => simp [Pending.opening, hd, hs, putOnHold_eq, heldStore, flushCalls]
      | true =>
        cases ht : n.trustsOnFirstUse
        · simp [Pending.opening, hd, hs, ht, clearNativeData_eq, flushedSession, flushCalls]
        · simp [Pending.opening, hd, hs, ht, clearNativeData_eq, flushedSession, flushCalls]

theorem prepare_preparation (h : Handler σ) (n : Network) :
    (h.prepare n).1 =
      if requiresDecision h.policy n then
        if h.policy.trustOnFirstUseSupported then .gated else .onHold
      else .notRequired := by
  have hpolicy : h.dismissPrompt.policy = h.policy := by rw [dismissPrompt_eq]
  dsimp only [prepare]
  rw [hpolicy]
  split
  · split
    · rfl
    · rfl
  · rfl

theorem gated_iff (h : Handler σ) (n : Network) : (h.prepare n).1 = .gated ↔
    requiresDecision h.policy n = true ∧ h.policy.trustOnFirstUseSupported = true := by
  rw [prepare_preparation]
  cases requiresDecision h.policy n with
  | false => simp
  | true =>
      cases h.policy.trustOnFirstUseSupported with
      | false => simp
      | true => simp

theorem prepare_network (h : Handler σ) (n : Network) :
    (h.prepare n).2.1 = (Pending.opening h.policy n).network := by
  have hpolicy : h.dismissPrompt.policy = h.policy := by rw [dismissPrompt_eq]
  dsimp only [prepare]
  rw [hpolicy]
  unfold Pending.opening
  split
  · split
    · split
      · rfl
      · rfl
    · split
      · rfl
      · rfl
  · rfl

end Store

end Handler

end WifiTrust
