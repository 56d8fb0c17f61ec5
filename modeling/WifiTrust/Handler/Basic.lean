import WifiTrust.Chain
import WifiTrust.Decision
import WifiTrust.Policy
import WifiTrust.Prompt.Board
import WifiTrust.Prompt.Wording
import WifiTrust.Session
import WifiTrust.Store.Basic

/-!
# The trust handler

One handler serves one station interface and evaluates at most one connection at a time: it is
idle, then collects certificates, then waits for the user, and is idle again once the attempt is
resolved. Every resolution adds one decision.
-/

namespace WifiTrust

/-- The outcome of preparing a connection. -/
inductive Preparation where
  /-- The network needs no trust decision. -/
  | notRequired
  /-- Certificates of the handshake are collected until approval starts. -/
  | gated
  /-- No chain can be collected; the network is held until the user approves it without one. -/
  | onHold
  deriving DecidableEq, Inhabited, Repr

def Preparation.needsPrompt : Preparation → Bool
  | .notRequired => false
  | _ => true

/-- What an observer sees of a handler. -/
inductive HandlerState where
  | idle
  | awaitingCertificates
  | awaitingUserApproval
  deriving DecidableEq, Inhabited, Repr

/-- The connection under evaluation. -/
structure Pending where
  network : Network
  gated : Bool
  /-- Whether the server's chain is collected and shown to the user. -/
  usesTofu : Bool
  chain : Chain := .empty
  approvalStarted : Bool := false
  deriving DecidableEq, Inhabited

/-- The prompt on the screen. -/
structure ActivePrompt where
  token : PromptToken
  handle : Nat
  deriving DecidableEq, Inhabited, Repr

/-- A trust handler with the store, the session, the prompt board and the decisions it works on. -/
structure Handler (σ : Type) where
  policy : Policy
  store : σ
  session : NativeSession := {}
  board : PromptBoard := {}
  decisions : List Decision := []
  pending : Option Pending := none
  active : Option ActivePrompt := none
  lastPromptId : UInt64 := 0
  deriving DecidableEq

namespace Handler

variable {σ : Type}

/-- What an observer sees. -/
def state (h : Handler σ) : HandlerState :=
  match h.pending with
  | none => .idle
  | some p =>
      if p.gated then
        if p.approvalStarted then .awaitingUserApproval else .awaitingCertificates
      else .idle

def pendingSsid (h : Handler σ) : Option String := h.pending.map (·.network.ssid)

/-- The chain collected for the pending connection. -/
def chain (h : Handler σ) : Option Chain := h.pending.map (·.chain)

/-- The token of the prompt on the screen. -/
def activeToken (h : Handler σ) : Option PromptToken := h.active.map (·.token)

/-- A handler that has been given what it works on and has done nothing yet. -/
def fresh (policy : Policy) (store : σ) (session : NativeSession) (board : PromptBoard)
    (decisions : List Decision) : Handler σ where
  policy := policy
  store := store
  session := session
  board := board
  decisions := decisions

/-- A new handler on what this one worked on. -/
def successor (h : Handler σ) (policy : Policy) : Handler σ where
  policy := policy
  store := h.store
  session := h.session
  board := h.board
  decisions := h.decisions

/-- Take the prompt off the screen. -/
def dismissPrompt (h : Handler σ) : Handler σ :=
  match h.active with
  | none => h
  | some a => { h with active := none, board := h.board.dismiss a.handle }

/-- Put a request on the screen in the place of the one before. -/
def showPrompt (h : Handler σ) (request : PromptRequest) : Handler σ :=
  let h := h.dismissPrompt
  { h with
    board := h.board.post request
    active := some ⟨request.token, h.board.nextHandle⟩ }

def issueToken (h : Handler σ) (ssid : String) (kind : PromptKind) : PromptToken × Handler σ :=
  let id := h.lastPromptId + 1
  (⟨id, ssid, kind⟩, { h with lastPromptId := id })

/-- Call the supplicant. -/
def call (h : Handler σ) (c : NativeCall) : Handler σ := { h with session := h.session.call c }

/-- Flush the cached keys, so that the next handshake is a full one: first those of the pending
network, then all of the interface. -/
def clearNativeData (h : Handler σ) : Handler σ :=
  let h := match h.pending with
    | none => h
    | some p => h.call (.removeCachedKeyMaterial p.network.id)
  h.call (.removeAllNetworks h.policy.interfaceName)

/-- Show the user what the pending connection asks for. A server chain is shown by its leaf; the
token is used up even if there is none. -/
def askForApproval (h : Handler σ) : Handler σ :=
  match h.pending with
  | none => h
  | some p =>
      if p.network.ssid = "" then h
      else if p.usesTofu then
        let (token, h) := h.issueToken p.network.ssid .tofuDialog
        match p.chain.leaf? with
        | none => h
        | some leaf => h.showPrompt (.dialog (Wording.tofuDialog token leaf))
      else
        let (token, h) := h.issueToken p.network.ssid .legacyDialog
        h.showPrompt (.dialog (Wording.legacyDialog token h.policy.helpLink))

/-- Notify the user of what the pending connection asks for. -/
def notifyUser (h : Handler σ) : Handler σ :=
  match h.pending with
  | none => h
  | some p =>
      if p.usesTofu then
        if p.chain.leaf?.isNone then h
        else
          let (token, h) := h.issueToken p.network.ssid .tofuNotification
          h.showPrompt (.notification (Wording.tofuNotification token))
      else
        let (token, h) := h.issueToken p.network.ssid .legacyNotification
        h.showPrompt (.notification (Wording.legacyNotification token h.policy.helpLink))

/-- Tell the user of a broken chain. -/
def showInvalidChain (h : Handler σ) (ssid : String) (userSelected : Bool) : Handler σ :=
  if userSelected then
    let (token, h) := h.issueToken ssid .invalidChainDialog
    h.showPrompt (.dialog (Wording.invalidChainDialog token))
  else
    let (token, h) := h.issueToken ssid .invalidChainNotification
    h.showPrompt (.notification (Wording.invalidChainNotification token))

/-- Drop the attempt without a decision. -/
def cleanup (h : Handler σ) : Handler σ := { h.dismissPrompt with pending := none }

/-- Close the attempt with a decision. -/
def conclude (h : Handler σ) (d : Decision) : Handler σ :=
  { h with pending := none, decisions := h.decisions ++ [d] }

variable [NetworkStore σ]

open NetworkStore

/-- Ask the store to change the selection of a network; a refusal changes nothing here. -/
def select (h : Handler σ) (id : NetworkId) (status : Selection) : Handler σ :=
  { h with store := (updateSelection h.store id status).2 }

def disablePending (h : Handler σ) : Handler σ :=
  match h.pending with
  | none => h
  | some p => h.select p.network.id .disabledByPolicy

/-- Hold the pending network: forbid its selection, tear down the association if asked to, and
flush the cached keys. -/
def putOnHold (h : Handler σ) (disconnect : Bool) : Handler σ :=
  let h := h.disablePending
  let h := if disconnect then h.call (.disconnect h.policy.interfaceName) else h
  h.clearNativeData

/-- Whether a network needs a decision: it is an enterprise network without an authority, and no
earlier approval without one still holds. Such an approval holds where no chain can be collected,
or where none is asked for and insecure networks are allowed. -/
def requiresDecision (policy : Policy) (n : Network) : Bool :=
  match n.insecureEnterprise with
  | none => false
  | some e =>
      !(e.approvedWithoutCa &&
        (!policy.trustOnFirstUseSupported ||
          (!e.trustOnFirstUse && policy.insecureEnterpriseAllowed)))

/-- Begin to evaluate a connection in the place of the one before. If its server chain will be
collected, the credentials for the tunnel are taken out, and the handshake stalls until the chain is
approved. -/
def prepare (h : Handler σ) (n : Network) : Preparation × Network × Handler σ :=
  let h := h.dismissPrompt
  if requiresDecision h.policy n then
    let usesTofu := h.policy.trustOnFirstUseSupported && n.trustsOnFirstUse
    let n := if usesTofu then n.stripCredentials else n
    let h := { h with pending := some { network := n, gated := true, usesTofu := usesTofu } }
    if h.policy.trustOnFirstUseSupported then (.gated, n, h.clearNativeData)
    else (.onHold, n, h.putOnHold false)
  else
    (.notRequired, n,
      { h with pending := some { network := n, gated := false, usesTofu := false } })

/-- Give up the attempt. -/
def error (h : Handler σ) (ssid : Option String) : Handler σ :=
  (h.disablePending.dismissPrompt.clearNativeData).conclude (.error ssid)

def collect (h : Handler σ) (ssid : String) (depth : Int) (c : Certificate) :
    Option (Handler σ) := do
  guard (ssid ≠ "" ∧ 0 ≤ depth)
  let p ← h.pending
  guard (p.network.ssid = ssid ∧ p.usesTofu)
  match p.chain.insert depth.toNat c with
  | (.error _, _) => none
  | (.ok _, chain) => return { h with pending := some { p with chain := chain } }

/-- Record a certificate of the handshake. It is refused if no such connection collects a chain,
the depth is negative, or its names cannot be taken apart. The server's certificate puts the
network on hold, also when it comes again. -/
def addCertificate (h : Handler σ) (ssid : String) (depth : Int) (c : Certificate) :
    Bool × Handler σ :=
  match h.collect ssid depth c with
  | none => (false, h)
  | some h => (true, if depth = 0 then h.putOnHold true else h)

/-- Record the server's certificate when the handshake reports no other. -/
def setCertificate (h : Handler σ) (ssid : String) (c : Certificate) : Bool × Handler σ :=
  h.addCertificate ssid 0 c

/-- Mark that the user is being asked. -/
def markStarted (h : Handler σ) : Handler σ :=
  { h with pending := h.pending.map ({ · with approvalStarted := true }) }

/-- Ask the user now or by a notification. -/
def beginApproval (h : Handler σ) (userSelected : Bool) : Handler σ :=
  if userSelected then h.markStarted.askForApproval else h.markStarted.notifyUser

/-- Check what was collected and ask the user if needed. The answer is whether the attempt now
waits for the user or was resolved by an error. -/
def start (h : Handler σ) (userSelected : Bool) : Bool × Handler σ :=
  match h.pending with
  | none => (false, h)
  | some p =>
      if !p.gated then (false, h)
      else if h.policy.trustOnFirstUseSupported && !h.policy.insecureEnterpriseAllowed &&
          !p.network.trustsOnFirstUse then
        (true, h.error (some p.network.ssid))
      else if p.usesTofu then
        match p.chain.validate with
        | .ok () => (true, h.beginApproval userSelected)
        | .error e =>
            let h := h.error (some p.network.ssid)
            (true, if e.isBrokenLink then h.showInvalidChain p.network.ssid userSelected else h)
      else if h.policy.trustOnFirstUseSupported && h.policy.insecureEnterpriseAllowed then
        (false, h)
      else (true, h.beginApproval userSelected)

/-- Install an approved chain. The other flags follow only if the store takes it. -/
def installChain (h : Handler σ) (id : NetworkId) (root leaf : Certificate) : Handler σ :=
  match updateCa h.store id root leaf with
  | (true, store) =>
      { h with
        store := enableTrustOnFirstUse (setApprovedWithoutCa store id false) id false }
  | (false, store) => { h with store := store }

/-- Close an approved attempt: the network may be selected and joined again. -/
def grant (h : Handler σ) (id : NetworkId) (ssid : String) : Handler σ :=
  let h := h.select id .enabled
  let h := { h with store := allowAutojoin h.store id true }
  h.dismissPrompt.conclude (.accept ssid)

/-- Act on the approval of the pending connection. -/
def approve (h : Handler σ) (p : Pending) (ssid : String) : Handler σ :=
  if p.usesTofu then
    match p.chain.anchors with
    | .ok (root, leaf) =>
        (h.installChain p.network.id root.certificate leaf.certificate).grant p.network.id ssid
    | .error _ => h.error (some ssid)
  else
    { h with store := setApprovedWithoutCa h.store p.network.id true }.grant p.network.id ssid

/-- Act on the refusal of the pending connection. -/
def refuse (h : Handler σ) (p : Pending) (ssid : String) : Handler σ :=
  let h := h.select p.network.id .disabledByPolicy
  let h := { h with store := allowAutojoin h.store p.network.id false }
  (h.dismissPrompt.clearNativeData).conclude (.reject ssid)

/-- Act on the pending connection if `ssid` is its name. A different name is ignored; without a
connection or a name there is nothing left to resolve. -/
def resolving (h : Handler σ) (ssid : String) (act : Pending → Handler σ) : Handler σ :=
  match h.pending with
  | none => h.error none
  | some p =>
      if ssid = "" then h.error none
      else if p.network.ssid = ssid then act p
      else h

/-- The user approved the server of `ssid`. -/
def accept (h : Handler σ) (ssid : String) : Handler σ :=
  h.resolving ssid fun p => h.approve p ssid

/-- The user refused the server of `ssid`. -/
def reject (h : Handler σ) (ssid : String) : Handler σ :=
  h.resolving ssid fun p => h.refuse p ssid

/-- Act on the reply to the prompt on the screen. -/
def follow (h : Handler σ) (token : PromptToken) (reply : PromptReply) : Handler σ :=
  match reply with
  | .accept => h.accept token.ssid
  | .reject | .neutral | .cancel => h.reject token.ssid
  | .tap => if token.kind = .tofuNotification then h.askForApproval else h
  | .link => if token.kind = .legacyDialog then h.notifyUser else h

/-- Take a reply. Only the token of the prompt on the screen moves a pending connection; any other
reply is ignored while one is pending, and otherwise reports that its state was lost. -/
def reply (h : Handler σ) (token : PromptToken) (reply : PromptReply) : Handler σ :=
  let isActive := h.activeToken = some token
  if token.kind.isInformational then
    if isActive then h.dismissPrompt else h
  else if isActive then h.follow token reply
  else if h.pending.isSome then h
  else h.error none

end Handler

end WifiTrust
