import WifiTrust.Command.Context
import WifiTrust.Json.Form.Decision
import WifiTrust.Prompt.Menu
import WifiTrust.Replay
import WifiTrust.Saved

namespace WifiTrust

def Preparation.label : Preparation → String
  | notRequired => "NotRequired"
  | gated => "Gated"
  | onHold => "OnHold"

def PromptKind.label : PromptKind → String
  | tofuDialog => "TofuDialog"
  | legacyDialog => "LegacyDialog"
  | tofuNotification => "TofuNotification"
  | legacyNotification => "LegacyNotification"
  | invalidChainDialog => "InvalidChainDialog"
  | invalidChainNotification => "InvalidChainNotification"

/-- A replayed attempt with the place where its state was saved. -/
structure ConnectionReport where
  replayed : Replayed MemoryStore
  statePath : Path
  deriving DecidableEq

namespace ConnectionReport

/-- The prompts that were shown. -/
def prompts (r : ConnectionReport) : List String :=
  r.replayed.handler.board.shown.map (·.request.token.kind.label)

def nativeCalls (r : ConnectionReport) : List String :=
  r.replayed.handler.session.calls.map NativeCall.text

def decision? (r : ConnectionReport) : Option Decision := r.replayed.handler.decisions.getLast?

/-- The report as JSON. -/
def json (r : ConnectionReport) : Json :=
  .record [
    ("ssid", toJson r.replayed.network.ssid),
    ("network_id", toJson r.replayed.network.id),
    ("preparation", toJson r.replayed.preparation.label),
    ("certificates_accepted", .ofNat r.replayed.accepted),
    ("prompts", toJson r.prompts),
    ("decision", toJson r.decision?),
    ("native_calls", toJson r.nativeCalls),
    ("state_file", toJson r.statePath.text)]

private def decisionText (c : Context) : Option Decision → String
  | none => c.paint .dimmed "no decision"
  | some (.accept ssid) => c.paint .good (Decision.accept ssid).text
  | some (.reject ssid) => c.paint .caution (Decision.reject ssid).text
  | some (.error ssid) => c.paint .bad (Decision.error ssid).text

/-- The report for people. -/
def lines (c : Context) (r : ConnectionReport) : List String :=
  let line (label text : String) : String := "  " ++ c.labelled .dimmed label text
  let n := r.replayed.network
  ["", c.labelled .bold "Network:"
      (n.ssid ++ " (network " ++ String.ofList (Decimal.ofInt n.id.toInt) ++ ")"),
    line "preparation:" r.replayed.preparation.label,
    line "certificates:" (String.ofList (Decimal.ofNat r.replayed.accepted))] ++
  (if r.prompts = [] then [] else [line "prompts:" (" -> ".intercalate r.prompts)]) ++
  (if c.verbose then r.nativeCalls.map (line "native:") else []) ++
  [line "decision:" (decisionText c r.decision?), line "state:" r.statePath.text]

end ConnectionReport

namespace Context

/-- Show a prompt and let the user choose. -/
def ask (c : Context) (shown : ShownPrompt) : Action (Option PromptReply) := do
  let request := shown.request
  let help := match request with
    | .notification { tap := .openUrl url, .. } => [c.labelled .dimmed "Help:" url]
    | _ => []
  printAll (["", c.paint .bold request.title, request.message] ++ help)
  let chosen ← Action.choose (request.choices.map (·.1))
  return request.replyTo chosen

/-- Replay an attempt with the answers that were given beforehand, or ask. -/
def replay (c : Context) (a : Attempt) (h : Handler MemoryStore) (n : Network)
    (certificates : List Certificate) : Action (Replayed MemoryStore) :=
  match a.auto with
  | some answer =>
      MonadExcept.ofExcept (Replay.drive h n certificates (!a.background) fun shown =>
        (.ok (some (Replay.autoReply answer shown.request.token.kind)) : Except Failure _))
  | none => Replay.drive h n certificates (!a.background) c.ask

/-- Replay an attempt on the saved state, save what it came to and report. -/
def connect (c : Context) (a : Attempt) : Action Unit := do
  let policy ← Policy.load c.policyPath
  let statePath := a.state.getD c.statePath
  let store ← MemoryStore.load c.clock statePath
  let certificates ← Bundle.load a.chain a.reverse
  let h : Handler MemoryStore := { policy := policy, store := store }
  let replayed ← c.replay a h (store.applyTo a.network) certificates
  replayed.handler.store.save statePath
  let r : ConnectionReport := ⟨replayed, statePath⟩
  c.report r.json (r.lines c)

end Context

end WifiTrust
