import WifiTrust.Command.Connect
import WifiTrust.Proofs.Action
import WifiTrust.Proofs.Handler.Unasked

namespace WifiTrust

open Script (World)

namespace Context

def printed (c : Context) (json : Json) (lines : List String) : List String :=
  match c.format with
  | .json => [json.pretty ++ "\n"]
  | .pretty => lines.map (· ++ "\n")

theorem perform_printAll (lines : List String) (w : World) :
    (printAll lines).perform w =
      (.ok (), { w with output := w.output ++ lines.map (· ++ "\n") }) := by
  induction lines generalizing w with
  | nil =>
      rw [List.map_nil, List.append_nil]
      rfl
  | cons line lines ih =>
      change (printAll lines).perform { w with output := w.output ++ [line ++ "\n"] } = _
      rw [ih, List.map_cons, List.append_assoc, List.singleton_append]

theorem perform_report (c : Context) (json : Json) (lines : List String) (w : World) :
    (c.report json lines).perform w =
      (.ok (), { w with output := w.output ++ c.printed json lines }) := by
  unfold report printed
  cases c.format with
  | json => rfl
  | pretty => exact perform_printAll lines w

/-- The report of a connection in which nothing has happened. -/
def quietReport (c : Context) (ssid : String) (id : NetworkId) (state : Path) : List String :=
  match c.format with
  | .json =>
      [(Json.record [
        ("ssid", .ofString ssid),
        ("network_id", .ofInt id.toInt),
        ("preparation", .ofString "NotRequired"),
        ("certificates_accepted", .ofNat 0),
        ("prompts", .array []),
        ("decision", .null),
        ("native_calls", .array []),
        ("state_file", .ofString state.text)]).pretty ++ "\n"]
  | .pretty =>
      ["",
        c.paint .bold "Network:" ++ " " ++
          (ssid ++ " (network " ++ String.ofList (Decimal.ofInt id.toInt) ++ ")"),
        "  " ++ (c.paint .dimmed "preparation:" ++ " " ++ "NotRequired"),
        "  " ++ (c.paint .dimmed "certificates:" ++ " " ++ "0"),
        "  " ++ (c.paint .dimmed "decision:" ++ " " ++ c.paint .dimmed "no decision"),
        "  " ++ (c.paint .dimmed "state:" ++ " " ++ state.text)].map (· ++ "\n")

end Context

namespace ConnectionReport

structure Uneventful (r : ConnectionReport) : Prop where
  preparation : r.replayed.preparation = .notRequired
  accepted : r.replayed.accepted = 0
  prompts : r.prompts = []
  decision : r.decision? = none
  nativeCalls : r.nativeCalls = []

theorem prompts_eq (r : ConnectionReport) :
    r.prompts = r.replayed.handler.board.requests.map (·.token.kind.label) := by
  simp [prompts, PromptBoard.requests]

theorem Uneventful.of_undisturbed {r : ConnectionReport} {policy : Policy} {store : MemoryStore}
    (preparation : r.replayed.preparation = .notRequired) (accepted : r.replayed.accepted = 0)
    (undisturbed : Handler.Undisturbed { policy := policy, store := store } r.replayed.handler) :
    r.Uneventful where
  preparation := preparation
  accepted := accepted
  prompts := by
    rw [prompts_eq, undisturbed.requests]
    rfl
  decision := by
    rw [decision?, undisturbed.decisions]
    rfl
  nativeCalls := by
    rw [ConnectionReport.nativeCalls, undisturbed.session]
    rfl

theorem Uneventful.printed {r : ConnectionReport} (h : r.Uneventful) (c : Context) :
    c.printed r.json (r.lines c) =
      c.quietReport r.replayed.network.ssid r.replayed.network.id r.statePath := by
  unfold Context.printed Context.quietReport
  cases c.format with
  | json =>
      dsimp only
      rw [json, h.preparation, h.accepted, h.prompts, h.decision, h.nativeCalls]
      rfl
  | pretty =>
      have hcount : String.ofList (Decimal.ofNat 0) = "0" := by decide +kernel
      dsimp only
      rw [lines, h.preparation, h.accepted, h.prompts, h.decision, h.nativeCalls, if_pos rfl,
        List.map_nil, ite_self, hcount]
      rfl

end ConnectionReport

end WifiTrust
