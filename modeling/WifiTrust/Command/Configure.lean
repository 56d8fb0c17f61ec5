import WifiTrust.Command.Context
import WifiTrust.Json.Form.Network
import WifiTrust.Json.Sorted
import WifiTrust.Saved

namespace WifiTrust.Context

def showPolicy (c : Context) : Action Unit := do
  let policy ← Policy.load c.policyPath
  let json : Json := .record [
    ("output_format", toJson c.format.name),
    ("handler_config", toJson c.policyPath.text),
    ("state_file", toJson c.statePath.text),
    ("handler", toJson policy)]
  let line (label text : String) : String := "  " ++ c.labelled .bold label text
  c.report json.sorted [
    c.paint .bold "Handler Configuration:",
    "",
    line "interface_name:" policy.interfaceName,
    line "trust_on_first_use_supported:" (yesNo policy.trustOnFirstUseSupported),
    line "insecure_enterprise_allowed:" (yesNo policy.insecureEnterpriseAllowed),
    line "ca_cert_help_link:" (policy.helpLink.getD (c.paint .dimmed "(not set)"))]

def showPaths (c : Context) : Action Unit :=
  let json : Json := .record [
    ("config", toJson c.settingsPath.text),
    ("handler_config", toJson c.policyPath.text),
    ("state_file", toJson c.statePath.text)]
  c.report json.sorted [
    c.labelled .bold "config:" c.settingsPath.text,
    c.labelled .bold "handler:" c.policyPath.text,
    c.labelled .bold "state:" c.statePath.text]

/-- Write a default policy. One that is there already is kept unless `force` is given. -/
def writePolicy (c : Context) (force : Bool) : Action Unit := do
  if (← Action.pathExists c.policyPath) && !force then throw (.occupied c.policyPath)
  Action.makeRoomFor c.policyPath fun _ => .ownFile
  Action.write c.policyPath (Policy.toToml {}) .ownFile
  Action.printLine (c.labelled .good "Success:" ("wrote " ++ c.policyPath.text))

end WifiTrust.Context
