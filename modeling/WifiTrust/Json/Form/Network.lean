import WifiTrust.Json.Form
import WifiTrust.Network
import WifiTrust.Policy

namespace WifiTrust

instance : JsonForm EapMethod :=
  ⟨fun m => .ofString m.name, Json.word? EapMethod.all EapMethod.name⟩

instance : JsonForm InnerMethod :=
  ⟨fun m => .ofString m.name, Json.word? InnerMethod.all InnerMethod.name⟩

def Selection.name : Selection → String
  | enabled => "enabled"
  | disabledByPolicy => "disabled-by-policy"

instance : JsonForm Selection :=
  ⟨fun s => .ofString s.name, Json.word? [.enabled, .disabledByPolicy] Selection.name⟩

instance : JsonForm Enterprise where
  toJson e := .record [
    ("eap_method", toJson e.eapMethod),
    ("phase2_method", toJson e.innerMethod),
    ("identity", toJson e.identity),
    ("password", toJson e.password),
    ("ca_certificate_aliases", toJson e.caAliases),
    ("ca_path", toJson e.caPath),
    ("trust_on_first_use", toJson e.trustOnFirstUse),
    ("user_approve_no_ca_cert", toJson e.approvedWithoutCa)]
  ofJson? j := do
    let slot ← j.slots? ["eap_method", "phase2_method", "identity", "password",
      "ca_certificate_aliases", "ca_path", "trust_on_first_use", "user_approve_no_ca_cert"]
    return {
      eapMethod := ← (slot "eap_method").required
      innerMethod := ← (slot "phase2_method").orElse .none
      identity := ← (slot "identity").orElse ""
      password := ← (slot "password").orElse ""
      caAliases := ← (slot "ca_certificate_aliases").orElse []
      caPath := ← (slot "ca_path").orElse none
      trustOnFirstUse := ← (slot "trust_on_first_use").orElse false
      approvedWithoutCa := ← (slot "user_approve_no_ca_cert").orElse false }

instance : JsonForm Network where
  toJson n := .record [
    ("network_id", toJson n.id),
    ("ssid", toJson n.ssid),
    ("enterprise", toJson n.enterprise)]
  ofJson? j := do
    let slot ← j.slots? ["network_id", "ssid", "enterprise"]
    return {
      id := ← (slot "network_id").required
      ssid := ← (slot "ssid").required
      enterprise := ← (slot "enterprise").orElse none }

instance : JsonForm Policy where
  toJson p := .record [
    ("interface_name", toJson p.interfaceName),
    ("trust_on_first_use_supported", toJson p.trustOnFirstUseSupported),
    ("insecure_enterprise_allowed", toJson p.insecureEnterpriseAllowed),
    ("ca_cert_help_link", toJson p.caCertHelpLink)]
  ofJson? j := do
    let slot ← j.slots? ["interface_name", "trust_on_first_use_supported",
      "insecure_enterprise_allowed", "ca_cert_help_link"]
    return {
      interfaceName := ← (slot "interface_name").orElse "wlan0"
      trustOnFirstUseSupported := ← (slot "trust_on_first_use_supported").orElse true
      insecureEnterpriseAllowed := ← (slot "insecure_enterprise_allowed").orElse false
      caCertHelpLink := ← (slot "ca_cert_help_link").orElse "" }

end WifiTrust
