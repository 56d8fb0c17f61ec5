namespace WifiTrust

/-- Policy and capabilities of one station interface. -/
structure Policy where
  interfaceName : String := "wlan0"
  /-- Whether a chain collected during the handshake can be installed. Without it the user is
  asked to approve the network without an authority certificate. -/
  trustOnFirstUseSupported : Bool := true
  /-- Whether enterprise networks may connect without any authority certificate. -/
  insecureEnterpriseAllowed : Bool := false
  /-- A page that explains how to install a certificate; empty if there is none. -/
  caCertHelpLink : String := ""
  deriving DecidableEq, Inhabited, Repr

namespace Policy

def helpLink (p : Policy) : Option String :=
  if p.caCertHelpLink = "" then none else some p.caCertHelpLink

end Policy

end WifiTrust
