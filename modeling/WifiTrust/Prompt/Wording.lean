import WifiTrust.Chain
import WifiTrust.Prompt.Basic

namespace WifiTrust.Wording

/-- How many hexadecimal digits of the server's signature the user is shown. -/
def excerptLength : Nat := 16

def signatureExcerpt (signature : Bytes) : String :=
  String.ofList ((Hex.encode signature).take excerptLength)

private def lineIfAny (label value : String) : String :=
  if value = "" then "" else label ++ value ++ "\n"

/-- The body of the approval dialog: what the server's certificate says of itself. -/
def tofuMessage (leaf : ChainEntry) : String :=
  "This network has no CA certificate to verify its server. Only connect if the details below " ++
    "match what your network administrator gave you.\n\n" ++
  "Server name: " ++ leaf.subject.commonName ++ "\n" ++
  "Issuer name: " ++ leaf.issuer.commonName ++ "\n" ++
  lineIfAny "Organization: " leaf.subject.organization ++
  lineIfAny "Contact: " leaf.subject.email ++
  "Signature: " ++ signatureExcerpt leaf.certificate.signature ++ "\n"

def tofuDialog (token : PromptToken) (leaf : ChainEntry) : Dialog where
  token := token
  title := "Trust this network's server?"
  message := tofuMessage leaf
  positive := some "Trust and connect"
  negative := some "Don't connect"
  neutral := none
  link := none

private def legacyTitle : String := "Can't verify this network"

private def legacyContinue : String := "Connect anyway"

private def legacyAbort : String := "Don't connect"

def legacyDialog (token : PromptToken) (helpLink : Option String) : Dialog where
  token := token
  title := legacyTitle
  message := token.ssid ++ " has no CA certificate, so its server can't be verified. " ++
    "Your credentials could be exposed to an impostor."
  positive := some legacyContinue
  negative := some legacyAbort
  neutral := none
  link := helpLink.map fun url => ⟨"Learn about certificates", url⟩

def tofuNotification (token : PromptToken) : Notification where
  token := token
  title := "Network needs your approval"
  message := "Tap to review the server of " ++ token.ssid ++ " before connecting."
  tap := .reply
  accept := none
  reject := none

def legacyNotification (token : PromptToken) (helpLink : Option String) : Notification where
  token := token
  title := legacyTitle
  message := token.ssid ++ " can't be verified because it has no CA certificate."
  tap := match helpLink with
    | none => .nothing
    | some url => .openUrl url
  accept := some legacyContinue
  reject := some legacyAbort

private def invalidTitle : String := "Can't connect to this network"

private def invalidMessage (ssid : String) : String :=
  "The server of " ++ ssid ++ " presented an incomplete or inconsistent certificate chain. " ++
    "Ask your network administrator for a CA certificate."

def invalidChainDialog (token : PromptToken) : Dialog where
  token := token
  title := invalidTitle
  message := invalidMessage token.ssid
  positive := some "OK"
  negative := none
  neutral := none
  link := none

def invalidChainNotification (token : PromptToken) : Notification where
  token := token
  title := invalidTitle
  message := invalidMessage token.ssid
  tap := .nothing
  accept := none
  reject := none

end WifiTrust.Wording
