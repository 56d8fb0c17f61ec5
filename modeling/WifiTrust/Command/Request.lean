import WifiTrust.Files.Path
import WifiTrust.Network
import WifiTrust.Output

namespace WifiTrust

/-- The answer that is given to every prompt that offers it. -/
inductive StandingAnswer where
  | accept
  | reject
  deriving DecidableEq, Inhabited, Repr

/-- A connection attempt to replay. -/
structure Attempt where
  ssid : String
  networkId : NetworkId := 1
  eapMethod : EapMethod
  innerMethod : InnerMethod := .none
  identity : String := ""
  password : String := ""
  chain : Path
  /-- Whether the bundle lists the root first. -/
  reverse : Bool := false
  /-- Without it, prompts are answered in the terminal. -/
  auto : Option StandingAnswer := none
  /-- Whether the connection is an automatic one, which begins with a notification. -/
  background : Bool := false
  /-- Whether trust on first use is off for the network. -/
  noTofu : Bool := false
  state : Option Path := none
  deriving DecidableEq, Inhabited, Repr

/-- What is asked. -/
inductive Request where
  /-- Decode a bundle and check it; it may list the root first. -/
  | inspect (chain : Path) (reverse : Bool)
  | connect (attempt : Attempt)
  | showPolicy
  | showPaths
  /-- Write a default policy, over an old one if forced to. -/
  | writePolicy (force : Bool)
  deriving DecidableEq, Inhabited, Repr

/-- What is asked and how it is to be shown. -/
structure Invocation where
  output : Option OutputFormat := none
  policyPath : Option Path := none
  verbose : Bool := false
  noColour : Bool := false
  request : Request
  deriving DecidableEq, Inhabited, Repr

/-- The network of an attempt. -/
def Attempt.network (a : Attempt) : Network where
  id := a.networkId
  ssid := a.ssid
  enterprise := some {
    eapMethod := a.eapMethod
    innerMethod := a.innerMethod
    identity := a.identity
    password := a.password
    trustOnFirstUse := !a.noTofu }

end WifiTrust
