import WifiTrust.Text.Lettercase

namespace WifiTrust

abbrev NetworkId := Int32

/-- Outer authentication method of an enterprise network. -/
inductive EapMethod where
  | none
  | peap
  | tls
  | ttls
  | pwd
  | sim
  | aka
  | akaPrime
  | unauthTls
  | wapiCert
  deriving DecidableEq, Inhabited, Repr

namespace EapMethod

def all : List EapMethod :=
  [none, peap, tls, ttls, pwd, sim, aka, akaPrime, unauthTls, wapiCert]

def name : EapMethod → String
  | none => "none"
  | peap => "peap"
  | tls => "tls"
  | ttls => "ttls"
  | pwd => "pwd"
  | sim => "sim"
  | aka => "aka"
  | akaPrime => "aka-prime"
  | unauthTls => "unauth-tls"
  | wapiCert => "wapi-cert"

/-- The method with a written name, in any letter case. -/
def ofText? (text : String) : Option EapMethod :=
  if Text.isWord text "aka'" then some akaPrime
  else all.find? fun m => Text.isWord text m.name

def usesServerCert : EapMethod → Bool
  | peap | tls | ttls => true
  | _ => false

def isTunneled : EapMethod → Bool
  | peap | ttls => true
  | _ => false

end EapMethod

/-- Authentication method inside the tunnel. -/
inductive InnerMethod where
  | none
  | pap
  | mschap
  | mschapv2
  | gtc
  | sim
  | aka
  | akaPrime
  deriving DecidableEq, Inhabited, Repr

namespace InnerMethod

def all : List InnerMethod := [none, pap, mschap, mschapv2, gtc, sim, aka, akaPrime]

def name : InnerMethod → String
  | none => "none"
  | pap => "pap"
  | mschap => "mschap"
  | mschapv2 => "mschapv2"
  | gtc => "gtc"
  | sim => "sim"
  | aka => "aka"
  | akaPrime => "aka-prime"

def ofText? (text : String) : Option InnerMethod :=
  if Text.isWord text "aka'" then some akaPrime
  else all.find? fun m => Text.isWord text m.name

end InnerMethod

inductive MethodError where
  | unknownEap (text : String)
  | unknownInner (text : String)
  deriving DecidableEq, Repr

def MethodError.message : MethodError → String
  | unknownEap text => "unknown EAP method: " ++ text
  | unknownInner text => "unknown phase 2 method: " ++ text

def EapMethod.parse (text : String) : Except MethodError EapMethod :=
  match ofText? text with
  | some m => .ok m
  | .none => .error (.unknownEap text)

def InnerMethod.parse (text : String) : Except MethodError InnerMethod :=
  match ofText? text with
  | some m => .ok m
  | .none => .error (.unknownInner text)

/-- Enterprise part of a network. -/
structure Enterprise where
  eapMethod : EapMethod
  innerMethod : InnerMethod := .none
  identity : String := ""
  password : String := ""
  caAliases : List String := []
  caPath : Option String := none
  trustOnFirstUse : Bool := false
  /-- Whether the user once approved the network without an authority certificate. -/
  approvedWithoutCa : Bool := false
  deriving DecidableEq, Inhabited, Repr

namespace Enterprise

/-- Whether any authority material is configured; an empty directory name is none. -/
def hasCa (e : Enterprise) : Bool := !e.caAliases.isEmpty || e.caPath.any (· ≠ "")

/-- Whether the methods send credentials inside a tunnel. -/
def carriesCredentials (e : Enterprise) : Bool :=
  e.eapMethod.isTunneled && e.innerMethod ≠ .none

def hasCredentials (e : Enterprise) : Bool :=
  e.carriesCredentials && (e.identity ≠ "" || e.password ≠ "")

/-- Without the credentials for the tunnel, so that a handshake cannot finish. -/
def stripCredentials (e : Enterprise) : Enterprise :=
  if e.carriesCredentials then { e with identity := "", password := "" } else e

@[simp] theorem stripCredentials_trustOnFirstUse (e : Enterprise) :
    e.stripCredentials.trustOnFirstUse = e.trustOnFirstUse := by
  unfold stripCredentials
  split
  · rfl
  · rfl

end Enterprise

/-- A saved network. -/
structure Network where
  id : NetworkId
  ssid : String
  /-- Absent for personal and open networks. -/
  enterprise : Option Enterprise := none
  deriving DecidableEq, Inhabited, Repr

namespace Network

/-- The enterprise part of a network that authenticates its server by certificate but has no
authority to check it with. -/
def insecureEnterprise (n : Network) : Option Enterprise :=
  n.enterprise.filter fun e => e.eapMethod.usesServerCert && !e.hasCa

def trustsOnFirstUse (n : Network) : Bool := n.enterprise.any (·.trustOnFirstUse)

def stripCredentials (n : Network) : Network :=
  { n with enterprise := n.enterprise.map Enterprise.stripCredentials }

@[simp] theorem stripCredentials_id (n : Network) : n.stripCredentials.id = n.id := rfl

@[simp] theorem stripCredentials_ssid (n : Network) : n.stripCredentials.ssid = n.ssid := rfl

@[simp] theorem stripCredentials_trustsOnFirstUse (n : Network) :
    n.stripCredentials.trustsOnFirstUse = n.trustsOnFirstUse := by
  unfold stripCredentials trustsOnFirstUse
  cases n.enterprise with
  | none => rfl
  | some e => exact Enterprise.stripCredentials_trustOnFirstUse e

end Network

/-- Whether a saved network may be selected. -/
inductive Selection where
  | enabled
  | disabledByPolicy
  deriving DecidableEq, Inhabited, Repr

end WifiTrust
