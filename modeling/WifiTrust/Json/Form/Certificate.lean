import WifiTrust.Certificate.Basic
import WifiTrust.Json.Form
import WifiTrust.Name.Basic

namespace WifiTrust

def Json.ofBytes (bs : Bytes) : Json := .ofString (String.ofList (Hex.encode bs))

def Json.bytes? (j : Json) : Option Bytes := j.text?.bind fun s => Hex.decode? s.toList

instance : JsonForm Bytes := ⟨.ofBytes, Json.bytes?⟩

instance : JsonForm Certificate where
  toJson c := .record [
    ("subject", toJson c.subject),
    ("issuer", toJson c.issuer),
    ("signature", Json.ofBytes c.signature),
    ("is_ca", toJson c.isCa),
    ("fingerprint", toJson c.fingerprint),
    ("der", Json.ofBytes c.der)]
  ofJson? j := do
    let slot ← j.slots? ["subject", "issuer", "signature", "is_ca", "fingerprint", "der"]
    return {
      subject := ← (slot "subject").required
      issuer := ← (slot "issuer").required
      signature := ← (slot "signature").required
      isCa := ← (slot "is_ca").required
      fingerprint := ← (slot "fingerprint").required
      der := ← (slot "der").orElse [] }

instance : JsonForm DistinguishedName where
  toJson n := .record [
    ("common_name", toJson n.commonName),
    ("organization", toJson n.organization),
    ("email", toJson n.email),
    ("country", toJson n.country),
    ("state", toJson n.state),
    ("locality", toJson n.locality)]
  ofJson? j := do
    let slot ← j.slots? ["common_name", "organization", "email", "country", "state", "locality"]
    return {
      commonName := ← (slot "common_name").required
      organization := ← (slot "organization").required
      email := ← (slot "email").required
      country := ← (slot "country").required
      state := ← (slot "state").required
      locality := ← (slot "locality").required }

end WifiTrust
