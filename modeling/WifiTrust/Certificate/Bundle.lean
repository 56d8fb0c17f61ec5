import WifiTrust.Certificate.Pem
import WifiTrust.Certificate.X509

/-!
# Certificate bundles

A bundle lists the chain the way servers send it: the server's certificate first, then each
issuer. The place in the bundle becomes the depth.
-/

namespace WifiTrust.Bundle

/-- Why a bundle cannot be decoded. -/
inductive Error where
  | armour (e : Pem.Error)
  /-- A certificate block does not hold a certificate. -/
  | badCertificate
  | noCertificates
  deriving DecidableEq, Repr

def Error.message : Error → String
  | armour e => e.message
  | badCertificate => "not a certificate"
  | noCertificates => "no CERTIFICATE blocks"

/-- Decode every certificate block and skip blocks with another tag. -/
def parse (bs : Bytes) : Except Error (List Certificate) :=
  match Pem.parse bs with
  | .error e => .error (.armour e)
  | .ok blocks =>
      match (blocks.filter (·.tag = "CERTIFICATE")).mapM fun b => Certificate.ofDer? b.contents with
      | none => .error .badCertificate
      | some [] => .error .noCertificates
      | some certificates => .ok certificates

end WifiTrust.Bundle
