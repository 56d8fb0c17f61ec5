import WifiTrust.Bytes.Sha256
import WifiTrust.Bytes.Utf8

/-!
# Server certificates

A certificate as the authentication server presents it. Subject and issuer are full written
names, so that the links of a chain can be compared exactly.
-/

namespace WifiTrust

/-- One certificate presented by the authentication server. -/
structure Certificate where
  subject : String
  issuer : String
  signature : Bytes
  /-- Whether the basic constraints mark a certification authority. -/
  isCa : Bool
  fingerprint : String
  /-- The encoding, empty if the certificate was built from its parts. -/
  der : Bytes
  deriving DecidableEq, Inhabited, Repr

namespace Certificate

def fingerprintOf (material : Bytes) : String :=
  String.ofList (Hex.encode (Sha256.digest material))

/-- What the fingerprint of a certificate without an encoding covers: subject, issuer and
signature with a vertical bar between them. -/
def material (subject issuer : String) (signature : Bytes) : Bytes :=
  Utf8.encode subject.toList ++ 0x7c :: Utf8.encode issuer.toList ++ 0x7c :: signature

/-- A certificate whose fields the handshake has already decoded. -/
def ofParts (subject issuer : String) (signature : Bytes) (isCa : Bool) : Certificate where
  subject := subject
  issuer := issuer
  signature := signature
  isCa := isCa
  fingerprint := fingerprintOf (material subject issuer signature)
  der := []

def isSelfSigned (c : Certificate) : Bool := c.subject == c.issuer

end Certificate

end WifiTrust
